import Enchat.Library.Base64
import Enchat.Model.Sample

/-!
# How server and client read a configured key

The server encodes the key of a packet and looks for the string in its peer list. The client
decodes the configured string. A string that is not the encoding of any key can still decode to
one, and only the client takes it.
-/

namespace Enchat
open Buffer

variable {QString Ctx : Type} [DecidableEq QString] (q : Qt (List UInt8) QString) (k : Curve)
  (a : CipherApi Ctx)

namespace ChatServer

lemma containsPeerPubkey_iff (peers : List (Peer QString)) (key : List UInt8) :
    containsPeerPubkey (bytePrimitives q k a) peers key = true ↔
      ∃ p ∈ peers, p.pubKey = q.toBase64 key := by
  simp only [containsPeerPubkey, List.any_eq_true, decide_eq_true_eq]
  rfl

/-- A listed key is one that the client would read from the list, if decoding undoes encoding. -/
lemma decoded_of_contains (hinverse : ∀ key, q.fromBase64 (q.toBase64 key) = key)
    {peers : List (Peer QString)} {key : List UInt8}
    (h : containsPeerPubkey (bytePrimitives q k a) peers key = true) :
    ∃ p ∈ peers, q.fromBase64 p.pubKey = key := by
  obtain ⟨p, hp, hkey⟩ := (containsPeerPubkey_iff q k a peers key).mp h
  refine ⟨p, hp, ?_⟩
  rw [hkey, hinverse]

/-- Server and client read every key of a peer list the same way if and only if the list has, for
each string that decodes to a key, the encoding of that key. -/
theorem keys_read_alike_iff (hinverse : ∀ key, q.fromBase64 (q.toBase64 key) = key)
    (sess : ChatSession (List UInt8) QString Ctx) (peers : List (Peer QString)) :
    (∀ key : List UInt8, key.length = 32 →
      (containsPeerPubkey (bytePrimitives q k a) peers key = true ↔
        ∃ p ∈ peers,
          (sess.setPeerPubkey (bytePrimitives q k a) p.pubKey).peerStaticPubkey = key)) ↔
    ∀ p ∈ peers, (q.fromBase64 p.pubKey).length = 32 →
      ∃ p' ∈ peers, p'.pubKey = q.toBase64 (q.fromBase64 p.pubKey) := by
  constructor
  · intro halike p hp hlen
    apply (containsPeerPubkey_iff q k a peers _).mp
    exact (halike _ hlen).mpr ⟨p, hp, rfl⟩
  · intro hcanonical key hlen
    constructor
    · exact decoded_of_contains q k a hinverse
    · rintro ⟨p, hp, hkey⟩
      have hdecoded : q.fromBase64 p.pubKey = key := hkey
      apply (containsPeerPubkey_iff q k a peers key).mpr
      rw [← hdecoded]
      exact hcanonical p hp (by rw [hdecoded, hlen])

end ChatServer

/-- Strings of Latin-1 characters with the conversions that Qt documents for Base64. -/
def base64Qt : Qt (List UInt8) (List UInt8) where
  emptyString := []
  toBase64 := Base64.encode Base64.standard
  fromBase64 := Base64.decode Base64.standard
  toUtf8 := id
  fromUtf8 := id

def base64Primitives : Primitives (List UInt8) (List UInt8) ChachaContext :=
  bytePrimitives base64Qt sampleCurve mbedtlsChacha20

/-- The key of 32 bytes with value 7, as Qt writes it and without the padding. -/
def samplePadded : List UInt8 := Base64.encode Base64.standard (sampleKey 7)

def sampleUnpadded : List UInt8 := samplePadded.filter (· ≠ 61)

namespace ChatServer

/-- A list that has the key in both forms. -/
theorem keys_read_alike_both_forms :
    sampleUnpadded ≠ samplePadded ∧ ∀ key : List UInt8, key.length = 32 →
      (containsPeerPubkey base64Primitives
          [⟨[], sampleUnpadded, [], 0⟩, ⟨[], samplePadded, [], 0⟩] key = true ↔
        ∃ p ∈ [(⟨[], sampleUnpadded, [], 0⟩ : Peer (List UInt8)), ⟨[], samplePadded, [], 0⟩],
          (sampleClient.setPeerPubkey base64Primitives p.pubKey).peerStaticPubkey = key) :=
  ⟨by decide +kernel, (keys_read_alike_iff base64Qt sampleCurve mbedtlsChacha20
    (Base64.decode_encode Base64.standard) sampleClient _).mpr (by decide +kernel)⟩

/-- A peer whose key is listed without padding: the client reads the key, the server does not. -/
theorem unpadded_key_locked_out :
    (∀ key, base64Qt.fromBase64 (base64Qt.toBase64 key) = key) ∧ (sampleKey 7).length = 32 ∧
    ¬(containsPeerPubkey base64Primitives [⟨[], sampleUnpadded, [], 0⟩] (sampleKey 7) = true ↔
      ∃ p ∈ [(⟨[], sampleUnpadded, [], 0⟩ : Peer (List UInt8))],
        (sampleClient.setPeerPubkey base64Primitives p.pubKey).peerStaticPubkey = sampleKey 7) := by
  refine ⟨Base64.decode_encode Base64.standard, by decide, fun halike => ?_⟩
  have hserver : containsPeerPubkey base64Primitives [⟨[], sampleUnpadded, [], 0⟩]
      (sampleKey 7) = false := by
    decide +kernel
  rw [halike.mpr ⟨_, List.mem_singleton.mpr rfl, by decide +kernel⟩] at hserver
  cases hserver

end ChatServer

end Enchat
