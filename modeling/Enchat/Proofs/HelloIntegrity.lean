import Enchat.Model.HelloMemory
import Enchat.Model.Sample
import Enchat.Proofs.ConnStep

/-!
# What a HelloPacket holds when it is sent

A name of up to 164 bytes spills over the fields behind it, which `sendHandshake` fills in after
the name. A longer one leaves the packet.
-/

namespace Enchat
open Buffer

lemma writeAll_append (packet : List UInt8) (writes writes' : List PacketWrite) :
    writeAll packet (writes ++ writes') = writeAll (writeAll packet writes) writes' := by
  unfold writeAll
  exact List.foldl_append

/-- A write behind a header that is already in place leaves it alone. -/
lemma writeAll_cons_append {header : List UInt8} {offset : ℕ} (h : header.length = offset)
    (rest bytes : List UInt8) (writes : List PacketWrite) :
    writeAll (header ++ rest) (⟨offset, bytes⟩ :: writes) =
      writeAll (header ++ bytes ++ rest.drop bytes.length) writes := by
  rw [← store_append h]
  rfl

lemma take_append_replicate (name : List UInt8) {n m : ℕ} (h : n ≤ name.length + m) :
    (name ++ List.replicate m 0).take n = fit n name := by
  unfold fit
  rw [List.take_append, List.take_append, List.take_replicate, List.take_replicate]
  congr 2
  omega

namespace ChatSession

variable {QString Ctx : Type} {s : ChatSession (List UInt8) QString Ctx}

/-- The packet after the type and the name: both are in place, whatever follows them. -/
lemma writeAll_name (s : ChatSession (List UInt8) QString Ctx) (t : UInt8)
    (hname : s.name.length ≤ 164) :
    ∃ rest : List UInt8, rest.length = 132 ∧
      writeAll HelloPacket.initialBytes
        ([⟨0, [t]⟩] ++ if s.name.isEmpty then [] else [⟨1, s.name⟩]) =
      [t] ++ fit 32 s.name ++ rest := by
  have hpacket : writeAll HelloPacket.initialBytes
      ([⟨0, [t]⟩] ++ if s.name.isEmpty then [] else [⟨1, s.name⟩]) =
        [t] ++ (s.name ++ List.replicate (164 - s.name.length) 0) := by
    rw [writeAll_append]
    by_cases hempty : s.name = []
    · rw [hempty]
      rfl
    · have htype : [t].length = 1 := rfl
      rw [if_neg (by simpa using hempty)]
      change store ([t] ++ List.replicate 164 0) 1 s.name = _
      rw [store_append htype, List.drop_replicate, List.append_assoc]
  refine ⟨(s.name ++ List.replicate (164 - s.name.length) 0).drop 32, ?_, ?_⟩
  · simp only [List.length_drop, List.length_append, List.length_replicate]
    omega
  · rw [hpacket, List.append_assoc, ← take_append_replicate s.name
      (m := 164 - s.name.length) (by omega), List.take_append_drop]

lemma writeAll_fields (s : ChatSession (List UInt8) QString Ctx) (t : UInt8)
    (hname : s.name.length ≤ 164) :
    ∃ rest : List UInt8, rest.length = 64 ∧
      writeAll HelloPacket.initialBytes (s.helloFields t) =
        [t] ++ fit 32 s.name ++ fit 32 s.staticPubkey ++ fit 32 s.ephemeralPubKey ++ putU32 1 ++
          rest := by
  obtain ⟨rest, hlen, hrest⟩ := writeAll_name s t hname
  refine ⟨rest.drop 68, ?_, ?_⟩
  · rw [List.length_drop, hlen]
  · unfold helloFields
    rw [writeAll_append, hrest, writeAll_cons_append (by simp), writeAll_cons_append (by simp),
      writeAll_cons_append (by simp)]
    simp only [writeAll, List.foldl_nil, length_fit, length_putU32, List.drop_drop]

variable (q : Qt (List UInt8) QString) (k : Curve) (c : CipherApi Ctx)

lemma helloSigned_eq (s : ChatSession (List UInt8) QString Ctx) (t : UInt8)
    (hname : s.name.length ≤ 164) :
    s.helloSigned t = (s.helloPacket (bytePrimitives q k c) t).toHelloBody.pack := by
  obtain ⟨rest, _, hfields⟩ := writeAll_fields s t hname
  unfold helloSigned
  rw [hfields, List.take_left' (by simp)]
  simp only [helloPacket, HelloBody.pack, bytePrimitives, fit_of_length (length_fit _ _)]

/-- Up to 164 bytes of name, the bytes sent are those of the packet that the session model sends. -/
lemma helloSent_eq (s : ChatSession (List UInt8) QString Ctx) (t : UInt8)
    (hname : s.name.length ≤ 164) :
    s.helloSent k t = (s.helloPacket (bytePrimitives q k c) t).pack := by
  obtain ⟨rest, hlen, hfields⟩ := writeAll_fields s t hname
  have hsigned := helloSigned_eq q k c s t hname
  have hend : rest.drop 64 = [] := List.drop_of_length_le (by omega)
  unfold helloSent helloWrites
  rw [writeAll_append, hfields, writeAll_cons_append (by simp), hsigned]
  simp only [writeAll, List.foldl_nil, length_fit, hend, List.append_nil]
  rw [List.take_of_length_le (by simp)]
  simp only [HelloPacket.pack, helloPacket, HelloBody.pack, bytePrimitives,
    fit_of_length (length_fit _ _)]

end ChatSession

/-- Reading the bytes of a packet whose fields have their lengths gives the packet back. -/
lemma HelloPacket.ofBytes_pack {hp : HelloPacket (List UInt8)} (hname : hp.name.length = 32)
    (hstatic : hp.staticKey.length = 32) (heph : hp.ephemeralKey.length = 32)
    (hsig : hp.sig.length = 64) : HelloPacket.ofBytes hp.pack = hp := by
  have hpack : hp.pack = [hp.type] ++ (hp.name ++ (hp.staticKey ++ (hp.ephemeralKey ++
      (putU32 hp.timestamp ++ hp.sig)))) := by
    simp only [HelloPacket.pack, HelloBody.pack, fit_of_length hname, fit_of_length hstatic,
      fit_of_length heph, fit_of_length hsig, List.append_assoc]
  have h1 : hp.pack.drop 1 = hp.name ++ (hp.staticKey ++ (hp.ephemeralKey ++
      (putU32 hp.timestamp ++ hp.sig))) := by
    rw [hpack]
    rfl
  have h33 : hp.pack.drop 33 = hp.staticKey ++ (hp.ephemeralKey ++
      (putU32 hp.timestamp ++ hp.sig)) := by
    rw [show 33 = 1 + 32 from rfl, ← List.drop_drop, h1, List.drop_left' hname]
  have h65 : hp.pack.drop 65 = hp.ephemeralKey ++ (putU32 hp.timestamp ++ hp.sig) := by
    rw [show 65 = 33 + 32 from rfl, ← List.drop_drop, h33, List.drop_left' hstatic]
  have h97 : hp.pack.drop 97 = putU32 hp.timestamp ++ hp.sig := by
    rw [show 97 = 65 + 32 from rfl, ← List.drop_drop, h65, List.drop_left' heph]
  have h101 : hp.pack.drop 101 = hp.sig := by
    rw [show 101 = 97 + 4 from rfl, ← List.drop_drop, h97, List.drop_left' (by simp)]
  unfold HelloPacket.ofBytes
  rw [h1, h33, h65, h97, h101, List.take_left' hname, List.take_left' hstatic,
    List.take_left' heph, getU32_putU32, List.take_of_length_le (by omega), hpack]
  rfl

/-- A static key pair: what its private half signs verifies under its public half. -/
structure Curve.MatchingKeys (k : Curve) (pri pub : List UInt8) : Prop where
  length_pub : pub.length = 32
  length_pri : pri.length = 64
  length_sign : ∀ message, (k.ed25519Sign message pub pri).length = 64
  verifies : ∀ message, k.ed25519Verify (k.ed25519Sign message pub pri) message pub = true

namespace ChatSession

variable {QString Ctx : Type}

/-- A session that talks to the owner of `pub`, or that waits for any listed peer and `pub` is
listed. -/
def Expects (peer : ChatSession (List UInt8) QString Ctx) (contains : List UInt8 → Bool)
    (pub : List UInt8) : Prop :=
  peer.peerStaticPubkey = pub ∨ peer.peerStaticPubkey = [] ∧ contains pub = true

/-- The packet of session `s` stays in its memory, has the fields it should have, and every session
that expects its sender takes it and the name in it. -/
structure HelloIntact (P : Primitives (List UInt8) QString Ctx) (k : Curve)
    (s : ChatSession (List UInt8) QString Ctx) (t : UInt8) : Prop where
  inside : ∀ w ∈ s.helloWrites k t, w.offset + w.bytes.length ≤ 165
  fields : (HelloPacket.ofBytes (s.helloSent k t)).toHelloBody =
    { type := t, name := fit 32 s.name, staticKey := s.staticPubkey,
      ephemeralKey := s.ephemeralPubKey, timestamp := 1 }
  accepted : ∀ (peer : ChatSession (List UInt8) QString Ctx) (contains : List UInt8 → Bool),
    peer.Expects contains s.staticPubkey →
      (peer.onHandShake P contains false (HelloPacket.ofBytes (s.helloSent k t))).1.peerName =
        fit 32 s.name ∧
      .socketClose ∉
        (peer.onHandShake P contains false (HelloPacket.ofBytes (s.helloSent k t))).2

lemma inside_iff (k : Curve) (s : ChatSession (List UInt8) QString Ctx) (t : UInt8) :
    (∀ w ∈ s.helloWrites k t, w.offset + w.bytes.length ≤ 165) ↔ s.name.length ≤ 164 := by
  unfold helloWrites helloFields
  by_cases hempty : s.name = []
  · simp [hempty]
  · simp [hempty]
    omega

variable (q : Qt (List UInt8) QString) (k : Curve) (c : CipherApi Ctx)

/-- A session takes a packet that verifies under the key in it, if it expects this key. -/
lemma onHandShake_takes {peer : ChatSession (List UInt8) QString Ctx}
    {contains : List UInt8 → Bool} {hp : HelloPacket (List UInt8)}
    (hne : hp.staticKey ≠ []) (hexpects : peer.Expects contains hp.staticKey)
    (hverify : k.ed25519Verify hp.sig hp.toHelloBody.pack hp.staticKey = true) :
    (peer.onHandShake (bytePrimitives q k c) contains false hp).1.peerName = hp.name ∧
      .socketClose ∉ (peer.onHandShake (bytePrimitives q k c) contains false hp).2 := by
  have hadm : peer.Admits (bytePrimitives q k c) contains hp := by
    intro hempty
    rcases hexpects with hkey | ⟨_, hlisted⟩
    · exact absurd (List.isEmpty_iff.mp hempty) (hkey ▸ hne)
    · exact hlisted
  have hkey : (peer.adoptPeer (bytePrimitives q k c) hp).peerStaticPubkey = hp.staticKey := by
    unfold adoptPeer
    rcases hexpects with hkey | ⟨hnone, _⟩
    · split
      · rfl
      · exact hkey
    · rw [hnone]
      rfl
  have hver : peer.Verifies (bytePrimitives q k c) hp := by
    unfold Verifies
    rw [hkey]
    exact hverify
  rcases onHandShake_cases (bytePrimitives q k c) contains peer hp with
    ⟨hrefused, _⟩ | ⟨_, hbad, _⟩ | ⟨_, _, _, heq⟩ | ⟨_, _, _, heq⟩
  · exact absurd hadm hrefused
  · exact absurd hver hbad
  · rw [heq]
    exact ⟨rfl, by simp⟩
  · rw [heq]
    refine ⟨rfl, fun hclose => ?_⟩
    rcases List.mem_append.mp hclose with hreply | hrest
    · obtain ⟨_, _, heq⟩ := List.mem_map.mp hreply
      cases heq
    · simp only [List.mem_cons, reduceCtorEq, List.not_mem_nil, or_false, false_or] at hrest
      cases hrest

/-- The packet of a session under any display name is intact if and only if the name has at most
164 bytes in UTF-8. -/
theorem hello_intact_iff (s : ChatSession (List UInt8) QString Ctx) (name : QString) (t : UInt8)
    (hkeys : k.MatchingKeys s.staticPrikey s.staticPubkey)
    (heph : s.ephemeralPubKey.length = 32) :
    HelloIntact (bytePrimitives q k c) k (s.setName (bytePrimitives q k c) name) t ↔
      (q.toUtf8 name).length ≤ 164 := by
  constructor
  · intro h
    exact (inside_iff k _ t).mp h.inside
  · intro hname
    have hhello : HelloPacket.ofBytes
        ((s.setName (bytePrimitives q k c) name).helloSent k t) =
          (s.setName (bytePrimitives q k c) name).helloPacket (bytePrimitives q k c) t := by
      rw [helloSent_eq q k c _ t hname]
      apply HelloPacket.ofBytes_pack
      · exact length_fit 32 _
      · exact length_fit 32 _
      · exact heph
      · exact hkeys.length_sign _
    have hstatic : ((s.setName (bytePrimitives q k c) name).helloPacket
        (bytePrimitives q k c) t).staticKey = s.staticPubkey := fit_of_length hkeys.length_pub
    have hne : s.staticPubkey ≠ [] := by
      intro hnil
      have hlen := hkeys.length_pub
      rw [hnil] at hlen
      cases hlen
    refine ⟨(inside_iff k _ t).mpr hname, ?_, ?_⟩
    · rw [hhello]
      unfold helloPacket
      dsimp only
      congr 1
    · intro peer contains hexpects
      rw [hhello]
      apply onHandShake_takes q k c
      · rw [hstatic]
        exact hne
      · rw [hstatic]
        exact hexpects
      · rw [hstatic]
        exact hkeys.verifies _

/-- A session whose private key has 64 bytes, as those of `ed25519_create_keypair` do. -/
def sampleKeyed (b : UInt8) : ChatSession (List UInt8) (List UInt8) ChachaContext :=
  ChatSession.new samplePrimitives (sampleKey 3) (sampleKey b ++ sampleKey b) (sampleKey b)
    sampleContext sampleContext

lemma sampleKeyed_matching (b : UInt8) :
    sampleCurve.MatchingKeys (sampleKeyed b).staticPrikey (sampleKeyed b).staticPubkey where
  length_pub := List.length_replicate
  length_pri := by
    change (sampleKey b ++ sampleKey b).length = 64
    rw [List.length_append, sampleKey, List.length_replicate]
  length_sign _ := length_fit 64 _
  verifies message := by
    have hhalf : fit 32 (sampleKey b ++ sampleKey b) = fit 32 (sampleKey b) := rfl
    exact decide_eq_true (congrArg (fun key => fit 64 (key ++ [message.foldl (· + ·) 0])) hhalf)

/-- A name of 40 bytes overruns its field, and the packet is intact all the same. -/
theorem hello_intact_forty_bytes :
    HelloIntact samplePrimitives sampleCurve
      ((sampleKeyed 8).setName samplePrimitives (List.replicate 40 65)) 1 :=
  (hello_intact_iff sampleQt sampleCurve mbedtlsChacha20 (sampleKeyed 8) _ 1
    (sampleKeyed_matching 8) (by decide)).mpr (by decide)

/-- A name of 165 bytes runs past the end of the packet. -/
theorem hello_overrun :
    sampleCurve.MatchingKeys (sampleKeyed 8).staticPrikey (sampleKeyed 8).staticPubkey ∧
    ¬HelloIntact samplePrimitives sampleCurve
      ((sampleKeyed 8).setName samplePrimitives (List.replicate 165 65)) 1 := by
  refine ⟨sampleKeyed_matching 8, fun h => ?_⟩
  have hname := (inside_iff sampleCurve _ 1).mp h.inside
  change (List.replicate 165 (65 : UInt8)).length ≤ 164 at hname
  rw [List.length_replicate] at hname
  omega

end ChatSession

end Enchat
