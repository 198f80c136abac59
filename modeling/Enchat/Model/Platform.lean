import Enchat.Model.ChatSession
import Enchat.Model.Chacha20

/-!
# Sessions on bytes

The packed layout of `HelloPacket` and the instance of the session model in which byte arrays are
lists of bytes. Qt and the curve arithmetic stay parameters; the cipher may be chosen separately.
-/

namespace Enchat
open Buffer

/-- The packed bytes that the signature covers. -/
def HelloBody.pack (body : HelloBody (List UInt8)) : List UInt8 :=
  [body.type] ++ fit 32 body.name ++ fit 32 body.staticKey ++ fit 32 body.ephemeralKey ++
    putU32 body.timestamp

/-- The 165 bytes of a `HelloPacket` in memory. -/
def HelloPacket.pack (hp : HelloPacket (List UInt8)) : List UInt8 :=
  hp.toHelloBody.pack ++ fit 64 hp.sig

/-- Reads received bytes as a `HelloPacket`. -/
def HelloPacket.ofBytes (data : List UInt8) : HelloPacket (List UInt8) where
  type := data.getD 0 0
  name := (data.drop 1).take 32
  staticKey := (data.drop 33).take 32
  ephemeralKey := (data.drop 65).take 32
  timestamp := getU32 (data.drop 97) 0
  sig := (data.drop 101).take 64

/-- The string conversions of Qt that a session uses. -/
structure Qt (QByteArray QString : Type) where
  emptyString : QString
  toBase64 : QByteArray → QString
  fromBase64 : QString → QByteArray
  toUtf8 : QString → List UInt8
  fromUtf8 : List UInt8 → QString

/-- The curve functions of `orlp` and `boringssl` on bytes. -/
structure Curve where
  ed25519Sign : List UInt8 → List UInt8 → List UInt8 → List UInt8
  ed25519Verify : List UInt8 → List UInt8 → List UInt8 → Bool
  x25519ScalarMult : List UInt8 → List UInt8 → List UInt8
  x25519PublicFromPrivate : List UInt8 → List UInt8

/-- `X25519`: the result is refused when all 32 bytes are zero. -/
def Curve.x25519 (k : Curve) (privateKey peerPublicValue : List UInt8) : List UInt8 × Bool :=
  let out := k.x25519ScalarMult privateKey peerPublicValue
  (out, decide (out ≠ List.replicate 32 0))

structure CipherApi (Ctx : Type) where
  init : Ctx → Ctx
  setkey : Ctx → List UInt8 → Ctx
  starts : Ctx → List UInt8 → UInt32 → Ctx
  update : Ctx → List UInt8 → Ctx × List UInt8

def mbedtlsChacha20 : CipherApi ChachaContext where
  init := mbedtlsChacha20Init
  setkey := mbedtlsChacha20Setkey
  starts := mbedtlsChacha20Starts
  update := mbedtlsChacha20Update

/-- The primitives on byte lists. -/
def bytePrimitives {QString Ctx : Type} (q : Qt (List UInt8) QString) (k : Curve)
    (c : CipherApi Ctx) : Primitives (List UInt8) QString Ctx where
  emptyArray := []
  isEmpty := List.isEmpty
  key32 := fit 32
  zeroKey := List.replicate 32 0
  emptyString := q.emptyString
  toBase64 := q.toBase64
  fromBase64 := q.fromBase64
  toUtf8 := q.toUtf8
  fromUtf8 := q.fromUtf8
  ed25519Sign body := k.ed25519Sign body.pack
  ed25519Verify sig body := k.ed25519Verify sig body.pack
  x25519 := k.x25519
  x25519PublicFromPrivate := k.x25519PublicFromPrivate
  mbedtlsChacha20Init := c.init
  mbedtlsChacha20Setkey := c.setkey
  mbedtlsChacha20Starts := c.starts
  mbedtlsChacha20Update := c.update

@[simp] lemma HelloBody.length_pack (body : HelloBody (List UInt8)) : body.pack.length = 101 := by
  simp [HelloBody.pack]

@[simp] lemma HelloPacket.length_pack (hp : HelloPacket (List UInt8)) : hp.pack.length = 165 := by
  simp [HelloPacket.pack]

/-- The bytes that `onHandShake` verifies are the first 101 received bytes. -/
lemma HelloPacket.pack_ofBytes {data : List UInt8} (h : data.length = 165) :
    (HelloPacket.ofBytes data).toHelloBody.pack = data.take 101 := by
  have htype : data.take 1 = [data.getD 0 0] := by
    cases data with
    | nil => simp at h
    | cons b rest => simp
  have hsplit : ∀ i n, i + n ≤ 165 → data.take (i + n) = data.take i ++ (data.drop i).take n :=
    fun i n _ => List.take_add
  have hts : putU32 (getU32 (data.drop 97) 0) = (data.drop 97).take 4 := by
    have hfour : ((data.drop 97).take 4).length = 4 := by
      simp only [List.length_take, List.length_drop]
      omega
    rw [← putU32_getU32 hfour]
    have hget : ∀ i, i < 4 → ((data.drop 97).take 4).getD i 0 = (data.drop 97).getD i 0 := by
      intro i hi
      simp [List.getD_eq_getElem?_getD, hi]
    simp only [getU32, hget 0 (by omega), hget (0 + 1) (by omega), hget (0 + 2) (by omega),
      hget (0 + 3) (by omega)]
  have hfit : ∀ i, i + 32 ≤ 165 → fit 32 ((data.drop i).take 32) = (data.drop i).take 32 := by
    intro i hi
    apply fit_of_length
    simp only [List.length_take, List.length_drop]
    omega
  simp only [HelloBody.pack, HelloPacket.ofBytes, hts, hfit 1 (by omega), hfit 33 (by omega),
    hfit 65 (by omega), ← htype]
  rw [← hsplit 1 32 (by omega), ← hsplit 33 32 (by omega), ← hsplit 65 32 (by omega),
    ← hsplit 97 4 (by omega)]

lemma HelloPacket.sig_ofBytes {data : List UInt8} (h : data.length = 165) :
    (HelloPacket.ofBytes data).sig = data.drop 101 := by
  simp only [HelloPacket.ofBytes]
  exact List.take_of_length_le (by simp only [List.length_drop]; omega)

end Enchat
