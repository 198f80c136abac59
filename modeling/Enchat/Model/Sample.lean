import Enchat.Model.Endpoint
import Enchat.Model.Network

/-!
# A small platform

Concrete choices for the parameters, on which runs of the model can be evaluated. Strings are byte
lists, a static key pair is one value, and the shared key is the bytewise product.
-/

namespace Enchat
open Buffer

def sampleQt : Qt (List UInt8) (List UInt8) where
  emptyString := []
  toBase64 := id
  fromBase64 := id
  toUtf8 := id
  fromUtf8 := id

/-- The signature of a message under a key pair whose halves are equal. -/
def sampleSignature (message key : List UInt8) : List UInt8 :=
  fit 64 (fit 32 key ++ [message.foldl (· + ·) 0])

def sampleCurve : Curve where
  ed25519Sign message _ priKey := sampleSignature message priKey
  ed25519Verify sig message key := decide (sig = sampleSignature message key)
  x25519ScalarMult := List.zipWith (· * ·)
  x25519PublicFromPrivate := id

def samplePrimitives : Primitives (List UInt8) (List UInt8) ChachaContext :=
  bytePrimitives sampleQt sampleCurve mbedtlsChacha20

def sampleKey (b : UInt8) : List UInt8 := List.replicate 32 b

def sampleContext : ChachaContext where
  state := Vector.replicate 16 0
  keystream8 := Vector.replicate 64 0
  keystreamBytesUsed := 64

def sampleHello (type staticKey ephemeralKey : UInt8) : HelloPacket (List UInt8) :=
  (ChatSession.new samplePrimitives (sampleKey ephemeralKey) (sampleKey staticKey)
    (sampleKey staticKey) sampleContext sampleContext).helloPacket samplePrimitives type

def sampleForged (type staticKey ephemeralKey : UInt8) : HelloPacket (List UInt8) :=
  { sampleHello type staticKey ephemeralKey with sig := [] }

/-- A client session with key 8 that wants to talk to key 7. -/
def sampleClient : ChatSession (List UInt8) (List UInt8) ChachaContext :=
  (ChatSession.new samplePrimitives (sampleKey 3) (sampleKey 8) (sampleKey 8) sampleContext
    sampleContext).setPeerPubkey samplePrimitives (sampleKey 7)

/-- The server session with key 7 after it has handled the request of the client. -/
def sampleServerDone : ChatSession (List UInt8) (List UInt8) ChachaContext :=
  ((ChatSession.new samplePrimitives (sampleKey 5) (sampleKey 7) (sampleKey 7) sampleContext
    sampleContext).onHandShake samplePrimitives (fun _ => true) false
      (sampleClient.helloPacket samplePrimitives 1)).1

/-- The client session after it has handled the answer. -/
def sampleClientDone : ChatSession (List UInt8) (List UInt8) ChachaContext :=
  (sampleClient.onHandShake samplePrimitives (fun _ => false) false
    (sampleServerDone.helloPacket samplePrimitives 2)).1

/-- A finished session as it was before `initChaCha20`. -/
def ChatSession.beforeInit (s : ChatSession (List UInt8) (List UInt8) ChachaContext) :
    ChatSession (List UInt8) (List UInt8) ChachaContext :=
  { s with chachaDctx := sampleContext, chachaEctx := sampleContext, initRuns := 0 }

lemma sample_keys_agree :
    sampleClientDone.beforeInit.chacha20Key = sampleServerDone.beforeInit.chacha20Key := by
  decide +kernel

/-- Ids on the network are static keys, and names are empty. -/
def sampleNetQt : Qt (NetTerm ℕ) (NetTerm ℕ) where
  emptyString := .datum (.bytes [])
  toBase64 := id
  fromBase64 := id
  toUtf8 _ := []
  fromUtf8 data := .datum (.bytes data)

def sampleNetPrimitives : Primitives (NetTerm ℕ) (NetTerm ℕ) ChachaContext :=
  symbolicPrimitives sampleNetQt (fun _ => sampleKey 0)

def SampleHonest (a : ℕ) : Prop := a < 2

instance : DecidablePred SampleHonest := fun a => inferInstanceAs (Decidable (a < 2))

def sampleNetHello (a s : ℕ) (type : UInt8) : HelloPacket (NetTerm ℕ) :=
  (Member.start sampleNetPrimitives a .chatServer s sampleContext sampleContext).sess.helloPacket
    sampleNetPrimitives type

end Enchat
