import Mathlib.Data.List.Basic
import Mathlib.Tactic.Common
import Enchat.Library.Buffer

/-!
# Chat sessions

`ChatSession` of `chatsession.h`. The types of byte arrays, strings and cipher contexts are
parameters, so that the same functions run on real bytes and on symbolic terms. A member function
returns the session after it and the calls that it makes on its socket and on its client, in
program order.
-/

namespace Enchat
open Buffer

/-- The fields of a `HelloPacket` in front of `sig`: what the signature covers. -/
structure HelloBody (QByteArray : Type) where
  type : UInt8
  name : List UInt8
  staticKey : QByteArray
  ephemeralKey : QByteArray
  timestamp : UInt32
deriving DecidableEq

structure HelloPacket (QByteArray : Type) extends HelloBody QByteArray where
  sig : QByteArray
deriving DecidableEq

/-- What a session uses of Qt, of the two curves and of the cipher. -/
structure Primitives (QByteArray QString Ctx : Type) where
  emptyArray : QByteArray
  isEmpty : QByteArray → Bool
  /-- The 32 bytes at `data()`. -/
  key32 : QByteArray → QByteArray
  /-- 32 zero bytes. -/
  zeroKey : QByteArray
  emptyString : QString
  toBase64 : QByteArray → QString
  /-- `QByteArray::fromBase64` of the Latin-1 form. -/
  fromBase64 : QString → QByteArray
  toUtf8 : QString → List UInt8
  /-- Decodes all the given bytes. -/
  fromUtf8 : List UInt8 → QString
  /-- Message, public key and private key to signature. -/
  ed25519Sign : HelloBody QByteArray → QByteArray → QByteArray → QByteArray
  /-- Signature, message and public key; `true` stands for a result other than `0`. -/
  ed25519Verify : QByteArray → HelloBody QByteArray → QByteArray → Bool
  /-- Private key and peer value to shared key, and whether the shared key is not all zero. -/
  x25519 : QByteArray → QByteArray → QByteArray × Bool
  x25519PublicFromPrivate : QByteArray → QByteArray
  mbedtlsChacha20Init : Ctx → Ctx
  mbedtlsChacha20Setkey : Ctx → QByteArray → Ctx
  mbedtlsChacha20Starts : Ctx → QByteArray → UInt32 → Ctx
  mbedtlsChacha20Update : Ctx → List UInt8 → Ctx × List UInt8

/-- The completion handlers of the reads of a session. -/
inductive ReadHandler
  | onHandShake
  | handleReadMsgHead
  | handleReadMsg
deriving DecidableEq

/-- An `async_read` of exactly `need` bytes to `msg + offset`, `got` being what has arrived. -/
structure ReadOp where
  handler : ReadHandler
  msg : List UInt8
  offset : ℕ
  need : ℕ
  got : List UInt8
deriving DecidableEq

def ReadOp.buffer (op : ReadOp) : List UInt8 := store op.msg op.offset op.got

/-- The callbacks into `ChatServer` or `ChatClient`. -/
inductive ClientCall (QString : Type)
  | onConnected (id : QString)
  | onClose (id : QString)
  | onHandShakeFinished (id : QString)
  | onTextMsg (id text : QString)
deriving DecidableEq

/-- What a member function does outside the session object. -/
inductive Effect (QByteArray QString : Type)
  | asyncWriteHello (hp : HelloPacket QByteArray)
  | asyncWriteMsg (data : List UInt8)
  | asyncRead (op : ReadOp)
  | socketClose
  | client (call : ClientCall QString)
deriving DecidableEq

/-- The data members of a session except `socket_` and `client_`; `initRuns` counts the calls of
`initChaCha20`. -/
structure ChatSession (QByteArray QString Ctx : Type) where
  id : QString
  name : List UInt8
  staticPrikey : QByteArray
  staticPubkey : QByteArray
  chacha20Key : QByteArray
  chachaDctx : Ctx
  chachaEctx : Ctx
  peerStaticPubkey : QByteArray
  peerName : List UInt8
  ephemeralPubKey : QByteArray
  ephemeralPriKey : QByteArray
  initRuns : ℕ

variable {QByteArray QString Ctx : Type} (P : Primitives QByteArray QString Ctx)

/-- `receiveHandshake`: reads one packet of 165 bytes. -/
def receiveHandshake : Effect QByteArray QString :=
  .asyncRead
    { handler := .onHandShake, msg := List.replicate 165 0, offset := 0, need := 165, got := [] }

/-- `startRead`: allocates a zeroed buffer and reads the two length bytes. -/
def startRead : Effect QByteArray QString :=
  .asyncRead
    { handler := .handleReadMsgHead, msg := List.replicate 4096 0, offset := 0, need := 2, got := [] }

/-- `handleReadMsgHead`: reads the protocol field and the payload behind the length bytes. -/
def handleReadMsgHead (ec : Bool) (msg : List UInt8) : List (Effect QByteArray QString) :=
  if ec then []
  else
    let msgsize := getU16 msg 0
    [.asyncRead { handler := .handleReadMsg, msg := msg, offset := 2, need := msgsize + 2, got := [] }]

namespace ChatSession

/-- The constructor. `pri` is the ephemeral private key that `X25519_keypair` leaves behind, and
the contexts hold whatever their allocation held. -/
def new (pri staticPrikey staticPubkey : QByteArray) (dctx ectx : Ctx) :
    ChatSession QByteArray QString Ctx where
  id := P.emptyString
  name := []
  staticPrikey := staticPrikey
  staticPubkey := staticPubkey
  chacha20Key := P.zeroKey
  chachaDctx := dctx
  chachaEctx := ectx
  peerStaticPubkey := P.emptyArray
  peerName := List.replicate 32 0
  ephemeralPubKey := P.x25519PublicFromPrivate pri
  ephemeralPriKey := pri
  initRuns := 0

def setName (s : ChatSession QByteArray QString Ctx) (name : QString) :
    ChatSession QByteArray QString Ctx :=
  { s with name := P.toUtf8 name }

def setPeerPubkey (s : ChatSession QByteArray QString Ctx) (peerPubkey : QString) :
    ChatSession QByteArray QString Ctx :=
  { s with id := peerPubkey, peerStaticPubkey := P.fromBase64 peerPubkey }

/-- `close`: reports to the client, then closes the socket. -/
def close (s : ChatSession QByteArray QString Ctx) : List (Effect QByteArray QString) :=
  [.client (.onClose s.id), .socketClose]

/-- The packet that `sendHandshake` fills in and signs. -/
def helloPacket (s : ChatSession QByteArray QString Ctx) (t : UInt8) : HelloPacket QByteArray :=
  let body : HelloBody QByteArray :=
    { type := t, name := fit 32 s.name, staticKey := P.key32 s.staticPubkey,
      ephemeralKey := s.ephemeralPubKey, timestamp := 1 }
  { body with sig := P.ed25519Sign body s.staticPubkey s.staticPrikey }

def sendHandshake (s : ChatSession QByteArray QString Ctx) (t : UInt8) :
    Effect QByteArray QString :=
  .asyncWriteHello (s.helloPacket P t)

/-- The completion handler of the write of a `HelloPacket`. -/
def sendHandshakeDone (type : UInt8) (ec : Bool) : List (Effect QByteArray QString) :=
  if ec then [] else if type = 1 then [receiveHandshake] else []

/-- `initChaCha20`: the key is also the nonce, and both directions start at block `0`. -/
def initChaCha20 (s : ChatSession QByteArray QString Ctx) : ChatSession QByteArray QString Ctx :=
  let dctx := P.mbedtlsChacha20Setkey (P.mbedtlsChacha20Init s.chachaDctx) s.chacha20Key
  let ectx := P.mbedtlsChacha20Setkey (P.mbedtlsChacha20Init s.chachaEctx) s.chacha20Key
  { s with
    chachaDctx := P.mbedtlsChacha20Starts dctx s.chacha20Key 0
    chachaEctx := P.mbedtlsChacha20Starts ectx s.chacha20Key 0
    initRuns := s.initRuns + 1 }

/-- The first half of `writeMsg`: encrypts `size` bytes at `msg + 4` in place and stores the size.
The result is the frame that the second half gives to `async_write`. -/
def encryptMsg (s : ChatSession QByteArray QString Ctx) (msg : List UInt8) (size : UInt16) :
    ChatSession QByteArray QString Ctx × List UInt8 :=
  let u := P.mbedtlsChacha20Update s.chachaEctx ((msg.drop 4).take size.toNat)
  let data := store (store msg 4 u.2) 0 (putU16 size)
  ({ s with chachaEctx := u.1 }, data.take (size.toNat + 4))

def writeMsg (s : ChatSession QByteArray QString Ctx) (msg : List UInt8) (size : UInt16) :
    ChatSession QByteArray QString Ctx × List (Effect QByteArray QString) :=
  let r := s.encryptMsg P msg size
  (r.1, [.asyncWriteMsg r.2])

/-- `handleReadMsg`. The second component is the buffer after the decryption in place. -/
def handleReadMsg (s : ChatSession QByteArray QString Ctx) (ec : Bool) (msg : List UInt8) :
    ChatSession QByteArray QString Ctx × List UInt8 × List (Effect QByteArray QString) :=
  if ec then (s, msg, [])
  else
    let msgsize := getU16 msg 0
    let protocol := getU16 msg 2
    if protocol = 1 then
      let u := P.mbedtlsChacha20Update s.chachaDctx ((msg.drop 4).take msgsize)
      let s := { s with chachaDctx := u.1 }
      let msg := store msg 4 u.2
      (s, msg, [.client (.onTextMsg s.id (P.fromUtf8 (cString (msg.drop 4)))), startRead])
    else (s, msg, [startRead])

/-- The first branch of `onHandShake`: a session without a peer key takes key and id from the
packet. -/
def adoptPeer (s : ChatSession QByteArray QString Ctx) (hp : HelloPacket QByteArray) :
    ChatSession QByteArray QString Ctx :=
  if P.isEmpty s.peerStaticPubkey then
    { s with peerStaticPubkey := hp.staticKey, id := P.toBase64 hp.staticKey }
  else s

def onHandShake (containsPeerPubkey : QByteArray → Bool) (s : ChatSession QByteArray QString Ctx)
    (ec : Bool) (hp : HelloPacket QByteArray) :
    ChatSession QByteArray QString Ctx × List (Effect QByteArray QString) :=
  if ec then (s, [])
  else if P.isEmpty s.peerStaticPubkey && !containsPeerPubkey hp.staticKey then (s, s.close)
  else
    let s := s.adoptPeer P hp
    if !P.ed25519Verify hp.sig hp.toHelloBody s.peerStaticPubkey then (s, s.close)
    else
      let shared := P.x25519 s.ephemeralPriKey hp.ephemeralKey
      let s := { s with peerName := hp.name, chacha20Key := shared.1 }
      if !shared.2 then (s, [])
      else
        let s := s.initChaCha20 P
        -- a request is answered before the application hears of the session
        let reply := if hp.type = 1 then [s.sendHandshake P 2] else []
        (s, reply ++ [.client (.onHandShakeFinished s.id), startRead])

end ChatSession

end Enchat
