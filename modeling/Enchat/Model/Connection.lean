import Enchat.Model.Platform

/-!
# A session and its socket

`Conn` is one session together with its asynchronous operations. The environment moves the
operations forward byte by byte; an operation whose bytes are complete waits for its completion
handler, and closing the socket stops all operations that are not complete.
-/

namespace Enchat
open Buffer

inductive AsyncOp
  | asyncConnect
  | asyncWrite
  | asyncRead
deriving DecidableEq

inductive ConnectState
  | idle
  | pending
  | succeeded
deriving DecidableEq

/-- A composed `async_write`: the type byte of a `HelloPacket` or `none` for a frame, and the
bytes that have not been transferred. -/
structure WriteOp where
  hello : Option UInt8
  data : List UInt8
deriving DecidableEq

/-- A byte on the wire, and whether it belongs to a `HelloPacket`. -/
structure WireByte where
  hello : Bool
  byte : UInt8
deriving DecidableEq

/-- A session, its socket and the operations in flight. `isOpen` is about `ChatSession::close`;
after the destructor, which closes the socket too, no operation is left that could see the
difference. The fields from `wire` on are a record of the past: bytes put on the socket, callbacks,
buffers after `handleReadMsg`, frames in the order of their encryption, packets given to
`async_write` and the operations that failed. -/
structure Conn (QString Ctx : Type) where
  sess : ChatSession (List UInt8) QString Ctx
  isOpen : Bool
  connecting : ConnectState
  reads : List ReadOp
  writes : List WriteOp
  /-- Frames that some thread has encrypted but not yet given to `async_write`. -/
  waiting : List (List UInt8)
  wire : List WireByte
  calls : List (ClientCall QString)
  handled : List (List UInt8)
  encrypted : List (List UInt8)
  hellos : List (HelloPacket (List UInt8))
  errors : List AsyncOp

/-- One step of the operations of a socket, or a thread that reaches its `async_write`. -/
inductive SocketEvent
  | connectOk
  | connectDone
  | connectFail
  | writeSome (i n : ℕ)
  | writeDone (i : ℕ)
  | writeFail (i : ℕ)
  | readSome (i : ℕ) (bytes : List UInt8)
  | readDone (i : ℕ)
  | readFail (i : ℕ)
  | startWrite (j : ℕ)
deriving DecidableEq

variable {QString Ctx : Type} (P : Primitives (List UInt8) QString Ctx)

/-- The buffer and the size that `sendTextMsg` gives to `writeMsg`. -/
def textMsg (text : QString) : List UInt8 × UInt16 :=
  let u8text := P.toUtf8 text
  (store (store (List.replicate 4096 0) 4 u8text) 2 (putU16 1), UInt16.ofNat u8text.length)

namespace Conn

def start (sess : ChatSession (List UInt8) QString Ctx) : Conn QString Ctx where
  sess := sess
  isOpen := true
  connecting := .idle
  reads := []
  writes := []
  waiting := []
  wire := []
  calls := []
  handled := []
  encrypted := []
  hellos := []
  errors := []

def perform (c : Conn QString Ctx) : Effect (List UInt8) QString → Conn QString Ctx
  | .asyncWriteHello hp =>
    { c with writes := c.writes ++ [⟨some hp.type, hp.pack⟩], hellos := c.hellos ++ [hp] }
  | .asyncWriteMsg data => { c with writes := c.writes ++ [⟨none, data⟩] }
  | .asyncRead op => { c with reads := c.reads ++ [op] }
  | .socketClose => { c with isOpen := false }
  | .client call => { c with calls := c.calls ++ [call] }

def performAll (c : Conn QString Ctx) (effs : List (Effect (List UInt8) QString)) :
    Conn QString Ctx :=
  effs.foldl perform c

/-- The first part of `sendTextMsg` on this session, up to the encryption. -/
def encryptText (c : Conn QString Ctx) (text : QString) : Conn QString Ctx :=
  let r := c.sess.encryptMsg P (textMsg P text).1 (textMsg P text).2
  { c with sess := r.1, waiting := c.waiting ++ [r.2], encrypted := c.encrypted ++ [r.2] }

/-- `writeMsg` on this session without interruption. -/
def writeMsg (c : Conn QString Ctx) (msg : List UInt8) (size : UInt16) : Conn QString Ctx :=
  let r := c.sess.writeMsg P msg size
  performAll
    { c with sess := r.1, encrypted := c.encrypted ++ [(c.sess.encryptMsg P msg size).2] } r.2

/-- `sendTextMsg` on this session without interruption. -/
def sendText (c : Conn QString Ctx) (text : QString) : Conn QString Ctx :=
  c.writeMsg P (textMsg P text).1 (textMsg P text).2

def readHandler (containsPeerPubkey : List UInt8 → Bool) (c : Conn QString Ctx) (ec : Bool)
    (op : ReadOp) : Conn QString Ctx × List (Effect (List UInt8) QString) :=
  match op.handler with
  | .onHandShake =>
    let r := c.sess.onHandShake P containsPeerPubkey ec (HelloPacket.ofBytes op.buffer)
    (performAll { c with sess := r.1 } r.2, r.2)
  | .handleReadMsgHead =>
    let effs := handleReadMsgHead ec op.buffer
    (c.performAll effs, effs)
  | .handleReadMsg =>
    let r := c.sess.handleReadMsg P ec op.buffer
    let handled := if ec then c.handled else c.handled ++ [r.2.1]
    (performAll { c with sess := r.1, handled := handled } r.2.2, r.2.2)

def writeHandler (c : Conn QString Ctx) (ec : Bool) (op : WriteOp) :
    Conn QString Ctx × List (Effect (List UInt8) QString) :=
  let effs := match op.hello with
    | some type => ChatSession.sendHandshakeDone type ec
    | none => []
  (c.performAll effs, effs)

/-- The completion handler of `async_connect` in `ChatClient::connect`. -/
def connectHandler (c : Conn QString Ctx) (ec : Bool) :
    Conn QString Ctx × List (Effect (List UInt8) QString) :=
  let effs := if ec then [] else [c.sess.sendHandshake P 1, .client (.onConnected c.sess.id)]
  (c.performAll effs, effs)

/-- One step of the session; `none` when the event cannot happen. The second component lists what
the handler did. -/
def react (containsPeerPubkey : List UInt8 → Bool) (c : Conn QString Ctx) :
    SocketEvent → Option (Conn QString Ctx × List (Effect (List UInt8) QString))
  | .connectOk =>
    if c.connecting = .pending ∧ c.isOpen then some ({ c with connecting := .succeeded }, [])
    else none
  | .connectDone =>
    if c.connecting = .succeeded then
      -- asio looks at the socket again before it calls the handler
      if c.isOpen then some (connectHandler P { c with connecting := .idle } false)
      else some (connectHandler P
        { c with connecting := .idle, errors := c.errors ++ [.asyncConnect] } true)
    else none
  | .connectFail =>
    if c.connecting = .pending then
      some (connectHandler P { c with connecting := .idle, errors := c.errors ++ [.asyncConnect] } true)
    else none
  | .writeSome i n =>
    c.writes[i]?.bind fun op =>
      if c.isOpen ∧ 0 < n ∧ n ≤ op.data.length then
        some ({ c with
          wire := c.wire ++ (op.data.take n).map (⟨op.hello.isSome, ·⟩)
          writes := c.writes.set i { op with data := op.data.drop n } }, [])
      else none
  | .writeDone i =>
    c.writes[i]?.bind fun op =>
      if op.data = [] then
        some (writeHandler { c with writes := c.writes.eraseIdx i } false op)
      else none
  | .writeFail i =>
    c.writes[i]?.bind fun op =>
      if op.data ≠ [] then
        some (writeHandler
          { c with writes := c.writes.eraseIdx i, errors := c.errors ++ [.asyncWrite] } true op)
      else none
  | .readSome i bytes =>
    c.reads[i]?.bind fun op =>
      if c.isOpen ∧ bytes ≠ [] ∧ op.got.length + bytes.length ≤ op.need then
        some ({ c with reads := c.reads.set i { op with got := op.got ++ bytes } }, [])
      else none
  | .readDone i =>
    c.reads[i]?.bind fun op =>
      if op.got.length = op.need then
        some (readHandler P containsPeerPubkey { c with reads := c.reads.eraseIdx i } false op)
      else none
  | .readFail i =>
    c.reads[i]?.bind fun op =>
      if op.got.length < op.need then
        some (readHandler P containsPeerPubkey
          { c with reads := c.reads.eraseIdx i, errors := c.errors ++ [.asyncRead] } true op)
      else none
  | .startWrite j =>
    c.waiting[j]?.bind fun data =>
      some (perform { c with waiting := c.waiting.eraseIdx j } (.asyncWriteMsg data),
        [.asyncWriteMsg data])

end Conn

end Enchat
