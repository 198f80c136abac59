import Enchat.Library.Run
import Enchat.Model.Connection

/-!
# Two sessions and the stream between them

`Link` is a pair of sessions that have initialised their ciphers. What a side reads is up to the
environment: an attacker feeds the reads, unless the stream is `Link.Reliable`.
-/

namespace Enchat
open Buffer

/-- One of two endpoints that have finished their handshake with each other. -/
inductive Side
  | near
  | far
deriving DecidableEq

def Side.other : Side → Side
  | .near => .far
  | .far => .near

/-- A call of `writeMsg`. -/
structure WriteCall where
  side : Side
  msg : List UInt8
  size : UInt16

def WriteCall.payload (call : WriteCall) : List UInt8 := (call.msg.drop 4).take call.size.toNat

def WriteCall.protocol (call : WriteCall) : ℕ := getU16 call.msg 2

/-- `conn` are the two sessions. The other fields record the past of each side: the payloads given
to `writeMsg`, the encrypt context before the first and after each of them, the texts given to
`sendTextMsg` and the bytes that have arrived. -/
structure Link (QString Ctx : Type) where
  conn : Side → Conn QString Ctx
  sent : Side → List (List UInt8)
  positions : Side → List Ctx
  texts : Side → List QString
  received : Side → List UInt8

inductive LinkEvent (QString : Type)
  | writeMsg (call : WriteCall)
  | sendTextMsg (side : Side) (text : QString)
  | socket (side : Side) (ev : SocketEvent)

variable {QString Ctx : Type} (P : Primitives (List UInt8) QString Ctx)

/-- A session at the end of `onHandShake`. -/
def Conn.established (sess : ChatSession (List UInt8) QString Ctx) : Conn QString Ctx :=
  (Conn.start (sess.initChaCha20 P)).performAll
    [.client (.onHandShakeFinished sess.id), startRead]

def Conn.wireBytes (c : Conn QString Ctx) : List UInt8 := c.wire.map WireByte.byte

/-- The call of `writeMsg` that `sendTextMsg` makes. -/
def textCall (side : Side) (text : QString) : WriteCall :=
  ⟨side, (textMsg P text).1, (textMsg P text).2⟩

/-- The call of `writeMsg` that an event makes. -/
def LinkEvent.call : LinkEvent QString → Option WriteCall
  | .writeMsg call => some call
  | .sendTextMsg side text => some (textCall P side text)
  | .socket _ _ => none

/-- The calls of `writeMsg` on one side, in the order in which they are made. -/
def callsOf (side : Side) (es : List (LinkEvent QString)) : List WriteCall :=
  (es.filterMap (LinkEvent.call P)).filter (fun call => call.side = side)

namespace Link

/-- Two sessions that are about to run `initChaCha20`. -/
def start (a b : ChatSession (List UInt8) QString Ctx) : Link QString Ctx where
  conn
    | .near => Conn.established P a
    | .far => Conn.established P b
  sent _ := []
  positions
    | .near => [(a.initChaCha20 P).chachaEctx]
    | .far => [(b.initChaCha20 P).chachaEctx]
  texts _ := []
  received _ := []

def write (l : Link QString Ctx) (call : WriteCall) : Link QString Ctx :=
  let c := (l.conn call.side).writeMsg P call.msg call.size
  { l with
    conn := Function.update l.conn call.side c
    sent := Function.update l.sent call.side (l.sent call.side ++ [call.payload])
    positions := Function.update l.positions call.side
      (l.positions call.side ++ [c.sess.chachaEctx]) }

/-- The bytes that an event gives to a read. -/
def arrived : SocketEvent → List UInt8
  | .readSome _ bytes => bytes
  | _ => []

/-- Everything that a side has given to `async_write` is on the wire. -/
def Transferred (l : Link QString Ctx) (side : Side) : Prop :=
  ∀ op ∈ (l.conn side).writes, op.data = []

instance (l : Link QString Ctx) (side : Side) : Decidable (l.Transferred side) :=
  inferInstanceAs (Decidable (∀ op ∈ (l.conn side).writes, op.data = []))

/-- A frame has protocol 1, a payload of at most 4092 bytes and a buffer that holds it. -/
def step (l : Link QString Ctx) : LinkEvent QString → Option (Link QString Ctx)
  | .writeMsg call =>
    if getU16 call.msg 2 = 1 ∧ call.size.toNat ≤ 4092 ∧ call.size.toNat + 4 ≤ call.msg.length then
      some (l.write P call)
    else none
  | .sendTextMsg side text =>
    if (P.toUtf8 text).length ≤ 4092 then
      some { l.write P (textCall P side text) with
        texts := Function.update l.texts side (l.texts side ++ [text]) }
    else none
  | .socket side ev =>
    ((l.conn side).react P (fun _ => false) ev).map fun r =>
      { l with
        conn := Function.update l.conn side r.1
        received := Function.update l.received side (l.received side ++ arrived ev) }

/-- As `step`, for frames of any protocol whose payload has at most 4091 bytes. -/
def stepAny (l : Link QString Ctx) : LinkEvent QString → Option (Link QString Ctx)
  | .writeMsg call =>
    if call.size.toNat ≤ 4091 ∧ call.size.toNat + 4 ≤ call.msg.length then some (l.write P call)
    else none
  | .sendTextMsg side text =>
    if (P.toUtf8 text).length ≤ 4091 then l.step P (.sendTextMsg side text) else none
  | .socket side ev => l.step P (.socket side ev)

/-- The events of a session whose connection does not fail. -/
def works : SocketEvent → Bool
  | .writeSome _ _ | .writeDone _ | .readSome _ _ | .readDone _ => true
  | _ => false

/-- Each write starts when the previous one of its side has been transferred, the connection does
not fail, and it delivers to each side the bytes of the other in order. -/
def Reliable (l : Link QString Ctx) : LinkEvent QString → Prop
  | .writeMsg call => l.Transferred call.side
  | .sendTextMsg side _ => l.Transferred side
  | .socket side ev =>
    works ev = true ∧ l.received side ++ arrived ev <+: (l.conn side.other).wireBytes

/-- Nothing is left to do for the sockets of a reliable link. -/
def Settled (l : Link QString Ctx) : Prop :=
  ∀ side ev, l.Reliable (.socket side ev) → l.step P (.socket side ev) = none

end Link

end Enchat
