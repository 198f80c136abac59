import Enchat.Model.Endpoint
import Enchat.Model.Link

/-!
# A session of a client and the session of the server that it reaches

A `Dialogue` begins where `ChatClient::connect` has made a session and `doAccept` has made one for
the same connection: the client is the near side. From there it goes through both packets of the
handshake to the texts. The list of peers of the server may change at any time.
-/

namespace Enchat

/-- `texts` and `received` record what each side has been given to send and what has arrived. -/
structure Dialogue (QString Ctx : Type) where
  peerList : List (Peer QString)
  conn : Side → Conn QString Ctx
  texts : Side → List QString
  received : Side → List UInt8

inductive DialogueEvent (QString : Type)
  | updatePeerList (peers : List (Peer QString))
  | sendTextMsg (side : Side) (text : QString)
  | socket (side : Side) (ev : SocketEvent)

variable {QString Ctx : Type} (P : Primitives (List UInt8) QString Ctx)

/-- The application has been told that the handshake is finished. -/
def Conn.Announced (c : Conn QString Ctx) : Prop :=
  ∃ id, ClientCall.onHandShakeFinished id ∈ c.calls

namespace Dialogue
variable [DecidableEq QString]

/-- The private keys of `X25519_keypair` and the memory of the contexts are given for each side. -/
def start (client server : Endpoint QString Ctx) (peerPubkey : QString) (pri : Side → List UInt8)
    (dctx ectx : Side → Ctx) : Dialogue QString Ctx where
  peerList := server.peerList
  conn
    | .near => client.connectSession P peerPubkey (pri .near) (dctx .near) (ectx .near)
    | .far => server.acceptSession P (pri .far) (dctx .far) (ectx .far)
  texts _ := []
  received _ := []

def containsPeerPubkey (d : Dialogue QString Ctx) : Side → List UInt8 → Bool
  | .near => ChatClient.containsPeerPubkey
  | .far => ChatServer.containsPeerPubkey P d.peerList

def step (d : Dialogue QString Ctx) : DialogueEvent QString → Option (Dialogue QString Ctx)
  | .updatePeerList peers => some { d with peerList := peers }
  | .sendTextMsg side text =>
    some { d with
      conn := Function.update d.conn side ((d.conn side).sendText P text)
      texts := Function.update d.texts side (d.texts side ++ [text]) }
  | .socket side ev =>
    ((d.conn side).react P (d.containsPeerPubkey P side) ev).map fun r =>
      { d with
        conn := Function.update d.conn side r.1
        received := Function.update d.received side (d.received side ++ Link.arrived ev) }

/-- The events of a connection that does not fail. -/
def works : SocketEvent → Bool
  | .connectOk | .connectDone | .writeSome _ _ | .writeDone _ | .readSome _ _ | .readDone _ => true
  | _ => false

/-- A side sends texts that fit, after the end of its handshake and when its writes have been
transferred. The connection does not fail and delivers to each side the bytes of the other. -/
def Reliable (d : Dialogue QString Ctx) : DialogueEvent QString → Prop
  | .updatePeerList _ => True
  | .sendTextMsg side text =>
    (d.conn side).Announced ∧ (∀ op ∈ (d.conn side).writes, op.data = []) ∧
      (P.toUtf8 text).length ≤ 4091
  | .socket side ev =>
    works ev = true ∧ d.received side ++ Link.arrived ev <+: (d.conn side.other).wireBytes

/-- The list of peers keeps an entry for the key. -/
def Lists (key : List UInt8) (_ : Dialogue QString Ctx) : DialogueEvent QString → Prop
  | .updatePeerList peers => ChatServer.containsPeerPubkey P peers key = true
  | _ => True

/-- Nothing is left to do for the sockets. -/
def Settled (d : Dialogue QString Ctx) : Prop :=
  ∀ side ev, d.Reliable P (.socket side ev) → d.step P (.socket side ev) = none

end Dialogue

end Enchat
