import Mathlib.Data.List.AList
import Enchat.Library.Run
import Enchat.Model.Connection

/-!
# ChatServer and ChatClient

Both classes own a map from ids to sessions and are called back by their sessions. `Endpoint` is
the state of one such object with all the sessions it ever made, numbered in the order of their
creation; the map holds session numbers. Each signal is recorded with the session on whose behalf
it was emitted.
-/

namespace Enchat

inductive Role
  | chatServer
  | chatClient
deriving DecidableEq

inductive Signal (QString : Type)
  | sigConnected (id : QString)
  | sigClose (id : QString)
  | sigHandshakeFinished (id : QString)
  | sigTextMsg (id text : QString)
deriving DecidableEq

structure Peer (QString : Type) where
  name : QString
  pubKey : QString
  address : QString
  port : UInt16
deriving DecidableEq

/-- `std::map<QString, ChatSession::Ptr>`. -/
abbrev SessMap (QString : Type) := AList (fun _ : QString => ℕ)

/-- `std::map::insert` leaves an existing entry alone. -/
def SessMap.stdInsert {QString : Type} [DecidableEq QString] (m : SessMap QString) (id : QString)
    (s : ℕ) : SessMap QString :=
  if id ∈ m then m else m.insert id s

structure Endpoint (QString Ctx : Type) where
  role : Role
  name : QString
  staticPrikey : List UInt8
  staticPubkey : List UInt8
  peerList : List (Peer QString)
  sessMap : SessMap QString
  sessions : List (Conn QString Ctx)
  signals : List (ℕ × Signal QString)

/-- Calls of the application, accepted connections and steps of the sessions. -/
inductive Event (QString Ctx : Type)
  | accept (pri : List UInt8) (dctx ectx : Ctx)
  | doConnect (peerPubkey : QString) (pri : List UInt8) (dctx ectx : Ctx)
  | socket (s : ℕ) (ev : SocketEvent)
  | sendTextMsg (id text : QString)
  | close
  | updatePeerList (peers : List (Peer QString))
  | setEcKey (pri pub : QString)
  | setName (name : QString)

variable {QByteArray QString Ctx : Type} [DecidableEq QString]
  (P : Primitives (List UInt8) QString Ctx)

namespace Endpoint

def init (role : Role) (name : QString) : Endpoint QString Ctx where
  role := role
  name := name
  staticPrikey := []
  staticPubkey := []
  peerList := []
  sessMap := ∅
  sessions := []
  signals := []

def emit (e : Endpoint QString Ctx) (s : ℕ) (sig : Signal QString) : Endpoint QString Ctx :=
  { e with signals := e.signals ++ [(s, sig)] }

end Endpoint

namespace ChatServer

def containsPeerPubkey (Q : Primitives QByteArray QString Ctx) (peerList : List (Peer QString))
    (peerPubkey : QByteArray) : Bool :=
  peerList.any (fun p => p.pubKey = Q.toBase64 peerPubkey)

def onClose (e : Endpoint QString Ctx) (s : ℕ) (id : QString) : Endpoint QString Ctx :=
  { e with sessMap := e.sessMap.erase id }.emit s (.sigClose id)

def onHandShakeFinished (e : Endpoint QString Ctx) (s : ℕ) (id : QString) : Endpoint QString Ctx :=
  { e with sessMap := SessMap.stdInsert e.sessMap id s }.emit s (.sigHandshakeFinished id)

end ChatServer

namespace ChatClient

def containsPeerPubkey (_peerPubkey : QByteArray) : Bool := false

def onClose (e : Endpoint QString Ctx) (s : ℕ) (id : QString) : Endpoint QString Ctx :=
  { e with sessMap := e.sessMap.erase id }.emit s (.sigClose id)

def onHandShakeFinished (e : Endpoint QString Ctx) (s : ℕ) (id : QString) : Endpoint QString Ctx :=
  e.emit s (.sigHandshakeFinished id)

end ChatClient

namespace Endpoint

def containsPeerPubkey (e : Endpoint QString Ctx) : List UInt8 → Bool :=
  match e.role with
  | .chatServer => ChatServer.containsPeerPubkey P e.peerList
  | .chatClient => ChatClient.containsPeerPubkey

def call (s : ℕ) (e : Endpoint QString Ctx) : ClientCall QString → Endpoint QString Ctx
  | .onConnected id => e.emit s (.sigConnected id)
  | .onClose id =>
    match e.role with
    | .chatServer => ChatServer.onClose e s id
    | .chatClient => ChatClient.onClose e s id
  | .onHandShakeFinished id =>
    match e.role with
    | .chatServer => ChatServer.onHandShakeFinished e s id
    | .chatClient => ChatClient.onHandShakeFinished e s id
  | .onTextMsg id text => e.emit s (.sigTextMsg id text)

/-- The callbacks among the effects of a handler. -/
def clientCalls (effs : List (Effect (List UInt8) QString)) : List (ClientCall QString) :=
  effs.filterMap fun eff =>
    match eff with
    | .client call => some call
    | _ => none

/-- Session `s` has become `c`, and its handler made the callbacks among `effs`. -/
def update (e : Endpoint QString Ctx) (s : ℕ) (c : Conn QString Ctx)
    (effs : List (Effect (List UInt8) QString)) : Endpoint QString Ctx :=
  (clientCalls effs).foldl (call s) { e with sessions := e.sessions.set s c }

/-- `ChatSession::close` of session `s`. -/
def closeSession (e : Endpoint QString Ctx) (s : ℕ) : Endpoint QString Ctx :=
  match e.sessions[s]? with
  | none => e
  | some c => e.update s (c.performAll c.sess.close) c.sess.close

/-- `ChatClient::close`: closes the sessions that are in the map when the loop starts. -/
def closeAll (e : Endpoint QString Ctx) : Endpoint QString Ctx :=
  { e.sessMap.entries.foldl (fun e entry => e.closeSession entry.2) e with sessMap := ∅ }

/-- `sendTextMsg` without interruption. -/
def sendTextMsg (e : Endpoint QString Ctx) (id text : QString) : Endpoint QString Ctx × Bool :=
  match e.sessMap.lookup id with
  | none => (e, false)
  | some s => ({ e with sessions := e.sessions.modify s (Conn.sendText P · text) }, true)

/-- `sendTextMsg` up to the encryption; the event `startWrite` of the session is the rest. -/
def sendTextMsgEncrypt (e : Endpoint QString Ctx) (id text : QString) :
    Endpoint QString Ctx × Bool :=
  match e.sessMap.lookup id with
  | none => (e, false)
  | some s => ({ e with sessions := e.sessions.modify s (Conn.encryptText P · text) }, true)

/-- The session that `doAccept` makes for an accepted connection. -/
def acceptSession (e : Endpoint QString Ctx) (pri : List UInt8) (dctx ectx : Ctx) :
    Conn QString Ctx :=
  (Conn.start (ChatSession.new P pri e.staticPrikey e.staticPubkey dctx ectx)).perform
    receiveHandshake

def connectSession (e : Endpoint QString Ctx) (peerPubkey : QString) (pri : List UInt8)
    (dctx ectx : Ctx) : Conn QString Ctx :=
  let sess := ChatSession.new P pri e.staticPrikey e.staticPubkey dctx ectx
  { Conn.start ((sess.setName P e.name).setPeerPubkey P peerPubkey) with connecting := .pending }

def step (e : Endpoint QString Ctx) : Event QString Ctx → Option (Endpoint QString Ctx)
  | .accept pri dctx ectx =>
    if e.role = .chatServer then
      some { e with sessions := e.sessions ++ [e.acceptSession P pri dctx ectx] }
    else none
  | .doConnect peerPubkey pri dctx ectx =>
    if e.role = .chatClient then
      some { e with
        sessions := e.sessions ++ [e.connectSession P peerPubkey pri dctx ectx]
        sessMap := SessMap.stdInsert e.sessMap peerPubkey e.sessions.length }
    else none
  | .socket s ev =>
    e.sessions[s]?.bind fun c =>
      (c.react P (e.containsPeerPubkey P) ev).map fun r => e.update s r.1 r.2
  | .sendTextMsg id text => some (e.sendTextMsgEncrypt P id text).1
  | .close => if e.role = .chatClient then some e.closeAll else none
  | .updatePeerList peers =>
    if e.role = .chatServer then some { e with peerList := peers } else none
  | .setEcKey pri pub =>
    some { e with staticPrikey := P.fromBase64 pri, staticPubkey := P.fromBase64 pub }
  | .setName name => if e.role = .chatClient then some { e with name := name } else none

/-- The runs of a server or of a client from its construction on. -/
abbrev Runs (role : Role) (name : QString) (es : List (Event QString Ctx))
    (e : Endpoint QString Ctx) : Prop :=
  Transition.Run (Transition.StepOf (step P)) (init role name) es e

end Endpoint

end Enchat
