import Enchat.Library.Run
import Enchat.Library.Symbolic
import Enchat.Model.Endpoint

/-!
# Sessions on a network that an attacker controls

The sessions of any number of endpoints, run on symbolic terms by the same member functions that run
on bytes. All packets go to the attacker, and every packet that a session reads comes from it.
-/

namespace Enchat
open Symbolic

/-- The ephemeral private key of a session is a scalar of its own. -/
inductive Scalar
  | session (s : ℕ)
  | attacker (i : ℕ)
deriving DecidableEq

def Scalar.Secret : Scalar → Prop
  | .session _ => True
  | .attacker _ => False

instance : DecidablePred Scalar.Secret
  | .session _ => .isTrue trivial
  | .attacker _ => .isFalse not_false

/-- Public data: the fields of a packet that are not keys, and byte strings. -/
inductive Datum
  | fields (type : UInt8) (name : List UInt8) (timestamp : UInt32)
  | bytes (data : List UInt8)
deriving DecidableEq

/-- What the packets and keys of the endpoints `Agent` are made of. -/
abbrev NetTerm (Agent : Type) := Term Agent Scalar Datum

variable {Agent QString : Type}

/-- What the signature of a packet covers. -/
def HelloBody.term (body : HelloBody (NetTerm Agent)) : NetTerm Agent :=
  .pair (.datum (.fields body.type body.name body.timestamp))
    (.pair body.staticKey body.ephemeralKey)

/-- The primitives on terms. The cipher is the one of the repository, run on whatever bytes
represent a key. -/
def symbolicPrimitives [DecidableEq Agent] (q : Qt (NetTerm Agent) QString)
    (keyBytes : NetTerm Agent → List UInt8) :
    Primitives (NetTerm Agent) QString ChachaContext where
  emptyArray := .datum (.bytes [])
  isEmpty t := decide (t = .datum (.bytes []))
  key32 := id
  zeroKey := .low 0
  emptyString := q.emptyString
  toBase64 := q.toBase64
  fromBase64 := q.fromBase64
  toUtf8 := q.toUtf8
  fromUtf8 := q.fromUtf8
  ed25519Sign body _ pri :=
    match pri with
    | .sk a => .sig a body.term
    | _ => .datum (.bytes [])
  ed25519Verify sig body pub :=
    match pub with
    | .pk a => decide (sig = .sig a body.term)
    | _ => false
  x25519 pri peer :=
    match pri with
    | .scalar n => (peer.dh n, decide (peer.dh n ≠ .low 0))
    | _ => (.low 0, false)
  x25519PublicFromPrivate pri :=
    match pri with
    | .scalar n => Term.base.dh n
    | _ => .low 0
  mbedtlsChacha20Init := mbedtlsChacha20Init
  mbedtlsChacha20Setkey ctx key := mbedtlsChacha20Setkey ctx (keyBytes key)
  mbedtlsChacha20Starts ctx nonce counter := mbedtlsChacha20Starts ctx (keyBytes nonce) counter
  mbedtlsChacha20Update := mbedtlsChacha20Update

/-- A session of the endpoint `agent`: whether its connection is being established, the types of
the packets that it is writing and the number of packets that it is reading. The other fields
record the past: packets written, callbacks, and for each run of `initChaCha20` the packet that led
to it and the session after it. -/
structure Member (Agent QString Ctx : Type) where
  agent : Agent
  role : Role
  sess : ChatSession (NetTerm Agent) QString Ctx
  connecting : Bool
  writes : List UInt8
  reads : ℕ
  hellos : List (HelloPacket (NetTerm Agent))
  calls : List (ClientCall QString)
  inits : List (HelloPacket (NetTerm Agent) × ChatSession (NetTerm Agent) QString Ctx)

/-- `seen` are the terms that have gone over the network. -/
structure Network (Agent QString Ctx : Type) where
  members : List (Member Agent QString Ctx)
  peerList : Agent → List (Peer QString)
  seen : List (NetTerm Agent)

inductive NetEvent (Agent QString Ctx : Type)
  | accept (a : Agent) (dctx ectx : Ctx)
  | doConnect (a : Agent) (name peerPubkey : QString) (dctx ectx : Ctx)
  | connected (s : ℕ)
  | written (s i : ℕ)
  | deliver (s : ℕ) (hp : HelloPacket (NetTerm Agent))
  | readFails (s : ℕ)
  | writeMsg (s : ℕ) (msg : List UInt8) (size : UInt16)
  | updatePeerList (a : Agent) (peers : List (Peer QString))

variable {Ctx : Type} (P : Primitives (NetTerm Agent) QString Ctx)

namespace Member

/-- A session of `agent` with number `s` that has just been constructed. -/
def start (agent : Agent) (role : Role) (s : ℕ) (dctx ectx : Ctx) : Member Agent QString Ctx where
  agent := agent
  role := role
  sess := ChatSession.new P (.scalar (.session s)) (.sk agent) (.pk agent) dctx ectx
  connecting := false
  writes := []
  reads := 0
  hellos := []
  calls := []
  inits := []

def perform (m : Member Agent QString Ctx) :
    Effect (NetTerm Agent) QString → Member Agent QString Ctx
  | .asyncWriteHello hp => { m with writes := m.writes ++ [hp.type], hellos := m.hellos ++ [hp] }
  | .asyncRead op => if op.handler = .onHandShake then { m with reads := m.reads + 1 } else m
  | .client call => { m with calls := m.calls ++ [call] }
  | .asyncWriteMsg _ | .socketClose => m

def performAll (m : Member Agent QString Ctx) (effs : List (Effect (NetTerm Agent) QString)) :
    Member Agent QString Ctx :=
  effs.foldl perform m

def onHandShake (m : Member Agent QString Ctx) (containsPeerPubkey : NetTerm Agent → Bool)
    (hp : HelloPacket (NetTerm Agent)) :
    Member Agent QString Ctx × List (Effect (NetTerm Agent) QString) :=
  let r := m.sess.onHandShake P containsPeerPubkey false hp
  let inits := if r.1.initRuns = m.sess.initRuns then m.inits else m.inits ++ [(hp, r.1)]
  ({ m with reads := m.reads - 1, sess := r.1, inits := inits }, r.2)

end Member

def HelloPacket.terms (hp : HelloPacket (NetTerm Agent)) : List (NetTerm Agent) :=
  [hp.staticKey, hp.ephemeralKey, hp.sig]

/-- The terms that a member function puts on the network. -/
def Effect.terms : Effect (NetTerm Agent) QString → List (NetTerm Agent)
  | .asyncWriteHello hp => hp.terms
  | _ => []

namespace Network

def init : Network Agent QString Ctx where
  members := []
  peerList _ := []
  seen := []

def containsPeerPubkey [DecidableEq QString] (net : Network Agent QString Ctx)
    (m : Member Agent QString Ctx) : NetTerm Agent → Bool :=
  match m.role with
  | .chatServer => ChatServer.containsPeerPubkey P (net.peerList m.agent)
  | .chatClient => ChatClient.containsPeerPubkey

/-- Session `s` has become `m` before its handler had the effects `effs`. -/
def update (net : Network Agent QString Ctx) (s : ℕ) (m : Member Agent QString Ctx)
    (effs : List (Effect (NetTerm Agent) QString)) : Network Agent QString Ctx :=
  { net with
    members := net.members.set s (m.performAll effs)
    seen := net.seen ++ effs.flatMap Effect.terms }

variable [DecidableEq Agent] [DecidableEq QString]

def step (net : Network Agent QString Ctx) :
    NetEvent Agent QString Ctx → Option (Network Agent QString Ctx)
  | .accept a dctx ectx =>
    let m := Member.start P a .chatServer net.members.length dctx ectx
    some { net with members := net.members ++ [m.perform receiveHandshake] }
  | .doConnect a name peerPubkey dctx ectx =>
    let m := Member.start P a .chatClient net.members.length dctx ectx
    let sess := (m.sess.setName P name).setPeerPubkey P peerPubkey
    some { net with members := net.members ++ [{ m with sess := sess, connecting := true }] }
  | .connected s =>
    net.members[s]?.bind fun m =>
      if m.connecting then
        some (net.update s { m with connecting := false }
          [m.sess.sendHandshake P 1, .client (.onConnected m.sess.id)])
      else none
  | .written s i =>
    net.members[s]?.bind fun m =>
      m.writes[i]?.map fun type =>
        net.update s { m with writes := m.writes.eraseIdx i }
          (ChatSession.sendHandshakeDone type false)
  | .deliver s hp =>
    net.members[s]?.bind fun m =>
      if 0 < m.reads then
        let r := m.onHandShake P (net.containsPeerPubkey P m) hp
        some (net.update s r.1 r.2)
      else none
  | .readFails s =>
    net.members[s]?.bind fun m =>
      if 0 < m.reads then some (net.update s { m with reads := m.reads - 1 } []) else none
  | .writeMsg s msg size =>
    net.members[s]?.bind fun m =>
      if 0 < m.sess.initRuns then
        let r := m.sess.writeMsg P msg size
        -- the attacker sees a ciphertext under the shared key
        let frame := .enc m.sess.chacha20Key (.datum (.bytes ((msg.drop 4).take size.toNat)))
        some { net.update s { m with sess := r.1 } r.2 with seen := net.seen ++ [frame] }
      else none
  | .updatePeerList a peers => some { net with peerList := Function.update net.peerList a peers }

/-- The sessions are those of honest endpoints, and the attacker delivers what it can derive. -/
def Can (honest : Agent → Prop) (net : Network Agent QString Ctx) :
    NetEvent Agent QString Ctx → Prop
  | .accept a _ _ | .doConnect a _ _ _ _ => honest a
  | .deliver _ hp => ∀ t ∈ hp.terms, Derives honest Scalar.Secret {t | t ∈ net.seen} t
  | _ => True

end Network

end Enchat
