import Enchat.Library.ListUpdate
import Enchat.Model.Network
import Enchat.Proofs.ConnStep

/-!
# What one step on the network can do

`Member.Step` lists what can happen to a session and what it puts on the network, `Network.Step`
what can happen to all of them.
-/

namespace Enchat
open Symbolic

variable {Agent QString Ctx : Type} (P : Primitives (NetTerm Agent) QString Ctx)

namespace Member

/-- The steps of a session: the packet that it reads, the session after it and the terms that go
over the network. -/
inductive Step (contains : NetTerm Agent → Bool) (m : Member Agent QString Ctx) :
    Option (HelloPacket (NetTerm Agent)) → Member Agent QString Ctx → List (NetTerm Agent) → Prop
  | connected : m.connecting = true →
      Step contains m none
        { m with
          connecting := false
          writes := m.writes ++ [1]
          hellos := m.hellos ++ [m.sess.helloPacket P 1]
          calls := m.calls ++ [.onConnected m.sess.id] }
        (m.sess.helloPacket P 1).terms
  | written {i : ℕ} {type : UInt8} : m.writes[i]? = some type →
      Step contains m none
        { m with
          writes := m.writes.eraseIdx i
          reads := if type = 1 then m.reads + 1 else m.reads } []
  | unlisted {hp : HelloPacket (NetTerm Agent)} : 0 < m.reads → ¬m.sess.Admits P contains hp →
      Step contains m (some hp)
        { m with reads := m.reads - 1, calls := m.calls ++ [.onClose m.sess.id] } []
  | badSignature {hp : HelloPacket (NetTerm Agent)} : 0 < m.reads → m.sess.Admits P contains hp →
      ¬m.sess.Verifies P hp →
      Step contains m (some hp)
        { m with
          reads := m.reads - 1
          sess := m.sess.adoptPeer P hp
          calls := m.calls ++ [.onClose (m.sess.adoptPeer P hp).id] } []
  | noSharedKey {hp : HelloPacket (NetTerm Agent)} : 0 < m.reads → m.sess.Admits P contains hp →
      m.sess.Verifies P hp → (P.x25519 m.sess.ephemeralPriKey hp.ephemeralKey).2 = false →
      Step contains m (some hp) { m with reads := m.reads - 1, sess := m.sess.agree P hp } []
  | finished {hp : HelloPacket (NetTerm Agent)} : 0 < m.reads → m.sess.Admits P contains hp →
      m.sess.Verifies P hp → (P.x25519 m.sess.ephemeralPriKey hp.ephemeralKey).2 = true →
      Step contains m (some hp)
        { m with
          reads := m.reads - 1
          sess := (m.sess.agree P hp).initChaCha20 P
          writes := m.writes ++ (m.sess.reply P hp).map (fun hp => hp.type)
          hellos := m.hellos ++ m.sess.reply P hp
          calls := m.calls ++ [.onHandShakeFinished (m.sess.adoptPeer P hp).id]
          inits := m.inits ++ [(hp, (m.sess.agree P hp).initChaCha20 P)] }
        ((m.sess.reply P hp).flatMap HelloPacket.terms)
  | readFails : 0 < m.reads → Step contains m none { m with reads := m.reads - 1 } []
  | writeMsg {msg : List UInt8} {size : UInt16} : 0 < m.sess.initRuns →
      Step contains m none { m with sess := (m.sess.writeMsg P msg size).1 }
        [.enc m.sess.chacha20Key (.datum (.bytes ((msg.drop 4).take size.toNat)))]

end Member

def NetEvent.packet : NetEvent Agent QString Ctx → Option (HelloPacket (NetTerm Agent))
  | .deliver _ hp => some hp
  | _ => none

namespace Network

variable [DecidableEq Agent] [DecidableEq QString]

/-- The steps of the network. -/
inductive Step (net : Network Agent QString Ctx) :
    NetEvent Agent QString Ctx → Network Agent QString Ctx → Prop
  | accept {a : Agent} {dctx ectx : Ctx} :
      Step net (.accept a dctx ectx)
        { net with
          members := net.members ++
            [{ Member.start P a .chatServer net.members.length dctx ectx with reads := 1 }] }
  | doConnect {a : Agent} {name peerPubkey : QString} {dctx ectx : Ctx} :
      Step net (.doConnect a name peerPubkey dctx ectx)
        { net with
          members := net.members ++
            [{ Member.start P a .chatClient net.members.length dctx ectx with
              sess := ((Member.start P a .chatClient net.members.length dctx ectx).sess.setName P
                name).setPeerPubkey P peerPubkey
              connecting := true }] }
  | move {s : ℕ} {m m' : Member Agent QString Ctx} {ev : NetEvent Agent QString Ctx}
      {terms : List (NetTerm Agent)} : net.members[s]? = some m →
      Member.Step P (net.containsPeerPubkey P m) m ev.packet m' terms →
      Step net ev { net with members := net.members.set s m', seen := net.seen ++ terms }
  | updatePeerList {a : Agent} {peers : List (Peer QString)} :
      Step net (.updatePeerList a peers)
        { net with peerList := Function.update net.peerList a peers }

end Network

namespace Member

variable {P}

lemma performAll_append (m : Member Agent QString Ctx)
    (effs effs' : List (Effect (NetTerm Agent) QString)) :
    m.performAll (effs ++ effs') = (m.performAll effs).performAll effs' :=
  List.foldl_append

lemma performAll_hellos (m : Member Agent QString Ctx) (hps : List (HelloPacket (NetTerm Agent))) :
    m.performAll (hps.map Effect.asyncWriteHello) =
      { m with
        writes := m.writes ++ hps.map (fun hp => hp.type)
        hellos := m.hellos ++ hps } := by
  induction hps generalizing m with
  | nil => simp [performAll]
  | cons hp hps ih =>
    have hcons : m.performAll ((hp :: hps).map Effect.asyncWriteHello) =
        (m.perform (.asyncWriteHello hp)).performAll (hps.map Effect.asyncWriteHello) := rfl
    rw [hcons, ih]
    simp [perform]

lemma onHandShake_step {contains : NetTerm Agent → Bool} {m : Member Agent QString Ctx}
    (hreads : 0 < m.reads) (hp : HelloPacket (NetTerm Agent)) (net : Network Agent QString Ctx)
    {s : ℕ} :
    ∃ m' terms, Step P contains m (some hp) m' terms ∧
      net.update s (m.onHandShake P contains hp).1 (m.onHandShake P contains hp).2 =
        { net with members := net.members.set s m', seen := net.seen ++ terms } := by
  rcases ChatSession.onHandShake_cases P contains m.sess hp with
    ⟨ha, hr⟩ | ⟨ha, hv, hr⟩ | ⟨ha, hv, hx, hr⟩ | ⟨ha, hv, hx, hr⟩
  · refine ⟨_, _, Step.unlisted hreads ha, ?_⟩
    simp only [onHandShake, hr, if_true]
    simp [Network.update, ChatSession.close, performAll, perform, Effect.terms]
  · refine ⟨_, _, Step.badSignature hreads ha hv, ?_⟩
    simp only [onHandShake, hr, ChatSession.adoptPeer_initRuns, if_true]
    simp [Network.update, ChatSession.close, performAll, perform, Effect.terms]
  · refine ⟨_, _, Step.noSharedKey hreads ha hv hx, ?_⟩
    simp only [onHandShake, hr, ChatSession.agree_initRuns, if_true]
    simp [Network.update, performAll]
  · refine ⟨_, _, Step.finished hreads ha hv hx, ?_⟩
    have hruns : ¬m.sess.initRuns + 1 = m.sess.initRuns := by omega
    simp only [onHandShake, hr, ChatSession.initChaCha20_initRuns, ChatSession.agree_initRuns,
      if_neg hruns]
    have hterms : ((m.sess.reply P hp).map (Effect.asyncWriteHello : _ → Effect _ QString)).flatMap
        Effect.terms = (m.sess.reply P hp).flatMap HelloPacket.terms := by
      rw [List.flatMap_map]
      rfl
    have hrest : ∀ (m : Member Agent QString Ctx) (call : ClientCall QString),
        m.performAll [.client call, startRead] = { m with calls := m.calls ++ [call] } :=
      fun _ _ => rfl
    simp only [Network.update, performAll_append, performAll_hellos, hrest, List.flatMap_append,
      hterms]
    congr 1
    exact congrArg (net.seen ++ ·) (List.append_nil _)

end Member

namespace Network

variable [DecidableEq Agent] [DecidableEq QString] {P}

theorem step_step {net net' : Network Agent QString Ctx} {ev : NetEvent Agent QString Ctx}
    (h : Transition.StepOf (step P) net ev net') : Step P net ev net' := by
  cases ev with
  | accept a dctx ectx =>
    obtain rfl := Option.some.inj h
    exact Step.accept
  | doConnect a name peerPubkey dctx ectx =>
    obtain rfl := Option.some.inj h
    exact Step.doConnect
  | connected s =>
    obtain ⟨m, hm, h⟩ := Option.bind_eq_some_iff.mp h
    split at h
    · rename_i hc
      obtain rfl := Option.some.inj h
      exact Step.move hm (Member.Step.connected hc)
    · cases h
  | written s i =>
    obtain ⟨m, hm, h⟩ := Option.bind_eq_some_iff.mp h
    obtain ⟨type, htype, rfl⟩ := Option.map_eq_some_iff.mp h
    have hupdate : net.update s { m with writes := m.writes.eraseIdx i }
        (ChatSession.sendHandshakeDone type false) =
        { net with
          members := net.members.set s { m with
            writes := m.writes.eraseIdx i
            reads := if type = 1 then m.reads + 1 else m.reads }
          seen := net.seen ++ [] } := by
      by_cases ht : type = 1
      · simp only [ChatSession.sendHandshakeDone, if_pos ht]
        rfl
      · simp only [ChatSession.sendHandshakeDone, if_neg ht]
        rfl
    rw [hupdate]
    exact Step.move hm (Member.Step.written htype)
  | deliver s hp =>
    obtain ⟨m, hm, h⟩ := Option.bind_eq_some_iff.mp h
    split at h
    · rename_i hc
      obtain rfl := Option.some.inj h
      obtain ⟨m', terms, hs, heq⟩ := Member.onHandShake_step hc hp net
      exact heq ▸ Step.move hm hs
    · cases h
  | readFails s =>
    obtain ⟨m, hm, h⟩ := Option.bind_eq_some_iff.mp h
    split at h
    · rename_i hc
      obtain rfl := Option.some.inj h
      exact Step.move hm (Member.Step.readFails hc)
    · cases h
  | writeMsg s msg size =>
    obtain ⟨m, hm, h⟩ := Option.bind_eq_some_iff.mp h
    split at h
    · rename_i hc
      obtain rfl := Option.some.inj h
      exact Step.move hm (Member.Step.writeMsg hc)
    · cases h
  | updatePeerList a peers =>
    obtain rfl := Option.some.inj h
    exact Step.updatePeerList

end Network

end Enchat
