import Enchat.Model.Endpoint
import Enchat.Proofs.SessionOrder

/-!
# What one event of a server or a client can do

`Endpoint.Step` lists the outcomes of `Endpoint.step`. An event changes the sessions one at a
time, and each of them by a step of its own, by `close` or by an encryption.
-/

namespace Enchat
open Transition

variable {QString Ctx : Type} [DecidableEq QString] (P : Primitives (List UInt8) QString Ctx)

def ClientCall.signal : ClientCall QString → Signal QString
  | .onConnected id => .sigConnected id
  | .onClose id => .sigClose id
  | .onHandShakeFinished id => .sigHandshakeFinished id
  | .onTextMsg id text => .sigTextMsg id text

omit [DecidableEq QString] in
lemma ClientCall.signal_injective :
    Function.Injective (ClientCall.signal : ClientCall QString → Signal QString) := by
  intro call call' heq
  cases call <;> cases call' <;> cases heq <;> rfl

/-- What a callback of session `s` does to the map. -/
def SessMap.afterCall (role : Role) (s : ℕ) (m : SessMap QString) :
    ClientCall QString → SessMap QString
  | .onClose id => m.erase id
  | .onHandShakeFinished id => if role = .chatServer then SessMap.stdInsert m id s else m
  | .onConnected _ => m
  | .onTextMsg _ _ => m

lemma SessMap.lookup_stdInsert (m : SessMap QString) (id id' : QString) (s : ℕ) :
    (m.stdInsert id s).lookup id' =
      if id' = id then some ((m.lookup id).getD s) else m.lookup id' := by
  unfold SessMap.stdInsert
  split
  · rename_i hmem
    obtain ⟨s', hs'⟩ := Option.isSome_iff_exists.mp (AList.lookup_isSome.mpr hmem)
    split
    · rename_i heq
      rw [heq, hs', Option.getD_some]
    · rfl
  · rename_i hmem
    split
    · rename_i heq
      rw [heq, AList.lookup_insert, AList.lookup_eq_none.mpr hmem, Option.getD_none]
    · rename_i hne
      exact AList.lookup_insert_ne hne

lemma SessMap.lookup_erase_eq (m : SessMap QString) (id id' : QString) :
    (m.erase id).lookup id' = if id' = id then none else m.lookup id' := by
  split
  · rename_i heq
    rw [heq, AList.lookup_erase]
  · rename_i hne
    exact AList.lookup_erase_ne hne

namespace Endpoint

lemma call_eq (s : ℕ) (e : Endpoint QString Ctx) (call : ClientCall QString) :
    e.call s call =
      { e with
        sessMap := e.sessMap.afterCall e.role s call
        signals := e.signals ++ [(s, call.signal)] } := by
  cases call <;> cases hr : e.role <;>
    simp [Endpoint.call, hr, SessMap.afterCall, ClientCall.signal, emit, ChatServer.onClose,
      ChatServer.onHandShakeFinished, ChatClient.onClose, ChatClient.onHandShakeFinished]

lemma foldl_call (s : ℕ) (e : Endpoint QString Ctx) (calls : List (ClientCall QString)) :
    calls.foldl (Endpoint.call s) e =
      { e with
        sessMap := calls.foldl (SessMap.afterCall e.role s) e.sessMap
        signals := e.signals ++ calls.map (fun call => (s, call.signal)) } := by
  induction calls generalizing e with
  | nil => simp
  | cons call calls ih => simp [ih, call_eq]

theorem update_eq (e : Endpoint QString Ctx) (s : ℕ) (c : Conn QString Ctx)
    (effs : List (Effect (List UInt8) QString)) :
    e.update s c effs =
      { e with
        sessions := e.sessions.set s c
        sessMap := (clientCalls effs).foldl (SessMap.afterCall e.role s) e.sessMap
        signals := e.signals ++ (clientCalls effs).map (fun call => (s, call.signal)) } := by
  rw [Endpoint.update, foldl_call]

lemma closeSession_eq {e : Endpoint QString Ctx} {s : ℕ} {c : Conn QString Ctx}
    (hc : e.sessions[s]? = some c) :
    e.closeSession s =
      { e with
        sessions := e.sessions.set s c.closed
        sessMap := e.sessMap.erase c.sess.id
        signals := e.signals ++ [(s, .sigClose c.sess.id)] } := by
  simp only [closeSession, hc, update_eq]
  rfl

lemma closeSession_none {e : Endpoint QString Ctx} {s : ℕ} (hc : e.sessions[s]? = none) :
    e.closeSession s = e := by
  simp [closeSession, hc]

inductive Step (e : Endpoint QString Ctx) : Event QString Ctx → Endpoint QString Ctx → Prop
  | accept {pri : List UInt8} {dctx ectx : Ctx} : e.role = .chatServer →
      Step e (.accept pri dctx ectx)
        { e with sessions := e.sessions ++ [e.acceptSession P pri dctx ectx] }
  | doConnect {id : QString} {pri : List UInt8} {dctx ectx : Ctx} : e.role = .chatClient →
      Step e (.doConnect id pri dctx ectx)
        { e with
          sessions := e.sessions ++ [e.connectSession P id pri dctx ectx]
          sessMap := SessMap.stdInsert e.sessMap id e.sessions.length }
  | socket {s : ℕ} {ev : SocketEvent} {c c' : Conn QString Ctx}
      {effs : List (Effect (List UInt8) QString)} : e.sessions[s]? = some c →
      Conn.Step P (e.containsPeerPubkey P) c ev c' effs →
      Step e (.socket s ev) (e.update s c' effs)
  | sendUnknown {id text : QString} : e.sessMap.lookup id = none → Step e (.sendTextMsg id text) e
  | sendTextMsg {id text : QString} {s : ℕ} : e.sessMap.lookup id = some s →
      Step e (.sendTextMsg id text)
        { e with sessions := e.sessions.modify s (Conn.encryptText P · text) }
  | close : e.role = .chatClient → Step e .close e.closeAll
  | updatePeerList {peers : List (Peer QString)} : e.role = .chatServer →
      Step e (.updatePeerList peers) { e with peerList := peers }
  | setEcKey {pri pub : QString} :
      Step e (.setEcKey pri pub)
        { e with staticPrikey := P.fromBase64 pri, staticPubkey := P.fromBase64 pub }
  | setName {name : QString} : e.role = .chatClient →
      Step e (.setName name) { e with name := name }

theorem step_step {e e' : Endpoint QString Ctx} {ev : Event QString Ctx}
    (h : e.step P ev = some e') : Step P e ev e' := by
  cases ev with
  | accept pri dctx ectx =>
    simp only [step] at h
    split at h
    · rename_i hr
      obtain rfl := Option.some.inj h
      exact Step.accept hr
    · cases h
  | doConnect id pri dctx ectx =>
    simp only [step] at h
    split at h
    · rename_i hr
      obtain rfl := Option.some.inj h
      exact Step.doConnect hr
    · cases h
  | socket s ev =>
    obtain ⟨c, hc, h⟩ := Option.bind_eq_some_iff.mp h
    obtain ⟨⟨c', effs⟩, hreact, rfl⟩ := Option.map_eq_some_iff.mp h
    exact Step.socket hc (Conn.react_step P hreact)
  | sendTextMsg id text =>
    obtain rfl := Option.some.inj h
    cases hl : e.sessMap.lookup id with
    | none =>
      have he : (e.sendTextMsgEncrypt P id text).1 = e := by simp [sendTextMsgEncrypt, hl]
      rw [he]
      exact Step.sendUnknown hl
    | some s =>
      have he : (e.sendTextMsgEncrypt P id text).1 =
          { e with sessions := e.sessions.modify s (Conn.encryptText P · text) } := by
        simp [sendTextMsgEncrypt, hl]
      rw [he]
      exact Step.sendTextMsg hl
  | close =>
    simp only [step] at h
    split at h
    · rename_i hr
      obtain rfl := Option.some.inj h
      exact Step.close hr
    · cases h
  | updatePeerList peers =>
    simp only [step] at h
    split at h
    · rename_i hr
      obtain rfl := Option.some.inj h
      exact Step.updatePeerList hr
    · cases h
  | setEcKey pri pub =>
    obtain rfl := Option.some.inj h
    exact Step.setEcKey
  | setName name =>
    simp only [step] at h
    split at h
    · rename_i hr
      obtain rfl := Option.some.inj h
      exact Step.setName hr
    · cases h

end Endpoint

end Enchat
