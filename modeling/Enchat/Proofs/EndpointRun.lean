import Enchat.Proofs.EndpointStep

/-!
# Runs of a server or a client

A session is changed by its own steps only, so that a property of one session that these steps
keep holds of all sessions in all runs. The signals that an endpoint has emitted for a session are
the callbacks that the session has made.
-/

namespace Enchat
open Transition ListUpdate

variable {QString Ctx : Type} [DecidableEq QString] (P : Primitives (List UInt8) QString Ctx)

namespace Endpoint

/-- The runs in which every event meets the condition `C` in the state before it. -/
abbrev GuardedRuns (C : Endpoint QString Ctx → Event QString Ctx → Prop) (role : Role)
    (name : QString) (es : List (Event QString Ctx)) (e : Endpoint QString Ctx) : Prop :=
  Run (Guarded (StepOf (step P)) C) (init role name) es e

lemma Runs.guarded {role : Role} {name : QString} {es : List (Event QString Ctx)}
    {e : Endpoint QString Ctx} (h : Runs P role name es e) :
    GuardedRuns P (fun _ _ => True) role name es e :=
  h.mono (fun _ _ _ hs => ⟨hs, trivial⟩)

/-- What `closeSession` and clearing the map keep, `ChatClient::close` keeps. -/
lemma closeAll_induct {M : Endpoint QString Ctx → Prop} {e : Endpoint QString Ctx}
    (hclose : ∀ e s, M e → M (e.closeSession s)) (hclear : ∀ e, M e → M { e with sessMap := ∅ })
    (h : M e) : M e.closeAll := by
  refine hclear _ ?_
  generalize e.sessMap.entries = entries
  induction entries generalizing e with
  | nil => exact h
  | cons entry entries ih => exact ih (hclose e entry.2 h)

lemma closeSession_cases {M : Endpoint QString Ctx → Prop} {e : Endpoint QString Ctx} {s : ℕ}
    (h : M e) (hclose : ∀ c, e.sessions[s]? = some c → M
      { e with
        sessions := e.sessions.set s c.closed
        sessMap := e.sessMap.erase c.sess.id
        signals := e.signals ++ [(s, .sigClose c.sess.id)] }) : M (e.closeSession s) := by
  cases hc : e.sessions[s]? with
  | none => exact (closeSession_none hc).symm ▸ h
  | some c => exact (closeSession_eq hc).symm ▸ hclose c hc

theorem role_eq {C : Endpoint QString Ctx → Event QString Ctx → Prop} {role : Role}
    {name : QString} {es : List (Event QString Ctx)} {e : Endpoint QString Ctx}
    (h : GuardedRuns P C role name es e) : e.role = role := by
  refine h.invariant (I := fun e => e.role = role) rfl ?_
  intro e ev e' hrole hs
  cases step_step P hs.1 with
  | close _ =>
    refine closeAll_induct (M := fun e => e.role = role) ?_ (fun _ h => h) hrole
    intro e s h
    exact closeSession_cases (M := fun e => e.role = role) h (fun _ _ => h)
  | socket _ _ =>
    rw [update_eq]
    exact hrole
  | _ => exact hrole

/-- What one event does to one session. -/
inductive SessionStep (e : Endpoint QString Ctx) (ev : Event QString Ctx)
    (e' : Endpoint QString Ctx) (s : ℕ) (c' : Conn QString Ctx) : Prop
  | same : e.sessions[s]? = some c' → (∀ sev, ev ≠ .socket s sev) → SessionStep e ev e' s c'
  | accept {pri : List UInt8} {dctx ectx : Ctx} : ev = .accept pri dctx ectx →
      e.role = .chatServer → s = e.sessions.length → c' = e.acceptSession P pri dctx ectx →
      SessionStep e ev e' s c'
  | connect {id : QString} {pri : List UInt8} {dctx ectx : Ctx} : ev = .doConnect id pri dctx ectx →
      e.role = .chatClient → s = e.sessions.length → c' = e.connectSession P id pri dctx ectx →
      e' = { e with
        sessions := e.sessions ++ [e.connectSession P id pri dctx ectx]
        sessMap := SessMap.stdInsert e.sessMap id e.sessions.length } →
      SessionStep e ev e' s c'
  | move {c : Conn QString Ctx} {sev : SocketEvent} {effs : List (Effect (List UInt8) QString)} :
      ev = .socket s sev → e.sessions[s]? = some c →
      Conn.Step P (e.containsPeerPubkey P) c sev c' effs → e' = e.update s c' effs →
      SessionStep e ev e' s c'
  | encrypt {c : Conn QString Ctx} {id text : QString} : ev = .sendTextMsg id text →
      e.sessions[s]? = some c → e.sessMap.lookup id = some s → c' = c.encryptText P text →
      SessionStep e ev e' s c'
  | close : ev = .close → e.role = .chatClient → e.closeAll.sessions[s]? = some c' →
      SessionStep e ev e' s c'

lemma Step.session {e e' : Endpoint QString Ctx} {ev : Event QString Ctx} (h : Step P e ev e')
    {s : ℕ} {c' : Conn QString Ctx} (hc' : e'.sessions[s]? = some c') :
    SessionStep P e ev e' s c' := by
  cases h with
  | accept hrole =>
    rcases getElem?_snoc_cases hc' with ⟨rfl, rfl⟩ | hold
    · exact .accept rfl hrole rfl rfl
    · exact .same hold nofun
  | doConnect hrole =>
    rcases getElem?_snoc_cases hc' with ⟨rfl, rfl⟩ | hold
    · exact .connect rfl hrole rfl rfl rfl
    · exact .same hold nofun
  | @socket t sev c c₁ effs hc hconn =>
    have hset := hc'
    rw [update_eq] at hset
    rcases getElem?_set_cases hset with ⟨rfl, rfl⟩ | ⟨hne, hold⟩
    · exact .move rfl hc hconn rfl
    · refine .same hold ?_
      rintro _ ⟨rfl⟩
      exact hne rfl
  | sendTextMsg hl =>
    rcases getElem?_modify_cases hc' with ⟨rfl, c, hc, rfl⟩ | ⟨_, hold⟩
    · exact .encrypt rfl hc hl rfl
    · exact .same hold nofun
  | close hrole => exact .close rfl hrole hc'
  | _ => exact .same hc' nofun

section SessionRule

variable (C : Endpoint QString Ctx → Event QString Ctx → Prop) (role : Role) (name : QString)
  (I : List (Event QString Ctx) → ℕ → Conn QString Ctx → Prop)

/-- The obligations for a property of the events so far and of one session. -/
structure SessionRule : Prop where
  mono : ∀ es ev s c, I es s c → I (es ++ [ev]) s c
  accept : ∀ es e pri dctx ectx, GuardedRuns P C role name es e → role = .chatServer →
    I (es ++ [.accept pri dctx ectx]) e.sessions.length (e.acceptSession P pri dctx ectx)
  connect : ∀ es e id pri dctx ectx, GuardedRuns P C role name es e → role = .chatClient →
    StepOf (step P) e (.doConnect id pri dctx ectx)
      { e with
        sessions := e.sessions ++ [e.connectSession P id pri dctx ectx]
        sessMap := SessMap.stdInsert e.sessMap id e.sessions.length } →
    I (es ++ [.doConnect id pri dctx ectx]) e.sessions.length
      (e.connectSession P id pri dctx ectx)
  step : ∀ es e s c ev c' effs, GuardedRuns P C role name es e → e.sessions[s]? = some c →
    Conn.Step P (e.containsPeerPubkey P) c ev c' effs → C e (.socket s ev) →
    StepOf (step P) e (.socket s ev) (e.update s c' effs) → I es s c →
    I (es ++ [.socket s ev]) s c'
  closed : ∀ es s c, I es s c → I es s c.closed
  encrypt : ∀ es e s c id text, GuardedRuns P C role name es e → e.sessions[s]? = some c →
    e.sessMap.lookup id = some s → C e (.sendTextMsg id text) → I es s c →
    I es s (c.encryptText P text)

theorem SessionRule.holds {C : Endpoint QString Ctx → Event QString Ctx → Prop} {role : Role}
    {name : QString} {I : List (Event QString Ctx) → ℕ → Conn QString Ctx → Prop}
    (hI : SessionRule P C role name I) {es : List (Event QString Ctx)} {e : Endpoint QString Ctx}
    (h : GuardedRuns P C role name es e) : ∀ s c, e.sessions[s]? = some c → I es s c := by
  refine h.invariant_history (I := fun es e => ∀ s c, e.sessions[s]? = some c → I es s c) ?_ ?_
  · intro s c hc
    simp [init] at hc
  · intro es e ev e' hr ih hs t c' hc'
    obtain ⟨hstep, hC⟩ := hs
    cases (step_step P hstep).session P hc' with
    | same hold _ => exact hI.mono _ _ _ _ (ih t c' hold)
    | accept hev hrole ht hc =>
      subst hev ht hc
      exact hI.accept _ _ _ _ _ hr ((role_eq P hr).symm.trans hrole)
    | connect hev hrole ht hc he' =>
      subst hev ht hc he'
      exact hI.connect _ _ _ _ _ _ hr ((role_eq P hr).symm.trans hrole) hstep
    | move hev hc hconn he' =>
      subst hev he'
      exact hI.step _ _ _ _ _ _ _ hr hc hconn hC hstep (ih _ _ hc)
    | encrypt hev hc hl he =>
      subst hev he
      exact hI.mono _ _ _ _ (hI.encrypt _ _ _ _ _ _ hr hc hl hC (ih _ _ hc))
    | close _ _ hclose =>
      refine hI.mono _ _ _ _ ?_
      refine closeAll_induct (M := fun e => ∀ s c, e.sessions[s]? = some c → I es s c) ?_
        (fun _ h => h) ih t c' hclose
      intro e s hM
      refine closeSession_cases (M := fun e => ∀ s c, e.sessions[s]? = some c → I es s c) hM ?_
      intro c hc t c' hc'
      rcases getElem?_set_cases hc' with ⟨rfl, rfl⟩ | ⟨_, hold⟩
      · exact hI.closed _ _ _ (hM _ _ hc)
      · exact hM _ _ hold

end SessionRule

end Endpoint

namespace Conn

omit [DecidableEq QString] in
lemma Ordered.acceptSession (e : Endpoint QString Ctx) (pri : List UInt8) (dctx ectx : Ctx) :
    (e.acceptSession P pri dctx ectx).Ordered :=
  Ordered.new rfl rfl (by rfl) rfl

omit [DecidableEq QString] in
lemma Ordered.connectSession (e : Endpoint QString Ctx) (id : QString) (pri : List UInt8)
    (dctx ectx : Ctx) : (e.connectSession P id pri dctx ectx).Ordered :=
  Ordered.new rfl rfl (by rfl) rfl

omit [DecidableEq QString] in
lemma Step.calls {contains : List UInt8 → Bool} {c c' : Conn QString Ctx} {ev : SocketEvent}
    {effs : List (Effect (List UInt8) QString)} (h : Step P contains c ev c' effs) :
    c'.calls = c.calls ++ Endpoint.clientCalls effs := by
  have hhellos : ∀ hps : List (HelloPacket (List UInt8)),
      Endpoint.clientCalls (hps.map Effect.asyncWriteHello) = ([] : List (ClientCall QString)) := by
    intro hps
    induction hps with
    | nil => rfl
    | cons hp hps ih => exact ih
  cases h with
  | finished _ _ _ _ _ _ =>
    have happ : ∀ l l' : List (Effect (List UInt8) QString),
        Endpoint.clientCalls (l ++ l') = Endpoint.clientCalls l ++ Endpoint.clientCalls l' :=
      fun l l' => List.filterMap_append
    rw [happ, hhellos]
    rfl
  | bodyDone _ _ _ hp =>
    rw [ChatSession.handleReadMsg_effects P _ hp]
    rfl
  | connectDone _ _ => rfl
  | unlisted _ _ _ _ => rfl
  | badSignature _ _ _ _ _ => rfl
  | _ => exact (List.append_nil _).symm

end Conn

namespace Endpoint

theorem ordered {C : Endpoint QString Ctx → Event QString Ctx → Prop} {role : Role}
    {name : QString} {es : List (Event QString Ctx)} {e : Endpoint QString Ctx}
    (h : GuardedRuns P C role name es e) {s : ℕ} {c : Conn QString Ctx}
    (hc : e.sessions[s]? = some c) : c.Ordered := by
  have hrule : SessionRule P C role name (fun _ _ c => c.Ordered) :=
    { mono := fun _ _ _ _ h => h
      accept := fun _ e pri dctx ectx _ _ => Conn.Ordered.acceptSession P e pri dctx ectx
      connect := fun _ e id pri dctx ectx _ _ _ => Conn.Ordered.connectSession P e id pri dctx ectx
      step := fun _ _ _ _ _ _ _ _ _ hs _ _ h => h.step P hs
      closed := fun _ _ _ h => h.closed
      encrypt := fun _ _ _ _ _ text _ _ _ _ h => h.encryptText P text }
  exact hrule.holds P h s c hc

def signalsOf (e : Endpoint QString Ctx) (s : ℕ) : List (Signal QString) :=
  (e.signals.filter (fun sig => sig.1 = s)).map Prod.snd

omit [DecidableEq QString] in
lemma mem_signalsOf {e : Endpoint QString Ctx} {s : ℕ} {sig : Signal QString} :
    sig ∈ e.signalsOf s ↔ (s, sig) ∈ e.signals := by
  simp [signalsOf]

/-- The callbacks of session `s` as signals. -/
def recorded (e : Endpoint QString Ctx) (s : ℕ) : List (Signal QString) :=
  match e.sessions[s]? with
  | some c => c.calls.map ClientCall.signal
  | none => []

omit [DecidableEq QString] in
lemma recorded_eq {e : Endpoint QString Ctx} {s : ℕ} {c : Conn QString Ctx}
    (hc : e.sessions[s]? = some c) : e.recorded s = c.calls.map ClientCall.signal := by
  simp [recorded, hc]

omit [DecidableEq QString] in
lemma recorded_set {e : Endpoint QString Ctx} (he : ∀ t, e.signalsOf t = e.recorded t) {s : ℕ}
    {c c' : Conn QString Ctx} (hc : e.sessions[s]? = some c) (calls : List (ClientCall QString))
    (hcalls : c'.calls = c.calls ++ calls) (m : SessMap QString) (t : ℕ) :
    signalsOf
      { e with
        sessions := e.sessions.set s c'
        sessMap := m
        signals := e.signals ++ calls.map (fun call => (s, call.signal)) } t =
      recorded
        { e with
          sessions := e.sessions.set s c'
          sessMap := m
          signals := e.signals ++ calls.map (fun call => (s, call.signal)) } t := by
  have ht := he t
  by_cases hst : s = t
  · subst hst
    have hget : (e.sessions.set s c')[s]? = some c' := getElem?_set_of_some hc
    have hfilter : (calls.map (fun call => (s, call.signal))).filter (fun sig => sig.1 = s) =
        calls.map (fun call => (s, call.signal)) :=
      List.filter_eq_self.mpr (by simp)
    simp only [recorded, hc, signalsOf] at ht
    simp only [signalsOf, recorded, hget, List.filter_append, List.map_append, ht, hcalls, hfilter,
      List.map_map]
    rfl
  · have hget : (e.sessions.set s c')[t]? = e.sessions[t]? := List.getElem?_set_ne hst
    have hfilter : (calls.map (fun call => (s, call.signal))).filter (fun sig => sig.1 = t) = [] :=
      List.filter_eq_nil_iff.mpr (by simp [hst])
    simp only [signalsOf, recorded] at ht
    simp only [signalsOf, recorded, hget, List.filter_append, hfilter, List.append_nil, ht]

/-- The signals of a session are its callbacks. -/
theorem signalsOf_eq {C : Endpoint QString Ctx → Event QString Ctx → Prop} {role : Role}
    {name : QString} {es : List (Event QString Ctx)} {e : Endpoint QString Ctx}
    (h : GuardedRuns P C role name es e) : ∀ s, e.signalsOf s = e.recorded s := by
  refine h.invariant (I := fun e => ∀ s, e.signalsOf s = e.recorded s) ?_ ?_
  · intro s
    rfl
  · intro e ev e' he hs
    have hnew : ∀ c : Conn QString Ctx, c.calls = [] → ∀ m t,
        signalsOf { e with sessions := e.sessions ++ [c], sessMap := m } t =
          recorded { e with sessions := e.sessions ++ [c], sessMap := m } t := by
      intro c hcalls m t
      refine (he t).trans ?_
      by_cases ht : t < e.sessions.length
      · simp only [recorded, List.getElem?_append_left ht]
      · simp only [recorded, List.getElem?_eq_none (Nat.le_of_not_lt ht)]
        rw [List.getElem?_append_right (by omega)]
        cases hz : [c][t - e.sessions.length]? with
        | none => rfl
        | some c' =>
          obtain rfl := List.mem_singleton.mp (List.mem_of_getElem? hz)
          simp [hcalls]
    cases step_step P hs.1 with
    | accept _ => exact hnew _ rfl _
    | doConnect _ => exact hnew _ rfl _
    | socket hc hconn =>
      rw [update_eq]
      exact recorded_set he hc _ (hconn.calls P) _
    | @sendTextMsg id text s _ =>
      intro t
      refine (he t).trans ?_
      simp only [recorded, List.getElem?_modify]
      by_cases hst : s = t
      · subst hst
        cases e.sessions[s]? with
        | none => rfl
        | some c => simp [Conn.encryptText]
      · simp [hst]
    | close _ =>
      refine closeAll_induct (M := fun e => ∀ s, e.signalsOf s = e.recorded s) ?_
        (fun _ h => h) he
      intro e s hM
      refine closeSession_cases (M := fun e => ∀ s, e.signalsOf s = e.recorded s) hM ?_
      intro c hc
      exact recorded_set hM hc [.onClose c.sess.id] rfl _
    | _ => exact he

/-- A signal is a callback of the session that it belongs to. -/
lemma exists_call {C : Endpoint QString Ctx → Event QString Ctx → Prop} {role : Role}
    {name : QString} {es : List (Event QString Ctx)} {e : Endpoint QString Ctx}
    (h : GuardedRuns P C role name es e) {s : ℕ} {sig : Signal QString}
    (hmem : (s, sig) ∈ e.signals) :
    ∃ c, e.sessions[s]? = some c ∧ ∃ call ∈ c.calls, call.signal = sig := by
  have hmem' := mem_signalsOf.mpr hmem
  rw [signalsOf_eq P h s] at hmem'
  cases hc : e.sessions[s]? with
  | none => simp [recorded, hc] at hmem'
  | some c =>
    rw [recorded_eq hc] at hmem'
    exact ⟨c, rfl, List.mem_map.mp hmem'⟩

end Endpoint

end Enchat
