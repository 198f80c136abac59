import Enchat.Model.Shutdown
import Enchat.Proofs.Closing

/-!
# Failures and the sessions they leave behind

Two of the error paths of a session call `close`; the others only return, and the destructor of a
session that nothing holds any more closes its socket without a report. Which failure leaves a
session that is closed, unregistered and reported is decided by what the session was before.
-/

namespace Enchat
open Transition ListUpdate

variable {QString Ctx : Type} {P : Primitives (List UInt8) QString Ctx}

def Signal.isClose : Signal QString → Bool
  | .sigClose _ => true
  | _ => false

namespace Conn

/-- The step handles a packet that the handshake refuses: an unlisted key or a bad signature. -/
def RefusesAt (P : Primitives (List UInt8) QString Ctx) (contains : List UInt8 → Bool)
    (c : Conn QString Ctx) (ev : SocketEvent) : Prop :=
  ∃ (i : ℕ) (op : ReadOp), ev = .readDone i ∧ c.reads[i]? = some op ∧ c.Refuses P contains op

/-- The step is a failure: an operation that ends with an error, or a packet that does not complete
the handshake. -/
inductive Fails (P : Primitives (List UInt8) QString Ctx) (contains : List UInt8 → Bool)
    (c : Conn QString Ctx) : SocketEvent → Prop
  | connect : Fails P contains c .connectFail
  | aborted : c.isOpen = false → Fails P contains c .connectDone
  | write (i : ℕ) : Fails P contains c (.writeFail i)
  | read (i : ℕ) : Fails P contains c (.readFail i)
  | handshake {i : ℕ} {op : ReadOp} : c.reads[i]? = some op → op.handler = .onHandShake →
      op.got.length = op.need → ¬c.Accepts P contains op → Fails P contains c (.readDone i)

lemma RefusesAt.fails {contains : List UInt8 → Bool} {c : Conn QString Ctx} {ev : SocketEvent}
    (h : c.RefusesAt P contains ev) : c.Fails P contains ev := by
  obtain ⟨i, op, rfl, hop, hh, hf, hbad⟩ := h
  exact .handshake hop hh hf (fun haccept => hbad ⟨haccept.2.2.1, haccept.2.2.2.1⟩)

/-- A step closes the session once if it refuses a packet, and not otherwise. -/
lemma Step.closes_of_refuses {contains : List UInt8 → Bool} {c c' : Conn QString Ctx}
    {ev : SocketEvent} {effs : List (Effect (List UInt8) QString)}
    (hs : Step P contains c ev c' effs) :
    (c.RefusesAt P contains ev ∧ c'.closes = c.closes + 1) ∨
      (¬c.RefusesAt P contains ev ∧ c'.closes = c.closes) := by
  by_cases hrefuse : c.RefusesAt P contains ev
  · refine Or.inl ⟨hrefuse, ?_⟩
    obtain ⟨i, op, rfl, hop, hrefuse⟩ := hrefuse
    have hcalls := hs.calls P
    rw [hs.effects_of_refuses P hop hrefuse] at hcalls
    rw [closes, hcalls, List.countP_append]
    rfl
  · refine Or.inr ⟨hrefuse, ?_⟩
    rcases hs.closes_cases with ⟨hcloses, _⟩ | ⟨i, op, hev, hop, hrefuse', _⟩
    · exact hcloses
    · exact absurd ⟨i, op, hev, hop, hrefuse'⟩ hrefuse

/-- Every step is a step of something that holds the session. -/
lemma Step.holders_pos {contains : List UInt8 → Bool} {c c' : Conn QString Ctx} {ev : SocketEvent}
    {effs : List (Effect (List UInt8) QString)} (hs : Step P contains c ev c' effs) :
    0 < c.holders := by
  have hread : ∀ {i : ℕ} {op : ReadOp}, c.reads[i]? = some op → 0 < c.holders := by
    intro i op hop
    have hpos := List.length_pos_of_mem (List.mem_of_getElem? hop)
    simp only [holders]
    omega
  have hwrite : ∀ {i : ℕ} {op : WriteOp}, c.writes[i]? = some op → 0 < c.holders := by
    intro i op hop
    have hpos := List.length_pos_of_mem (List.mem_of_getElem? hop)
    simp only [holders]
    omega
  have hconnect : c.connecting ≠ .idle → 0 < c.holders := by
    intro hne
    rw [holders, if_neg hne]
    omega
  cases hs with
  | connectOk hc _ => exact hconnect (by simp [hc])
  | connectDone hc _ => exact hconnect (by simp [hc])
  | connectAborted hc _ => exact hconnect (by simp [hc])
  | connectFail hc => exact hconnect (by simp [hc])
  | writeSome hop _ _ _ => exact hwrite hop
  | requestDone hop => exact hwrite hop
  | writeDone hop _ _ => exact hwrite hop
  | writeFail hop _ => exact hwrite hop
  | readSome hop _ _ _ => exact hread hop
  | readFail hop _ => exact hread hop
  | unlisted hop _ _ _ => exact hread hop
  | badSignature hop _ _ _ _ => exact hread hop
  | noSharedKey hop _ _ _ _ _ => exact hread hop
  | finished hop _ _ _ _ _ => exact hread hop
  | headDone hop _ _ => exact hread hop
  | bodyDone hop _ _ _ => exact hread hop
  | bodySkipped hop _ _ _ => exact hread hop
  | startWrite hd =>
    have hpos := List.length_pos_of_mem (List.mem_of_getElem? hd)
    simp only [holders]
    omega

end Conn

namespace Endpoint

variable [DecidableEq QString] {role : Role} {name : QString} {es : List (Event QString Ctx)}
  {e : Endpoint QString Ctx}

lemma owners_eq_zero {s : ℕ} {c : Conn QString Ctx} (hc : e.sessions[s]? = some c) :
    e.owners s = 0 ↔ (∀ id, e.sessMap.lookup id ≠ some s) ∧ c.holders = 0 := by
  rw [owners, hc, Option.map_some, Option.getD_some, Nat.add_eq_zero_iff, List.countP_eq_zero]
  refine and_congr_left (fun _ => ?_)
  constructor
  · intro hnone id hl
    exact hnone ⟨id, s⟩ (AList.mem_lookup_iff.mp hl) (decide_eq_true rfl)
  · rintro hnone ⟨id, t⟩ hmem heq
    obtain rfl : t = s := of_decide_eq_true heq
    exact hnone id (AList.mem_lookup_iff.mpr hmem)

/-- Once `~ChatSession` has run, the session is as it was for the rest of the run. -/
theorem destroyed_stays (h : Runs P role name es e) {s : ℕ} {c : Conn QString Ctx}
    (hc : e.sessions[s]? = some c) (hzero : e.owners s = 0) {es' : List (Event QString Ctx)}
    {e' : Endpoint QString Ctx} (h' : Run (StepOf (step P)) e es' e') :
    e'.sessions[s]? = some c ∧ e'.owners s = 0 := by
  refine h'.invariant_history
    (I := fun _ e' => e'.sessions[s]? = some c ∧ e'.owners s = 0) ⟨hc, hzero⟩ ?_
  rintro es₁ e₁ ev e₂ hr ⟨hc₁, hzero₁⟩ hs
  obtain ⟨hunlisted, hholders⟩ := (owners_eq_zero hc₁).mp hzero₁
  have hlt := (List.getElem?_eq_some_iff.mp hc₁).1
  have hsame : ∀ {e₂ : Endpoint QString Ctx}, e₂.sessions[s]? = some c →
      (∀ id, e₂.sessMap.lookup id ≠ some s) → e₂.sessions[s]? = some c ∧ e₂.owners s = 0 :=
    fun hc₂ hunlisted₂ => ⟨hc₂, (owners_eq_zero hc₂).mpr ⟨hunlisted₂, hholders⟩⟩
  cases step_step P hs with
  | accept _ => exact hsame ((List.getElem?_append_left hlt).trans hc₁) hunlisted
  | @doConnect id _ _ _ _ =>
    refine hsame ((List.getElem?_append_left hlt).trans hc₁) ?_
    intro id' hl
    rw [SessMap.lookup_stdInsert] at hl
    split at hl
    · cases hold : e₁.sessMap.lookup id with
      | none =>
        rw [hold, Option.getD_none, Option.some.injEq] at hl
        omega
      | some t =>
        rw [hold] at hl
        exact hunlisted id (hold.trans hl)
    · exact hunlisted id' hl
  | @socket t sev c₀ c' effs hc₀ hconn =>
    have hne : t ≠ s := by
      rintro rfl
      obtain rfl := Option.some.inj (hc₀.symm.trans hc₁)
      have hpos := hconn.holders_pos
      omega
    rw [update_eq]
    refine hsame ((List.getElem?_set_ne hne).trans hc₁) ?_
    intro id hl
    rcases (hconn.map P e₁.role t e₁.sessMap).lookup_cases hl with ⟨id', hl'⟩ | ⟨heq, _⟩
    · exact hunlisted id' hl'
    · exact hne heq.symm
  | sendUnknown _ => exact ⟨hc₁, hzero₁⟩
  | @sendTextMsg id _ t hl =>
    have hne : t ≠ s := fun heq => hunlisted id (heq ▸ hl)
    exact hsame ((List.getElem?_modify_ne _ _ hne).trans hc₁) hunlisted
  | close _ =>
    rw [closeAll_eq (owned (Runs.guarded P (h.append hr)))]
    have hother : s ∉ e₁.sessMap.entries.map Sigma.snd := by
      intro hmem
      obtain ⟨⟨id, t⟩, hentry, rfl⟩ := List.mem_map.mp hmem
      exact hunlisted id (AList.mem_lookup_iff.mpr hentry)
    refine hsame ?_ (fun id hl => ?_)
    · simp only [List.getElem?_mapIdx, hc₁, Option.map_some, if_neg hother]
    · simp at hl
  | _ => exact hsame hc₁ hunlisted

/-- The socket of the session is closed, no entry refers to it, and one `sigClose` with its id has
been emitted for it. -/
def Retired (e : Endpoint QString Ctx) (s : ℕ) : Prop :=
  ∃ c, e.sessions[s]? = some c ∧ e.socketClosed s = true ∧
    (∀ id, e.sessMap.lookup id ≠ some s) ∧
    (e.signalsOf s).filter Signal.isClose = [.sigClose c.sess.id]

/-- A session is retired if and only if it has been closed once. -/
lemma retired_iff (h : Runs P role name es e) {s : ℕ} {c : Conn QString Ctx}
    (hc : e.sessions[s]? = some c) : e.Retired s ↔ c.closes = 1 := by
  have hfilter : (e.signalsOf s).filter Signal.isClose =
      (c.calls.filter ClientCall.isClose).map ClientCall.signal := by
    have hcomp : Signal.isClose ∘ ClientCall.signal =
        (ClientCall.isClose : ClientCall QString → Bool) := by
      funext call
      cases call <;> rfl
    rw [signalsOf_eq P h.guarded, recorded_eq hc, List.filter_map, hcomp]
  obtain ⟨hclosing, hunlisted⟩ := closing h.guarded s c hc
  constructor
  · rintro ⟨c₁, hc₁, _, _, hone⟩
    rw [hfilter] at hone
    have hlen := congrArg List.length hone
    rwa [List.length_map, ← List.countP_eq_length_filter] at hlen
  · intro hone
    refine ⟨c, hc, ?_, hunlisted (by omega), ?_⟩
    · have hne : ¬c.isOpen = true := by
        rw [hclosing.isOpen]
        omega
      simp [socketClosed, hc, Bool.eq_false_iff.mpr hne]
    · have hlen : (c.calls.filter ClientCall.isClose).length = 1 := by
        rw [← List.countP_eq_length_filter]
        exact hone
      obtain ⟨call, hcall⟩ := List.length_eq_one_iff.mp hlen
      have hmem : call ∈ c.calls.filter ClientCall.isClose := by simp [hcall]
      rw [hfilter, hcall]
      cases call with
      | onClose id =>
        rw [hclosing.ids id (List.mem_filter.mp hmem).1]
        rfl
      | _ => simp [ClientCall.isClose] at hmem

/-- In this step session `s` fails. -/
def FailingStep (P : Primitives (List UInt8) QString Ctx) (s : ℕ) (e : Endpoint QString Ctx)
    (ev : Event QString Ctx) (_ : Endpoint QString Ctx) : Prop :=
  ∃ (c : Conn QString Ctx) (sev : SocketEvent), ev = .socket s sev ∧ e.sessions[s]? = some c ∧
    c.Fails P (e.containsPeerPubkey P) sev

/-- After the events `es`, which lead to `e`, the step `ev` of session `s` fails, and no step of the
session has failed before. -/
structure FirstFailure (P : Primitives (List UInt8) QString Ctx) (role : Role) (name : QString)
    (es : List (Event QString Ctx)) (e : Endpoint QString Ctx) (s : ℕ) (c : Conn QString Ctx)
    (ev : SocketEvent) (e' : Endpoint QString Ctx) : Prop where
  run : Runs P role name es e
  session : e.sessions[s]? = some c
  first : ¬Past (StepOf (Endpoint.step P)) (init role name) es (FailingStep P s)
  fails : c.Fails P (e.containsPeerPubkey P) ev
  step : e.step P (.socket s ev) = some e'

/-- As long as no step of a session has failed, it has been closed at most once. -/
lemma closes_le_one (h : Runs P role name es e) {s : ℕ} {c : Conn QString Ctx}
    (hc : e.sessions[s]? = some c)
    (hfirst : ¬Past (StepOf (step P)) (init role name) es (FailingStep P s)) : c.closes ≤ 1 := by
  revert s c
  refine h.invariant_history (I := fun es e => ∀ {s : ℕ} {c : Conn QString Ctx},
    e.sessions[s]? = some c →
    ¬Past (StepOf (step P)) (init role name) es (FailingStep P s) → c.closes ≤ 1) ?_ ?_
  · intro s c hc
    simp [init] at hc
  · intro es e ev e' hr ih hs s c hc hfirst
    have hbefore : ¬Past (StepOf (step P)) (init role name) es (FailingStep P s) :=
      fun hpast => hfirst (hpast.snoc ev)
    cases (step_step P hs).session P hc with
    | same hold _ => exact ih hold hbefore
    | accept _ _ _ hnew =>
      subst hnew
      exact Nat.zero_le 1
    | connect _ _ _ hnew _ =>
      subst hnew
      exact Nat.zero_le 1
    | @move c₀ sev effs hev hc₀ hconn _ =>
      have hle := ih hc₀ hbefore
      rcases hconn.closes_of_refuses with ⟨hrefuse, _⟩ | ⟨_, hcloses⟩
      · exact absurd (Past.last hr hs ⟨c₀, sev, hev, hc₀, hrefuse.fails⟩) hfirst
      · omega
    | encrypt _ hc₀ _ henc =>
      subst henc
      have hle := ih hc₀ hbefore
      exact hle
    | close _ _ hclose =>
      rcases closeAll_session (owned (Runs.guarded P hr)) hclose with
        ⟨c₀, id, hc₀, hl, rfl⟩ | hold
      · have hzero : c₀.closes = 0 := by
          by_contra hne
          exact (closing (Runs.guarded P hr) s c₀ hc₀).2 (Nat.pos_of_ne_zero hne) id hl
        rw [Conn.closes_closed]
        omega
      · exact ih hold hbefore

/-- After the first failing step of a session the session is retired if and only if the step refuses
a packet and the session was still open, or the step is another failure and `ChatClient::close` had
closed the session before. -/
theorem failure_retires_iff {s : ℕ} {c : Conn QString Ctx} {ev : SocketEvent}
    {e' : Endpoint QString Ctx} (h : FirstFailure P role name es e s c ev e') :
    e'.Retired s ↔ (c.RefusesAt P (e.containsPeerPubkey P) ev ↔ c.isOpen = true) := by
  have hrun' : Runs P role name (es ++ [.socket s ev]) e' := h.run.snoc h.step
  have hopen := (closing h.run.guarded s c h.session).1.isOpen
  have hle := closes_le_one h.run h.session h.first
  cases step_step P h.step with
  | @socket _ _ c₀ c' effs hc₀ hconn =>
    obtain rfl := Option.some.inj (h.session.symm.trans hc₀)
    have hc' : (e.update s c' effs).sessions[s]? = some c' := by
      rw [update_eq]
      exact getElem?_set_of_some hc₀
    rw [retired_iff hrun' hc', hopen]
    rcases hconn.closes_of_refuses with ⟨hrefuse, hcloses⟩ | ⟨hrefuse, hcloses⟩
    · simp only [hrefuse, hcloses, true_iff]
      omega
    · simp only [hrefuse, hcloses, false_iff]
      omega

/-- A server refuses a packet whose signature is wrong. -/
theorem failure_retires_forged :
    ∃ (es : List (Event (List UInt8) ChachaContext)) (e e' : Endpoint (List UInt8) ChachaContext)
      (c : Conn (List UInt8) ChachaContext),
      FirstFailure samplePrimitives .chatServer [] es e 0 c (.readDone 0) e' ∧ e'.Retired 0 := by
  let test (e : Endpoint (List UInt8) ChachaContext) : Bool :=
    (e.sessions[0]?).any fun c => (c.reads[0]?).any fun op => c.isOpen &&
      decide (c.Refuses samplePrimitives (e.containsPeerPubkey samplePrimitives) op) &&
      (e.step samplePrimitives (.socket 0 (.readDone 0))).isSome
  let es : List (Event (List UInt8) ChachaContext) :=
    [.updatePeerList [⟨[], sampleKey 7, [], 0⟩],
      .accept (sampleKey 3) sampleContext sampleContext,
      .socket 0 (.readSome 0 (sampleForged 1 7 5).pack)]
  obtain ⟨e, hrun, hp⟩ := exists_run_of_exec (Endpoint.step samplePrimitives) es test
    (s := Endpoint.init .chatServer []) (by decide +kernel)
  obtain ⟨c, hc, hp⟩ := (Option.any_eq_true _ _).mp hp
  obtain ⟨op, hop, hp⟩ := (Option.any_eq_true _ _).mp hp
  simp only [Bool.and_eq_true, decide_eq_true_eq] at hp
  obtain ⟨⟨hopen, hrefuse⟩, hstep⟩ := hp
  obtain ⟨e', hstep⟩ := Option.isSome_iff_exists.mp hstep
  have hrefuses : c.RefusesAt samplePrimitives (e.containsPeerPubkey samplePrimitives)
      (.readDone 0) := ⟨0, op, rfl, hop, hrefuse⟩
  have hfirst : FirstFailure samplePrimitives .chatServer [] es e 0 c (.readDone 0) e' := by
    refine ⟨hrun, hc, ?_, hrefuses.fails, hstep⟩
    intro hpast
    obtain ⟨ev, hmem, _, _, _, sev, rfl, _, hfails⟩ := hpast.exists_event
    simp only [es, List.mem_cons, Event.socket.injEq, reduceCtorEq, false_or, List.not_mem_nil,
      or_false] at hmem
    rw [hmem.2] at hfails
    cases hfails
  exact ⟨_, e, e', c, hfirst, (failure_retires_iff hfirst).mpr (iff_of_true hrefuses hopen)⟩

/-- A client fails to connect. The session stays open and registered, and nothing is reported. -/
theorem failed_connect_stays :
    ∃ (es : List (Event (List UInt8) ChachaContext)) (e e' : Endpoint (List UInt8) ChachaContext)
      (c c' : Conn (List UInt8) ChachaContext),
      FirstFailure samplePrimitives .chatClient [] es e 0 c .connectFail e' ∧
      e'.sessions[0]? = some c' ∧ c'.isOpen = true ∧ e'.socketClosed 0 = false ∧
      e'.sessMap.lookup (sampleKey 7) = some 0 ∧ e'.signalsOf 0 = [] ∧ ¬e'.Retired 0 := by
  let test (e : Endpoint (List UInt8) ChachaContext) : Bool :=
    (e.sessions[0]?).isSome &&
      (e.step samplePrimitives (.socket 0 .connectFail)).any fun e' =>
        (e'.sessions[0]?).any (fun c' => c'.isOpen) && !e'.socketClosed 0 &&
          decide (e'.sessMap.lookup (sampleKey 7) = some 0) && decide (e'.signalsOf 0 = [])
  obtain ⟨e, hrun, hp⟩ := exists_run_of_exec (Endpoint.step samplePrimitives)
    [.doConnect (sampleKey 7) (sampleKey 3) sampleContext sampleContext]
    test (s := Endpoint.init .chatClient []) (by decide +kernel)
  simp only [test, Bool.and_eq_true] at hp
  obtain ⟨c, hc⟩ := Option.isSome_iff_exists.mp hp.1
  obtain ⟨e', hstep, hp⟩ := (Option.any_eq_true _ _).mp hp.2
  simp only [Bool.and_eq_true, decide_eq_true_eq, Bool.not_eq_true'] at hp
  obtain ⟨⟨⟨hopen, hsocket⟩, hl⟩, hsignals⟩ := hp
  obtain ⟨c', hc', hopen⟩ := (Option.any_eq_true _ _).mp hopen
  refine ⟨_, e, e', c, c', ⟨hrun, hc, ?_, .connect, hstep⟩, hc', hopen, hsocket, hl,
    hsignals, ?_⟩
  · intro hpast
    obtain ⟨ev, hmem, _, _, _, sev, rfl, _⟩ := hpast.exists_event
    simp at hmem
  · rintro ⟨_, _, _, hunlisted, _⟩
    exact hunlisted _ hl

end Endpoint

end Enchat
