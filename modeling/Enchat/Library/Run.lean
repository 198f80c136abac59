import Mathlib.Tactic.Common

/-!
# Runs of a labelled transition system

`Run step s₀ es s` says that the events `es`, in this order, lead from `s₀` to `s`. Facts about
every run are proved by the invariant rules below; `Past` speaks about an earlier step of a run.
-/

namespace Transition

variable {σ ε : Type*}

/-- Finite runs of a step relation. The last step of the run is the last event of the list. -/
inductive Run (step : σ → ε → σ → Prop) (s₀ : σ) : List ε → σ → Prop
  | nil : Run step s₀ [] s₀
  | snoc {es : List ε} {s t : σ} {e : ε} :
      Run step s₀ es s → step s e t → Run step s₀ (es ++ [e]) t

/-- The steps of `step` whose event meets the condition `C` in the state before it. -/
def Guarded (step : σ → ε → σ → Prop) (C : σ → ε → Prop) (s : σ) (e : ε) (t : σ) : Prop :=
  step s e t ∧ C s e

/-- A step that satisfies `P` was taken at some point of the run. -/
def Past (step : σ → ε → σ → Prop) (s₀ : σ) (es : List ε) (P : σ → ε → σ → Prop) : Prop :=
  ∃ es₁ e es₂ s t, es = es₁ ++ e :: es₂ ∧ Run step s₀ es₁ s ∧ step s e t ∧ P s e t

variable {step : σ → ε → σ → Prop} {s₀ : σ}

lemma Run.mono {step' : σ → ε → σ → Prop} (hsub : ∀ s e t, step s e t → step' s e t)
    {es : List ε} {s : σ} (h : Run step s₀ es s) : Run step' s₀ es s := by
  induction h with
  | nil => exact Run.nil
  | snoc _ hs ih => exact ih.snoc (hsub _ _ _ hs)

lemma Run.of_guarded {C : σ → ε → Prop} {es : List ε} {s : σ}
    (h : Run (Guarded step C) s₀ es s) : Run step s₀ es s :=
  h.mono (fun _ _ _ hs => hs.1)

/-- A condition that every possible step of a run meets with the old one can take its place. -/
lemma Run.guarded_imp {C C' : σ → ε → Prop}
    (himp : ∀ es s e t, Run step s₀ es s → step s e t → C s e → C' s e) {es : List ε} {s : σ}
    (h : Run (Guarded step C) s₀ es s) : Run (Guarded step C') s₀ es s := by
  induction h with
  | nil => exact Run.nil
  | snoc hr hs ih => exact ih.snoc ⟨hs.1, himp _ _ _ _ hr.of_guarded hs.1 hs.2⟩

/-- A condition on events that all events of a run meet guards its steps. -/
lemma Run.guarded_of_forall {D : ε → Prop} {es : List ε} {s : σ} (h : Run step s₀ es s)
    (hD : ∀ e ∈ es, D e) : Run (Guarded step (fun _ => D)) s₀ es s := by
  induction h with
  | nil => exact Run.nil
  | snoc _ hs ih =>
    exact (ih (fun e he => hD e (List.mem_append_left _ he))).snoc
      ⟨hs, hD _ (List.mem_append_right _ (List.mem_singleton.mpr rfl))⟩

lemma Run.single {e : ε} {t : σ} (h : step s₀ e t) : Run step s₀ [e] t :=
  Run.nil.snoc h

lemma Run.append {es es' : List ε} {s t : σ} (h : Run step s₀ es s) (h' : Run step s es' t) :
    Run step s₀ (es ++ es') t := by
  induction h' with
  | nil => simpa using h
  | snoc _ hs ih =>
    rw [← List.append_assoc]
    exact ih.snoc hs

/-- An invariant that may mention the events so far. -/
theorem Run.invariant_history {I : List ε → σ → Prop} (h₀ : I [] s₀)
    (hstep : ∀ es s e t, Run step s₀ es s → I es s → step s e t → I (es ++ [e]) t)
    {es : List ε} {s : σ} (h : Run step s₀ es s) : I es s := by
  induction h with
  | nil => exact h₀
  | snoc hr hs ih => exact hstep _ _ _ _ hr ih hs

/-- A property of the first state that every step keeps holds in every state reached. -/
theorem Run.invariant {I : σ → Prop} (h₀ : I s₀) (hstep : ∀ s e t, I s → step s e t → I t)
    {es : List ε} {s : σ} (h : Run step s₀ es s) : I s :=
  h.invariant_history (I := fun _ s => I s) h₀ (fun _ s e t _ hi hs => hstep s e t hi hs)

lemma Past.last {P : σ → ε → σ → Prop} {es : List ε} {s t : σ} {e : ε}
    (h : Run step s₀ es s) (hs : step s e t) (hP : P s e t) : Past step s₀ (es ++ [e]) P :=
  ⟨es, e, [], s, t, rfl, h, hs, hP⟩

lemma Past.snoc {P : σ → ε → σ → Prop} {es : List ε} (h : Past step s₀ es P) (e : ε) :
    Past step s₀ (es ++ [e]) P := by
  obtain ⟨es₁, e₁, es₂, s, t, rfl, hr, hs, hP⟩ := h
  exact ⟨es₁, e₁, es₂ ++ [e], s, t, by simp, hr, hs, hP⟩

lemma Past.exists_event {P : σ → ε → σ → Prop} {es : List ε} (h : Past step s₀ es P) :
    ∃ e ∈ es, ∃ s t, P s e t := by
  obtain ⟨es₁, e, es₂, s, t, rfl, _, _, hP⟩ := h
  exact ⟨e, by simp, s, t, hP⟩

lemma Past.imp_of_run {P Q : σ → ε → σ → Prop} {es : List ε} (h : Past step s₀ es P)
    (hPQ : ∀ es s e t, Run step s₀ es s → P s e t → Q s e t) : Past step s₀ es Q := by
  obtain ⟨es₁, e, es₂, s, t, he, hr, hs, hP⟩ := h
  exact ⟨es₁, e, es₂, s, t, he, hr, hs, hPQ _ _ _ _ hr hP⟩

lemma Past.imp {P Q : σ → ε → σ → Prop} {es : List ε} (h : Past step s₀ es P)
    (hPQ : ∀ s e t, P s e t → Q s e t) : Past step s₀ es Q :=
  h.imp_of_run (fun _ s e t _ hP => hPQ s e t hP)

/-! ### Deterministic step functions -/

/-- The step relation of a partial step function. -/
def StepOf (next : σ → ε → Option σ) (s : σ) (e : ε) (t : σ) : Prop :=
  next s e = some t

def exec (next : σ → ε → Option σ) : σ → List ε → Option σ
  | s, [] => some s
  | s, e :: es => (next s e).bind (fun t => exec next t es)

lemma run_of_exec (next : σ → ε → Option σ) (es : List ε) {s t : σ}
    (h : exec next s es = some t) : Run (StepOf next) s es t := by
  induction es generalizing s with
  | nil =>
    obtain rfl : s = t := by simpa [exec] using h
    exact Run.nil
  | cons e es ih =>
    obtain ⟨u, hu, hes⟩ := Option.bind_eq_some_iff.mp h
    exact (Run.single hu).append (ih hes)

lemma exec_append (next : σ → ε → Option σ) (s : σ) (es es' : List ε) :
    exec next s (es ++ es') = (exec next s es).bind (fun t => exec next t es') := by
  induction es generalizing s with
  | nil => rfl
  | cons e es ih =>
    simp only [List.cons_append, exec, Option.bind_assoc]
    exact Option.bind_congr (fun t _ => ih t)

lemma exec_of_run {next : σ → ε → Option σ} {es : List ε} {s t : σ}
    (h : Run (StepOf next) s es t) : exec next s es = some t := by
  induction h with
  | nil => rfl
  | @snoc es t u e _ hs ih =>
    have hs : next t e = some u := hs
    simp [exec_append, ih, exec, hs]

lemma Run.deterministic {next : σ → ε → Option σ} {es : List ε} {s t t' : σ}
    (h : Run (StepOf next) s es t) (h' : Run (StepOf next) s es t') : t = t' :=
  Option.some.inj ((exec_of_run h).symm.trans (exec_of_run h'))

/-- `Q` holds in every state that the events pass through. -/
def Throughout (step : σ → ε → σ → Prop) (s₀ : σ) (es : List ε) (Q : σ → Prop) : Prop :=
  ∀ es₁ es₂ s, es = es₁ ++ es₂ → Run step s₀ es₁ s → Q s

lemma throughout_nil {next : σ → ε → Option σ} {C : σ → ε → Prop} {Q : σ → Prop} (h : Q s₀) :
    Throughout (Guarded (StepOf next) C) s₀ [] Q := by
  intro es₁ es₂ s heq hr
  obtain ⟨rfl, _⟩ := List.append_eq_nil_iff.mp heq.symm
  rw [hr.of_guarded.deterministic Run.nil]
  exact h

/-- The last step of a run adds one state to those passed. -/
lemma Run.throughout_snoc {next : σ → ε → Option σ} {C : σ → ε → Prop} {Q : σ → Prop}
    {es : List ε} {e : ε} {t : σ} (h : Run (Guarded (StepOf next) C) s₀ (es ++ [e]) t) :
    Throughout (Guarded (StepOf next) C) s₀ (es ++ [e]) Q ↔
      Throughout (Guarded (StepOf next) C) s₀ es Q ∧ Q t := by
  constructor
  · intro hall
    refine ⟨fun es₁ es₂ s heq hr => ?_, hall (es ++ [e]) [] t (List.append_nil _).symm h⟩
    exact hall es₁ (es₂ ++ [e]) s (by rw [heq, List.append_assoc]) hr
  · rintro ⟨hold, hlast⟩ es₁ es₂ s heq hr
    rcases List.eq_nil_or_concat es₂ with rfl | ⟨es₂, e', rfl⟩
    · rw [List.append_nil] at heq
      subst heq
      rwa [hr.of_guarded.deterministic h.of_guarded]
    · rw [List.concat_eq_append, ← List.append_assoc] at heq
      exact hold es₁ es₂ s (List.append_inj_left' heq rfl) hr

/-- A closed run is checked by evaluating a Boolean test on its last state. -/
lemma exists_run_of_exec (next : σ → ε → Option σ) (es : List ε) {s : σ} (p : σ → Bool)
    (h : (exec next s es).any p = true) : ∃ t, Run (StepOf next) s es t ∧ p t = true := by
  cases hex : exec next s es with
  | none => simp [hex] at h
  | some t => exact ⟨t, run_of_exec next es hex, by simpa [hex] using h⟩

/-- A step function that stops where the condition fails. -/
def guardNext (next : σ → ε → Option σ) (C : σ → ε → Prop) [∀ s e, Decidable (C s e)] (s : σ)
    (e : ε) : Option σ :=
  if C s e then next s e else none

lemma exists_guarded_run_of_exec (next : σ → ε → Option σ) (C : σ → ε → Prop)
    [∀ s e, Decidable (C s e)] (es : List ε) {s : σ} (p : σ → Bool)
    (h : (exec (guardNext next C) s es).any p = true) :
    ∃ t, Run (Guarded (StepOf next) C) s es t ∧ p t = true := by
  obtain ⟨t, hrun, hp⟩ := exists_run_of_exec (guardNext next C) es p h
  refine ⟨t, hrun.mono ?_, hp⟩
  intro s e t hs
  simp only [StepOf, guardNext] at hs
  split at hs
  · rename_i hC
    exact ⟨hs, hC⟩
  · cases hs

/-- Where every step lowers a measure, some run comes to an end. -/
lemma exists_run_to_end {next : σ → ε → Option σ} {C : σ → ε → Prop} {I : σ → Prop} (μ : σ → ℕ)
    (hstep : ∀ s e t, I s → C s e → next s e = some t → I t ∧ μ t < μ s) (h : I s₀) :
    ∃ es t, Run (Guarded (StepOf next) C) s₀ es t ∧ I t ∧ ∀ e, C t e → next t e = none := by
  induction hn : μ s₀ using Nat.strongRecOn generalizing s₀ with
  | ind n ih =>
    subst hn
    by_cases hend : ∀ e, C s₀ e → next s₀ e = none
    · exact ⟨[], s₀, Run.nil, h, hend⟩
    · push Not at hend
      obtain ⟨e, hC, hsome⟩ := hend
      obtain ⟨t, hs⟩ := Option.ne_none_iff_exists'.mp hsome
      obtain ⟨ht, hlt⟩ := hstep s₀ e t h hC hs
      obtain ⟨es, u, hrun, hu, hlast⟩ := ih (μ t) hlt ht rfl
      exact ⟨[e] ++ es, u, (Run.single ⟨hs, hC⟩).append hrun, hu, hlast⟩

/-- A measure that never falls passes each value in one step of a run only. -/
lemma Past.unique {next : σ → ε → Option σ} {μ : σ → ℕ}
    (hmono : ∀ s e t, StepOf next s e t → μ s ≤ μ t) {n : ℕ} {es : List ε}
    {P Q : σ → ε → σ → Prop} (hP : ∀ s e t, P s e t → StepOf next s e t → μ s = n ∧ n < μ t)
    (hQ : ∀ s e t, Q s e t → StepOf next s e t → μ s = n ∧ n < μ t)
    (h : Past (StepOf next) s₀ es P) (h' : Past (StepOf next) s₀ es Q) :
    Past (StepOf next) s₀ es (fun s e t => P s e t ∧ Q s e t) := by
  -- the later of two such steps would begin above the value
  have hlate : ∀ (es₁ : List ε) (e : ε) (es₂ : List ε) (s t : σ) (es₁' es₂' : List ε) (s' : σ),
      es₁ ++ e :: es₂ = es₁' ++ es₂' → es₁.length < es₁'.length → Run (StepOf next) s₀ es₁ s →
      StepOf next s e t → Run (StepOf next) s₀ es₁' s' → μ t ≤ μ s' := by
    intro es₁ e es₂ s t es₁' es₂' s' heq hlt hr hs hr'
    have hpre : es₁ ++ [e] <+: es₁' := by
      have hall : es₁ ++ [e] <+: es₁ ++ e :: es₂ := ⟨es₂, by simp⟩
      refine List.prefix_of_prefix_length_le hall ⟨es₂', heq.symm⟩ ?_
      rw [List.length_append]
      exact hlt
    obtain ⟨l, rfl⟩ := hpre
    have hexec := exec_of_run hr'
    rw [exec_append, exec_of_run (hr.snoc hs), Option.bind_some] at hexec
    exact (run_of_exec next l hexec).invariant (I := fun v => μ t ≤ μ v) (Nat.le_refl _)
      (fun v e' w hle hstep => Nat.le_trans hle (hmono v e' w hstep))
  obtain ⟨es₁, e, es₂, s, t, rfl, hr, hs, hPs⟩ := h
  obtain ⟨es₁', e', es₂', s', t', heq, hr', hs', hQs⟩ := h'
  obtain ⟨hμs, hμt⟩ := hP s e t hPs hs
  obtain ⟨hμs', hμt'⟩ := hQ s' e' t' hQs hs'
  rcases Nat.lt_trichotomy es₁.length es₁'.length with hlt | hlen | hlt
  · have hle := hlate es₁ e es₂ s t es₁' _ s' heq hlt hr hs hr'
    omega
  · obtain ⟨rfl, htail⟩ := List.append_inj heq hlen
    obtain ⟨rfl, rfl⟩ := List.cons.inj htail
    obtain rfl := hr.deterministic hr'
    obtain rfl := Option.some.inj ((show next s e = some t from hs).symm.trans hs')
    exact ⟨_, _, _, _, _, rfl, hr, hs, hPs, hQs⟩
  · have hle := hlate es₁' e' es₂' s' t' es₁ _ s heq.symm hlt hr' hs' hr
    omega

/-! ### Counting steps -/

/-- How many steps along the events satisfy `p`. -/
def countSteps (next : σ → ε → Option σ) (p : σ → ε → Bool) : σ → List ε → ℕ
  | _, [] => 0
  | s, e :: es =>
    (if p s e then 1 else 0) + (next s e).elim 0 (fun t => countSteps next p t es)

lemma countSteps_snoc {next : σ → ε → Option σ} {es : List ε} {s t : σ} (p : σ → ε → Bool) (e : ε)
    (h : Run (StepOf next) s es t) :
    countSteps next p s (es ++ [e]) = countSteps next p s es + if p t e then 1 else 0 := by
  have hexec := exec_of_run h
  clear h
  induction es generalizing s with
  | nil =>
    obtain rfl : s = t := by simpa [exec] using hexec
    cases hn : next s e <;> simp [countSteps, hn]
  | cons e' es ih =>
    obtain ⟨u, hu, hes⟩ := Option.bind_eq_some_iff.mp hexec
    simp only [List.cons_append, countSteps, hu, Option.elim_some, ih hes]
    omega

lemma countSteps_eq_zero {next : σ → ε → Option σ} {p : σ → ε → Bool} {es : List ε}
    (h : ∀ e ∈ es, ∀ s, p s e = false) (s : σ) : countSteps next p s es = 0 := by
  induction es generalizing s with
  | nil => rfl
  | cons e es ih =>
    have hrest : ∀ t, countSteps next p t es = 0 := ih (fun e' hmem => h e' (by simp [hmem]))
    cases hn : next s e <;> simp [countSteps, h e (by simp), hn, hrest]

end Transition
