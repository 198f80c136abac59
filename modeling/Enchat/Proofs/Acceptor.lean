import Enchat.Model.Acceptor
import Enchat.Model.Sample
import Enchat.Proofs.EndpointRun

/-!
# The accept loop and its I/O contexts

`getIocontext` never advances its index, and `doAccept` is called again after a success only.
-/

namespace Enchat
open Transition

namespace IoPool

/-- All indices are in range, and each of the `n` contexts has its fair share of the calls. -/
def Spread (n : ℕ) (contexts : List ℕ) : Prop :=
  (∀ i ∈ contexts, i < n) ∧
    ∀ i < n, contexts.count i = contexts.length / n ∨
      contexts.count i = (contexts.length + n - 1) / n

lemma getIocontext_first (n : ℕ) :
    IoPool.getIocontext { size := n, nextIo := 0 } = (0, { size := n, nextIo := 0 }) := by
  unfold getIocontext
  split <;> rfl

lemma handOut_eq (n k : ℕ) : handOut k { size := n, nextIo := 0 } = List.replicate k 0 := by
  induction k with
  | zero => rfl
  | succ k ih => rw [handOut, getIocontext_first, ih, List.replicate_succ]

/-- Calls that all return the first context are spread over one context, or there is only one. -/
lemma spread_replicate_iff (n k : ℕ) :
    Spread n (List.replicate k 0) ↔ n = 1 ∨ k = 0 ∨ k = 1 ∧ 0 < n := by
  unfold Spread
  rw [List.length_replicate]
  have hzero : (List.replicate k 0).count 0 = k := List.count_replicate_self
  constructor
  · rintro ⟨hrange, hshare⟩
    by_contra hmany
    have hpos : 0 < n := hrange 0 (List.mem_replicate.mpr ⟨by omega, rfl⟩)
    have htwo : 2 ≤ n := by omega
    have hdiv : k / n < k := Nat.div_lt_self (by omega) htwo
    have hceil : (k + n - 1) / n < k := by
      rw [Nat.div_lt_iff_lt_mul hpos]
      have hmul : k * 2 ≤ k * n := Nat.mul_le_mul_left k htwo
      have hmul' : 2 * n ≤ k * n := Nat.mul_le_mul_right n (by omega)
      omega
    have hfirst := hshare 0 hpos
    rw [hzero] at hfirst
    omega
  · intro hfew
    constructor
    · intro i hi
      obtain ⟨hk, rfl⟩ := List.mem_replicate.mp hi
      omega
    · intro i hi
      rcases hfew with rfl | rfl | ⟨rfl, _⟩
      · obtain rfl : i = 0 := by omega
        rw [hzero, Nat.div_one]
        exact Or.inl rfl
      · simp
      · by_cases hfirst : i = 0
        · rw [hfirst, hzero]
          exact Or.inr (Nat.div_eq_of_lt_le (by omega) (by omega)).symm
        · have hnone : (List.replicate 1 0).count i = 0 :=
            List.count_eq_zero.mpr (by simpa using hfirst)
          rw [hnone]
          exact Or.inl (Nat.div_eq_of_lt (by omega)).symm

/-- The calls of `getIocontext` are spread evenly and in range if and only if there is one context,
or none has been made, or one has been made and there is a context. -/
theorem contexts_spread_iff (n k : ℕ) :
    Spread n (handOut k { size := n, nextIo := 0 }) ↔ n = 1 ∨ k = 0 ∨ k = 1 ∧ 0 < n := by
  rw [handOut_eq]
  exact spread_replicate_iff n k

/-- Two contexts, and two calls that both return the first one. -/
theorem second_context_unused : ¬Spread 2 (handOut 2 { size := 2, nextIo := 0 }) := by
  rw [handOut_eq, spread_replicate_iff]
  decide

end IoPool

namespace Acceptor

variable {QString Ctx : Type} [DecidableEq QString] (P : Primitives (List UInt8) QString Ctx)

/-- A completion leaves one `async_accept` outstanding, and a success adds one session, which waits
for a packet. -/
def KeepsAccepting (a : Acceptor QString Ctx) (ev : AcceptorEvent QString Ctx) : Prop :=
  ∀ outcome a', ev = .completed outcome → a.step P ev = some a' →
    a'.outstanding = 1 ∧
    (outcome.isSuccess = true → ∃ c, a'.server.sessions = a.server.sessions ++ [c] ∧
      c.isOpen = true ∧ c.reads = [helloRead] ∧ c.calls = [])

variable {P} {size : ℕ} {es : List (AcceptorEvent QString Ctx)} {a : Acceptor QString Ctx}

/-- What an event of the acceptor does: a completion runs the handler, and everything else leaves
the loop alone. -/
lemma step_cases {a' : Acceptor QString Ctx} {ev : AcceptorEvent QString Ctx}
    (h : a.step P ev = some a') :
    (∃ outcome, ev = .completed outcome ∧ 0 < a.outstanding ∧
      a' = acceptHandler P { a with outstanding := a.outstanding - 1 } outcome) ∨
    ∃ sev e, ev = .server sev ∧ a.server.step P sev = some e ∧ a' = { a with server := e } := by
  cases ev with
  | completed outcome =>
    simp only [step] at h
    split at h
    · rename_i hpos
      exact Or.inl ⟨outcome, rfl, hpos, (Option.some.inj h).symm⟩
    · cases h
  | server sev =>
    have hmap : (a.server.step P sev).map (fun e => { a with server := e }) = some a' := by
      cases sev with
      | accept pri dctx ectx => cases h
      | _ => exact h
    obtain ⟨e, he, heq⟩ := Option.map_eq_some_iff.mp hmap
    exact Or.inr ⟨sev, e, rfl, he, heq.symm⟩

lemma outstanding_le_one (h : Runs P size es a) : a.outstanding ≤ 1 := by
  refine h.invariant (I := fun a => a.outstanding ≤ 1) (Nat.le_refl 1) ?_
  intro a ev a' hle hs
  rcases step_cases hs with ⟨outcome, _, hpos, rfl⟩ | ⟨_, _, _, _, rfl⟩
  · cases outcome with
    | success pri dctx ectx =>
      change a.outstanding - 1 + 1 ≤ 1
      omega
    | error value =>
      change a.outstanding - 1 ≤ 1
      omega
  · exact hle

/-- Every call of `getIocontext` in a run is one of the series that `handOut` describes. -/
theorem contexts_eq (h : Runs P size es a) :
    a.contexts = IoPool.handOut a.contexts.length { size := size, nextIo := 0 } := by
  rw [IoPool.handOut_eq]
  refine (h.invariant (I := fun a => a.pool = { size := size, nextIo := 0 } ∧
    a.contexts = List.replicate a.contexts.length 0) ?_ ?_).2
  · unfold new doAccept
    rw [IoPool.getIocontext_first]
    exact ⟨rfl, rfl⟩
  · rintro a ev a' ⟨hpool, hcontexts⟩ hs
    rcases step_cases hs with ⟨outcome, _, _, rfl⟩ | ⟨_, _, _, _, rfl⟩
    · cases outcome with
      | success pri dctx ectx =>
        simp only [acceptHandler, doAccept, hpool, IoPool.getIocontext_first, List.length_append,
          List.length_singleton, List.replicate_succ', ← hcontexts, and_self]
      | error value => exact ⟨hpool, hcontexts⟩
    · exact ⟨hpool, hcontexts⟩

/-- The server in front of which the loop runs is one of the servers of the session model. -/
theorem server_runs (h : Runs P size es a) :
    ∃ es', Endpoint.Runs P .chatServer P.emptyString es' a.server := by
  refine h.invariant
    (I := fun a => ∃ es', Endpoint.Runs P .chatServer P.emptyString es' a.server) ⟨[], Run.nil⟩ ?_
  rintro a ev a' ⟨es', hr⟩ hs
  rcases step_cases hs with ⟨outcome, _, _, rfl⟩ | ⟨sev, e, _, he, rfl⟩
  · cases outcome with
    | success pri dctx ectx =>
      have hrole := Endpoint.role_eq P (Endpoint.Runs.guarded P hr)
      have hstep : StepOf (Endpoint.step P) a.server (.accept pri dctx ectx)
          { a.server with
            sessions := a.server.sessions ++ [a.server.acceptSession P pri dctx ectx] } :=
        if_pos hrole
      exact ⟨es' ++ [.accept pri dctx ectx], hr.snoc hstep⟩
    | error value => exact ⟨es', hr⟩
  · exact ⟨es' ++ [sev], hr.snoc he⟩

/-- Every completion of a run leaves one `async_accept` outstanding and each success makes a session
that waits for a packet, if and only if no `async_accept` fails. A server with no contexts does not
exist: its constructor already reads `client_io_ctxs_` out of range. -/
theorem keeps_accepting_iff (h : Runs P size es a) :
    Run (Guarded (StepOf (step P)) (KeepsAccepting P)) (new P size) es a ↔
      ∀ outcome, .completed outcome ∈ es → outcome.isSuccess = true := by
  constructor
  · intro hguarded
    refine hguarded.invariant_history
      (I := fun es _ => ∀ outcome, .completed outcome ∈ es → outcome.isSuccess = true) ?_ ?_
    · intro outcome hmem
      cases hmem
    · intro es a ev a' hr ih hs outcome hmem
      rcases List.mem_append.mp hmem with hold | hnew
      · exact ih outcome hold
      · obtain rfl := List.mem_singleton.mp hnew
        have hle := outstanding_le_one hr.of_guarded
        have hone := (hs.2 outcome a' rfl hs.1).1
        rcases step_cases hs.1 with ⟨_, heq, hpos, rfl⟩ | ⟨_, _, heq, _⟩
        · cases heq
          cases outcome with
          | success pri dctx ectx => rfl
          | error value =>
            change a.outstanding - 1 = 1 at hone
            omega
        · cases heq
  · intro hsuccess
    induction h with
    | nil => exact Run.nil
    | @snoc es a a' ev hr hs ih =>
      refine (ih (fun outcome hmem => hsuccess outcome (List.mem_append_left _ hmem))).snoc
        ⟨hs, ?_⟩
      rintro outcome a₂ rfl hs₂
      have hle := outstanding_le_one hr
      rcases step_cases hs₂ with ⟨_, heq, hpos, rfl⟩ | ⟨_, _, heq, _⟩
      · cases heq
        cases outcome with
        | success pri dctx ectx =>
          refine ⟨?_, fun _ => ⟨_, rfl, rfl, rfl, rfl⟩⟩
          change a.outstanding - 1 + 1 = 1
          omega
        | error value =>
          cases hsuccess _ (List.mem_append_right _ (List.mem_singleton.mpr rfl))
      · cases heq

/-- Two connections are accepted one after the other. -/
theorem keeps_accepting_twice :
    ∃ (es : List (AcceptorEvent (List UInt8) ChachaContext))
      (a : Acceptor (List UInt8) ChachaContext),
      es.length = 2 ∧ Run (Guarded (StepOf (step samplePrimitives))
        (KeepsAccepting samplePrimitives)) (new samplePrimitives 4) es a := by
  obtain ⟨a, hrun, _⟩ := exists_run_of_exec (step samplePrimitives)
    [.completed (.success (sampleKey 3) sampleContext sampleContext),
      .completed (.success (sampleKey 4) sampleContext sampleContext)]
    (fun _ => true) (s := new samplePrimitives 4) (by decide +kernel)
  refine ⟨_, a, rfl, (keeps_accepting_iff hrun).mpr ?_⟩
  intro outcome hmem
  simp only [List.mem_cons, AcceptorEvent.completed.injEq, List.not_mem_nil, or_false] at hmem
  rcases hmem with rfl | rfl <;> rfl

/-- An accept fails once because there are no descriptors left. -/
theorem deaf_after_error :
    ∃ a : Acceptor (List UInt8) ChachaContext,
      Runs samplePrimitives 4 [.completed (.error 24)] a ∧ a.outstanding = 0 ∧
      ¬KeepsAccepting samplePrimitives (new samplePrimitives 4) (.completed (.error 24)) := by
  refine ⟨_, Run.single (rfl : step samplePrimitives (new samplePrimitives 4)
    (.completed (.error 24)) = some _), rfl, fun hkeeps => ?_⟩
  have hone := (hkeeps _ _ rfl rfl).1
  cases hone

end Acceptor

end Enchat
