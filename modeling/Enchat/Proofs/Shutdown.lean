import Enchat.Model.Sample
import Enchat.Model.Shutdown
import Enchat.Proofs.Closing

/-!
# Shutdown of a client

Every session is in the map under its own id, so that `onClose` erases the element at which the loop
of `ChatClient::close` stands.
-/

namespace Enchat
open Transition ListUpdate

variable {QString Ctx : Type} [DecidableEq QString] {P : Primitives (List UInt8) QString Ctx}

namespace Endpoint

/-- What `ChatClient::close` is for: each session of the map has been closed once and reported once
under its id, the other sessions are as before, and the map is empty. -/
structure ClosesAll (e e' : Endpoint QString Ctx) : Prop where
  sessMap : e'.sessMap = ∅
  sessions : e'.sessions = e.sessions.mapIdx fun s c =>
    if s ∈ e.sessMap.entries.map Sigma.snd then c.closed else c
  signals : ∃ entries : List (Σ _ : QString, ℕ), entries.Perm e.sessMap.entries ∧
    e'.signals = e.signals ++ entries.map fun entry => (entry.2, .sigClose entry.1)

variable {e : Endpoint QString Ctx}

/-- The effect that the other modules give to `ChatClient::close`. -/
lemma closesAll_closeAll (hown : e.Owned) : e.ClosesAll e.closeAll := by
  rw [closeAll_eq hown]
  exact ⟨rfl, rfl, e.sessMap.entries, List.Perm.refl _, rfl⟩

lemma closeAll_empty (hempty : e.sessMap = ∅) : e.closeAll = { e with sessMap := ∅ } := by
  rw [closeAll, hempty]
  rfl

/-- Once its entry has been erased, a session is owned by its operations alone. -/
lemma owners_closeSession (hown : e.Owned) {id : QString} {s : ℕ} {c : Conn QString Ctx}
    (hl : e.sessMap.lookup id = some s) (hc : e.sessions[s]? = some c) :
    (e.closeSession s).owners s = c.holders := by
  obtain ⟨c', hc', hid, _⟩ := hown id s hl
  obtain rfl := Option.some.inj (hc'.symm.trans hc)
  have hlt := (List.getElem?_eq_some_iff.mp hc).1
  have hnone : (e.sessMap.erase id).entries.countP (fun entry => entry.2 = s) = 0 := by
    rw [List.countP_eq_zero]
    intro entry hmem heq
    have heq := of_decide_eq_true heq
    have hl' : (e.sessMap.erase id).lookup entry.1 = some entry.2 := AList.mem_lookup_iff.mpr hmem
    rw [SessMap.lookup_erase_eq] at hl'
    split at hl'
    · cases hl'
    · rename_i hne
      rw [heq] at hl'
      obtain ⟨c'', hc'', hid', _⟩ := hown entry.1 s hl'
      obtain rfl := Option.some.inj (hc''.symm.trans hc)
      exact hne (hid'.symm.trans hid)
  have hself : (e.sessions.set s c'.closed)[s]? = some c'.closed := by
    rw [List.getElem?_set_self hlt]
  rw [closeSession_eq hc]
  unfold owners
  simp only [hid, hnone, hself, Option.map_some, Option.getD_some, Nat.zero_add]
  rfl

/-- The first session of the map brings the loop to an end. -/
lemma closeLoop_cons (hown : e.Owned) {id : QString} {s : ℕ} {c : Conn QString Ctx}
    (hl : e.sessMap.lookup id = some s) (hc : e.sessions[s]? = some c) (rest : List QString) :
    closeLoop (id :: rest) e =
      .error (if c.holders = 0 then .sessionDestroyed else .iteratorErased) := by
  have howners := owners_closeSession hown hl hc
  obtain ⟨c', hc', hid, _⟩ := hown id s hl
  obtain rfl := Option.some.inj (hc'.symm.trans hc)
  have hgone : id ∉ (e.closeSession s).sessMap := by
    rw [closeSession_eq hc, hid, AList.mem_erase]
    exact fun h => h.1 rfl
  simp only [closeLoop, hl, closeOwned, howners]
  by_cases hzero : c'.holders = 0
  · simp only [hzero, if_true]
  · simp only [hzero, if_false, hgone]

variable {name : QString} {es : List (Event QString Ctx)}

/-- In every state that a client can reach and for every order of the keys, `ChatClient::close` does
what it is for if and only if the map is empty. Otherwise the first session of the map goes on after
its destruction, or the iterator of its entry is advanced when operations keep the session alive. -/
theorem close_client_iff (h : Runs P .chatClient name es e) {order : List QString}
    (horder : order.Perm e.sessMap.keys) :
    ((∃ e', e.closeClient order = .ok e' ∧ e.ClosesAll e') ↔ e.sessMap = ∅) ∧
    ∀ id rest, order = id :: rest → ∃ s c, e.sessMap.lookup id = some s ∧
      e.sessions[s]? = some c ∧ e.closeClient order =
        .error (if c.holders = 0 then .sessionDestroyed else .iteratorErased) := by
  have hown : e.Owned := owned (Runs.guarded P h)
  have hfault : ∀ id rest, order = id :: rest → ∃ s c, e.sessMap.lookup id = some s ∧
      e.sessions[s]? = some c ∧ e.closeClient order =
        .error (if c.holders = 0 then .sessionDestroyed else .iteratorErased) := by
    intro id rest heq
    have hmem : id ∈ e.sessMap := AList.mem_keys.mpr (horder.mem_iff.mp (heq ▸ List.mem_cons_self))
    obtain ⟨s, hl⟩ := Option.isSome_iff_exists.mp (AList.lookup_isSome.mpr hmem)
    obtain ⟨c, hc, _⟩ := hown id s hl
    refine ⟨s, c, hl, hc, ?_⟩
    rw [closeClient, heq, closeLoop_cons hown hl hc]
    rfl
  refine ⟨⟨?_, ?_⟩, hfault⟩
  · rintro ⟨e', hok, _⟩
    cases order with
    | nil =>
      have hkeys : e.sessMap.keys = [] := List.nil_perm.mp horder
      apply AList.ext
      exact List.map_eq_nil_iff.mp hkeys
    | cons id rest =>
      obtain ⟨_, _, _, _, herror⟩ := hfault id rest rfl
      rw [herror] at hok
      cases hok
  · intro hempty
    have hnil : order = [] := by
      rw [hempty] at horder
      exact List.perm_nil.mp horder
    refine ⟨e.closeAll, ?_, closesAll_closeAll hown⟩
    rw [closeAll_empty hempty, hnil]
    rfl

/-- A session whose connection has failed is owned by the map alone. -/
theorem close_client_failed_connect :
    ∃ (es : List (Event (List UInt8) ChachaContext)) (e : Endpoint (List UInt8) ChachaContext),
      Runs samplePrimitives .chatClient [] es e ∧ e.sessMap.keys = [sampleKey 7] ∧
      e.closeClient [sampleKey 7] = .error .sessionDestroyed := by
  let test (e : Endpoint (List UInt8) ChachaContext) : Bool :=
    decide (e.sessMap.keys = [sampleKey 7]) && e.sessions.all (fun c => decide (c.holders = 0))
  obtain ⟨e, hrun, htest⟩ := exists_run_of_exec (Endpoint.step samplePrimitives)
    [.doConnect (sampleKey 7) (sampleKey 3) sampleContext sampleContext, .socket 0 .connectFail]
    test (s := Endpoint.init .chatClient []) (by decide +kernel)
  simp only [test, Bool.and_eq_true, decide_eq_true_eq, List.all_eq_true] at htest
  obtain ⟨hkeys, hholders⟩ := htest
  have horder : [sampleKey 7].Perm e.sessMap.keys := hkeys ▸ List.Perm.refl _
  obtain ⟨s, c, _, hc, hfault⟩ := (close_client_iff hrun horder).2 (sampleKey 7) [] rfl
  rw [if_pos (hholders c (List.mem_of_getElem? hc))] at hfault
  exact ⟨_, e, hrun, hkeys, hfault⟩

/-- One session that is being connected: its entry is erased while the loop stands at it. -/
theorem close_advances_erased_iterator :
    ∃ (es : List (Event (List UInt8) ChachaContext)) (e : Endpoint (List UInt8) ChachaContext),
      Runs samplePrimitives .chatClient [] es e ∧ e.sessMap.keys = [sampleKey 7] ∧
      e.closeClient [sampleKey 7] = .error .iteratorErased ∧
      ¬∃ e', e.closeClient [sampleKey 7] = .ok e' ∧ e.ClosesAll e' := by
  let fault : Except CloseFault (Endpoint (List UInt8) ChachaContext) → Bool
    | .error .iteratorErased => true
    | _ => false
  let test (e : Endpoint (List UInt8) ChachaContext) : Bool :=
    decide (e.sessMap.keys = [sampleKey 7]) && fault (e.closeClient [sampleKey 7])
  obtain ⟨e, hrun, htest⟩ := exists_run_of_exec (Endpoint.step samplePrimitives)
    [.doConnect (sampleKey 7) (sampleKey 3) sampleContext sampleContext]
    test (s := Endpoint.init .chatClient []) (by decide +kernel)
  simp only [test, Bool.and_eq_true, decide_eq_true_eq] at htest
  obtain ⟨hkeys, htest⟩ := htest
  have hfault : e.closeClient [sampleKey 7] = .error .iteratorErased := by
    cases hclose : e.closeClient [sampleKey 7] with
    | ok e' => simp [fault, hclose] at htest
    | error f =>
      cases f with
      | sessionDestroyed => simp [fault, hclose] at htest
      | iteratorErased => rfl
  refine ⟨_, e, hrun, hkeys, hfault, ?_⟩
  rintro ⟨e', hok, _⟩
  rw [hfault] at hok
  cases hok

end Endpoint

end Enchat
