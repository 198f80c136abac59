import Mathlib.Data.List.Basic
import Mathlib.Data.List.Perm.Basic
import Mathlib.Tactic.Common

/-!
# Lists with one entry changed

What stands in a list after an entry has been replaced, removed or added, and how that changes
counts and concatenations over the list.
-/

namespace ListUpdate

lemma getElem?_set_cases {α : Type} {l : List α} {s t : ℕ} {a b : α}
    (h : (l.set s a)[t]? = some b) : (t = s ∧ b = a) ∨ (t ≠ s ∧ l[t]? = some b) := by
  by_cases hst : s = t
  · subst hst
    rw [List.getElem?_set_self'] at h
    obtain ⟨_, _, rfl⟩ := Option.map_eq_some_iff.mp h
    exact Or.inl ⟨rfl, rfl⟩
  · rw [List.getElem?_set_ne hst] at h
    exact Or.inr ⟨Ne.symm hst, h⟩

lemma getElem?_set_of_some {α : Type} {l : List α} {s : ℕ} {a b : α} (h : l[s]? = some a) :
    (l.set s b)[s]? = some b := by
  rw [List.getElem?_set_self', h]
  rfl

lemma getElem?_snoc_cases {α : Type} {l : List α} {t : ℕ} {a b : α}
    (h : (l ++ [a])[t]? = some b) : (t = l.length ∧ b = a) ∨ l[t]? = some b := by
  by_cases ht : t < l.length
  · rw [List.getElem?_append_left ht] at h
    exact Or.inr h
  · rw [List.getElem?_append_right (by omega)] at h
    have hlt := (List.getElem?_eq_some_iff.mp h).1
    simp only [List.length_singleton] at hlt
    have hz : t - l.length = 0 := by omega
    rw [hz] at h
    exact Or.inl ⟨by omega, (Option.some.inj h).symm⟩

lemma eq_of_getElem?_singleton {α : Type} {l : List α} {t : ℕ} {a b : α} (hl : l = [a])
    (h : l[t]? = some b) : t = 0 ∧ b = a := by
  rw [hl, List.getElem?_singleton] at h
  split at h
  · rename_i ht
    exact ⟨ht, (Option.some.inj h).symm⟩
  · cases h

lemma getElem?_modify_cases {α : Type} {l : List α} {s t : ℕ} {f : α → α} {b : α}
    (h : (l.modify s f)[t]? = some b) :
    (t = s ∧ ∃ a, l[t]? = some a ∧ b = f a) ∨ (t ≠ s ∧ l[t]? = some b) := by
  rw [List.getElem?_modify] at h
  by_cases hst : s = t
  · obtain ⟨a, ha, hb⟩ := Option.map_eq_some_iff.mp h
    exact Or.inl ⟨hst.symm, a, ha, by rw [← hb, if_pos hst]⟩
  · obtain ⟨a, ha, hb⟩ := Option.map_eq_some_iff.mp h
    rw [if_neg hst] at hb
    exact Or.inr ⟨Ne.symm hst, hb ▸ ha⟩

lemma modify_eq_set_of_some {α : Type} {l : List α} {s : ℕ} {f : α → α} {a : α}
    (h : l[s]? = some a) : l.modify s f = l.set s (f a) := by
  have : Inhabited α := ⟨a⟩
  rw [List.modify_eq_set, h, Option.getD_some]

lemma countP_eraseIdx_add {α : Type} (p : α → Bool) {l : List α} {i : ℕ} {a : α}
    (h : l[i]? = some a) : (l.eraseIdx i).countP p + (if p a then 1 else 0) = l.countP p := by
  obtain ⟨hi, ha⟩ := List.getElem?_eq_some_iff.mp h
  rw [← (List.getElem_cons_eraseIdx_perm hi).countP_eq p, ha, List.countP_cons]

lemma countP_set_of_eq {α : Type} (p : α → Bool) {l : List α} {i : ℕ} {a b : α}
    (h : l[i]? = some a) (hp : p b = p a) : (l.set i b).countP p = l.countP p := by
  obtain ⟨hi, rfl⟩ := List.getElem?_eq_some_iff.mp h
  have hpos : p l[i] = true → 0 < l.countP p :=
    fun ht => List.countP_pos_iff.mpr ⟨_, List.getElem_mem hi, ht⟩
  rw [List.countP_set hi, hp]
  by_cases ht : p l[i] = true
  · have := hpos ht
    simp only [ht, if_true]
    omega
  · simp [ht]

lemma flatMap_eraseIdx_of_nil {α β : Type} {f : α → List β} {l : List α} {i : ℕ} {a : α}
    (h : l[i]? = some a) (ha : f a = []) : (l.eraseIdx i).flatMap f = l.flatMap f := by
  obtain ⟨hi, rfl⟩ := List.getElem?_eq_some_iff.mp h
  rw [List.eraseIdx_eq_take_drop_succ, List.flatMap_append]
  conv_rhs => rw [← List.take_append_drop i l, List.drop_eq_getElem_cons hi, List.flatMap_append,
    List.flatMap_cons, ha, List.nil_append]

/-- A list in which one entry contributes at most. -/
lemma flatMap_set_of_rest {α β : Type} {f : α → List β} {l : List α} {i : ℕ} (hi : i < l.length)
    (hrest : ∀ (j : ℕ) b, l[j]? = some b → j ≠ i → f b = []) (a : α) :
    (l.set i a).flatMap f = f a := by
  have htake : (l.take i).flatMap f = [] := by
    rw [List.flatMap_eq_nil_iff]
    intro b hb
    obtain ⟨j, hj, rfl⟩ := List.mem_iff_getElem.mp hb
    have hlt : j < i := by
      rw [List.length_take] at hj
      omega
    refine hrest j _ ?_ (by omega)
    rw [List.getElem_take, List.getElem?_eq_getElem]
  have hdrop : (l.drop (i + 1)).flatMap f = [] := by
    rw [List.flatMap_eq_nil_iff]
    intro b hb
    obtain ⟨j, hj, rfl⟩ := List.mem_iff_getElem.mp hb
    refine hrest (i + 1 + j) _ ?_ (by omega)
    rw [List.getElem_drop, List.getElem?_eq_getElem]
  rw [List.set_eq_take_append_cons_drop, if_pos hi, List.flatMap_append, List.flatMap_cons, htake,
    hdrop, List.nil_append, List.append_nil]

end ListUpdate
