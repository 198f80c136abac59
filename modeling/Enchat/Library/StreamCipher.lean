import Mathlib.Data.List.Basic
import Mathlib.Tactic.Common

/-!
# Stream ciphers

A stream cipher XORs its input with the next bytes of a keystream that its context fixes. All
that a user of such a cipher relies on follows from the three laws of `StreamCipher`.
-/

/-- XORs a byte string with a keystream, starting at keystream byte `0`. -/
def xorStream (ks : ℕ → UInt8) : List UInt8 → List UInt8
  | [] => []
  | b :: bs => (b ^^^ ks 0) :: xorStream (fun i => ks (i + 1)) bs

@[simp] lemma xorStream_nil (ks : ℕ → UInt8) : xorStream ks [] = [] := rfl

@[simp] lemma length_xorStream (ks : ℕ → UInt8) (xs : List UInt8) :
    (xorStream ks xs).length = xs.length := by
  induction xs generalizing ks with
  | nil => rfl
  | cons x xs ih => simp [xorStream, ih]

lemma xorStream_append (ks : ℕ → UInt8) (xs ys : List UInt8) :
    xorStream ks (xs ++ ys) = xorStream ks xs ++ xorStream (fun i => ks (xs.length + i)) ys := by
  induction xs generalizing ks with
  | nil => simp
  | cons x xs ih =>
    simp only [List.cons_append, xorStream, ih, List.length_cons]
    simp only [Nat.add_right_comm]

lemma xorStream_congr {ks ks' : ℕ → UInt8} {xs : List UInt8}
    (h : ∀ i, i < xs.length → ks i = ks' i) : xorStream ks xs = xorStream ks' xs := by
  induction xs generalizing ks ks' with
  | nil => rfl
  | cons x xs ih =>
    simp only [xorStream]
    rw [h 0 (by simp), ih (fun i hi => h (i + 1) (by simpa using hi))]

@[simp] lemma xorStream_zero (xs : List UInt8) : xorStream (fun _ => 0) xs = xs := by
  induction xs with
  | nil => rfl
  | cons x xs ih => rw [xorStream, ih, UInt8.xor_zero]

lemma xorStream_eq_zipWith (ks : ℕ → UInt8) (xs : List UInt8) :
    xorStream ks xs = List.zipWith (· ^^^ ·) xs ((List.range xs.length).map ks) := by
  induction xs generalizing ks with
  | nil => rfl
  | cons x xs ih =>
    rw [xorStream, ih, List.length_cons, List.range_succ_eq_map, List.map_cons, List.map_map,
      List.zipWith_cons_cons]
    rfl

lemma xorStream_xorStream (ks : ℕ → UInt8) (xs : List UInt8) :
    xorStream ks (xorStream ks xs) = xs := by
  induction xs generalizing ks with
  | nil => rfl
  | cons x xs ih =>
    rw [xorStream, xorStream, ih, UInt8.xor_assoc, UInt8.xor_self, UInt8.xor_zero]

/-- Changing the bytes of one operand changes the same bits of the result. -/
lemma xorStream_comm (ks ks' : ℕ → UInt8) (xs : List UInt8) :
    xorStream ks (xorStream ks' xs) = xorStream ks' (xorStream ks xs) := by
  induction xs generalizing ks ks' with
  | nil => rfl
  | cons x xs ih =>
    simp only [xorStream, ih, UInt8.xor_assoc, UInt8.xor_comm (ks 0)]

/-- The result contains a NUL where an operand byte equals the keystream byte. -/
lemma zero_mem_xorStream_iff (ks : ℕ → UInt8) (xs : List UInt8) :
    0 ∈ xorStream ks xs ↔ ∃ i : ℕ, xs[i]? = some (ks i) := by
  induction xs generalizing ks with
  | nil => simp [xorStream]
  | cons x xs ih =>
    have hhead : 0 = x ^^^ ks 0 ↔ x = ks 0 := by
      rw [eq_comm, UInt8.xor_eq_zero_iff]
    rw [xorStream, List.mem_cons, hhead, ih]
    constructor
    · rintro (rfl | ⟨i, hi⟩)
      · exact ⟨0, rfl⟩
      · exact ⟨i + 1, hi⟩
    · rintro ⟨i, hi⟩
      cases i with
      | zero => exact Or.inl (Option.some.inj hi)
      | succ i => exact Or.inr ⟨i, hi⟩

/-- An update function together with the keystream its contexts stand for. -/
structure StreamCipher (Ctx : Type*) where
  update : Ctx → List UInt8 → Ctx × List UInt8
  /-- The keystream bytes a context has not used yet. -/
  stream : Ctx → ℕ → UInt8
  output : ∀ c xs, (update c xs).2 = xorStream (stream c) xs
  advance : ∀ c xs i, stream (update c xs).1 i = stream c (xs.length + i)
  context : ∀ c xs ys, xs.length = ys.length → (update c xs).1 = (update c ys).1

namespace StreamCipher

variable {Ctx : Type*} (C : StreamCipher Ctx)

@[simp] lemma length_update (c : Ctx) (xs : List UInt8) : (C.update c xs).2.length = xs.length := by
  rw [C.output, length_xorStream]

theorem decrypt (c : Ctx) (xs : List UInt8) : (C.update c (C.update c xs).2).2 = xs := by
  simp only [C.output, xorStream_xorStream]

lemma decrypt_context (c : Ctx) (xs : List UInt8) :
    (C.update c (C.update c xs).2).1 = (C.update c xs).1 :=
  C.context c _ _ (C.length_update c xs)

/-- A change of the ciphertext reappears in the decrypted text. -/
theorem decrypt_changed (c : Ctx) (xs : List UInt8) (δ : ℕ → UInt8) :
    (C.update c (xorStream δ (C.update c xs).2)).2 = xorStream δ xs := by
  simp only [C.output]
  rw [xorStream_comm, xorStream_xorStream]

def after (c : Ctx) (msgs : List (List UInt8)) : Ctx :=
  msgs.foldl (fun c m => (C.update c m).1) c

lemma after_snoc (c : Ctx) (msgs : List (List UInt8)) (m : List UInt8) :
    C.after c (msgs ++ [m]) = (C.update (C.after c msgs) m).1 := by
  simp [after]

/-- The outputs for a sequence of inputs given to one context. -/
def outputs (c : Ctx) : List (List UInt8) → List (List UInt8)
  | [] => []
  | m :: msgs => (C.update c m).2 :: outputs (C.update c m).1 msgs

lemma outputs_snoc (c : Ctx) (msgs : List (List UInt8)) (m : List UInt8) :
    C.outputs c (msgs ++ [m]) = C.outputs c msgs ++ [(C.update (C.after c msgs) m).2] := by
  induction msgs generalizing c with
  | nil => rfl
  | cons x msgs ih => simp [outputs, after, ih]

/-- The contexts before the first and after each of a sequence of inputs. -/
def contexts (c : Ctx) : List (List UInt8) → List Ctx
  | [] => [c]
  | m :: msgs => c :: contexts (C.update c m).1 msgs

lemma contexts_snoc (c : Ctx) (msgs : List (List UInt8)) (m : List UInt8) :
    C.contexts c (msgs ++ [m]) = C.contexts c msgs ++ [(C.update (C.after c msgs) m).1] := by
  induction msgs generalizing c with
  | nil => rfl
  | cons x msgs ih => simp [contexts, after, ih]

lemma getElem?_contexts (c : Ctx) (msgs : List (List UInt8)) {n : ℕ} (h : n ≤ msgs.length) :
    (C.contexts c msgs)[n]? = some (C.after c (msgs.take n)) := by
  induction msgs generalizing c n with
  | nil =>
    obtain rfl : n = 0 := by simpa using h
    rfl
  | cons x msgs ih =>
    cases n with
    | zero => rfl
    | succ n =>
      rw [contexts, List.getElem?_cons_succ, ih _ (by simpa using h)]
      rfl

lemma length_outputs (c : Ctx) (msgs : List (List UInt8)) :
    (C.outputs c msgs).length = msgs.length := by
  induction msgs generalizing c with
  | nil => rfl
  | cons x msgs ih => simp [outputs, ih]

lemma exists_of_mem_outputs {c : Ctx} {msgs : List (List UInt8)} {out : List UInt8}
    (h : out ∈ C.outputs c msgs) : ∃ m ∈ msgs, out.length = m.length := by
  induction msgs generalizing c with
  | nil => cases h
  | cons x msgs ih =>
    rcases List.mem_cons.mp h with rfl | hmem
    · exact ⟨x, by simp, C.length_update c x⟩
    · obtain ⟨m, hm, hlen⟩ := ih hmem
      exact ⟨m, by simp [hm], hlen⟩

/-- Contexts that start equal stay equal as long as the inputs have equal lengths. -/
lemma after_congr (c : Ctx) {msgs msgs' : List (List UInt8)}
    (h : msgs.map List.length = msgs'.map List.length) : C.after c msgs = C.after c msgs' := by
  induction msgs generalizing c msgs' with
  | nil =>
    obtain rfl : msgs' = [] := by simpa using h.symm
    rfl
  | cons m msgs ih =>
    cases msgs' with
    | nil => simp at h
    | cons m' msgs' =>
      obtain ⟨hlen, htail⟩ := List.cons.inj h
      simp only [after, List.foldl_cons, C.context c m m' hlen]
      exact ih _ htail

/-- Changes of a sequence of ciphertexts reappear in the decrypted texts. -/
theorem outputs_changed (c : Ctx) (msgs : List (List UInt8)) (masks : ℕ → ℕ → UInt8) :
    C.outputs c ((C.outputs c msgs).mapIdx fun j m => xorStream (masks j) m) =
      msgs.mapIdx fun j m => xorStream (masks j) m := by
  induction msgs generalizing c masks with
  | nil => rfl
  | cons m msgs ih =>
    have hcontext : (C.update c (xorStream (masks 0) (C.update c m).2)).1 = (C.update c m).1 :=
      C.context c _ _ (by rw [length_xorStream, C.length_update])
    simp only [outputs, List.mapIdx_cons, C.decrypt_changed, hcontext]
    exact congrArg _ (ih (C.update c m).1 (fun j => masks (j + 1)))

lemma map_length_outputs (c : Ctx) (msgs : List (List UInt8)) :
    (C.outputs c msgs).map List.length = msgs.map List.length := by
  induction msgs generalizing c with
  | nil => rfl
  | cons m msgs ih => simp only [outputs, List.map_cons, C.length_update, ih]

theorem outputs_outputs (c : Ctx) (msgs : List (List UInt8)) :
    C.outputs c (C.outputs c msgs) = msgs := by
  induction msgs generalizing c with
  | nil => rfl
  | cons m msgs ih => simp only [outputs, C.decrypt, C.decrypt_context, ih]

lemma outputs_take (c : Ctx) (msgs : List (List UInt8)) (n : ℕ) :
    C.outputs c (msgs.take n) = (C.outputs c msgs).take n := by
  induction msgs generalizing c n with
  | nil => simp [outputs]
  | cons m msgs ih =>
    cases n with
    | zero => rfl
    | succ n => simp only [List.take_succ_cons, outputs, ih]

end StreamCipher
