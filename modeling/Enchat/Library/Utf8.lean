import Mathlib.Data.List.Basic
import Mathlib.Tactic.Common
import Enchat.Library.Buffer

/-!
# NUL bytes in UTF-8

The UTF-8 form of a text contains a NUL byte for each NUL character and no others, so that a
NUL-terminated string is again the UTF-8 form of a text.
-/

namespace Buffer

/-- The UTF-8 form of a sequence of characters. -/
def utf8 (chars : List Char) : List UInt8 := chars.flatMap String.utf8EncodeChar

@[simp] lemma utf8_cons (c : Char) (chars : List Char) :
    utf8 (c :: chars) = String.utf8EncodeChar c ++ utf8 chars := rfl

@[simp] lemma utf8_append (chars chars' : List Char) :
    utf8 (chars ++ chars') = utf8 chars ++ utf8 chars' := List.flatMap_append

lemma ofNat_ne_zero {n : ℕ} (hpos : 0 < n % 256) : UInt8.ofNat n ≠ 0 := by
  intro h
  have hzero := congrArg UInt8.toNat h
  rw [UInt8.toNat_ofNat'] at hzero
  change n % 256 = 0 at hzero
  omega

/-- Lead and continuation bytes have their upper bit set. -/
lemma ne_zero_of_mem_utf8EncodeChar {c : Char} (hc : c ≠ '\x00') :
    ∀ b ∈ String.utf8EncodeChar c, b ≠ 0 := by
  have hpos : 0 < c.val.toNat := by
    apply Nat.pos_of_ne_zero
    intro h
    exact hc (Char.ext (UInt32.toNat.inj h))
  intro b hb
  unfold String.utf8EncodeChar at hb
  simp only at hb
  split at hb
  · rw [List.mem_singleton.mp hb]
    exact ofNat_ne_zero (by omega)
  · split at hb
    · simp only [List.mem_cons, List.not_mem_nil, or_false] at hb
      rcases hb with rfl | rfl <;> exact ofNat_ne_zero (by omega)
    · split at hb
      · simp only [List.mem_cons, List.not_mem_nil, or_false] at hb
        rcases hb with rfl | rfl | rfl <;> exact ofNat_ne_zero (by omega)
      · simp only [List.mem_cons, List.not_mem_nil, or_false] at hb
        rcases hb with rfl | rfl | rfl | rfl <;> exact ofNat_ne_zero (by omega)

lemma cString_append_of_ne_zero {bytes : List UInt8} (h : ∀ b ∈ bytes, b ≠ 0)
    (rest : List UInt8) : cString (bytes ++ rest) = bytes ++ cString rest := by
  unfold cString
  rw [List.takeWhile_append_of_pos]
  intro b hb
  exact decide_eq_true (h b hb)

lemma cString_append_of_mem {bytes : List UInt8} (h : 0 ∈ bytes) (rest : List UInt8) :
    cString (bytes ++ rest) = cString bytes := by
  have hlt := (length_cString_lt_iff bytes).mpr h
  unfold cString at hlt ⊢
  rw [List.takeWhile_append, if_neg (by omega)]

/-- What is in front of the first NUL is the UTF-8 form of the characters in front of the first NUL
character. -/
lemma cString_utf8 (chars : List Char) :
    cString (utf8 chars) = utf8 (chars.takeWhile (· ≠ '\x00')) := by
  induction chars with
  | nil => rfl
  | cons c chars ih =>
    by_cases hc : c = '\x00'
    · subst hc
      rfl
    · have hcons : (c :: chars).takeWhile (· ≠ '\x00') = c :: chars.takeWhile (· ≠ '\x00') :=
        List.takeWhile_cons_of_pos (by simpa using hc)
      rw [hcons, utf8_cons, utf8_cons, ← ih]
      exact cString_append_of_ne_zero (ne_zero_of_mem_utf8EncodeChar hc) _

end Buffer
