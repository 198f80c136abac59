import Mathlib.Data.Nat.Digits.Lemmas
import Mathlib.Tactic.Positivity
import Mathlib.Tactic.Ring

/-!
# Numbers as little-endian bytes

The value of a list of bytes and the bytes of a number are inverse to each other on lists of one
length, and both of them split where a list is appended to another one.
-/

namespace LittleEndian

def value (s : List UInt8) : ℕ := Nat.ofDigits 256 (s.map UInt8.toNat)

/-- The `k` lowest bytes of `n`. -/
def bytes : ℕ → ℕ → List UInt8
  | 0, _ => []
  | k + 1, n => UInt8.ofNat n :: bytes k (n / 256)

@[simp] lemma value_nil : value [] = 0 := rfl

@[simp] lemma value_cons (b : UInt8) (s : List UInt8) :
    value (b :: s) = b.toNat + 256 * value s := by
  simp [value, Nat.ofDigits_cons]

@[simp] lemma length_bytes (k n : ℕ) : (bytes k n).length = k := by
  induction k generalizing n with
  | zero => rfl
  | succ k ih => simp [bytes, ih]

lemma value_lt (s : List UInt8) : value s < 256 ^ s.length := by
  induction s with
  | nil => simp
  | cons b s ih =>
    have hb := b.toNat_lt
    rw [value_cons, List.length_cons, pow_succ]
    omega

lemma value_append (s t : List UInt8) : value (s ++ t) = value s + 256 ^ s.length * value t := by
  induction s with
  | nil => simp
  | cons b s ih =>
    rw [List.cons_append, value_cons, value_cons, ih, List.length_cons, pow_succ]
    ring

@[simp] lemma value_bytes (k n : ℕ) : value (bytes k n) = n % 256 ^ k := by
  induction k generalizing n with
  | zero => simp [bytes, Nat.mod_one]
  | succ k ih =>
    rw [bytes, value_cons, ih, pow_succ', Nat.mod_mul, UInt8.toNat_ofNat']

lemma bytes_value (s : List UInt8) : bytes s.length (value s) = s := by
  induction s with
  | nil => rfl
  | cons b s ih =>
    have hb := b.toNat_lt
    have hdiv : (b.toNat + 256 * value s) / 256 = value s := by omega
    have hhead : UInt8.ofNat (b.toNat + 256 * value s) = b := by
      apply UInt8.toNat_inj.mp
      rw [UInt8.toNat_ofNat']
      omega
    rw [List.length_cons, value_cons, bytes, hdiv, ih, hhead]

lemma value_injective {s t : List UInt8} (hlen : s.length = t.length) (h : value s = value t) :
    s = t := by
  rw [← bytes_value s, ← bytes_value t, hlen, h]

lemma bytes_mod (k n : ℕ) : bytes k (n % 256 ^ k) = bytes k n :=
  value_injective (by simp) (by simp)

/-- The bytes depend on the number modulo `256 ^ k` only. -/
lemma bytes_congr {k m n : ℕ} (h : m % 256 ^ k = n % 256 ^ k) : bytes k m = bytes k n := by
  rw [← bytes_mod k m, h, bytes_mod]

lemma bytes_add (j k n : ℕ) : bytes (j + k) n = bytes j n ++ bytes k (n / 256 ^ j) := by
  apply value_injective (by simp)
  rw [value_append, value_bytes, value_bytes, value_bytes, length_bytes, pow_add, Nat.mod_mul]

/-- What lies above byte `j` is added to the rest. -/
lemma bytes_add_mul (j k a b : ℕ) :
    bytes (j + k) (a + 256 ^ j * b) = bytes j a ++ bytes k (a / 256 ^ j + b) := by
  rw [bytes_add, Nat.add_mul_div_left _ _ (by positivity),
    bytes_congr (Nat.add_mul_mod_self_left a _ b)]

lemma testBit_value (s : List UInt8) (i : ℕ) :
    (value s).testBit i = (s.getD (i / 8) 0).toNat.testBit (i % 8) := by
  induction s generalizing i with
  | nil => simp
  | cons b s ih =>
    have hsum : value (b :: s) = 2 ^ 8 * value s + b.toNat := by
      rw [value_cons]
      omega
    rw [hsum, Nat.testBit_two_pow_mul_add _ b.toNat_lt]
    split
    · rename_i h
      simp [Nat.div_eq_of_lt h, Nat.mod_eq_of_lt h]
    · rename_i h
      have hdiv : i / 8 = (i - 8) / 8 + 1 := by omega
      have hmod : i % 8 = (i - 8) % 8 := by omega
      rw [ih, hdiv, hmod, List.getD_cons_succ]

end LittleEndian
