import Mathlib.Algebra.Group.Nat.Defs
import Mathlib.Data.List.Basic
import Mathlib.Tactic.Common

/-!
# Base64

The padded encoding, and a decoder that skips every character outside the alphabet, padding
included. Each byte string has one encoding, and many strings decode to it.
-/

namespace Base64

/-- 64 characters for the digits and one that is none of them. -/
structure Alphabet (χ : Type) where
  digit : ℕ → χ
  value : χ → Option ℕ
  pad : χ
  value_digit : ∀ d < 64, value (digit d) = some d
  value_pad : value pad = none

variable {χ : Type} (A : Alphabet χ)

/-- The four digits of three bytes, the most significant one first. -/
def digits (a b c : UInt8) : List ℕ :=
  let n := a.toNat * 65536 + b.toNat * 256 + c.toNat
  [n / 262144, n / 4096 % 64, n / 64 % 64, n % 64]

def encode : List UInt8 → List χ
  | [] => []
  | [a] => ((digits a 0 0).take 2).map A.digit ++ [A.pad, A.pad]
  | [a, b] => ((digits a b 0).take 3).map A.digit ++ [A.pad]
  | a :: b :: c :: rest => (digits a b c).map A.digit ++ encode rest

/-- Decodes the characters while `buf` holds `nbits` bits that have not been put out. -/
def decodeFrom (buf nbits : ℕ) : List χ → List UInt8
  | [] => []
  | ch :: rest =>
    match A.value ch with
    | none => decodeFrom buf nbits rest
    | some d =>
      if 8 ≤ nbits + 6 then
        UInt8.ofNat ((buf * 64 + d) / 2 ^ (nbits - 2)) ::
          decodeFrom ((buf * 64 + d) % 2 ^ (nbits - 2)) (nbits - 2) rest
      else decodeFrom (buf * 64 + d) (nbits + 6) rest

def decode (s : List χ) : List UInt8 := decodeFrom A 0 0 s

lemma eq_nil_of_encode {bytes : List UInt8} (h : encode A bytes = []) : bytes = [] := by
  induction bytes using encode.induct with
  | case1 => rfl
  | case2 a => cases (List.append_eq_nil_iff.mp h).2
  | case3 a b => cases (List.append_eq_nil_iff.mp h).2
  | case4 a b c rest => cases (List.append_eq_nil_iff.mp h).1

lemma decodeFrom_skip {buf nbits : ℕ} {ch : χ} {rest : List χ} (h : A.value ch = none) :
    decodeFrom A buf nbits (ch :: rest) = decodeFrom A buf nbits rest := by
  rw [decodeFrom, h]

lemma decodeFrom_store {buf nbits d : ℕ} {rest : List χ} (hd : d < 64) (hn : nbits < 2) :
    decodeFrom A buf nbits (A.digit d :: rest) =
      decodeFrom A (buf * 64 + d) (nbits + 6) rest := by
  rw [decodeFrom, A.value_digit d hd]
  exact if_neg (by omega)

lemma decodeFrom_put {buf n d : ℕ} {rest : List χ} (hd : d < 64) :
    decodeFrom A buf (n + 2) (A.digit d :: rest) =
      UInt8.ofNat ((buf * 64 + d) / 2 ^ n) ::
        decodeFrom A ((buf * 64 + d) % 2 ^ n) n rest := by
  rw [decodeFrom, A.value_digit d hd]
  exact if_pos (by omega)

lemma ofNat_eq {n : ℕ} {a : UInt8} (h : n = a.toNat) : UInt8.ofNat n = a := by
  rw [h, UInt8.ofNat_toNat]

/-- The first digits of three bytes give the bytes whose bits they complete. -/
lemma decodeFrom_two (a b c : UInt8) (rest : List χ) :
    decodeFrom A 0 0 (((digits a b c).take 2).map A.digit ++ rest) =
      a :: decodeFrom A (b.toNat / 16) 4 rest := by
  have ha := a.toNat_lt
  have hb := b.toNat_lt
  have hc := c.toNat_lt
  simp only [digits, List.take_succ_cons, List.take_zero, List.map_cons, List.map_nil,
    List.cons_append, List.nil_append]
  rw [decodeFrom_store A (by omega) (by omega), decodeFrom_put A (n := 4) (by omega)]
  congr 2
  · exact ofNat_eq (by omega)
  · omega

lemma decodeFrom_three (a b c : UInt8) (rest : List χ) :
    decodeFrom A 0 0 (((digits a b c).take 3).map A.digit ++ rest) =
      a :: b :: decodeFrom A (c.toNat / 64) 2 rest := by
  have hb := b.toNat_lt
  have hc := c.toNat_lt
  have hthree : ((digits a b c).take 3).map A.digit ++ rest =
      ((digits a b c).take 2).map A.digit ++
        (A.digit ((a.toNat * 65536 + b.toNat * 256 + c.toNat) / 64 % 64) :: rest) := rfl
  rw [hthree, decodeFrom_two, decodeFrom_put A (n := 2) (by omega)]
  congr 3
  · exact ofNat_eq (by omega)
  · omega

lemma decodeFrom_digits (a b c : UInt8) (rest : List χ) :
    decodeFrom A 0 0 ((digits a b c).map A.digit ++ rest) =
      a :: b :: c :: decodeFrom A 0 0 rest := by
  have hc := c.toNat_lt
  have hfour : (digits a b c).map A.digit ++ rest =
      ((digits a b c).take 3).map A.digit ++
        (A.digit ((a.toNat * 65536 + b.toNat * 256 + c.toNat) % 64) :: rest) := rfl
  rw [hfour, decodeFrom_three, decodeFrom_put A (n := 0) (by omega)]
  congr 4
  · exact ofNat_eq (by omega)
  · omega

theorem decode_encode (bytes : List UInt8) : decode A (encode A bytes) = bytes := by
  unfold decode
  induction bytes using encode.induct with
  | case1 => rfl
  | case2 a =>
    rw [encode, decodeFrom_two, decodeFrom_skip A A.value_pad, decodeFrom_skip A A.value_pad]
    rfl
  | case3 a b =>
    rw [encode, decodeFrom_three, decodeFrom_skip A A.value_pad]
    rfl
  | case4 a b c rest ih => rw [encode, decodeFrom_digits, ih]

/-- The letters, the digits, `+` and `/`, with `=` for padding, as ASCII codes. -/
def standard : Alphabet UInt8 where
  digit d :=
    if d < 26 then UInt8.ofNat (65 + d)
    else if d < 52 then UInt8.ofNat (71 + d)
    else if d < 62 then UInt8.ofNat (d - 4)
    else if d = 62 then 43
    else 47
  value ch :=
    let n := ch.toNat
    if 65 ≤ n ∧ n ≤ 90 then some (n - 65)
    else if 97 ≤ n ∧ n ≤ 122 then some (n - 71)
    else if 48 ≤ n ∧ n ≤ 57 then some (n + 4)
    else if n = 43 then some 62
    else if n = 47 then some 63
    else none
  pad := 61
  value_digit := by decide
  value_pad := rfl

end Base64
