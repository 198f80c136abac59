import Mathlib.Data.List.Basic
import Mathlib.Data.List.TakeWhile
import Mathlib.Tactic.Common

/-!
# Byte buffers

Byte-level views of memory: storing bytes at an offset, little-endian fields and NUL-terminated
strings. A store that runs past the end makes the list longer; it never wraps around.
-/

namespace Buffer

/-- Copies `bytes` to `buf + offset`. -/
def store (buf : List UInt8) (offset : ℕ) (bytes : List UInt8) : List UInt8 :=
  buf.take offset ++ bytes ++ buf.drop (offset + bytes.length)

/-- The first `n` bytes at `data`, padded with zeros where `data` is shorter. -/
def fit (n : ℕ) (data : List UInt8) : List UInt8 :=
  (data ++ List.replicate n 0).take n

/-- The little-endian bytes of a 16-bit word. -/
def putU16 (n : UInt16) : List UInt8 :=
  [UInt8.ofNat n.toNat, UInt8.ofNat (n.toNat / 256)]

/-- The little-endian 16-bit word at `buf + offset`. -/
def getU16 (buf : List UInt8) (offset : ℕ) : ℕ :=
  (buf.getD offset 0).toNat + 256 * (buf.getD (offset + 1) 0).toNat

/-- The little-endian bytes of a 32-bit word. -/
def putU32 (n : UInt32) : List UInt8 :=
  [UInt8.ofNat n.toNat, UInt8.ofNat (n.toNat / 256), UInt8.ofNat (n.toNat / 65536),
    UInt8.ofNat (n.toNat / 16777216)]

/-- The little-endian 32-bit word at `buf + offset`. -/
def getU32 (buf : List UInt8) (offset : ℕ) : UInt32 :=
  UInt32.ofNat ((buf.getD offset 0).toNat + 256 * (buf.getD (offset + 1) 0).toNat +
    65536 * (buf.getD (offset + 2) 0).toNat + 16777216 * (buf.getD (offset + 3) 0).toNat)

/-- The bytes before the first NUL. -/
def cString (buf : List UInt8) : List UInt8 :=
  buf.takeWhile (· ≠ 0)

@[simp] lemma length_fit (n : ℕ) (data : List UInt8) : (fit n data).length = n := by
  simp [fit]

lemma fit_of_length {n : ℕ} {data : List UInt8} (h : data.length = n) : fit n data = data := by
  subst h
  simp [fit]

@[simp] lemma length_putU16 (n : UInt16) : (putU16 n).length = 2 := rfl

@[simp] lemma length_putU32 (n : UInt32) : (putU32 n).length = 4 := rfl

lemma store_zero (buf bytes : List UInt8) : store buf 0 bytes = bytes ++ buf.drop bytes.length := by
  rw [store, List.take_zero, List.nil_append, Nat.zero_add]

lemma store_append {header : List UInt8} {offset : ℕ} (h : header.length = offset)
    (buf bytes : List UInt8) :
    store (header ++ buf) offset bytes = header ++ bytes ++ buf.drop bytes.length := by
  subst h
  rw [store, List.take_left, ← List.drop_drop, List.drop_left]

lemma store_all {buf bytes : List UInt8} (h : buf.length ≤ bytes.length) :
    store buf 0 bytes = bytes := by
  simp [store, h]

lemma take_store (buf bytes : List UInt8) {n offset : ℕ} (h : n ≤ offset)
    (ho : offset ≤ buf.length) : (store buf offset bytes).take n = buf.take n := by
  rw [store, List.append_assoc, List.take_append_of_le_length (by simp; omega), List.take_take,
    Nat.min_eq_left h]

lemma getU16_putU16 (n : UInt16) (rest : List UInt8) : getU16 (putU16 n ++ rest) 0 = n.toNat := by
  have hn := n.toNat_lt
  simp only [getU16, putU16, List.cons_append, List.nil_append, List.getD_cons_zero,
    List.getD_cons_succ, UInt8.toNat_ofNat']
  omega

lemma getU16_congr {buf buf' : List UInt8} {offset : ℕ}
    (h : buf.take (offset + 2) = buf'.take (offset + 2)) : getU16 buf offset = getU16 buf' offset := by
  have hget : ∀ i, i < offset + 2 → buf.getD i 0 = buf'.getD i 0 := by
    intro i hi
    have := congrArg (fun l => l.getD i 0) h
    simpa [List.getD_eq_getElem?_getD, List.getElem?_take, hi] using this
  simp only [getU16, hget offset (by omega), hget (offset + 1) (by omega)]

lemma getU16_drop (buf : List UInt8) (offset : ℕ) : getU16 (buf.drop offset) 0 = getU16 buf offset := by
  simp only [getU16, List.getD_eq_getElem?_getD, List.getElem?_drop, Nat.add_zero, Nat.zero_add]

lemma ofNat_of_mod_eq {x : UInt8} {m : ℕ} (h : m % 256 = x.toNat) : UInt8.ofNat m = x := by
  apply UInt8.toNat.inj
  rw [UInt8.toNat_ofNat', h]

lemma take_drop_of_getU16 {buf : List UInt8} {offset : ℕ} {n : UInt16}
    (h : getU16 buf offset = n.toNat) (hlen : offset + 2 ≤ buf.length) :
    (buf.drop offset).take 2 = putU16 n := by
  rw [← getU16_drop] at h
  have htwo : 2 ≤ (buf.drop offset).length := by
    rw [List.length_drop]
    omega
  match hb : buf.drop offset with
  | [] | [_] =>
    rw [hb] at htwo
    simp at htwo
  | a :: b :: rest =>
    have ha := a.toNat_lt
    have hb' := b.toNat_lt
    simp only [hb, getU16, List.getD_cons_zero, List.getD_cons_succ] at h
    simp only [putU16, List.take_succ_cons, List.take_zero]
    rw [ofNat_of_mod_eq (x := a) (by omega), ofNat_of_mod_eq (x := b) (by omega)]

lemma putU32_getU32 {buf : List UInt8} (h : buf.length = 4) : putU32 (getU32 buf 0) = buf := by
  match buf, h with
  | [a, b, c, d], _ =>
    have ha := a.toNat_lt
    have hb := b.toNat_lt
    have hc := c.toNat_lt
    have hd := d.toNat_lt
    simp only [putU32, getU32, List.getD_cons_zero, List.getD_cons_succ, UInt32.toNat_ofNat']
    rw [ofNat_of_mod_eq (x := a) (by omega), ofNat_of_mod_eq (x := b) (by omega),
      ofNat_of_mod_eq (x := c) (by omega), ofNat_of_mod_eq (x := d) (by omega)]

lemma getU32_putU32 (n : UInt32) (rest : List UInt8) : getU32 (putU32 n ++ rest) 0 = n := by
  have hn := n.toNat_lt
  apply UInt32.toNat.inj
  simp only [getU32, putU32, List.cons_append, List.nil_append, List.getD_cons_zero,
    List.getD_cons_succ, UInt8.toNat_ofNat', UInt32.toNat_ofNat']
  omega

lemma cString_append_zero (bytes rest : List UInt8) : cString (bytes ++ 0 :: rest) = cString bytes := by
  induction bytes with
  | nil => simp [cString]
  | cons b bytes ih =>
    simp only [cString, List.cons_append, List.takeWhile_cons] at ih ⊢
    rw [ih]

lemma cString_of_ne_zero {bytes : List UInt8} (h : ∀ b ∈ bytes, b ≠ 0) : cString bytes = bytes := by
  rw [cString, List.takeWhile_eq_self_iff]
  simpa using h

lemma length_cString_le (buf : List UInt8) : (cString buf).length ≤ buf.length :=
  (List.takeWhile_prefix _).length_le

/-- The search for a NUL ends inside the buffer if and only if it contains one. -/
lemma length_cString_lt_iff (buf : List UInt8) : (cString buf).length < buf.length ↔ 0 ∈ buf := by
  induction buf with
  | nil => simp [cString]
  | cons b buf ih =>
    unfold cString at ih ⊢
    rw [List.takeWhile_cons, List.mem_cons]
    by_cases hb : b = 0
    · simp [hb]
    · simp only [hb, ne_eq, not_false_eq_true, decide_true, if_true, List.length_cons,
        Nat.add_lt_add_iff_right, ih, Ne.symm hb, false_or]

/-- A block of offsets that begins below a bound stays below it if and only if its end does. -/
lemma forall_range'_lt_iff {start n bound : ℕ} (h : start < bound) :
    (∀ a ∈ List.range' start n, a < bound) ↔ start + n ≤ bound := by
  simp only [List.mem_range'_1]
  constructor
  · intro hall
    by_contra hlt
    exact Nat.lt_irrefl bound (hall bound ⟨by omega, by omega⟩)
  · intro hle a ha
    omega

end Buffer
