import Enchat.Library.Primality
import Enchat.Model.Field25519
import Mathlib.Data.ZMod.Basic
import Mathlib.FieldTheory.Finite.Basic
import Mathlib.Tactic.LinearCombination
import Mathlib.Tactic.Ring

/-!
# The limbs of a field element and the field

The sums and the products of the limbs do not leave their words, so that each operation computes
the one of the field, and the result of a carry is small enough for the operations after it.
-/

namespace Enchat

lemma toNat_low51 (x : UInt64) : (x &&& 0x7ffffffffffff).toNat = x.toNat % 2 ^ 51 := by
  rw [UInt64.toNat_and]
  exact Nat.and_two_pow_sub_one_eq_mod x.toNat 51

lemma toNat_high51 (x : UInt64) : (x >>> 51).toNat = x.toNat / 2 ^ 51 := by
  rw [UInt64.toNat_shiftRight]
  exact Nat.shiftRight_eq_div_pow x.toNat 51

lemma toNat_fiatUint1 {x : UInt64} (h : x.toNat < 256) : (fiatUint1 x).toNat = x.toNat := by
  rw [fiatUint1, UInt8.toNat_toUInt64, UInt64.toNat_toUInt8]
  exact Nat.mod_eq_of_lt h

lemma toNat_add64 {a b : UInt64} (h : a.toNat + b.toNat < 2 ^ 64) :
    (a + b).toNat = a.toNat + b.toNat := by
  rw [UInt64.toNat_add, Nat.mod_eq_of_lt h]

lemma toNat_mul64 {a b : UInt64} (h : a.toNat * b.toNat < 2 ^ 64) :
    (a * b).toNat = a.toNat * b.toNat := by
  rw [UInt64.toNat_mul, Nat.mod_eq_of_lt h]

lemma toNat_sub64 {a b : UInt64} (h : b.toNat ≤ a.toNat) : (a - b).toNat = a.toNat - b.toNat :=
  UInt64.toNat_sub_of_le _ _ (UInt64.le_iff_toNat_le.mpr h)

lemma fiatAddcarryxU64_spec {c a b : UInt64} (hc : c.toNat ≤ 1) :
    (fiatAddcarryxU64 c a b).1.toNat + 2 ^ 64 * (fiatAddcarryxU64 c a b).2.toNat =
      c.toNat + a.toNat + b.toNat := by
  have ha := a.toNat_lt
  have hb := b.toNat_lt
  simp only [fiatAddcarryxU64, UInt64.lt_iff_toNat_lt, UInt64.toNat_add]
  split <;> split <;> simp only [UInt64.toNat_one, UInt64.toNat_zero] <;> omega

def Wide.toNat (w : Wide) : ℕ := w.lo.toNat + 2 ^ 64 * w.hi.toNat

lemma toNat_fiatMulxU64 (a b : UInt64) : (fiatMulxU64 a b).toNat = a.toNat * b.toNat := by
  have hprod : a.toNat * b.toNat < 2 ^ 64 * 2 ^ 64 := Nat.mul_lt_mul'' a.toNat_lt b.toNat_lt
  have hhi : (UInt64.ofNat (a.toNat * b.toNat / 2 ^ 64)).toNat = a.toNat * b.toNat / 2 ^ 64 :=
    UInt64.toNat_ofNat_of_lt' (Nat.div_lt_of_lt_mul hprod)
  simp only [Wide.toNat, fiatMulxU64, UInt64.toNat_mul, hhi]
  exact Nat.mod_add_div _ _

lemma toNat_addWide {a b : Wide} (h : a.toNat + b.toNat < 2 ^ 128) :
    (addWide a b).toNat = a.toNat + b.toNat := by
  simp only [Wide.toNat] at h ⊢
  have hlo := fiatAddcarryxU64_spec (c := 0) (a := a.lo) (b := b.lo) (by simp)
  have hcarry : (fiatAddcarryxU64 0 a.lo b.lo).2.toNat ≤ 1 := by
    have ha := a.lo.toNat_lt
    have hb := b.lo.toNat_lt
    simp only [UInt64.toNat_zero] at hlo
    omega
  have hhi := fiatAddcarryxU64_spec (a := a.hi) (b := b.hi) hcarry
  simp only [UInt64.toNat_zero] at hlo
  simp only [addWide]
  omega

lemma toNat_addCarried {x : UInt64} {b : Wide} (h : x.toNat + b.toNat < 2 ^ 128) :
    (addCarried x b).toNat = x.toNat + b.toNat := by
  simp only [Wide.toNat] at h ⊢
  have hlo := fiatAddcarryxU64_spec (c := 0) (a := x) (b := b.lo) (by simp)
  simp only [UInt64.toNat_zero] at hlo
  simp only [addCarried]
  rw [toNat_add64 (by omega)]
  omega

lemma Wide.toNat_low51 (w : Wide) : (w.lo &&& 0x7ffffffffffff).toNat = w.toNat % 2 ^ 51 := by
  rw [Enchat.toNat_low51, Wide.toNat]
  omega

lemma Wide.toNat_shiftRight51 {w : Wide} (h : w.toNat < 2 ^ 115) :
    w.shiftRight51.toNat = w.toNat / 2 ^ 51 := by
  simp only [Wide.toNat] at h ⊢
  have hmask : (w.hi <<< 13) &&& (0xffffffffffffffff : UInt64) = w.hi <<< 13 := by
    apply UInt64.toNat_inj.mp
    rw [UInt64.toNat_and]
    exact (Nat.and_two_pow_sub_one_eq_mod _ 64).trans (Nat.mod_eq_of_lt (UInt64.toNat_lt _))
  have hhi : (w.hi <<< 13).toNat = 2 ^ 13 * w.hi.toNat := by
    rw [UInt64.toNat_shiftLeft]
    have : (13 : UInt64).toNat % 64 = 13 := rfl
    rw [this, Nat.shiftLeft_eq]
    omega
  rw [Wide.shiftRight51, hmask, UInt64.toNat_or, toNat_high51, hhi, Nat.or_comm]
  rw [← Nat.two_pow_add_eq_or_of_lt]
  · omega
  · have := w.lo.toNat_lt
    omega

def Fe.eval (f : Fe) : ℕ :=
  f.v0.toNat + 2 ^ 51 * f.v1.toNat + 2 ^ 102 * f.v2.toNat + 2 ^ 153 * f.v3.toNat +
    2 ^ 204 * f.v4.toNat

structure Fe.Within (bound : ℕ) (f : Fe) : Prop where
  v0 : f.v0.toNat ≤ bound
  v1 : f.v1.toNat ≤ bound
  v2 : f.v2.toNat ≤ bound
  v3 : f.v3.toNat ≤ bound
  v4 : f.v4.toNat ≤ bound

/-- A sum with the part of another one above bit 51. -/
lemma toNat_addCarried_shift {s t : Wide} (hs : s.toNat < 2 ^ 114) (ht : t.toNat < 2 ^ 113) :
    (addCarried s.shiftRight51 t).toNat = s.toNat / 2 ^ 51 + t.toNat := by
  have hc := Wide.toNat_shiftRight51 (w := s) (by omega)
  rw [toNat_addCarried (by omega), hc]

lemma fiatCarryWide_spec {f : UInt64 → UInt64} {t0 t1 t2 t3 t4 : Wide} {B : ℕ}
    (h0 : t0.toNat < 2 ^ 113) (h1 : t1.toNat < 2 ^ 113) (h2 : t2.toNat < 2 ^ 113)
    (h3 : t3.toNat < 2 ^ 113) (h4 : t4.toNat + 2 ^ 63 ≤ 2 ^ 51 * B) (hB : B ≤ 2 ^ 58)
    (hfirst : ∀ x : UInt64, x.toNat ≤ (19 * B + 2 ^ 51) / 2 ^ 51 → (f x).toNat = x.toNat) :
    (fiatCarryWide f t0 t1 t2 t3 t4).Within (2 ^ 51) ∧ ∃ q,
      (fiatCarryWide f t0 t1 t2 t3 t4).eval + q * (2 ^ 255 - 19) =
        t0.toNat + 2 ^ 51 * t1.toNat + 2 ^ 102 * t2.toNat + 2 ^ 153 * t3.toNat +
          2 ^ 204 * t4.toNat := by
  have hs1 := toNat_addCarried_shift (s := t0) (t := t1) (by omega) h1
  have hs2 := toNat_addCarried_shift (s := addCarried t0.shiftRight51 t1) (t := t2) (by omega) h2
  have hs3 := toNat_addCarried_shift
    (s := addCarried (addCarried t0.shiftRight51 t1).shiftRight51 t2) (t := t3) (by omega) h3
  simp only [fiatCarryWide]
  generalize addCarried t0.shiftRight51 t1 = s1 at *
  generalize addCarried s1.shiftRight51 t2 = s2 at *
  generalize addCarried s2.shiftRight51 t3 = s3 at *
  have hs4 := toNat_addCarried_shift (s := s3) (t := t4) (by omega) (by omega)
  generalize addCarried s3.shiftRight51 t4 = s4 at *
  -- the carry out of the last limb, which counts 19 times in the first one
  have hq := Wide.toNat_shiftRight51 (w := s4) (by omega)
  have h19 : (s4.shiftRight51 * 0x13).toNat = 19 * (s4.toNat / 2 ^ 51) := by
    rw [toNat_mul64, hq, mul_comm]
    · rfl
    · rw [hq]
      change s4.toNat / 2 ^ 51 * 19 < 2 ^ 64
      omega
  have hy0 : ((t0.lo &&& 0x7ffffffffffff) + s4.shiftRight51 * 0x13).toNat =
      t0.toNat % 2 ^ 51 + 19 * (s4.toNat / 2 ^ 51) := by
    rw [toNat_add64, h19, Wide.toNat_low51]
    rw [h19, Wide.toNat_low51]
    omega
  generalize (t0.lo &&& 0x7ffffffffffff) + s4.shiftRight51 * 0x13 = y0 at *
  have hcar0 := hfirst (y0 >>> 51) (by rw [toNat_high51]; omega)
  rw [toNat_high51] at hcar0
  have hy1 : (f (y0 >>> 51) + (s1.lo &&& 0x7ffffffffffff)).toNat =
      y0.toNat / 2 ^ 51 + s1.toNat % 2 ^ 51 := by
    rw [toNat_add64, hcar0, Wide.toNat_low51]
    rw [hcar0, Wide.toNat_low51]
    omega
  generalize f (y0 >>> 51) + (s1.lo &&& 0x7ffffffffffff) = y1 at *
  have hcar1 : (fiatUint1 (y1 >>> 51)).toNat = y1.toNat / 2 ^ 51 := by
    rw [toNat_fiatUint1, toNat_high51]
    rw [toNat_high51]
    omega
  have hy2 : (fiatUint1 (y1 >>> 51) + (s2.lo &&& 0x7ffffffffffff)).toNat =
      y1.toNat / 2 ^ 51 + s2.toNat % 2 ^ 51 := by
    rw [toNat_add64, hcar1, Wide.toNat_low51]
    rw [hcar1, Wide.toNat_low51]
    omega
  have hv0 := toNat_low51 y0
  have hv1 := toNat_low51 y1
  have hv3 := Wide.toNat_low51 s3
  have hv4 := Wide.toNat_low51 s4
  refine ⟨⟨?_, ?_, ?_, ?_, ?_⟩, s4.toNat / 2 ^ 51, ?_⟩ <;>
    simp only [Fe.eval, hv0, hv1, hy2, hv3, hv4] <;> omega

lemma toNat_addWide3 {a b c : Wide} {B : ℕ} (ha : a.toNat ≤ B) (hb : b.toNat ≤ B)
    (hc : c.toNat ≤ B) (hB : 3 * B < 2 ^ 128) :
    (addWide a (addWide b c)).toNat = a.toNat + (b.toNat + c.toNat) ∧
      (addWide a (addWide b c)).toNat ≤ 3 * B := by
  have hbc := toNat_addWide (a := b) (b := c) (by omega)
  have habc := toNat_addWide (a := a) (b := addWide b c) (by omega)
  omega

lemma toNat_addWide5 {a b c d e : Wide} {B : ℕ} (ha : a.toNat ≤ B) (hb : b.toNat ≤ B)
    (hc : c.toNat ≤ B) (hd : d.toNat ≤ B) (he : e.toNat ≤ B) (hB : 5 * B < 2 ^ 128) :
    (addWide a (addWide b (addWide c (addWide d e)))).toNat =
        a.toNat + (b.toNat + (c.toNat + (d.toNat + e.toNat))) ∧
      (addWide a (addWide b (addWide c (addWide d e)))).toNat ≤ 5 * B := by
  have hcde := toNat_addWide3 hc hd he (by omega)
  have hbcde := toNat_addWide (a := b) (b := addWide c (addWide d e)) (by omega)
  have habcde := toNat_addWide (a := a) (b := addWide b (addWide c (addWide d e))) (by omega)
  omega

abbrev p25519 : ℕ := 2 ^ 255 - 19

abbrev F25519 : Type := ZMod p25519

/-- The prime numbers below `2 ^ 255 - 19` in its certificate. -/
def certificate25519 : List Primality.Order := [
  ⟨2, 1, []⟩, ⟨3, 2, [2]⟩, ⟨5, 2, [2, 2]⟩, ⟨7, 3, [2, 3]⟩, ⟨11, 2, [2, 5]⟩, ⟨13, 2, [2, 2, 3]⟩,
  ⟨17, 3, [2, 2, 2, 2]⟩, ⟨19, 2, [2, 3, 3]⟩, ⟨23, 5, [2, 11]⟩, ⟨29, 2, [2, 2, 7]⟩,
  ⟨31, 3, [2, 3, 5]⟩, ⟨37, 2, [2, 2, 3, 3]⟩, ⟨41, 6, [2, 2, 2, 5]⟩, ⟨43, 3, [2, 3, 7]⟩,
  ⟨47, 5, [2, 23]⟩, ⟨53, 2, [2, 2, 13]⟩, ⟨59, 2, [2, 29]⟩, ⟨83, 2, [2, 41]⟩,
  ⟨97, 5, [2, 2, 2, 2, 2, 3]⟩, ⟨103, 5, [2, 3, 17]⟩, ⟨107, 2, [2, 53]⟩, ⟨127, 3, [2, 3, 3, 7]⟩,
  ⟨131, 2, [2, 5, 13]⟩, ⟨173, 2, [2, 2, 43]⟩, ⟨223, 3, [2, 3, 37]⟩, ⟨239, 7, [2, 7, 17]⟩,
  ⟨353, 3, [2, 2, 2, 2, 2, 11]⟩, ⟨419, 2, [2, 11, 19]⟩, ⟨479, 13, [2, 239]⟩,
  ⟨487, 3, [2, 3, 3, 3, 3, 3]⟩, ⟨991, 6, [2, 3, 3, 5, 11]⟩, ⟨1723, 3, [2, 3, 7, 41]⟩,
  ⟨2437, 2, [2, 2, 3, 7, 29]⟩, ⟨3727, 3, [2, 3, 3, 3, 3, 23]⟩, ⟨4153, 5, [2, 2, 2, 3, 173]⟩,
  ⟨9463, 3, [2, 3, 19, 83]⟩, ⟨32573, 2, [2, 2, 17, 479]⟩, ⟨37853, 2, [2, 2, 9463]⟩,
  ⟨57467, 2, [2, 59, 487]⟩, ⟨65147, 2, [2, 32573]⟩, ⟨75707, 2, [2, 37853]⟩,
  ⟨132049, 26, [2, 2, 2, 2, 3, 3, 7, 131]⟩, ⟨430751, 17, [2, 5, 5, 5, 1723]⟩,
  ⟨569003, 2, [2, 7, 97, 419]⟩, ⟨1923133, 2, [2, 2, 3, 43, 3727]⟩,
  ⟨8574133, 2, [2, 2, 3, 7, 103, 991]⟩, ⟨2773320623, 5, [2, 2437, 569003]⟩,
  ⟨72106336199, 7, [2, 13, 2773320623]⟩,
  ⟨1919519569386763, 2, [2, 3, 7, 19, 47, 47, 127, 8574133]⟩,
  ⟨31757755568855353, 10, [2, 2, 2, 3, 31, 107, 223, 4153, 430751]⟩,
  ⟨75445702479781427272750846543864801, 7, [2, 2, 2, 2, 2, 3, 3, 5, 5, 75707, 72106336199,
    1919519569386763]⟩,
  ⟨74058212732561358302231226437062788676166966415465897661863160754340907, 2, [2, 3, 353, 57467,
    132049, 1923133, 31757755568855353, 75445702479781427272750846543864801]⟩]

set_option maxRecDepth 100000 in
lemma prime_p25519 : p25519.Prime :=
  Primality.prime_of_certificate (o := ⟨2 ^ 255 - 19, 2, [2, 2, 3, 65147,
    74058212732561358302231226437062788676166966415465897661863160754340907]⟩)
    (show Primality.certificate [] (certificate25519 ++ [_]) = true by decide +kernel)

instance : Fact p25519.Prime := ⟨prime_p25519⟩

/-- The limbs of a value of the field, none above the bound. -/
structure Fe.Rep (bound : ℕ) (f : Fe) (x : F25519) : Prop where
  within : f.Within bound
  value : (f.eval : F25519) = x

lemma Fe.Rep.mono {a b : ℕ} {f : Fe} {x : F25519} (h : f.Rep a x) (hab : a ≤ b) : f.Rep b x :=
  ⟨⟨h.within.v0.trans hab, h.within.v1.trans hab, h.within.v2.trans hab, h.within.v3.trans hab,
    h.within.v4.trans hab⟩, h.value⟩

lemma two_pow_255 : (2 : F25519) ^ 255 = 19 := by
  have h : ((2 ^ 255 - 19 : ℕ) : F25519) = 0 := ZMod.natCast_self _
  have h' : (2 : F25519) ^ 255 = ((2 ^ 255 - 19 : ℕ) : F25519) + 19 := by
    norm_num
  rw [h', h, zero_add]

lemma cast_eq_of_add {n q t : ℕ} (h : n + q * (2 ^ 255 - 19) = t) : (n : F25519) = t := by
  rw [← h, Nat.cast_add, Nat.cast_mul, ZMod.natCast_self, mul_zero, add_zero]

lemma toNat_mul19 {a : UInt64} (h : a.toNat ≤ 3 * 2 ^ 51) : (a * 0x13).toNat = 19 * a.toNat := by
  rw [toNat_mul64, mul_comm]
  · rfl
  · change a.toNat * 19 < 2 ^ 64
    omega

lemma fiatMulxU64_le {a b : UInt64} {A B : ℕ} (ha : a.toNat ≤ A) (hb : b.toNat ≤ B) :
    (fiatMulxU64 a b).toNat ≤ A * B := by
  rw [toNat_fiatMulxU64]
  exact Nat.mul_le_mul ha hb

lemma fiatCarryMul_rep {f g : Fe} {x y : F25519} (hf : f.Rep (3 * 2 ^ 51) x)
    (hg : g.Rep (3 * 2 ^ 51) y) : (fiatCarryMul f g).Rep (2 ^ 51) (x * y) := by
  obtain ⟨⟨hf0, hf1, hf2, hf3, hf4⟩, rfl⟩ := hf
  obtain ⟨⟨hg0, hg1, hg2, hg3, hg4⟩, rfl⟩ := hg
  have hle : ∀ {a b : UInt64}, a.toNat ≤ 3 * 2 ^ 51 → b.toNat ≤ 3 * 2 ^ 51 →
      (fiatMulxU64 a b).toNat ≤ 3 * 2 ^ 51 * (57 * 2 ^ 51) :=
    fun ha hb => fiatMulxU64_le ha (hb.trans (by norm_num))
  have hle19 : ∀ {a b : UInt64}, a.toNat ≤ 3 * 2 ^ 51 → b.toNat ≤ 3 * 2 ^ 51 →
      (fiatMulxU64 a (b * 0x13)).toNat ≤ 3 * 2 ^ 51 * (57 * 2 ^ 51) := by
    intro a b ha hb
    refine fiatMulxU64_le ha ?_
    rw [toNat_mul19 hb]
    omega
  have t0 := toNat_addWide5 (hle hf0 hg0) (hle19 hf1 hg4) (hle19 hf2 hg3) (hle19 hf3 hg2)
    (hle19 hf4 hg1) (by norm_num)
  have t1 := toNat_addWide5 (hle hf0 hg1) (hle hf1 hg0) (hle19 hf2 hg4) (hle19 hf3 hg3)
    (hle19 hf4 hg2) (by norm_num)
  have t2 := toNat_addWide5 (hle hf0 hg2) (hle hf1 hg1) (hle hf2 hg0) (hle19 hf3 hg4)
    (hle19 hf4 hg3) (by norm_num)
  have t3 := toNat_addWide5 (hle hf0 hg3) (hle hf1 hg2) (hle hf2 hg1) (hle hf3 hg0)
    (hle19 hf4 hg4) (by norm_num)
  have t4 := toNat_addWide5 (fiatMulxU64_le hf0 hg4) (fiatMulxU64_le hf1 hg3)
    (fiatMulxU64_le hf2 hg2) (fiatMulxU64_le hf3 hg1) (fiatMulxU64_le hf4 hg0) (by norm_num)
  obtain ⟨hwithin, q, hq⟩ := fiatCarryWide_spec (f := id) (B := 46 * 2 ^ 51)
    (t0.2.trans_lt (by norm_num)) (t1.2.trans_lt (by norm_num)) (t2.2.trans_lt (by norm_num))
    (t3.2.trans_lt (by norm_num)) ((Nat.add_le_add_right t4.2 _).trans (by norm_num))
    (by norm_num) (fun _ _ => rfl)
  refine ⟨hwithin, (cast_eq_of_add hq).trans ?_⟩
  rw [t0.1, t1.1, t2.1, t3.1, t4.1]
  simp only [toNat_fiatMulxU64, toNat_mul19 hg1, toNat_mul19 hg2, toNat_mul19 hg3, toNat_mul19 hg4,
    Fe.eval]
  push_cast
  generalize (f.v0.toNat : F25519) = a0, (f.v1.toNat : F25519) = a1, (f.v2.toNat : F25519) = a2,
    (f.v3.toNat : F25519) = a3, (f.v4.toNat : F25519) = a4, (g.v0.toNat : F25519) = b0,
    (g.v1.toNat : F25519) = b1, (g.v2.toNat : F25519) = b2, (g.v3.toNat : F25519) = b3,
    (g.v4.toNat : F25519) = b4
  linear_combination (-(a1 * b4 + a2 * b3 + a3 * b2 + a4 * b1 +
    2 ^ 51 * (a2 * b4 + a3 * b3 + a4 * b2) + 2 ^ 102 * (a3 * b4 + a4 * b3) +
      2 ^ 153 * (a4 * b4))) * two_pow_255

lemma fiatCarrySquare_rep {f : Fe} {x : F25519} (hf : f.Rep (3 * 2 ^ 51) x) :
    (fiatCarrySquare f).Rep (2 ^ 51) (x * x) := by
  obtain ⟨⟨hf0, hf1, hf2, hf3, hf4⟩, rfl⟩ := hf
  have h2 : ∀ {a : UInt64} {A : ℕ}, a.toNat ≤ A → A ≤ 57 * 2 ^ 51 →
      (a * 2).toNat = 2 * a.toNat := by
    intro a A ha hA
    rw [toNat_mul64, mul_comm]
    · rfl
    · change a.toNat * 2 < 2 ^ 64
      omega
  have e1 := toNat_mul19 hf4
  have e4 := toNat_mul19 hf3
  have e2 := h2 (a := f.v4 * 0x13) (A := 57 * 2 ^ 51) (by omega) le_rfl
  have e5 := h2 (a := f.v3 * 0x13) (A := 57 * 2 ^ 51) (by omega) le_rfl
  have e3 := h2 hf4 (by norm_num)
  have e6 := h2 hf3 (by norm_num)
  have e7 := h2 hf2 (by norm_num)
  have e8 := h2 hf1 (by norm_num)
  have hle : ∀ {a b : UInt64}, a.toNat ≤ 3 * 2 ^ 51 → b.toNat ≤ 114 * 2 ^ 51 →
      (fiatMulxU64 a b).toNat ≤ 3 * 2 ^ 51 * (114 * 2 ^ 51) := fun ha hb => fiatMulxU64_le ha hb
  have t0 := toNat_addWide3 (hle hf0 (b := f.v0) (by omega)) (hle hf1 (b := f.v4 * 0x13 * 2)
    (by omega)) (hle hf2 (b := f.v3 * 0x13 * 2) (by omega)) (by norm_num)
  have t1 := toNat_addWide3 (hle hf0 (b := f.v1 * 2) (by omega)) (hle hf2 (b := f.v4 * 0x13 * 2)
    (by omega)) (hle hf3 (b := f.v3 * 0x13) (by omega)) (by norm_num)
  have t2 := toNat_addWide3 (hle hf0 (b := f.v2 * 2) (by omega)) (hle hf1 (b := f.v1)
    (by omega)) (hle hf3 (b := f.v4 * 0x13 * 2) (by omega)) (by norm_num)
  have t3 := toNat_addWide3 (hle hf0 (b := f.v3 * 2) (by omega)) (hle hf1 (b := f.v2 * 2)
    (by omega)) (hle hf4 (b := f.v4 * 0x13) (by omega)) (by norm_num)
  have hle4 : ∀ {a b : UInt64}, a.toNat ≤ 3 * 2 ^ 51 → b.toNat ≤ 6 * 2 ^ 51 →
      (fiatMulxU64 a b).toNat ≤ 3 * 2 ^ 51 * (6 * 2 ^ 51) := fun ha hb => fiatMulxU64_le ha hb
  have t4 := toNat_addWide3 (hle4 hf0 (b := f.v4 * 2) (by omega)) (hle4 hf1 (b := f.v3 * 2)
    (by omega)) (hle4 hf2 (b := f.v2) (by omega)) (by norm_num)
  obtain ⟨hwithin, q, hq⟩ := fiatCarryWide_spec (f := id) (B := 55 * 2 ^ 51)
    (t0.2.trans_lt (by norm_num)) (t1.2.trans_lt (by norm_num)) (t2.2.trans_lt (by norm_num))
    (t3.2.trans_lt (by norm_num)) ((Nat.add_le_add_right t4.2 _).trans (by norm_num))
    (by norm_num) (fun _ _ => rfl)
  refine ⟨hwithin, (cast_eq_of_add hq).trans ?_⟩
  rw [t0.1, t1.1, t2.1, t3.1, t4.1]
  simp only [toNat_fiatMulxU64, e1, e2, e3, e4, e5, e6, e7, e8, Fe.eval]
  push_cast
  generalize (f.v0.toNat : F25519) = a0, (f.v1.toNat : F25519) = a1, (f.v2.toNat : F25519) = a2,
    (f.v3.toNat : F25519) = a3, (f.v4.toNat : F25519) = a4
  linear_combination (-(2 * (a1 * a4) + 2 * (a2 * a3) + 2 ^ 51 * (2 * (a2 * a4) + a3 * a3) +
    2 ^ 102 * (2 * (a3 * a4)) + 2 ^ 153 * (a4 * a4))) * two_pow_255

lemma fiatCarryScmul121666_rep {f : Fe} {x : F25519} (hf : f.Rep (3 * 2 ^ 51) x) :
    (fiatCarryScmul121666 f).Rep (2 ^ 51) (121666 * x) := by
  obtain ⟨⟨hf0, hf1, hf2, hf3, hf4⟩, rfl⟩ := hf
  have t : ∀ a : UInt64, (fiatMulxU64 0x1db42 a).toNat = 121666 * a.toNat :=
    fun a => toNat_fiatMulxU64 _ a
  have hfirst : ∀ x : UInt64, x.toNat ≤ (19 * 2 ^ 22 + 2 ^ 51) / 2 ^ 51 →
      (fiatUint1 x).toNat = x.toNat :=
    fun x hx => toNat_fiatUint1 (by omega)
  have hlt : ∀ {a : UInt64}, a.toNat ≤ 3 * 2 ^ 51 → (fiatMulxU64 0x1db42 a).toNat < 2 ^ 113 := by
    intro a ha
    rw [t]
    omega
  obtain ⟨hwithin, q, hq⟩ := fiatCarryWide_spec (B := 2 ^ 22) (hlt hf0) (hlt hf1) (hlt hf2)
    (hlt hf3) (show (fiatMulxU64 0x1db42 f.v4).toNat + 2 ^ 63 ≤ 2 ^ 51 * 2 ^ 22 by rw [t]; omega)
    (by norm_num) hfirst
  refine ⟨hwithin, (cast_eq_of_add hq).trans ?_⟩
  simp only [t, Fe.eval]
  push_cast
  ring

lemma fiatCarry_rep {f : Fe} {x : F25519} (hf : f.Rep (3 * 2 ^ 51) x) :
    (fiatCarry f).Rep (2 ^ 51) x := by
  obtain ⟨⟨hf0, hf1, hf2, hf3, hf4⟩, rfl⟩ := hf
  have hadd : ∀ {a b : UInt64}, b.toNat ≤ 3 * 2 ^ 51 →
      ((a >>> 51) + b).toNat = a.toNat / 2 ^ 51 + b.toNat := by
    intro a b hb
    have := a.toNat_lt
    rw [toNat_add64, toNat_high51]
    rw [toNat_high51]
    omega
  have h2 := hadd (a := f.v0) hf1
  simp only [fiatCarry]
  generalize (f.v0 >>> 51) + f.v1 = x2 at *
  have h3 := hadd (a := x2) hf2
  generalize (x2 >>> 51) + f.v2 = x3 at *
  have h4 := hadd (a := x3) hf3
  generalize (x3 >>> 51) + f.v3 = x4 at *
  have h5 := hadd (a := x4) hf4
  generalize (x4 >>> 51) + f.v4 = x5 at *
  have hq := toNat_high51 x5
  have h19 := toNat_mul19 (a := x5 >>> 51) (by rw [hq]; omega)
  have h6 : ((f.v0 &&& (0x7ffffffffffff : UInt64)) + (x5 >>> 51) * 0x13).toNat =
      f.v0.toNat % 2 ^ 51 + 19 * (x5.toNat / 2 ^ 51) := by
    rw [toNat_add64, h19, hq, toNat_low51]
    rw [h19, hq, toNat_low51]
    omega
  generalize (f.v0 &&& (0x7ffffffffffff : UInt64)) + (x5 >>> 51) * 0x13 = x6 at *
  have hcar : ∀ {a : UInt64}, a.toNat ≤ 2 ^ 52 →
      (fiatUint1 (a >>> 51)).toNat = a.toNat / 2 ^ 51 := by
    intro a ha
    rw [toNat_fiatUint1, toNat_high51]
    rw [toNat_high51]
    omega
  have hlow : ∀ {a b : UInt64}, a.toNat ≤ 2 ^ 52 →
      (fiatUint1 (a >>> 51) + (b &&& 0x7ffffffffffff)).toNat =
        a.toNat / 2 ^ 51 + b.toNat % 2 ^ 51 := by
    intro a b ha
    rw [toNat_add64, hcar ha, toNat_low51]
    rw [hcar ha, toNat_low51]
    omega
  have h7 := hlow (a := x6) (b := x2) (by omega)
  generalize fiatUint1 (x6 >>> 51) + (x2 &&& 0x7ffffffffffff) = x7 at *
  have h8 := hlow (a := x7) (b := x3) (by omega)
  have hv0 := toNat_low51 x6
  have hv1 := toNat_low51 x7
  have hv3 := toNat_low51 x4
  have hv4 := toNat_low51 x5
  refine ⟨⟨?_, ?_, ?_, ?_, ?_⟩, cast_eq_of_add (q := x5.toNat / 2 ^ 51) ?_⟩ <;>
    simp only [Fe.eval, hv0, hv1, h8, hv3, hv4] <;> omega

lemma fiatAdd_rep {f g : Fe} {x y : F25519} (hf : f.Rep (2 ^ 51) x) (hg : g.Rep (2 ^ 51) y) :
    (fiatAdd f g).Rep (3 * 2 ^ 51) (x + y) := by
  obtain ⟨⟨hf0, hf1, hf2, hf3, hf4⟩, rfl⟩ := hf
  obtain ⟨⟨hg0, hg1, hg2, hg3, hg4⟩, rfl⟩ := hg
  have h : ∀ {a b : UInt64}, a.toNat ≤ 2 ^ 51 → b.toNat ≤ 2 ^ 51 →
      (a + b).toNat = a.toNat + b.toNat := fun ha hb => toNat_add64 (by omega)
  have h0 := h hf0 hg0
  have h1 := h hf1 hg1
  have h2 := h hf2 hg2
  have h3 := h hf3 hg3
  have h4 := h hf4 hg4
  refine ⟨⟨?_, ?_, ?_, ?_, ?_⟩, ?_⟩
  rotate_right
  · simp only [fiatAdd, Fe.eval, h0, h1, h2, h3, h4]
    push_cast
    ring
  all_goals simp only [fiatAdd, h0, h1, h2, h3, h4]; omega

/-- Twice the modulus is added before the limbs are subtracted, so that none is negative. -/
lemma fiatSub_rep {f g : Fe} {x y : F25519} (hf : f.Rep (2 ^ 51) x) (hg : g.Rep (2 ^ 51) y) :
    (fiatSub f g).Rep (3 * 2 ^ 51) (x - y) := by
  obtain ⟨⟨hf0, hf1, hf2, hf3, hf4⟩, rfl⟩ := hf
  obtain ⟨⟨hg0, hg1, hg2, hg3, hg4⟩, rfl⟩ := hg
  have h : ∀ {c a b : UInt64}, 2 ^ 51 ≤ c.toNat → c.toNat ≤ 2 ^ 52 → a.toNat ≤ 2 ^ 51 →
      b.toNat ≤ 2 ^ 51 → (c + a - b).toNat = c.toNat + a.toNat - b.toNat := by
    intro c a b hc hc' ha hb
    rw [toNat_sub64, toNat_add64 (by omega)]
    rw [toNat_add64 (by omega)]
    omega
  have hd : (0xfffffffffffda : UInt64).toNat = 2 * (2 ^ 51 - 19) := rfl
  have he : (0xffffffffffffe : UInt64).toNat = 2 * (2 ^ 51 - 1) := rfl
  have h0 := h (c := 0xfffffffffffda) (by omega) (by omega) hf0 hg0
  have h1 := h (c := 0xffffffffffffe) (by omega) (by omega) hf1 hg1
  have h2 := h (c := 0xffffffffffffe) (by omega) (by omega) hf2 hg2
  have h3 := h (c := 0xffffffffffffe) (by omega) (by omega) hf3 hg3
  have h4 := h (c := 0xffffffffffffe) (by omega) (by omega) hf4 hg4
  rw [hd] at h0
  rw [he] at h1 h2 h3 h4
  have hsum : (fiatSub f g).eval + g.eval = f.eval + 2 * (2 ^ 255 - 19) := by
    simp only [fiatSub, Fe.eval, h0, h1, h2, h3, h4]
    omega
  refine ⟨⟨?_, ?_, ?_, ?_, ?_⟩, ?_⟩
  rotate_right
  · have hcast := congrArg (Nat.cast (R := F25519)) hsum
    have hp : ((2 ^ 255 - 19 : ℕ) : F25519) = 0 := ZMod.natCast_self _
    rw [Nat.cast_add, Nat.cast_add, Nat.cast_mul, hp, mul_zero, add_zero] at hcast
    exact eq_sub_of_add_eq hcast
  all_goals simp only [fiatSub, h0, h1, h2, h3, h4]; omega

/-- The limbs of a field element that holds a power of `z`. -/
def Fe.IsPow (z : F25519) (n : ℕ) (f : Fe) : Prop := f.Rep (2 ^ 51) (z ^ n)

lemma Fe.IsPow.mul {z : F25519} {a b : ℕ} {f g : Fe} (hf : f.IsPow z a) (hg : g.IsPow z b) :
    (feMul f g).IsPow z (a + b) := by
  have h := fiatCarryMul_rep (hf.mono (by norm_num)) (hg.mono (by norm_num))
  rwa [← pow_add] at h

lemma Fe.IsPow.sqN {z : F25519} {a : ℕ} {f : Fe} (hf : f.IsPow z a) (n : ℕ) :
    (feSqN n f).IsPow z (a * 2 ^ n) := by
  induction n with
  | zero => simpa [feSqN, Nat.repeat] using hf
  | succ n ih =>
    have h := fiatCarrySquare_rep (ih.mono (by norm_num))
    rw [← pow_add, ← mul_two, mul_assoc, ← pow_succ] at h
    exact h

/-- The addition chain of the inversion raises to the power `p25519 - 2`. -/
theorem feInvert_rep {f : Fe} {z : F25519} (hf : f.Rep (3 * 2 ^ 51) z) :
    (feInvert f).Rep (2 ^ 51) z⁻¹ := by
  have hz1 : z = z ^ 1 := (pow_one z).symm
  have t0 : (feSq f).IsPow z 2 := by
    have h := fiatCarrySquare_rep hf
    rwa [← pow_two] at h
  have hmul : ∀ {a : ℕ} {g : Fe}, g.IsPow z a → (feMul f g).IsPow z (1 + a) := by
    intro a g hg
    have h := fiatCarryMul_rep hf (hg.mono (by norm_num))
    rwa [← pow_succ', add_comm] at h
  have t1 := hmul (t0.sqN 2)
  have t0' := t0.mul t1
  have t1a := t1.mul (t0'.sqN 1)
  have t1b := (t1a.sqN 5).mul t1a
  have t2a := (t1b.sqN 10).mul t1b
  have t2b := (t2a.sqN 20).mul t2a
  have t1c := (t2b.sqN 10).mul t1b
  have t2c := (t1c.sqN 50).mul t1c
  have t2d := (t2c.sqN 100).mul t2c
  have t1d := (t2d.sqN 50).mul t1c
  have h := (t1d.sqN 5).mul t0'
  have hinv : z⁻¹ = z ^ (2 ^ 255 - 21) := by
    by_cases hz : z = 0
    · rw [hz, inv_zero, zero_pow (by norm_num)]
    · apply inv_eq_of_mul_eq_one_right
      rw [← pow_succ']
      exact ZMod.pow_card_sub_one_eq_one hz
  rw [hinv]
  exact h

lemma fe0_rep : fe0.Rep (2 ^ 51) 0 :=
  ⟨⟨by decide, by decide, by decide, by decide, by decide⟩, by simp [fe0, Fe.eval]⟩

lemma fe1_rep : fe1.Rep (2 ^ 51) 1 :=
  ⟨⟨by decide, by decide, by decide, by decide, by decide⟩, by simp [fe1, Fe.eval]⟩

lemma xor_and_ones (s t : UInt64) : s ^^^ ((s ^^^ t) &&& (0 - 1)) = t := by
  have h1 : (0 - 1 : UInt64) = -1 := rfl
  rw [h1, UInt64.and_neg_one, ← UInt64.xor_assoc, UInt64.xor_self, UInt64.zero_xor]

lemma feCswap_zero (f g : Fe) : feCswap f g 0 = (f, g) := by
  simp [feCswap]

lemma feCswap_one (f g : Fe) : feCswap f g 1 = (g, f) := by
  have hxor : ∀ s t : UInt64, t ^^^ ((s ^^^ t) &&& (0 - 1)) = s := by
    intro s t
    rw [UInt64.xor_comm s, xor_and_ones]
  simp only [feCswap, xor_and_ones, hxor]

end Enchat
