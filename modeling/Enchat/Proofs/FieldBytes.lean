import Enchat.Library.LittleEndian
import Enchat.Proofs.Field25519

/-!
# Field elements and their bytes

The bytes of a field element are those of its least representative, and the limbs read from bytes
are those of their value without the highest bit.
-/

namespace Enchat

/-- The arithmetic shift of a difference that did not get below zero. -/
lemma sar51_nonneg {x : UInt64} (h : x.toNat < 2 ^ 51) : (x.toInt64 >>> 51).toUInt64 = 0 := by
  have hx : x.toBitVec.toInt = (x.toNat : Int) := by
    rw [BitVec.toInt_eq_toNat_cond, if_pos (by change 2 * x.toNat < 2 ^ 64; omega)]
    rfl
  apply UInt64.toBitVec_inj.mp
  apply BitVec.eq_of_toInt_eq
  change (x.toBitVec.sshiftRight 51).toInt = 0
  rw [BitVec.toInt_sshiftRight, hx, Int.shiftRight_eq_div_pow]
  omega

/-- The arithmetic shift of a difference below zero, which is at most `2 ^ 51` below. -/
lemma sar51_neg {x : UInt64} (h : 2 ^ 64 - 2 ^ 51 ≤ x.toNat) :
    (x.toInt64 >>> 51).toUInt64 = 0 - 1 := by
  have hx : x.toBitVec.toInt = (x.toNat : Int) - 2 ^ 64 := by
    rw [BitVec.toInt_eq_toNat_cond, if_neg (by change ¬ 2 * x.toNat < 2 ^ 64; omega)]
    rfl
  apply UInt64.toBitVec_inj.mp
  apply BitVec.eq_of_toInt_eq
  change (x.toBitVec.sshiftRight 51).toInt = -1
  rw [BitVec.toInt_sshiftRight, hx, Int.shiftRight_eq_div_pow]
  have := x.toNat_lt
  omega

lemma fiatSubborrowxU51_spec {c a b : UInt64} (hc : c.toNat ≤ 1) (ha : a.toNat ≤ 2 ^ 51)
    (hb : b.toNat < 2 ^ 51) (hpos : 0 < b.toNat) :
    (fiatSubborrowxU51 c a b).1.toNat + c.toNat + b.toNat =
        a.toNat + 2 ^ 51 * (fiatSubborrowxU51 c a b).2.toNat ∧
      (fiatSubborrowxU51 c a b).1.toNat < 2 ^ 51 ∧ (fiatSubborrowxU51 c a b).2.toNat ≤ 1 := by
  have hx : (a - c - b).toNat = (2 ^ 64 + a.toNat - c.toNat - b.toNat) % 2 ^ 64 := by
    have := a.toNat_lt
    rw [UInt64.toNat_sub, UInt64.toNat_sub]
    omega
  have hlow := toNat_low51 (a - c - b)
  simp only [fiatSubborrowxU51, hlow]
  by_cases hle : c.toNat + b.toNat ≤ a.toNat
  · have hborrow : (fiatUint1 (0 - 0)).toNat = 0 := rfl
    rw [sar51_nonneg (by omega), hborrow]
    omega
  · have hborrow : (fiatUint1 (0 - (0 - 1))).toNat = 1 := rfl
    rw [sar51_neg (by omega), hborrow]
    omega

lemma fiatAddcarryxU51_spec {c a b : UInt64} (hc : c.toNat ≤ 1) (ha : a.toNat < 2 ^ 51)
    (hb : b.toNat < 2 ^ 51) :
    (fiatAddcarryxU51 c a b).1.toNat + 2 ^ 51 * (fiatAddcarryxU51 c a b).2.toNat =
        c.toNat + a.toNat + b.toNat ∧
      (fiatAddcarryxU51 c a b).1.toNat < 2 ^ 51 ∧ (fiatAddcarryxU51 c a b).2.toNat ≤ 1 := by
  have hsum : (c + a + b).toNat = c.toNat + a.toNat + b.toNat := by
    rw [toNat_add64, toNat_add64 (by omega)]
    rw [toNat_add64 (by omega)]
    omega
  have hlow := toNat_low51 (c + a + b)
  have hhigh : (fiatUint1 ((c + a + b) >>> 51)).toNat = (c + a + b).toNat / 2 ^ 51 := by
    rw [toNat_fiatUint1, toNat_high51]
    rw [toNat_high51]
    omega
  simp only [fiatAddcarryxU51, hlow, hhigh, hsum]
  omega

lemma fiatCmovznzU64_zero (a b : UInt64) : fiatCmovznzU64 0 a b = a := by
  simp [fiatCmovznzU64]

lemma fiatCmovznzU64_one (a b : UInt64) : fiatCmovznzU64 1 a b = b := by
  have h1 : (0 - 1 : UInt64) = -1 := rfl
  have h2 : ~~~(-1 : UInt64) = 0 := rfl
  simp [fiatCmovznzU64, h1, h2]

lemma Fe.eval_lt {f : Fe} (h0 : f.v0.toNat < 2 ^ 51) (h1 : f.v1.toNat < 2 ^ 51)
    (h2 : f.v2.toNat < 2 ^ 51) (h3 : f.v3.toNat < 2 ^ 51) (h4 : f.v4.toNat < 2 ^ 51) :
    f.eval < 2 ^ 255 := by
  rw [Fe.eval]
  omega

/-- A difference with the modulus, to which the modulus is added again after a borrow. -/
lemma eq_mod_of_borrow {n d r b c : ℕ} (hb : b ≤ 1)
    (hsub : d + p25519 = n + 2 ^ 255 * b) (hadd : r + 2 ^ 255 * c = d + b * p25519)
    (hd : d < 2 ^ 255) (hr : r < 2 ^ 255) (hn : n < 2 * p25519) : r = n % p25519 := by
  have hp : p25519 < 2 ^ 255 := by norm_num
  rcases Nat.le_one_iff_eq_zero_or_eq_one.mp hb with rfl | rfl
  · have hle : p25519 ≤ n := by omega
    rw [Nat.mod_eq_sub_mod hle, Nat.mod_eq_of_lt (by omega)]
    omega
  · rw [Nat.mod_eq_of_lt (by omega)]
    omega

/-- The modulus is subtracted once, which is enough for limbs up to `2 ^ 51`. -/
lemma fiatFreeze_spec {f : Fe} (hf : f.Within (2 ^ 51)) :
    (fiatFreeze f).Within (2 ^ 51 - 1) ∧ (fiatFreeze f).eval = f.eval % p25519 := by
  obtain ⟨hf0, hf1, hf2, hf3, hf4⟩ := hf
  obtain ⟨e0, l0, b0⟩ := fiatSubborrowxU51_spec (c := 0) (b := 0x7ffffffffffed) (by decide) hf0
    (by decide) (by decide)
  obtain ⟨e1, l1, b1⟩ := fiatSubborrowxU51_spec (b := 0x7ffffffffffff) b0 hf1 (by decide)
    (by decide)
  obtain ⟨e2, l2, b2⟩ := fiatSubborrowxU51_spec (b := 0x7ffffffffffff) b1 hf2 (by decide)
    (by decide)
  obtain ⟨e3, l3, b3⟩ := fiatSubborrowxU51_spec (b := 0x7ffffffffffff) b2 hf3 (by decide)
    (by decide)
  obtain ⟨e4, l4, b4⟩ := fiatSubborrowxU51_spec (b := 0x7ffffffffffff) b3 hf4 (by decide)
    (by decide)
  simp only [fiatFreeze]
  generalize fiatSubborrowxU51 0 f.v0 0x7ffffffffffed = s0 at *
  generalize fiatSubborrowxU51 s0.2 f.v1 0x7ffffffffffff = s1 at *
  generalize fiatSubborrowxU51 s1.2 f.v2 0x7ffffffffffff = s2 at *
  generalize fiatSubborrowxU51 s2.2 f.v3 0x7ffffffffffff = s3 at *
  generalize fiatSubborrowxU51 s3.2 f.v4 0x7ffffffffffff = s4 at *
  -- the mask is all zeros or all ones, so that the borrow times the modulus is added
  have hmask : ∀ c : UInt64, (fiatCmovznzU64 s4.2 0 0xffffffffffffffff &&& c).toNat =
      s4.2.toNat * c.toNat := by
    intro c
    rcases Nat.le_one_iff_eq_zero_or_eq_one.mp b4 with h | h
    · have h0 : s4.2 = 0 := UInt64.toNat_inj.mp h
      simp [h0, fiatCmovznzU64_zero]
    · have h1 : s4.2 = 1 := UInt64.toNat_inj.mp h
      have hones : (0xffffffffffffffff : UInt64) = -1 := rfl
      simp [h1, fiatCmovznzU64_one, hones]
  have hmask0 := hmask 0x7ffffffffffed
  have hmask1 := hmask 0x7ffffffffffff
  rw [show (0x7ffffffffffed : UInt64).toNat = 2 ^ 51 - 19 from rfl] at hmask0 e0
  rw [show (0x7ffffffffffff : UInt64).toNat = 2 ^ 51 - 1 from rfl] at hmask1 e1 e2 e3 e4
  generalize fiatCmovznzU64 s4.2 0 0xffffffffffffffff &&& 0x7ffffffffffed = m0 at *
  generalize fiatCmovznzU64 s4.2 0 0xffffffffffffffff &&& 0x7ffffffffffff = m1 at *
  have hm0 : m0.toNat < 2 ^ 51 :=
    hmask0.trans_lt ((Nat.mul_le_mul_right _ b4).trans_lt (by norm_num))
  have hm1 : m1.toNat < 2 ^ 51 :=
    hmask1.trans_lt ((Nat.mul_le_mul_right _ b4).trans_lt (by norm_num))
  obtain ⟨g0, k0, d0⟩ := fiatAddcarryxU51_spec (c := 0) (by decide) l0 hm0
  obtain ⟨g1, k1, d1⟩ := fiatAddcarryxU51_spec d0 l1 hm1
  obtain ⟨g2, k2, d2⟩ := fiatAddcarryxU51_spec d1 l2 hm1
  obtain ⟨g3, k3, d3⟩ := fiatAddcarryxU51_spec d2 l3 hm1
  obtain ⟨g4, k4, d4⟩ := fiatAddcarryxU51_spec d3 l4 hm1
  generalize fiatAddcarryxU51 0 s0.1 m0 = c0 at *
  generalize fiatAddcarryxU51 c0.2 s1.1 m1 = c1 at *
  generalize fiatAddcarryxU51 c1.2 s2.1 m1 = c2 at *
  generalize fiatAddcarryxU51 c2.2 s3.1 m1 = c3 at *
  generalize fiatAddcarryxU51 c3.2 s4.1 m1 = c4 at *
  rw [UInt64.toNat_zero] at e0 g0
  have hsub : (Fe.mk s0.1 s1.1 s2.1 s3.1 s4.1).eval + p25519 = f.eval + 2 ^ 255 * s4.2.toNat := by
    simp only [Fe.eval, p25519, Nat.reducePow, Nat.reduceSub] at e0 e1 e2 e3 e4 ⊢
    linarith only [e0, e1, e2, e3, e4]
  have hadd : (Fe.mk c0.1 c1.1 c2.1 c3.1 c4.1).eval + 2 ^ 255 * c4.2.toNat =
      (Fe.mk s0.1 s1.1 s2.1 s3.1 s4.1).eval + s4.2.toNat * p25519 := by
    simp only [Fe.eval, p25519, Nat.reducePow, Nat.reduceSub] at hmask0 hmask1 g0 g1 g2 g3 g4 ⊢
    linarith only [g0, g1, g2, g3, g4, hmask0, hmask1]
  have hlt := Fe.eval_lt (f := ⟨c0.1, c1.1, c2.1, c3.1, c4.1⟩) k0 k1 k2 k3 k4
  have hlt' := Fe.eval_lt (f := ⟨s0.1, s1.1, s2.1, s3.1, s4.1⟩) l0 l1 l2 l3 l4
  have hN : f.eval < 2 * p25519 := by
    simp only [Fe.eval, p25519, Nat.reducePow, Nat.reduceSub] at hf0 hf1 hf2 hf3 hf4 ⊢
    linarith only [hf0, hf1, hf2, hf3, hf4]
  refine ⟨⟨Nat.le_sub_one_of_lt k0, Nat.le_sub_one_of_lt k1, Nat.le_sub_one_of_lt k2,
    Nat.le_sub_one_of_lt k3, Nat.le_sub_one_of_lt k4⟩, ?_⟩
  exact eq_mod_of_borrow b4 hsub hadd hlt' hlt hN

lemma shiftOutBytes_spec (n : ℕ) (x : UInt64) :
    (shiftOutBytes n x).1 = LittleEndian.bytes n x.toNat ∧
      (shiftOutBytes n x).2.toNat = x.toNat / 256 ^ n := by
  induction n generalizing x with
  | zero => simp [shiftOutBytes, LittleEndian.bytes]
  | succ n ih =>
    have hx : (x >>> 8).toNat = x.toNat / 256 := by
      rw [UInt64.toNat_shiftRight]
      exact Nat.shiftRight_eq_div_pow x.toNat 8
    have hbyte : (x &&& 0xff).toUInt8 = UInt8.ofNat x.toNat := by
      apply UInt8.toNat_inj.mp
      rw [UInt64.toNat_toUInt8, UInt64.toNat_and, UInt8.toNat_ofNat']
      change (x.toNat &&& (2 ^ 8 - 1)) % 2 ^ 8 = x.toNat % 2 ^ 8
      rw [Nat.and_two_pow_sub_one_eq_mod, Nat.mod_mod]
    obtain ⟨h1, h2⟩ := ih (x >>> 8)
    rw [hx] at h1 h2
    simp only [shiftOutBytes, LittleEndian.bytes, hbyte, h1, h2, Nat.div_div_eq_div_mul, pow_succ']
    trivial

lemma toNat_shiftLeft64 {x : UInt64} {n : UInt64} (hn : n.toNat < 64)
    (h : x.toNat * 2 ^ n.toNat < 2 ^ 64) : (x <<< n).toNat = x.toNat * 2 ^ n.toNat := by
  rw [UInt64.toNat_shiftLeft, Nat.mod_eq_of_lt hn, Nat.shiftLeft_eq, Nat.mod_eq_of_lt h]

/-- The next limb, moved up by the bits that are left of the last one. -/
lemma toNat_shiftLeft_add {x c n : UInt64} (k : ℕ) (hn : n.toNat = k) (hk : k ≤ 12)
    (hx : x.toNat ≤ 2 ^ 51 - 1) (hc : c.toNat < 256) :
    ((x <<< n) + c.toUInt8.toUInt64).toNat = x.toNat * 2 ^ k + c.toNat := by
  subst hn
  have hpow : 2 ^ n.toNat ≤ 2 ^ 12 := Nat.pow_le_pow_right (by norm_num) hk
  have hle : x.toNat * 2 ^ n.toNat ≤ (2 ^ 51 - 1) * 2 ^ 12 := Nat.mul_le_mul hx hpow
  have hshift := toNat_shiftLeft64 (x := x) (n := n) (by omega) (by omega)
  have hbyte : c.toUInt8.toUInt64.toNat = c.toNat := toNat_fiatUint1 hc
  rw [toNat_add64, hshift, hbyte]
  rw [hshift, hbyte]
  omega

/-- The bytes of a field element are those of its least representative. -/
theorem feTobytes_eq {f : Fe} {x : F25519} (hf : f.Rep (2 ^ 51) x) :
    feTobytes f = LittleEndian.bytes 32 x.val := by
  obtain ⟨hwithin, hval⟩ := fiatFreeze_spec hf.within
  have hx : x.val = (fiatFreeze f).eval := by
    rw [hval, ← hf.value, ZMod.val_natCast]
  obtain ⟨l0, l1, l2, l3, l4⟩ := hwithin
  rw [hx, feTobytes, fiatToBytes]
  generalize fiatFreeze f = y at *
  obtain ⟨b0, r0⟩ := shiftOutBytes_spec 6 y.v0
  generalize shiftOutBytes 6 y.v0 = s0 at *
  have e1 := toNat_shiftLeft_add (c := s0.2) (n := 3) 3 rfl (by decide) l1 (by omega)
  generalize (y.v1 <<< 3) + s0.2.toUInt8.toUInt64 = x1 at *
  obtain ⟨b1, r1⟩ := shiftOutBytes_spec 6 x1
  generalize shiftOutBytes 6 x1 = s1 at *
  have e2 := toNat_shiftLeft_add (c := s1.2) (n := 6) 6 rfl (by decide) l2 (by omega)
  generalize (y.v2 <<< 6) + s1.2.toUInt8.toUInt64 = x2 at *
  obtain ⟨b2, r2⟩ := shiftOutBytes_spec 7 x2
  generalize shiftOutBytes 7 x2 = s2 at *
  have e3 : (y.v3 * 2 + fiatUint1 s2.2).toNat = y.v3.toNat * 2 + s2.2.toNat := by
    have h2 : (y.v3 * 2).toNat = y.v3.toNat * 2 := toNat_mul64 (by change _ * 2 < _; omega)
    have hbit := toNat_fiatUint1 (x := s2.2) (by omega)
    rw [toNat_add64, h2, hbit]
    rw [h2, hbit]
    omega
  generalize y.v3 * 2 + fiatUint1 s2.2 = x3 at *
  obtain ⟨b3, r3⟩ := shiftOutBytes_spec 6 x3
  generalize shiftOutBytes 6 x3 = s3 at *
  have e4 := toNat_shiftLeft_add (c := s3.2) (n := 4) 4 rfl (by decide) l4 (by omega)
  generalize (y.v4 <<< 4) + s3.2.toUInt8.toUInt64 = x4 at *
  obtain ⟨b4, r4⟩ := shiftOutBytes_spec 6 x4
  generalize shiftOutBytes 6 x4 = s4 at *
  have hlast : [s4.2.toUInt8] = LittleEndian.bytes 1 (x4.toNat / 256 ^ 6) := by
    rw [← r4]
    rfl
  have a4 : x4.toNat = x3.toNat / 256 ^ 6 + 2 ^ 4 * y.v4.toNat := by omega
  have a3 : x3.toNat = x2.toNat / 256 ^ 7 + 2 * y.v3.toNat := by omega
  have a2 : x2.toNat = x1.toNat / 256 ^ 6 + 2 ^ 6 * y.v2.toNat := by omega
  have a1 : x1.toNat = y.v0.toNat / 256 ^ 6 + 2 ^ 3 * y.v1.toNat := by omega
  -- the lists are joined from the last one on, each time with the bits above it
  calc s0.1 ++ s1.1 ++ s2.1 ++ s3.1 ++ s4.1 ++ [s4.2.toUInt8]
      = LittleEndian.bytes 6 y.v0.toNat ++ (LittleEndian.bytes 6 x1.toNat ++
          (LittleEndian.bytes 7 x2.toNat ++ LittleEndian.bytes 13
            (x3.toNat + 256 ^ 6 * (2 ^ 4 * y.v4.toNat)))) := by
        rw [LittleEndian.bytes_add_mul 6 7, ← a4, LittleEndian.bytes_add 6 1 x4.toNat, hlast, b0,
          b1, b2, b3, b4]
        simp only [List.append_assoc]
    _ = LittleEndian.bytes 6 y.v0.toNat ++ (LittleEndian.bytes 6 x1.toNat ++
          LittleEndian.bytes 20
            (x2.toNat + 256 ^ 7 * (2 * (y.v3.toNat + 2 ^ 51 * y.v4.toNat)))) := by
        rw [LittleEndian.bytes_add_mul 7 13]
        congr 4
        rw [a3]
        ring
    _ = LittleEndian.bytes 6 y.v0.toNat ++ LittleEndian.bytes 26 (x1.toNat + 256 ^ 6 *
          (2 ^ 6 * (y.v2.toNat + 2 ^ 51 * (y.v3.toNat + 2 ^ 51 * y.v4.toNat)))) := by
        rw [LittleEndian.bytes_add_mul 6 20]
        congr 3
        rw [a2]
        ring
    _ = LittleEndian.bytes 32 (y.v0.toNat + 256 ^ 6 * (2 ^ 3 * (y.v1.toNat + 2 ^ 51 *
          (y.v2.toNat + 2 ^ 51 * (y.v3.toNat + 2 ^ 51 * y.v4.toNat))))) := by
        rw [LittleEndian.bytes_add_mul 6 26]
        congr 2
        rw [a1]
        ring
    _ = LittleEndian.bytes 32 y.eval := by
        rw [Fe.eval]
        congr 1
        ring

/-- The bytes of a limb from bit `k` on, over what is left of the limb before it. -/
def placeBytes : ℕ → List UInt8 → UInt64 → UInt64
  | _, [], x => x
  | k, b :: s, x => placeBytes (k + 8) s ((b.toUInt64 <<< UInt64.ofNat k) + x)

lemma toNat_placeBytes {k : ℕ} {s : List UInt8} {x : UInt64} (hk : k + 8 * s.length ≤ 58)
    (hx : x.toNat < 2 ^ k) : (placeBytes k s x).toNat = x.toNat + 2 ^ k * LittleEndian.value s := by
  induction s generalizing k x with
  | nil => simp [placeBytes]
  | cons b s ih =>
    rw [List.length_cons] at hk
    have hn : (UInt64.ofNat k).toNat = k := UInt64.toNat_ofNat_of_lt' (by
      change k < 2 ^ 64
      omega)
    have hb : b.toNat * 2 ^ k ≤ 255 * 2 ^ k :=
      Nat.mul_le_mul_right _ (Nat.le_of_lt_succ b.toNat_lt)
    have hpow : 2 ^ k ≤ 2 ^ 50 := Nat.pow_le_pow_right (by norm_num) (by omega)
    have hshift := toNat_shiftLeft64 (x := b.toUInt64) (n := UInt64.ofNat k) (by omega) (by
      rw [hn, UInt8.toNat_toUInt64]
      omega)
    rw [hn, UInt8.toNat_toUInt64] at hshift
    have hadd : ((b.toUInt64 <<< UInt64.ofNat k) + x).toNat = b.toNat * 2 ^ k + x.toNat := by
      rw [toNat_add64, hshift]
      rw [hshift]
      omega
    rw [placeBytes, ih (by omega) (by rw [hadd, pow_add]; omega), hadd, LittleEndian.value_cons,
      pow_add]
    ring

/-- The five limbs of 32 bytes, of which the last one has seven bits. -/
lemma fiatFromBytes_append {s0 s1 s2 s3 s4 : List UInt8} (h0 : s0.length = 7) (h1 : s1.length = 6)
    (h2 : s2.length = 7) (h3 : s3.length = 6) (h4 : s4.length = 6) :
    let x38 := placeBytes 0 s0 0
    let x46 := placeBytes 5 s1 (fiatUint1 (x38 >>> 51))
    let x55 := placeBytes 2 s2 (fiatUint1 (x46 >>> 51))
    let x63 := placeBytes 7 s3 (fiatUint1 (x55 >>> 51))
    fiatFromBytes (s0 ++ (s1 ++ (s2 ++ (s3 ++ s4)))) =
      { v0 := x38 &&& 0x7ffffffffffff
        v1 := x46 &&& 0x7ffffffffffff
        v2 := x55 &&& 0x7ffffffffffff
        v3 := x63 &&& 0x7ffffffffffff
        v4 := placeBytes 4 s4 (fiatUint1 (x63 >>> 51)) } := by
  match s0, h0, s1, h1, s2, h2, s3, h3, s4, h4 with
  | [b0, b1, b2, b3, b4, b5, b6], _, [b7, b8, b9, b10, b11, b12], _,
      [b13, b14, b15, b16, b17, b18, b19], _, [b20, b21, b22, b23, b24, b25], _,
      [b26, b27, b28, b29, b30, b31], _ =>
    have hzero : b0.toUInt64 <<< 0 = (b0.toUInt64 <<< 0) + 0 := (UInt64.add_zero _).symm
    simp only [fiatFromBytes, List.cons_append, List.nil_append, List.getD_cons_succ,
      List.getD_cons_zero]
    rw [hzero]
    rfl

lemma exists_append {s : List UInt8} {n k : ℕ} (h : s.length = n + k) :
    ∃ a b, a.length = n ∧ b.length = k ∧ s = a ++ b :=
  ⟨s.take n, s.drop n, by simp [h], by simp [h], (List.take_append_drop n s).symm⟩

lemma fiatFromBytes_spec {s : List UInt8} (hlen : s.length = 32)
    (htop : LittleEndian.value s < 2 ^ 255) :
    (fiatFromBytes s).Within (2 ^ 51) ∧ (fiatFromBytes s).eval = LittleEndian.value s := by
  obtain ⟨s0, r0, h0, hr0, rfl⟩ := exists_append (n := 7) (k := 25) hlen
  obtain ⟨s1, r1, h1, hr1, rfl⟩ := exists_append (n := 6) (k := 19) hr0
  obtain ⟨s2, r2, h2, hr2, rfl⟩ := exists_append (n := 7) (k := 12) hr1
  obtain ⟨s3, s4, h3, h4, rfl⟩ := exists_append (n := 6) (k := 6) hr2
  simp only [LittleEndian.value_append, h0, h1, h2, h3] at htop ⊢
  rw [fiatFromBytes_append h0 h1 h2 h3 h4]
  have v0 := LittleEndian.value_lt s0
  have v1 := LittleEndian.value_lt s1
  have v2 := LittleEndian.value_lt s2
  have v3 := LittleEndian.value_lt s3
  rw [h0] at v0
  rw [h1] at v1
  rw [h2] at v2
  rw [h3] at v3
  have e0 := toNat_placeBytes (k := 0) (s := s0) (x := 0) (by omega) (by decide)
  rw [UInt64.toNat_zero] at e0
  have hcarry : ∀ {x : UInt64}, x.toNat < 2 ^ 59 →
      (fiatUint1 (x >>> 51)).toNat = x.toNat / 2 ^ 51 := by
    intro x hx
    rw [toNat_fiatUint1, toNat_high51]
    rw [toNat_high51]
    omega
  generalize placeBytes 0 s0 0 = x38 at *
  have c0 := hcarry (x := x38) (by omega)
  have e1 := toNat_placeBytes (k := 5) (s := s1) (x := fiatUint1 (x38 >>> 51)) (by omega) (by omega)
  generalize placeBytes 5 s1 (fiatUint1 (x38 >>> 51)) = x46 at *
  have c1 := hcarry (x := x46) (by omega)
  have e2 := toNat_placeBytes (k := 2) (s := s2) (x := fiatUint1 (x46 >>> 51)) (by omega) (by omega)
  generalize placeBytes 2 s2 (fiatUint1 (x46 >>> 51)) = x55 at *
  have c2 := hcarry (x := x55) (by omega)
  have e3 := toNat_placeBytes (k := 7) (s := s3) (x := fiatUint1 (x55 >>> 51)) (by omega) (by omega)
  generalize placeBytes 7 s3 (fiatUint1 (x55 >>> 51)) = x63 at *
  have c3 := hcarry (x := x63) (by omega)
  have e4 := toNat_placeBytes (k := 4) (s := s4) (x := fiatUint1 (x63 >>> 51)) (by omega) (by omega)
  generalize placeBytes 4 s4 (fiatUint1 (x63 >>> 51)) = x71 at *
  have l0 := toNat_low51 x38
  have l1 := toNat_low51 x46
  have l2 := toNat_low51 x55
  have l3 := toNat_low51 x63
  refine ⟨⟨?_, ?_, ?_, ?_, ?_⟩, ?_⟩
  rotate_right
  · simp only [Fe.eval, l0, l1, l2, l3, e4, c3]
    omega
  all_goals simp only [l0, l1, l2, l3]; omega

/-- The limbs read from 32 bytes are those of their value without the highest bit. -/
theorem feFrombytes_spec {s : List UInt8} (hlen : s.length = 32) :
    (feFrombytes s).Within (2 ^ 51) ∧
      (feFrombytes s).eval = LittleEndian.value s % 2 ^ 255 := by
  obtain ⟨r, t, hr, ht, rfl⟩ := exists_append (n := 31) (k := 1) hlen
  obtain ⟨b, rfl⟩ := List.length_eq_one_iff.mp ht
  have hv := LittleEndian.value_lt r
  have hb := b.toNat_lt
  have hand : (b &&& 0x7f).toNat = b.toNat % 2 ^ 7 := by
    rw [UInt8.toNat_and]
    exact Nat.and_two_pow_sub_one_eq_mod b.toNat 7
  have hset : (r ++ [b]).set 31 ((r ++ [b]).getD 31 0 &&& 0x7f) = r ++ [b &&& 0x7f] := by
    simp [List.getD, hr]
  have hvalue : LittleEndian.value (r ++ [b &&& 0x7f]) =
      LittleEndian.value (r ++ [b]) % 2 ^ 255 := by
    simp only [LittleEndian.value_append, LittleEndian.value_cons, LittleEndian.value_nil, hr, hand]
    rw [hr] at hv
    omega
  obtain ⟨hwithin, heval⟩ := fiatFromBytes_spec (s := r ++ [b &&& 0x7f]) (by simp [hr])
    (by rw [hvalue]; exact Nat.mod_lt _ (by norm_num))
  rw [feFrombytes, hset]
  exact ⟨hwithin, heval.trans hvalue⟩

lemma feFrombytes_rep {s : List UInt8} (hlen : s.length = 32) :
    (feFrombytes s).Rep (2 ^ 51) ((LittleEndian.value s % 2 ^ 255 : ℕ) : F25519) :=
  ⟨(feFrombytes_spec hlen).1, by rw [(feFrombytes_spec hlen).2]⟩

/-- The bytes that come back are the least representative: the input itself exactly when its value
is below the modulus. -/
theorem feTobytes_feFrombytes {s : List UInt8} (hlen : s.length = 32) :
    feTobytes (feFrombytes s) = LittleEndian.bytes 32 (LittleEndian.value s % 2 ^ 255 % p25519) ∧
      (feTobytes (feFrombytes s) = s ↔ LittleEndian.value s < p25519) := by
  have hbytes := feTobytes_eq (feFrombytes_rep hlen)
  rw [ZMod.val_natCast] at hbytes
  refine ⟨hbytes, ?_⟩
  constructor
  · intro h
    rw [← h, hbytes, LittleEndian.value_bytes]
    have := Nat.mod_lt (LittleEndian.value s % 2 ^ 255) (show 0 < p25519 by norm_num)
    exact (Nat.mod_le _ _).trans_lt this
  · intro h
    have hp : p25519 < 2 ^ 255 := by norm_num
    rw [hbytes, Nat.mod_eq_of_lt (h.trans hp), Nat.mod_eq_of_lt h, ← hlen, LittleEndian.bytes_value]

/-- The modulus itself is read as zero. -/
theorem feTobytes_feFrombytes_modulus :
    feTobytes (feFrombytes (LittleEndian.bytes 32 p25519)) =
        LittleEndian.bytes 32 (LittleEndian.value (LittleEndian.bytes 32 p25519) % 2 ^ 255 % p25519) ∧
      (feTobytes (feFrombytes (LittleEndian.bytes 32 p25519)) = LittleEndian.bytes 32 p25519 ↔
        LittleEndian.value (LittleEndian.bytes 32 p25519) < p25519) :=
  feTobytes_feFrombytes (by rw [LittleEndian.length_bytes])

end Enchat
