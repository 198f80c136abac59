import Enchat.Library.Edwards
import Enchat.Model.Edwards25519
import Enchat.Proofs.X25519

/-!
# Multiples of the base point

The operations on Edwards coordinates keep the point that they stand for, the table holds the
multiples that its comment names, and the public key is the one that the ladder computes.
-/

namespace Enchat

lemma d25519_not_square (r : F25519) :
    r ^ 2 ≠ 37095705934669439343138083508754565189542113879843219016388785533085940283555 := by
  intro h
  have hpow : Primality.powMod p25519
      37095705934669439343138083508754565189542113879843219016388785533085940283555 255
      ((p25519 - 1) / 2) = p25519 - 1 := by decide +kernel
  rw [Primality.powMod_eq _ _ (by norm_num)] at hpow
  have hcast := congrArg (Nat.cast (R := F25519)) hpow
  rw [ZMod.natCast_mod, Nat.cast_pow] at hcast
  have hd : ((37095705934669439343138083508754565189542113879843219016388785533085940283555 : ℕ) :
      F25519) = r ^ 2 := by
    rw [h]
    norm_num
  rw [hd, ← pow_mul] at hcast
  have hr : r ≠ 0 := by
    rintro rfl
    rw [zero_pow two_ne_zero] at h
    revert h
    decide
  have hfermat := ZMod.pow_card_sub_one_eq_one hr
  have hexp : 2 * ((p25519 - 1) / 2) = p25519 - 1 := by norm_num
  rw [hexp, hfermat] at hcast
  revert hcast
  decide

/-- `-x² + y² = 1 + d x² y²` with `d = -121665 / 121666`. -/
def edwards25519 : Edwards.Params F25519 where
  toParams := curve25519
  d := 37095705934669439343138083508754565189542113879843219016388785533085940283555
  i := 19681161376707505956807079304988542015446066515923890162744021073123829784752
  c := 51042569399160536130206135233146329284152202253034631822681833788666877215207
  i_sq := by decide +kernel
  not_square := d25519_not_square
  d_eq := by decide +kernel
  c_sq := by decide +kernel

lemma fiatOpp_rep {f : Fe} {x : F25519} (hf : f.Rep (2 ^ 51) x) :
    (fiatOpp f).Rep (3 * 2 ^ 51) (-x) := by
  have h := fiatSub_rep fe0_rep hf
  rw [zero_sub] at h
  exact h

lemma feSq2_rep {f : Fe} {x : F25519} (hf : f.Rep (2 ^ 51) x) :
    (feSq2 f).Rep (2 ^ 51) (x * x + x * x) := by
  have hsq := fiatCarrySquare_rep (hf.mono (b := 3 * 2 ^ 51) (by norm_num))
  exact fiatCarry_rep (fiatAdd_rep hsq hsq)

open Edwards (Ext Proj Completed Precomp)

def GeP3.Holds (g : GeP3) (P : edwards25519.curve.Point) : Prop :=
  ∃ X Y Z T, (g.X.Rep (2 ^ 51) X ∧ g.Y.Rep (2 ^ 51) Y ∧ g.Z.Rep (2 ^ 51) Z ∧ g.T.Rep (2 ^ 51) T) ∧
    Ext P X Y Z T

def GeP2.Holds (g : GeP2) (P : edwards25519.curve.Point) : Prop :=
  ∃ X Y Z, (g.X.Rep (2 ^ 51) X ∧ g.Y.Rep (2 ^ 51) Y ∧ g.Z.Rep (2 ^ 51) Z) ∧ Proj P X Y Z

def GeP1p1.Holds (g : GeP1p1) (P : edwards25519.curve.Point) : Prop :=
  ∃ X Y Z T, (g.X.Rep (3 * 2 ^ 51) X ∧ g.Y.Rep (3 * 2 ^ 51) Y ∧ g.Z.Rep (3 * 2 ^ 51) Z ∧
    g.T.Rep (3 * 2 ^ 51) T) ∧ Completed P X Y Z T

def GePrecomp.Holds (g : GePrecomp) (P : edwards25519.curve.Point) : Prop :=
  ∃ a b t, (g.yplusx.Rep (3 * 2 ^ 51) a ∧ g.yminusx.Rep (3 * 2 ^ 51) b ∧
    g.xy2d.Rep (3 * 2 ^ 51) t) ∧ Precomp P a b t

lemma geP3Zero_holds : geP3Zero.Holds 0 :=
  ⟨0, 1, 1, 0, ⟨fe0_rep, fe1_rep, fe1_rep, fe0_rep⟩, Edwards.ext_zero⟩

lemma GeP3.Holds.toP2 {g : GeP3} {P : edwards25519.curve.Point} (h : g.Holds P) :
    (geP3ToP2 g).Holds P := by
  obtain ⟨X, Y, Z, T, ⟨hX, hY, hZ, -⟩, hext⟩ := h
  exact ⟨X, Y, Z, ⟨hX, hY, hZ⟩, hext.toProj⟩

lemma GeP1p1.Holds.toP3 {g : GeP1p1} {P : edwards25519.curve.Point} (h : g.Holds P) :
    (geP1p1ToP3 g).Holds P := by
  obtain ⟨X, Y, Z, T, ⟨hX, hY, hZ, hT⟩, hc⟩ := h
  exact ⟨_, _, _, _, ⟨fiatCarryMul_rep hX hT, fiatCarryMul_rep hY hZ, fiatCarryMul_rep hZ hT,
    fiatCarryMul_rep hX hY⟩, hc.ext⟩

lemma GeP1p1.Holds.toP2 {g : GeP1p1} {P : edwards25519.curve.Point} (h : g.Holds P) :
    (geP1p1ToP2 g).Holds P := by
  obtain ⟨X, Y, Z, T, ⟨hX, hY, hZ, hT⟩, hc⟩ := h
  exact ⟨_, _, _, ⟨fiatCarryMul_rep hX hT, fiatCarryMul_rep hY hZ, fiatCarryMul_rep hZ hT⟩,
    hc.ext.toProj⟩

lemma GeP2.Holds.dbl {g : GeP2} {P : edwards25519.curve.Point} (h : g.Holds P) :
    (geP2Dbl g).Holds (P + P) := by
  obtain ⟨X, Y, Z, ⟨hX, hY, hZ⟩, hproj⟩ := h
  have hloose : ∀ {f : Fe} {y : F25519}, f.Rep (2 ^ 51) y → f.Rep (3 * 2 ^ 51) y :=
    fun hf => hf.mono (by norm_num)
  have trX := fiatCarrySquare_rep (hloose hX)
  have trZ := fiatCarrySquare_rep (hloose hY)
  have t0 := fiatCarrySquare_rep (fiatAdd_rep hX hY)
  have rY := fiatAdd_rep trZ trX
  have rZ := fiatSub_rep trZ trX
  have rX := fiatSub_rep t0 (fiatCarry_rep rY)
  have rT := fiatSub_rep (feSq2_rep hZ) (fiatCarry_rep rZ)
  have hdbl := hproj.dbl
  simp only [pow_two] at hdbl
  exact ⟨_, _, _, _, ⟨rX, rY, rZ, rT⟩, hdbl⟩

lemma GeP3.Holds.madd {g : GeP3} {q : GePrecomp} {P Q : edwards25519.curve.Point} (h : g.Holds P)
    (hq : q.Holds Q) : (geMadd g q).Holds (P + Q) := by
  obtain ⟨X, Y, Z, T, ⟨hX, hY, hZ, hT⟩, hext⟩ := h
  obtain ⟨a, b, t, ⟨ha, hb, ht⟩, hpre⟩ := hq
  have trZ := fiatCarryMul_rep (fiatAdd_rep hY hX) ha
  have trY := fiatCarryMul_rep (fiatSub_rep hY hX) hb
  have trT := fiatCarryMul_rep ht (hT.mono (by norm_num))
  have trZ' := fiatCarry_rep (fiatAdd_rep hZ hZ)
  exact ⟨_, _, _, _, ⟨fiatSub_rep trZ trY, fiatAdd_rep trZ trY, fiatAdd_rep trZ' trT,
    fiatSub_rep trZ' trT⟩, hext.madd hpre⟩

/-- The entry is prepared from the point. -/
def PrecompEntry.Holds (e : PrecompEntry) (P : edwards25519.curve.Point) : Prop :=
  Precomp P (e.yplusx : F25519) e.yminusx e.xy2d

/-- The third number agrees with the first two. -/
def PrecompEntry.Consistent (e : PrecompEntry) : Prop :=
  (e.xy2d : F25519) + e.xy2d = edwards25519.d * ((e.yplusx : F25519) ^ 2 - (e.yminusx : F25519) ^ 2)

/-- The equations of the sum of two entries. -/
def PrecompEntry.IsSum (e₁ e₂ e : PrecompEntry) : Prop :=
  ((e.yplusx : F25519) - e.yminusx) *
        (8 + e₁.xy2d * ((e₂.yplusx : F25519) ^ 2 - (e₂.yminusx : F25519) ^ 2)) =
      8 * ((e₁.yplusx : F25519) * e₂.yplusx - e₁.yminusx * e₂.yminusx) ∧
    ((e.yplusx : F25519) + e.yminusx) *
        (8 - e₁.xy2d * ((e₂.yplusx : F25519) ^ 2 - (e₂.yminusx : F25519) ^ 2)) =
      8 * ((e₁.yplusx : F25519) * e₂.yplusx + e₁.yminusx * e₂.yminusx)

/-- Doubles projective coordinates `n` times. -/
def doubled : ℕ → F25519 × F25519 × F25519 → F25519 × F25519 × F25519
  | 0, c => c
  | n + 1, (X, Y, Z) =>
    let X' := (X + Y) ^ 2 - (Y ^ 2 + X ^ 2)
    let Y' := Y ^ 2 + X ^ 2
    let Z' := Y ^ 2 - X ^ 2
    let T' := Z ^ 2 + Z ^ 2 - (Y ^ 2 - X ^ 2)
    doubled n (X' * T', Y' * Z', Z' * T')

/-- The equations of `2 ^ n` times an entry. -/
def PrecompEntry.IsDoubled (n : ℕ) (e₁ e : PrecompEntry) : Prop :=
  let c := doubled n ((e₁.yplusx : F25519) - e₁.yminusx, (e₁.yplusx : F25519) + e₁.yminusx, 1 + 1)
  e.yplusx * c.2.2 = c.2.1 + c.1 ∧ e.yminusx * c.2.2 = c.2.1 - c.1

instance (e : PrecompEntry) : Decidable e.Consistent :=
  inferInstanceAs (Decidable (_ = _))

instance (e₁ e₂ e : PrecompEntry) : Decidable (e₁.IsSum e₂ e) :=
  inferInstanceAs (Decidable (_ ∧ _))

instance (n : ℕ) (e₁ e : PrecompEntry) : Decidable (e₁.IsDoubled n e) :=
  inferInstanceAs (Decidable (_ ∧ _))

/-- The entry `j` of the row `pos`. -/
def tableEntry (pos j : ℕ) : PrecompEntry := (k25519Precomp.getD pos []).getD j ⟨0, 0, 0⟩

lemma table_checked :
    (∀ pos < 32, ∀ j < 8, (tableEntry pos j).Consistent ∧ (tableEntry pos j).yplusx < 2 ^ 255 ∧
      (tableEntry pos j).yminusx < 2 ^ 255 ∧ (tableEntry pos j).xy2d < 2 ^ 255) ∧
    (∀ pos < 32, ∀ j < 7, (tableEntry pos 0).IsSum (tableEntry pos j) (tableEntry pos (j + 1))) ∧
    ∀ pos < 31, (tableEntry pos 7).IsDoubled 5 (tableEntry (pos + 1) 0) := by decide +kernel

lemma PrecompEntry.Holds.sum {e₁ e₂ e : PrecompEntry} {P Q : edwards25519.curve.Point}
    (h₁ : e₁.Holds P) (h₂ : e₂.Holds Q) (hsum : e₁.IsSum e₂ e) (he : e.Consistent) :
    e.Holds (P + Q) :=
  Edwards.Precomp.add h₁ h₂ hsum.1 hsum.2 he

lemma proj_doubled {P : edwards25519.curve.Point} {X Y Z : F25519} (n : ℕ) (h : Proj P X Y Z) :
    Proj (2 ^ n • P) (doubled n (X, Y, Z)).1 (doubled n (X, Y, Z)).2.1
      (doubled n (X, Y, Z)).2.2 := by
  induction n generalizing P X Y Z with
  | zero => simpa [doubled] using h
  | succ n ih =>
    have hstep := ih h.dbl.ext.toProj
    rw [← two_nsmul, ← mul_nsmul, ← pow_succ'] at hstep
    exact hstep

lemma PrecompEntry.Holds.doubled {e₁ e : PrecompEntry} {P : edwards25519.curve.Point} {n : ℕ}
    (h : e₁.Holds P) (hdbl : e₁.IsDoubled n e) (he : e.Consistent) : e.Holds (2 ^ n • P) :=
  (proj_doubled n (Edwards.Precomp.proj h)).precomp hdbl.1 hdbl.2 he

/-- The base point of the key agreement. -/
abbrev B : edwards25519.curve.Point := basePoint25519

lemma xOf_B : Edwards.xOf B =
    15112221349535400772501151409588531511454012693041857206046113283949847762202 := by
  have hv : (14781619447589544791020593568409986887264606134616475288964881837755586237401 :
      F25519) ≠ 0 := by decide
  apply mul_right_cancel₀ hv
  refine (Edwards.xOf_mul (p := edwards25519) _).trans ?_
  decide

lemma yOf_B : Edwards.yOf B =
    46316835694926478169428394003475163141307993866256225615783033603165251855960 := by
  have h10 : (9 + 1 : F25519) ≠ 0 := by decide
  apply mul_right_cancel₀ h10
  refine (Edwards.yOf_mul (p := edwards25519) _).trans ?_
  decide

lemma first_entry : (tableEntry 0 0).Holds B := by
  refine ⟨?_, ?_, ?_⟩ <;> rw [xOf_B, yOf_B] <;> decide

lemma row_holds {pos : ℕ} (hpos : pos < 32) {P : edwards25519.curve.Point}
    (hP : (tableEntry pos 0).Holds P) {j : ℕ} (hj : j < 8) :
    (tableEntry pos j).Holds ((j + 1) • P) := by
  induction j with
  | zero => simpa using hP
  | succ j ih =>
    have hsum := hP.sum (ih (by omega)) (table_checked.2.1 pos hpos j (by omega))
      (table_checked.1 pos hpos (j + 1) hj).1
    rwa [← succ_nsmul'] at hsum

lemma first_holds {pos : ℕ} (hpos : pos < 32) : (tableEntry pos 0).Holds (256 ^ pos • B) := by
  induction pos with
  | zero => simpa using first_entry
  | succ pos ih =>
    have hlast := row_holds (by omega) (ih (by omega)) (j := 7) (by norm_num)
    have hnext := hlast.doubled (table_checked.2.2 pos (by omega))
      (table_checked.1 (pos + 1) hpos 0 (by norm_num)).1
    have hexp : 256 ^ pos * ((7 + 1) * 2 ^ 5) = 256 ^ (pos + 1) := by ring
    rwa [← mul_nsmul, ← mul_nsmul, hexp] at hnext

/-- Every entry is prepared from the point that the comment of the table names. -/
theorem table_holds {pos j : ℕ} (hpos : pos < 32) (hj : j < 8) :
    (tableEntry pos j).Holds (((j + 1) * 256 ^ pos) • B) := by
  rw [mul_nsmul']
  exact row_holds hpos (first_holds hpos) hj

lemma constantTimeEqW_small : ∀ k ≤ 8, ∀ i < 8,
    constantTimeEqW (UInt8.ofNat k).toUInt64 (UInt64.ofNat (1 + i)) =
      if k = i + 1 then 0 - 1 else 0 := by decide

lemma memxor_zero {t s : List UInt8} (h : t.length = s.length) :
    constantTimeConditionalMemxor t s 0 = t := by
  unfold constantTimeConditionalMemxor
  induction t generalizing s with
  | nil => rfl
  | cons b t ih =>
    cases s with
    | nil => simp at h
    | cons c s =>
      have hrest := ih (s := s) (by simpa using h)
      simp only [List.zipWith_cons_cons, hrest]
      simp

lemma memxor_ones (s : List UInt8) :
    constantTimeConditionalMemxor (List.replicate s.length 0) s (0 - 1) = s := by
  unfold constantTimeConditionalMemxor
  induction s with
  | nil => rfl
  | cons c s ih =>
    have hmask : ((0 - 1 : UInt64)).toUInt8 = -1 := rfl
    rw [List.length_cons, List.replicate_succ, List.zipWith_cons_cons, ih, hmask]
    simp

/-- The row is searched for the entry `k - 1`. -/
lemma selectBytes_fold (field : PrecompEntry → ℕ) {k : ℕ} (hk : k ≤ 8) (row : List PrecompEntry)
    (n : ℕ) (hrow : n + row.length ≤ 8) {t : List UInt8} (ht : t.length = 32)
    (hzero : n < k → k ≤ n + row.length → t = List.replicate 32 0) :
    (row.zipIdx n).foldl
        (fun t x => constantTimeConditionalMemxor t (LittleEndian.bytes 32 (field x.1))
          (constantTimeEqW (UInt8.ofNat k).toUInt64 (UInt64.ofNat (1 + x.2)))) t =
      if n < k ∧ k ≤ n + row.length then
        LittleEndian.bytes 32 (field (row.getD (k - 1 - n) ⟨0, 0, 0⟩)) else t := by
  induction row generalizing n t with
  | nil =>
    rw [if_neg (by simp)]
    rfl
  | cons e row ih =>
    rw [List.length_cons] at hrow hzero ⊢
    rw [List.zipIdx_cons, List.foldl_cons, constantTimeEqW_small k hk n (by omega)]
    by_cases hkn : k = n + 1
    · subst hkn
      have ht0 := hzero (by omega) (by omega)
      have hstep := memxor_ones (LittleEndian.bytes 32 (field e))
      rw [LittleEndian.length_bytes] at hstep
      rw [if_pos rfl, ht0, hstep, ih (n + 1) (by omega) (by simp) (by omega), if_neg (by omega),
        if_pos (by omega)]
      simp
    · rw [if_neg hkn, memxor_zero (by simp [ht]), ih (n + 1) (by omega) ht
        (fun h1 h2 => hzero (by omega) (by omega))]
      by_cases hin : n + 1 < k ∧ k ≤ n + 1 + row.length
      · rw [if_pos hin, if_pos (by omega)]
        have hidx : k - 1 - n = (k - 1 - (n + 1)) + 1 := by omega
        rw [hidx, List.getD_cons_succ]
      · rw [if_neg hin, if_neg (by omega)]

lemma table_rows : ∀ pos < 32, (k25519Precomp.getD pos []).length = 8 := by decide

lemma selectBytes_zero {pos : ℕ} (hpos : pos < 32) (field : PrecompEntry → ℕ) (first : UInt8) :
    selectBytes (k25519Precomp.getD pos []) field 0 first = first :: List.replicate 31 0 := by
  have h := selectBytes_fold field (k := 0) (by norm_num) (k25519Precomp.getD pos []) 0
    (by rw [table_rows pos hpos]) (t := first :: List.replicate 31 0) rfl (by omega)
  rwa [if_neg (by omega)] at h

lemma selectBytes_succ {pos j : ℕ} (hpos : pos < 32) (hj : j < 8) (field : PrecompEntry → ℕ) :
    selectBytes (k25519Precomp.getD pos []) field (UInt8.ofNat (j + 1)) 0 =
      LittleEndian.bytes 32 (field (tableEntry pos j)) := by
  have h := selectBytes_fold field (k := j + 1) (by omega) (k25519Precomp.getD pos []) 0
    (by rw [table_rows pos hpos]) (t := List.replicate 32 0) rfl (fun _ _ => rfl)
  rw [if_pos (by rw [table_rows pos hpos]; omega)] at h
  exact h

lemma feFrombytesStrict_rep {n : ℕ} (hn : n < 2 ^ 255) :
    (feFrombytesStrict (LittleEndian.bytes 32 n)).Rep (2 ^ 51) (n : F25519) := by
  have hvalue : LittleEndian.value (LittleEndian.bytes 32 n) = n := by
    rw [LittleEndian.value_bytes, Nat.mod_eq_of_lt (hn.trans (by norm_num))]
  obtain ⟨hwithin, heval⟩ := fiatFromBytes_spec (s := LittleEndian.bytes 32 n) (by simp)
    (by rw [hvalue]; exact hn)
  exact ⟨hwithin, by rw [feFrombytesStrict, heval, hvalue]⟩

lemma masks_zero : (constantTimeMsbW (wordOfChar 0)).toUInt8 = 0 ∧
    (constantTimeIsZeroW (wordOfChar 0) &&& 1).toUInt8 = 1 := by decide

lemma masks_pos : ∀ j < 8, (constantTimeMsbW (wordOfChar (Int8.ofNat (j + 1)))).toUInt8 = 0 ∧
    (constantTimeIsZeroW (wordOfChar (Int8.ofNat (j + 1))) &&& 1).toUInt8 = 0 ∧
      (Int8.ofNat (j + 1)).toUInt8 - ((0 &&& (Int8.ofNat (j + 1)).toUInt8) <<< 1) =
        UInt8.ofNat (j + 1) := by decide

lemma masks_neg : ∀ j < 8, (constantTimeMsbW (wordOfChar (-Int8.ofNat (j + 1)))).toUInt8 = 255 ∧
    (constantTimeIsZeroW (wordOfChar (-Int8.ofNat (j + 1))) &&& 1).toUInt8 = 0 ∧
      (-Int8.ofNat (j + 1)).toUInt8 - ((255 &&& (-Int8.ofNat (j + 1)).toUInt8) <<< 1) =
        UInt8.ofNat (j + 1) := by decide

lemma geCmov_zero (t u : GePrecomp) : geCmov t u 0 = t := by
  have h0 : (0 : UInt8).toUInt64 = 0 := rfl
  simp only [geCmov, feCmov, h0, feCswap_zero]

lemma geCmov_one (t u : GePrecomp) : geCmov t u 1 = u := by
  have h1 : (1 : UInt8).toUInt64 = 1 := rfl
  simp only [geCmov, feCmov, h1, feCswap_one]

lemma tableSelect_zero {pos : ℕ} (hpos : pos < 32) : (tableSelect pos 0).Holds 0 := by
  obtain ⟨hneg, hone⟩ := masks_zero
  have habs : (0 : Int8).toUInt8 - ((0 &&& (0 : Int8).toUInt8) <<< 1) = 0 := by decide
  have hfe1 : (1 : UInt8) :: List.replicate 31 0 = LittleEndian.bytes 32 1 := by decide
  have hfe0 : (0 : UInt8) :: List.replicate 31 0 = LittleEndian.bytes 32 0 := by decide
  simp only [tableSelect, hneg, hone, habs, selectBytes_zero hpos, hfe1, hfe0]
  have h1 := feFrombytesStrict_rep (n := 1) (by norm_num)
  have h0 := feFrombytesStrict_rep (n := 0) (by norm_num)
  have hshift : (0 : UInt8) >>> 7 = 0 := rfl
  rw [hshift, geCmov_zero]
  rw [Nat.cast_one] at h1
  rw [Nat.cast_zero] at h0
  exact ⟨1, 1, 0, ⟨h1.mono (by norm_num), h1.mono (by norm_num), h0.mono (by norm_num)⟩,
    Edwards.precomp_zero⟩

lemma entry_rep {pos j : ℕ} (hpos : pos < 32) (hj : j < 8) :
    (feFrombytesStrict (LittleEndian.bytes 32 (tableEntry pos j).yplusx)).Rep (2 ^ 51)
        ((tableEntry pos j).yplusx : F25519) ∧
      (feFrombytesStrict (LittleEndian.bytes 32 (tableEntry pos j).yminusx)).Rep (2 ^ 51)
        ((tableEntry pos j).yminusx : F25519) ∧
      (feFrombytesStrict (LittleEndian.bytes 32 (tableEntry pos j).xy2d)).Rep (2 ^ 51)
        ((tableEntry pos j).xy2d : F25519) :=
  have h := (table_checked.1 pos hpos j hj).2
  ⟨feFrombytesStrict_rep h.1, feFrombytesStrict_rep h.2.1, feFrombytesStrict_rep h.2.2⟩

lemma tableSelect_pos {pos j : ℕ} (hpos : pos < 32) (hj : j < 8) :
    (tableSelect pos (Int8.ofNat (j + 1))).Holds (((j + 1) * 256 ^ pos) • B) := by
  obtain ⟨hneg, hone, habs⟩ := masks_pos j hj
  obtain ⟨ha, hb, ht⟩ := entry_rep hpos hj
  have hshift : (0 : UInt8) >>> 7 = 0 := rfl
  simp only [tableSelect, hneg, hone, habs, selectBytes_succ hpos hj, hshift, geCmov_zero]
  exact ⟨_, _, _, ⟨ha.mono (by norm_num), hb.mono (by norm_num), ht.mono (by norm_num)⟩,
    table_holds hpos hj⟩

/-- A negative digit exchanges the first two numbers and negates the third one. -/
lemma tableSelect_neg {pos j : ℕ} (hpos : pos < 32) (hj : j < 8) :
    (tableSelect pos (-Int8.ofNat (j + 1))).Holds (-(((j + 1) * 256 ^ pos) • B)) := by
  obtain ⟨hneg, hone, habs⟩ := masks_neg j hj
  obtain ⟨ha, hb, ht⟩ := entry_rep hpos hj
  have hshift : (255 : UInt8) >>> 7 = 1 := rfl
  simp only [tableSelect, hneg, hone, habs, selectBytes_succ hpos hj, hshift, geCmov_one]
  exact ⟨_, _, _, ⟨hb.mono (by norm_num), ha.mono (by norm_num), fiatOpp_rep ht⟩,
    Edwards.Precomp.neg (table_holds hpos hj)⟩

lemma tableSelect_holds {pos : ℕ} (hpos : pos < 32) {b : Int8} (hlo : -8 ≤ b.toInt)
    (hhi : b.toInt ≤ 8) : (tableSelect pos b).Holds ((b.toInt * 256 ^ pos) • B) := by
  rcases lt_trichotomy b.toInt 0 with hb | hb | hb
  · obtain ⟨j, hj⟩ : ∃ j : ℕ, b.toInt = -((j : ℤ) + 1) := ⟨(-b.toInt - 1).toNat, by omega⟩
    have hj8 : j < 8 := by omega
    have heq : b = -Int8.ofNat (j + 1) := by
      apply Int8.toInt_inj.mp
      rw [hj]
      have h : ∀ j < 8, (-Int8.ofNat (j + 1)).toInt = -((j : ℤ) + 1) := by decide
      exact (h j hj8).symm
    have hsel := tableSelect_neg hpos hj8
    rw [← heq] at hsel
    rw [hj]
    have hmul : (-((j : ℤ) + 1) * 256 ^ pos) • B = -(((j + 1) * 256 ^ pos) • B) := by
      rw [← natCast_zsmul, ← neg_zsmul]
      push_cast
      rw [neg_mul]
    rw [hmul]
    exact hsel
  · have heq : b = 0 := Int8.toInt_inj.mp hb
    rw [heq]
    simpa using tableSelect_zero hpos
  · obtain ⟨j, hj⟩ : ∃ j : ℕ, b.toInt = (j : ℤ) + 1 := ⟨(b.toInt - 1).toNat, by omega⟩
    have hj8 : j < 8 := by omega
    have heq : b = Int8.ofNat (j + 1) := by
      apply Int8.toInt_inj.mp
      rw [hj]
      have h : ∀ j < 8, (Int8.ofNat (j + 1)).toInt = (j : ℤ) + 1 := by decide
      exact (h j hj8).symm
    have hsel := tableSelect_pos hpos hj8
    rw [← heq] at hsel
    rw [hj]
    have hmul : (((j : ℤ) + 1) * 256 ^ pos) • B = ((j + 1) * 256 ^ pos) • B := by
      rw [← natCast_zsmul]
      push_cast
      rfl
    rw [hmul]
    exact hsel

/-- A digit that the table has a multiple for. -/
def Digit (b : Int8) : Prop := -8 ≤ b.toInt ∧ b.toInt ≤ 8

/-- The rows below `n` add the number with the given digits. -/
lemma addRows_holds {digit : ℕ → Int8} (hdigit : ∀ i, Digit (digit i)) {h : GeP3}
    {P : edwards25519.curve.Point} (hP : h.Holds P) {n : ℕ} (hn : n ≤ 32) :
    ((List.range n).foldl (fun h pos => geP1p1ToP3 (geMadd h (tableSelect pos (digit pos))))
      h).Holds (P + (∑ pos ∈ Finset.range n, (digit pos).toInt * 256 ^ pos) • B) := by
  induction n with
  | zero => simpa using hP
  | succ n ih =>
    have hstep := ((ih (by omega)).madd
      (tableSelect_holds (show n < 32 by omega) (hdigit n).1 (hdigit n).2)).toP3
    rw [List.range_succ, List.foldl_append, Finset.sum_range_succ, add_zsmul, ← add_assoc]
    exact hstep

/-- The number with the digits of the list, sixteen being the base. -/
def digitsValue : List Int8 → ℤ
  | [] => 0
  | x :: e => x.toInt + 16 * digitsValue e

lemma digitsValue_eq_sum (e : List Int8) :
    digitsValue e = ∑ i ∈ Finset.range e.length, (e.getD i 0).toInt * 16 ^ i := by
  induction e with
  | nil => rfl
  | cons x e ih =>
    rw [digitsValue, ih, List.length_cons, Finset.sum_range_succ', Finset.mul_sum, add_comm]
    congr 1
    · refine Finset.sum_congr rfl fun i _ => ?_
      rw [List.getD_cons_succ]
      ring
    · simp

lemma sum_even_odd (f : ℕ → ℤ) (n : ℕ) :
    ∑ i ∈ Finset.range (2 * n), f i * 16 ^ i =
      16 * ∑ pos ∈ Finset.range n, f (2 * pos + 1) * 256 ^ pos +
        ∑ pos ∈ Finset.range n, f (2 * pos) * 256 ^ pos := by
  induction n with
  | zero => simp
  | succ n ih =>
    have hpow : (256 : ℤ) ^ n = 16 ^ (2 * n) := by
      rw [pow_mul]
      norm_num
    rw [Nat.mul_succ, Finset.sum_range_succ, Finset.sum_range_succ, ih, Finset.sum_range_succ,
      Finset.sum_range_succ, hpow, pow_succ]
    ring

/-- The digits before the carries are moved. -/
lemma nibbles_eq (a : List UInt8) :
    nibbles a = (a.flatMap fun x => [x.toNat % 16, x.toNat / 16]).map Int8.ofNat := by
  have h : ∀ n < 256, (((UInt8.ofNat n) >>> 0) &&& 15).toInt8 = Int8.ofNat (n % 16) ∧
      (((UInt8.ofNat n) >>> 4) &&& 15).toInt8 = Int8.ofNat (n / 16) := by decide +kernel
  rw [nibbles, List.map_flatMap]
  congr 1
  funext x
  obtain ⟨h0, h4⟩ := h x.toNat x.toNat_lt
  rw [UInt8.ofNat_toNat] at h0 h4
  rw [h0, h4]
  rfl

lemma ofDigits_nibbles (a : List UInt8) :
    Nat.ofDigits 16 (a.flatMap fun x => [x.toNat % 16, x.toNat / 16]) = LittleEndian.value a := by
  induction a with
  | nil => rfl
  | cons x a ih =>
    rw [List.flatMap_cons, List.cons_append, List.cons_append, List.nil_append, Nat.ofDigits_cons,
      Nat.ofDigits_cons, ih, LittleEndian.value_cons]
    omega

lemma recode_step : ∀ x : ℕ, x < 16 → ∀ c : ℕ, c ≤ 1 →
    let y := Int8.ofNat x + Int8.ofNat c
    ∃ d ≤ 1, (y + 8) >>> 4 = Int8.ofNat d ∧ Digit (y - ((y + 8) >>> 4 <<< 4)) ∧
      (y - ((y + 8) >>> 4 <<< 4)).toInt + 16 * d = x + c := by
  unfold Digit
  decide

lemma recode_last : ∀ x : ℕ, x ≤ 7 → ∀ c : ℕ, c ≤ 1 →
    Digit (Int8.ofNat x + Int8.ofNat c) ∧ (Int8.ofNat x + Int8.ofNat c).toInt = x + c := by
  unfold Digit
  decide

/-- The carries do not change the number. -/
lemma recode_spec {l : List ℕ} (hne : l ≠ []) (hl : ∀ x ∈ l, x < 16)
    (hlast : ∀ x ∈ l.getLast?, x ≤ 7) {c : ℕ} (hc : c ≤ 1) :
    (recode (Int8.ofNat c) (l.map Int8.ofNat)).length = l.length ∧
      (∀ d ∈ recode (Int8.ofNat c) (l.map Int8.ofNat), Digit d) ∧
        digitsValue (recode (Int8.ofNat c) (l.map Int8.ofNat)) =
          ((c + Nat.ofDigits 16 l : ℕ) : ℤ) := by
  induction l generalizing c with
  | nil => exact absurd rfl hne
  | cons x l ih =>
    cases l with
    | nil =>
      obtain ⟨hdigit, hvalue⟩ := recode_last x (hlast x rfl) c hc
      refine ⟨rfl, ?_, ?_⟩
      · intro d hd
        rw [List.mem_singleton.mp hd]
        exact hdigit
      · change (Int8.ofNat x + Int8.ofNat c).toInt + 16 * 0 = _
        rw [hvalue, Nat.ofDigits_singleton]
        push_cast
        ring
    | cons y l =>
      obtain ⟨d, hd, hcarry, hdigit, hvalue⟩ := recode_step x (hl x (by simp)) c hc
      obtain ⟨hlen, hdigits, hrest⟩ := ih (by simp) (fun z hz => hl z (by simp [hz]))
        (fun z hz => hlast z (by simpa using hz)) hd
      have hrec : recode (Int8.ofNat c) ((x :: y :: l).map Int8.ofNat) =
          (Int8.ofNat x + Int8.ofNat c -
            ((Int8.ofNat x + Int8.ofNat c + 8) >>> 4 <<< 4)) ::
              recode (Int8.ofNat d) ((y :: l).map Int8.ofNat) := by
        rw [← hcarry]
        rfl
      rw [hrec]
      refine ⟨by rw [List.length_cons, hlen]; rfl, ?_, ?_⟩
      · intro z hz
        rcases List.mem_cons.mp hz with rfl | hz
        · exact hdigit
        · exact hdigits z hz
      · have hcons : Nat.ofDigits 16 (x :: y :: l) = x + 16 * Nat.ofDigits 16 (y :: l) := rfl
        rw [digitsValue, hrest, hcons]
        generalize Nat.ofDigits 16 (y :: l) = m
        push_cast
        linarith

lemma addRows_eq {digit : ℕ → Int8} (hdigit : ∀ i, Digit (digit i)) {h : GeP3}
    {P : edwards25519.curve.Point} (hP : h.Holds P) : (addRows digit h).Holds
      (P + (∑ pos ∈ Finset.range 32, (digit pos).toInt * 256 ^ pos) • B) :=
  addRows_holds hdigit hP le_rfl

/-- The digits of a number of 255 bits. -/
lemma digits_spec {a : List UInt8} (hlen : a.length = 32)
    (htop : LittleEndian.value a < 2 ^ 255) :
    (recode 0 (nibbles a)).length = 64 ∧ (∀ d ∈ recode 0 (nibbles a), Digit d) ∧
      digitsValue (recode 0 (nibbles a)) = (LittleEndian.value a : ℤ) := by
  obtain ⟨m, t, hm, ht, rfl⟩ := exists_append (n := 31) (k := 1) hlen
  obtain ⟨b, rfl⟩ := List.length_eq_one_iff.mp ht
  have hb : b.toNat ≤ 127 := by
    rw [LittleEndian.value_append, hm, LittleEndian.value_cons, LittleEndian.value_nil] at htop
    omega
  have hmem : ∀ x ∈ (m ++ [b]).flatMap fun x => [x.toNat % 16, x.toNat / 16], x < 16 := by
    intro x hx
    obtain ⟨y, -, hy⟩ := List.mem_flatMap.mp hx
    have := y.toNat_lt
    simp only [List.mem_cons, List.not_mem_nil, or_false] at hy
    omega
  have hlast : ∀ x ∈ ((m ++ [b]).flatMap fun x => [x.toNat % 16, x.toNat / 16]).getLast?,
      x ≤ 7 := by
    intro x hx
    have hget : ((m ++ [b]).flatMap fun x => [x.toNat % 16, x.toNat / 16]).getLast? =
        some (b.toNat / 16) := by simp
    rw [hget] at hx
    obtain rfl : b.toNat / 16 = x := by simpa using hx
    omega
  have hne : ((m ++ [b]).flatMap fun x => [x.toNat % 16, x.toNat / 16]) ≠ [] := by simp
  obtain ⟨hlength, hdigits, hvalue⟩ := recode_spec hne hmem hlast (c := 0) (by norm_num)
  rw [ofDigits_nibbles, zero_add] at hvalue
  have hzero : Int8.ofNat 0 = 0 := rfl
  rw [hzero] at hlength hdigits hvalue
  rw [nibbles_eq]
  refine ⟨?_, hdigits, hvalue⟩
  rw [hlength]
  simp [List.length_flatMap, hm]

lemma GeP3.Holds.sixteen {g : GeP3} {P : edwards25519.curve.Point} (h : g.Holds P) :
    (geP1p1ToP3 (geP2Dbl (geP1p1ToP2 (geP2Dbl (geP1p1ToP2 (geP2Dbl
      (geP1p1ToP2 (geP3Dbl g)))))))).Holds ((16 : ℤ) • P) := by
  have hdbl := h.toP2.dbl.toP2.dbl.toP2.dbl.toP2.dbl.toP3
  simp only [← two_zsmul, ← mul_zsmul] at hdbl
  exact hdbl

lemma geScalarmultBase_holds {a : List UInt8} (hlen : a.length = 32)
    (htop : LittleEndian.value a < 2 ^ 255) :
    (geScalarmultBase a).Holds (LittleEndian.value a • B) := by
  obtain ⟨hlength, hdigits, hvalue⟩ := digits_spec hlen htop
  have hdigit : ∀ i, Digit ((recode 0 (nibbles a)).getD i 0) := by
    intro i
    by_cases hi : i < (recode 0 (nibbles a)).length
    · rw [List.getD, List.getElem?_eq_getElem hi]
      exact hdigits _ (List.getElem_mem hi)
    · rw [List.getD, List.getElem?_eq_none (by omega)]
      exact ⟨by decide, by decide⟩
  have hodd := addRows_eq (fun pos => hdigit (2 * pos + 1)) geP3Zero_holds
  have heven := addRows_eq (fun pos => hdigit (2 * pos)) hodd.sixteen
  have hsum := sum_even_odd (fun i => ((recode 0 (nibbles a)).getD i 0).toInt) 32
  have hdv := digitsValue_eq_sum (recode 0 (nibbles a))
  rw [hlength, hvalue] at hdv
  rw [zero_add, ← mul_zsmul, ← add_zsmul, ← hsum, ← hdv, natCast_zsmul] at heven
  exact heven

/-- The public key is the x-coordinate of the multiple of the base point. -/
lemma x25519PublicFromPrivate_eq {privateKey : List UInt8} (hkey : privateKey.length = 32) :
    x25519PublicFromPrivate privateKey =
      LittleEndian.bytes 32 (Montgomery.xCoord (clamped privateKey • B)).val := by
  have htop : clamped privateKey < 2 ^ 255 := by
    rw [clamped_eq hkey]
    omega
  obtain ⟨X, Y, Z, T, ⟨-, hY, hZ, -⟩, hext⟩ :=
    geScalarmultBase_holds (a := clampScalar privateKey) (by simp [clampScalar, hkey]) htop
  have hinv := feInvert_rep (fiatSub_rep hZ hY)
  have hmul := fiatCarryMul_rep (fiatAdd_rep hZ hY) (hinv.mono (by norm_num))
  have hcoord : (Z + Y) * (Z - Y)⁻¹ = Montgomery.xCoord (clamped privateKey • B) := by
    have hplus : Z + Y = (1 + Edwards.yOf (clamped privateKey • B)) * Z := by
      rw [hext.y]
      exact (one_add_mul _ _).symm
    have hminus : Z - Y = (1 - Edwards.yOf (clamped privateKey • B)) * Z := by
      rw [hext.y]
      exact (one_sub_mul _ _).symm
    rw [Edwards.xCoord_eq, ← div_eq_mul_inv, hplus, hminus, mul_div_mul_right _ _ hext.z_ne]
  rw [hcoord] at hmul
  exact feTobytes_eq hmul

lemma scalarMult_base {scalar : List UInt8} (hscalar : scalar.length = 32) :
    x25519ScalarMultGeneric scalar montgomeryBasePoint =
      LittleEndian.bytes 32 (Montgomery.xCoord (clamped scalar • B)).val := by
  have hladder := uCoordinate_scalarMult hscalar (show montgomeryBasePoint.length = 32 by decide)
    (RingHom.id F25519) (P := basePoint25519) (by decide)
  rw [x25519ScalarMultGeneric_eq (by decide), uCoordinate_bytes] at hladder
  rw [x25519ScalarMultGeneric_eq (by decide)]
  exact congrArg (fun x : F25519 => LittleEndian.bytes 32 x.val) hladder

/-- The table and the signed digits give the same public key as the ladder from the base point. -/
theorem public_key_ladder {privateKey : List UInt8} (hkey : privateKey.length = 32) :
    x25519PublicFromPrivate privateKey =
      x25519ScalarMultGeneric privateKey montgomeryBasePoint := by
  rw [x25519PublicFromPrivate_eq hkey, scalarMult_base hkey]

theorem public_key_ladder_zero :
    x25519PublicFromPrivate (List.replicate 32 0) =
      x25519ScalarMultGeneric (List.replicate 32 0) montgomeryBasePoint :=
  public_key_ladder (by decide)

end Enchat
