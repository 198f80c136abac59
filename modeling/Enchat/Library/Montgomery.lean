import Mathlib.AlgebraicGeometry.EllipticCurve.Affine.Point
import Mathlib.FieldTheory.IsAlgClosed.AlgebraicClosure
import Mathlib.Tactic.FieldSimp
import Mathlib.Tactic.LinearCombination

/-!
# Montgomery curves and the ladder on x-coordinates

Points of `y² = x³ + A x² + x` are multiplied by scalars on their x-coordinates alone. The ladder
keeps two multiples whose difference is the point itself. It is exact at infinity and at the point
`(0, 0)` as well, when the x-coordinate of infinity is taken to be `0`.
-/

namespace Montgomery
open WeierstrassCurve.Affine

/-- The coefficient of a nonsingular Montgomery curve and the constant of its doubling formula. -/
structure Params (F : Type*) [Field F] where
  A : F
  a24 : F
  two_ne : (2 : F) ≠ 0
  A_sq_ne : A ^ 2 ≠ 4
  a24_eq : 4 * a24 = A + 2

section Formulas

variable {F : Type*} [CommRing F]

/-- Two x-coordinates in projective form. -/
structure State (F : Type*) where
  x2 : F
  z2 : F
  x3 : F
  z3 : F

def dblX (X Z : F) : F := (X + Z) ^ 2 * (X - Z) ^ 2

def dblZ (a24 X Z : F) : F :=
  ((X + Z) ^ 2 - (X - Z) ^ 2) * ((X - Z) ^ 2 + a24 * ((X + Z) ^ 2 - (X - Z) ^ 2))

def addX (X2 Z2 X3 Z3 : F) : F := ((X3 - Z3) * (X2 + Z2) + (X3 + Z3) * (X2 - Z2)) ^ 2

def addZ (x1 X2 Z2 X3 Z3 : F) : F :=
  x1 * ((X3 - Z3) * (X2 + Z2) - (X3 + Z3) * (X2 - Z2)) ^ 2

namespace State

def init (x1 : F) : State F := ⟨1, 0, x1, 1⟩

def swap (s : State F) : State F := ⟨s.x3, s.z3, s.x2, s.z2⟩

def swapIf (b : Bool) (s : State F) : State F := if b then s.swap else s

/-- Doubles the first point and adds the second one to it. -/
def dblAdd (a24 x1 : F) (s : State F) : State F :=
  ⟨dblX s.x2 s.z2, dblZ a24 s.x2 s.z2, addX s.x2 s.z2 s.x3 s.z3, addZ x1 s.x2 s.z2 s.x3 s.z3⟩

/-- One bit of the scalar. -/
def step (a24 x1 : F) (s : State F) (b : Bool) : State F :=
  ((s.swapIf b).dblAdd a24 x1).swapIf b

def map {K : Type*} [CommRing K] (φ : F →+* K) (s : State F) : State K :=
  ⟨φ s.x2, φ s.z2, φ s.x3, φ s.z3⟩

lemma map_step {K : Type*} [CommRing K] (φ : F →+* K) (a24 x1 : F) (s : State F) (b : Bool) :
    (s.step a24 x1 b).map φ = (s.map φ).step (φ a24) (φ x1) b := by
  cases b <;>
    simp only [step, swapIf, dblAdd, map, swap, dblX, dblZ, addX, addZ, map_mul, map_add, map_sub,
      map_pow, if_true, Bool.false_eq_true, if_false]

end State

/-- The ladder over the bits of the scalar, the most significant one first. -/
def ladder (a24 x1 : F) (bits : List Bool) : State F :=
  bits.foldl (State.step a24 x1) (State.init x1)

lemma ladder_concat (a24 x1 : F) (bits : List Bool) (b : Bool) :
    ladder a24 x1 (bits ++ [b]) = (ladder a24 x1 bits).step a24 x1 b := by
  rw [ladder, List.foldl_append]
  rfl

lemma ladder_map {K : Type*} [CommRing K] (φ : F →+* K) (a24 x1 : F) (bits : List Bool) :
    (ladder a24 x1 bits).map φ = ladder (φ a24) (φ x1) bits := by
  induction bits using List.reverseRecOn with
  | nil => simp only [ladder, List.foldl_nil, State.map, State.init, map_one, map_zero]
  | append_singleton bits b ih => rw [ladder_concat, ladder_concat, State.map_step, ih]

/-- The scalar with the given bits. -/
def ofBits (bits : List Bool) : ℕ := bits.foldl (fun n b => 2 * n + b.toNat) 0

lemma ofBits_concat (bits : List Bool) (b : Bool) :
    ofBits (bits ++ [b]) = 2 * ofBits bits + b.toNat := by
  rw [ofBits, List.foldl_append]
  rfl

/-- The `k` lowest bits of a scalar, the most significant one first. -/
def bits (n : ℕ) : ℕ → List Bool
  | 0 => []
  | k + 1 => n.testBit k :: bits n k

lemma foldl_bits (n k a : ℕ) :
    (bits n k).foldl (fun n b => 2 * n + b.toNat) a = 2 ^ k * a + n % 2 ^ k := by
  induction k generalizing a with
  | zero => simp [bits, Nat.mod_one]
  | succ k ih =>
    rw [bits, List.foldl_cons, ih, Nat.toNat_testBit, pow_succ, Nat.mod_mul]
    ring

lemma ofBits_bits {n k : ℕ} (h : n < 2 ^ k) : ofBits (bits n k) = n := by
  rw [ofBits, foldl_bits, mul_zero, zero_add, Nat.mod_eq_of_lt h]

end Formulas

variable {F : Type*} [Field F]

/-- What the ladder yields: the x-coordinate, and `0` at infinity. -/
def smulX (a24 x1 : F) (bits : List Bool) : F :=
  (ladder a24 x1 bits).x2 / (ladder a24 x1 bits).z2

lemma smulX_map {K : Type*} [Field K] (φ : F →+* K) (a24 x1 : F) (bits : List Bool) :
    φ (smulX a24 x1 bits) = smulX (φ a24) (φ x1) bits := by
  rw [smulX, smulX, ← ladder_map, map_div₀]
  rfl

namespace Params

variable (p : Params F)

def map {K : Type*} [Field K] (φ : F →+* K) : Params K where
  A := φ p.A
  a24 := φ p.a24
  two_ne := by
    rw [← map_ofNat φ 2]
    exact (map_ne_zero φ).mpr p.two_ne
  A_sq_ne := by
    rw [← map_pow, ← map_ofNat φ 4]
    exact φ.injective.ne p.A_sq_ne
  a24_eq := by
    rw [← map_ofNat φ 4, ← map_mul, p.a24_eq, map_add, map_ofNat]

def curve : WeierstrassCurve.Affine F where
  a₁ := 0
  a₂ := p.A
  a₃ := 0
  a₄ := 1
  a₆ := 0

lemma equation_iff (x y : F) : p.curve.Equation x y ↔ y ^ 2 = x ^ 3 + p.A * x ^ 2 + x := by
  rw [WeierstrassCurve.Affine.equation_iff]
  simp [curve]

include p in
lemma four_ne : (4 : F) ≠ 0 := by
  have h : (4 : F) = 2 * 2 := by norm_num
  rw [h]
  exact mul_ne_zero p.two_ne p.two_ne

lemma delta_ne : p.curve.Δ ≠ 0 := by
  have h : p.curve.Δ = (4 * 4) * (p.A ^ 2 - 4) := by
    simp only [WeierstrassCurve.Δ, WeierstrassCurve.b₂, WeierstrassCurve.b₄, WeierstrassCurve.b₆,
      WeierstrassCurve.b₈, curve]
    ring
  rw [h]
  exact mul_ne_zero (mul_ne_zero p.four_ne p.four_ne) (sub_ne_zero.mpr p.A_sq_ne)

lemma nonsingular_iff (x y : F) :
    p.curve.Nonsingular x y ↔ y ^ 2 = x ^ 3 + p.A * x ^ 2 + x := by
  rw [← equation_iff]
  exact (equation_iff_nonsingular_of_Δ_ne_zero p.delta_ne).symm

lemma negY_eq (x y : F) : p.curve.negY x y = -y := by
  simp [negY, curve]

end Params

variable {p : Params F}

/-- `X : Z` is the x-coordinate of the point. -/
def XZ : p.curve.Point → F → F → Prop
  | .zero, X, Z => X ≠ 0 ∧ Z = 0
  | .some x _ _, X, Z => Z ≠ 0 ∧ X = x * Z

def xCoord : p.curve.Point → F
  | .zero => 0
  | .some x _ _ => x

lemma XZ.xCoord_eq {P : p.curve.Point} {X Z : F} (h : XZ P X Z) : xCoord P = X / Z := by
  cases P with
  | zero =>
    rw [h.2, div_zero]
    rfl
  | some x y hp => exact ((div_eq_iff h.1).mpr h.2).symm

section Group

variable [DecidableEq F]

lemma two_nsmul_of_y_eq_zero {x y : F} (h : p.curve.Nonsingular x y) (hy : y = 0) :
    2 • Point.some x y h = 0 := by
  rw [two_nsmul, Point.add_of_Y_eq rfl]
  rw [p.negY_eq, hy, neg_zero]

/-- The doubling formula, at infinity and at points of order two as well. -/
lemma XZ.dbl {P : p.curve.Point} {X Z : F} (h : XZ P X Z) :
    XZ (P + P) (dblX X Z) (dblZ p.a24 X Z) := by
  cases P with
  | zero =>
    obtain ⟨hX, rfl⟩ := h
    exact ⟨by simp [dblX, hX], by simp [dblZ]⟩
  | some x y hp =>
    obtain ⟨hZ, rfl⟩ := h
    have heq := (p.equation_iff x y).mp hp.1
    have hX : dblX (x * Z) Z = (x ^ 2 - 1) ^ 2 * Z ^ 4 := by
      unfold dblX
      ring
    have hZ4 : dblZ p.a24 (x * Z) Z = (2 * y) ^ 2 * Z ^ 4 := by
      unfold dblZ
      linear_combination (4 * x ^ 2 * Z ^ 4) * p.a24_eq - 4 * Z ^ 4 * heq
    rw [hX, hZ4]
    by_cases hy : y = 0
    · rw [← two_nsmul, two_nsmul_of_y_eq_zero hp hy]
      have hx : x ^ 2 - 1 ≠ 0 := by
        have hA := p.A_sq_ne
        intro hx
        grind
      exact ⟨mul_ne_zero (pow_ne_zero 2 hx) (pow_ne_zero 4 hZ), by rw [hy]; ring⟩
    · have h2y : 2 * y ≠ 0 := mul_ne_zero p.two_ne hy
      have hneg : y ≠ p.curve.negY x y := by
        rw [p.negY_eq]
        intro hc
        apply h2y
        linear_combination hc
      rw [Point.add_self_of_Y_ne hneg]
      refine ⟨mul_ne_zero (pow_ne_zero 2 h2y) (pow_ne_zero 4 hZ), ?_⟩
      have hden : y - p.curve.negY x y = 2 * y := by
        rw [p.negY_eq]
        ring
      have hslope : p.curve.slope x x y y * (2 * y) = 3 * x ^ 2 + 2 * p.A * x + 1 := by
        rw [slope_of_Y_ne rfl hneg, hden, div_mul_cancel₀ _ h2y]
        simp only [Params.curve]
        ring
      generalize p.curve.slope x x y y = l at hslope ⊢
      simp only [WeierstrassCurve.Affine.addX, Params.curve]
      linear_combination 4 * (p.A + 2 * x) * Z ^ 4 * heq - Z ^ 4 *
        (l * (2 * y) + (3 * x ^ 2 + 2 * p.A * x + 1)) * hslope

/-- The product of the x-coordinates of the sum and the difference of two points. -/
lemma sum_mul_difference {x₂ y₂ x₃ y₃ : F} (hx : x₂ ≠ x₃) (h₂ : p.curve.Equation x₂ y₂)
    (h₃ : p.curve.Equation x₃ y₃) :
    p.curve.addX x₂ x₃ (p.curve.slope x₂ x₃ y₂ y₃) *
        p.curve.addX x₃ x₂ (p.curve.slope x₃ x₂ y₃ (p.curve.negY x₂ y₂)) * (x₂ - x₃) ^ 2 =
      (x₂ * x₃ - 1) ^ 2 := by
  rw [slope_of_X_ne hx, slope_of_X_ne hx.symm, p.negY_eq]
  rw [Params.equation_iff] at h₂ h₃
  simp only [WeierstrassCurve.Affine.addX, Params.curve]
  have hne : x₂ - x₃ ≠ 0 := sub_ne_zero.mpr hx
  have hneg : x₃ - x₂ = -(x₂ - x₃) := by ring
  rw [hneg]
  grind

/-- A point whose double has the x-coordinate `x₁ ≠ 0` does not have the x-coordinate `1` or
`-1`. -/
lemma sq_ne_one {x₁ y₁ x y : F} {h₁ : p.curve.Nonsingular x₁ y₁} {h : p.curve.Nonsingular x y}
    (hx : x₁ ≠ 0) (hdbl : Point.some x y h + Point.some x y h = .some x₁ y₁ h₁) :
    x ^ 2 - 1 ≠ 0 := by
  have hxz : XZ (Point.some x y h) x 1 := ⟨one_ne_zero, (mul_one x).symm⟩
  have hdbl' := hxz.dbl
  rw [hdbl] at hdbl'
  obtain ⟨hZ, hX⟩ := hdbl'
  intro hzero
  have hX0 : dblX x 1 = 0 := by
    have hsq : dblX x 1 = (x ^ 2 - 1) ^ 2 := by
      unfold dblX
      ring
    rw [hsq, hzero, zero_pow two_ne_zero]
  rw [hX0] at hX
  exact mul_ne_zero hx hZ hX.symm

/-- The addition formula for two points whose difference has the x-coordinate `x₁ ≠ 0`. -/
lemma XZ.add {x₁ y₁ : F} {h₁ : p.curve.Nonsingular x₁ y₁} (hx : x₁ ≠ 0) {P Q : p.curve.Point}
    {X2 Z2 X3 Z3 : F} (h : XZ P X2 Z2) (h' : XZ Q X3 Z3) (hsub : Q - P = .some x₁ y₁ h₁) :
    XZ (P + Q) (addX X2 Z2 X3 Z3) (addZ x₁ X2 Z2 X3 Z3) := by
  have h4 := p.four_ne
  cases P with
  | zero =>
    rw [← Point.zero_def, sub_zero] at hsub
    rw [← Point.zero_def, zero_add, hsub]
    rw [hsub] at h'
    obtain ⟨hX, rfl⟩ := h
    obtain ⟨hZ, rfl⟩ := h'
    have hz : addZ x₁ X2 0 (x₁ * Z3) Z3 = 4 * x₁ * (X2 * Z3) ^ 2 := by
      unfold addZ
      ring
    have hxx : addX X2 0 (x₁ * Z3) Z3 = x₁ * (4 * x₁ * (X2 * Z3) ^ 2) := by
      unfold addX
      ring
    rw [hz, hxx]
    exact ⟨mul_ne_zero (mul_ne_zero h4 hx) (pow_ne_zero 2 (mul_ne_zero hX hZ)), rfl⟩
  | some x₂ y₂ hP =>
    cases Q with
    | zero =>
      rw [← Point.zero_def, zero_sub, Point.neg_some, Point.some.injEq] at hsub
      obtain ⟨rfl, rfl⟩ := hsub
      rw [← Point.zero_def, add_zero]
      obtain ⟨hZ, rfl⟩ := h
      obtain ⟨hX, rfl⟩ := h'
      have hz : addZ x₂ (x₂ * Z2) Z2 X3 0 = 4 * x₂ * (X3 * Z2) ^ 2 := by
        unfold addZ
        ring
      have hxx : addX (x₂ * Z2) Z2 X3 0 = x₂ * (4 * x₂ * (X3 * Z2) ^ 2) := by
        unfold addX
        ring
      rw [hz, hxx]
      exact ⟨mul_ne_zero (mul_ne_zero h4 hx) (pow_ne_zero 2 (mul_ne_zero hX hZ)), rfl⟩
    | some x₃ y₃ hQ =>
      obtain ⟨hZ2, rfl⟩ := h
      obtain ⟨hZ3, rfl⟩ := h'
      have hc : 4 * (Z2 * Z3) ^ 2 ≠ 0 := mul_ne_zero h4 (pow_ne_zero 2 (mul_ne_zero hZ2 hZ3))
      have hz : addZ x₁ (x₂ * Z2) Z2 (x₃ * Z3) Z3 =
          x₁ * (x₂ - x₃) ^ 2 * (4 * (Z2 * Z3) ^ 2) := by
        unfold addZ
        ring
      have hxx : addX (x₂ * Z2) Z2 (x₃ * Z3) Z3 =
          (x₂ * x₃ - 1) ^ 2 * (4 * (Z2 * Z3) ^ 2) := by
        unfold addX
        ring
      rw [hz, hxx]
      by_cases hne : x₂ = x₃
      · -- the difference is not infinity, so the sum is
        rcases Point.X_eq_iff.mp hne with heq | heq
        · rw [heq, sub_self] at hsub
          cases hsub
        · have hQP : Point.some x₃ y₃ hQ = -Point.some x₂ y₂ hP := by rw [heq, neg_neg]
          have hdbl : Point.some x₃ y₃ hQ + Point.some x₃ y₃ hQ = .some x₁ y₁ h₁ := by
            rw [← hsub, sub_eq_add_neg, ← hQP]
          have hone := sq_ne_one hx hdbl
          rw [heq, neg_add_cancel, hne, ← pow_two]
          refine ⟨mul_ne_zero (pow_ne_zero 2 hone) hc, ?_⟩
          rw [sub_self]
          ring
      · rw [sub_eq_add_neg, Point.neg_some, Point.add_of_X_ne (Ne.symm hne),
          Point.some.injEq] at hsub
        have hprod := sum_mul_difference hne hP.1 hQ.1
        rw [hsub.1] at hprod
        rw [Point.add_of_X_ne hne]
        refine ⟨mul_ne_zero (mul_ne_zero hx (pow_ne_zero 2 (sub_ne_zero.mpr hne))) hc, ?_⟩
        rw [← hprod]
        ring

/-- The state holds the x-coordinates of two points. -/
structure Holds (s : State F) (P Q : p.curve.Point) : Prop where
  first : XZ P s.x2 s.z2
  second : XZ Q s.x3 s.z3

omit [DecidableEq F] in
lemma Holds.swapIf {s : State F} {P Q : p.curve.Point} (h : Holds s P Q) (b : Bool) :
    Holds (s.swapIf b) (if b then Q else P) (if b then P else Q) := by
  cases b with
  | false => exact h
  | true => exact ⟨h.second, h.first⟩

lemma Holds.dblAdd {x₁ y₁ : F} {h₁ : p.curve.Nonsingular x₁ y₁} (hx : x₁ ≠ 0) {s : State F}
    {P Q : p.curve.Point} (h : Holds s P Q)
    (hsub : Q - P = .some x₁ y₁ h₁ ∨ P - Q = .some x₁ y₁ h₁) :
    Holds (s.dblAdd p.a24 x₁) (P + P) (P + Q) := by
  refine ⟨h.first.dbl, ?_⟩
  rcases hsub with hsub | hsub
  · exact h.first.add hx h.second hsub
  · have hneg : Q - P = .some x₁ _ ((nonsingular_neg ..).mpr h₁) := by
      rw [← neg_sub, hsub, Point.neg_some]
    exact h.first.add hx h.second hneg

/-- Every bit leads from the multiples `n` and `n + 1` to those of the next prefix. -/
lemma Holds.step {x₁ y₁ : F} {h₁ : p.curve.Nonsingular x₁ y₁} (hx : x₁ ≠ 0) {s : State F} {n : ℕ}
    (h : Holds s (n • Point.some x₁ y₁ h₁) ((n + 1) • Point.some x₁ y₁ h₁)) (b : Bool) :
    Holds (s.step p.a24 x₁ b) ((2 * n + b.toNat) • Point.some x₁ y₁ h₁)
      ((2 * n + b.toNat + 1) • Point.some x₁ y₁ h₁) := by
  have hsub : (n + 1) • Point.some x₁ y₁ h₁ - n • Point.some x₁ y₁ h₁ = .some x₁ y₁ h₁ := by
    rw [succ_nsmul, add_sub_cancel_left]
  have hdbl : ∀ m : ℕ, m • Point.some x₁ y₁ h₁ + m • Point.some x₁ y₁ h₁ =
      (2 * m) • Point.some x₁ y₁ h₁ := by
    intro m
    rw [← add_nsmul, two_mul]
  have hadd : n • Point.some x₁ y₁ h₁ + (n + 1) • Point.some x₁ y₁ h₁ =
      (2 * n + 1) • Point.some x₁ y₁ h₁ := by
    rw [← add_nsmul]
    congr 1
    ring
  cases b with
  | false =>
    have hres : Holds (s.step p.a24 x₁ false) _ _ := h.dblAdd hx (Or.inl hsub)
    rwa [hdbl, hadd] at hres
  | true =>
    have hres : Holds (s.step p.a24 x₁ true) _ _ :=
      ((h.swapIf true).dblAdd hx (Or.inr hsub)).swapIf true
    simp only [if_true] at hres
    rwa [hdbl, add_comm, hadd, mul_add] at hres

lemma holds_ladder {x₁ y₁ : F} (h₁ : p.curve.Nonsingular x₁ y₁) (hx : x₁ ≠ 0)
    (bits : List Bool) :
    Holds (ladder p.a24 x₁ bits) (ofBits bits • Point.some x₁ y₁ h₁)
      ((ofBits bits + 1) • Point.some x₁ y₁ h₁) := by
  induction bits using List.reverseRecOn with
  | nil =>
    have hzero : ofBits [] = 0 := rfl
    rw [hzero, zero_nsmul, zero_add, one_nsmul]
    exact ⟨⟨one_ne_zero, rfl⟩, ⟨one_ne_zero, (mul_one x₁).symm⟩⟩
  | append_singleton bits b ih =>
    rw [ladder_concat, ofBits_concat]
    exact ih.step hx b

omit [DecidableEq F] in
/-- With the x-coordinate `0` the ladder loses its second point and stays at `0`. -/
lemma ladder_zero (a24 : F) (bits : List Bool) :
    (ladder a24 0 bits).z2 = 0 ∧ (ladder a24 0 bits).x3 * (ladder a24 0 bits).z3 = 0 := by
  induction bits using List.reverseRecOn with
  | nil => exact ⟨rfl, zero_mul 1⟩
  | append_singleton bits b ih =>
    obtain ⟨hz, hx⟩ := ih
    rw [ladder_concat]
    have hdbl : ∀ X Z : F, X * Z = 0 → dblZ a24 X Z = 0 := by
      intro X Z h
      unfold dblZ
      linear_combination 4 * ((X - Z) ^ 2 + a24 * ((X + Z) ^ 2 - (X - Z) ^ 2)) * h
    have hadd : ∀ X Z X' Z' : F, addZ 0 X Z X' Z' = 0 := fun X Z X' Z' => zero_mul _
    cases b with
    | false =>
      refine ⟨hdbl _ _ ?_, ?_⟩
      · change (ladder a24 0 bits).x2 * (ladder a24 0 bits).z2 = 0
        rw [hz, mul_zero]
      · exact mul_eq_zero_of_right _ (hadd _ _ _ _)
    | true =>
      refine ⟨hadd _ _ _ _, ?_⟩
      exact mul_eq_zero_of_right _ (hdbl _ _ hx)

lemma two_nsmul_eq_zero {y : F} (h : p.curve.Nonsingular 0 y) :
    2 • Point.some 0 y h = 0 := by
  have hy : y = 0 := by
    have heq := (p.nonsingular_iff 0 y).mp h
    have hsq : y ^ 2 = 0 := by rw [heq]; ring
    exact pow_eq_zero_iff two_ne_zero |>.mp hsq
  rw [two_nsmul, Point.add_of_Y_eq rfl]
  rw [p.negY_eq, hy, neg_zero]

lemma xCoord_nsmul_zero {y : F} (h : p.curve.Nonsingular 0 y) (n : ℕ) :
    xCoord (n • Point.some 0 y h) = 0 := by
  have hn := Nat.div_add_mod n 2
  have hsmul : n • Point.some 0 y h = (n % 2) • Point.some 0 y h := by
    conv_lhs => rw [← hn]
    rw [add_nsmul, mul_nsmul, two_nsmul_eq_zero, nsmul_zero, zero_add]
  rw [hsmul]
  rcases Nat.mod_two_eq_zero_or_one n with h0 | h1
  · rw [h0, zero_nsmul]
    rfl
  · rw [h1, one_nsmul]
    rfl

/-- The ladder multiplies the points with the given x-coordinate. -/
theorem smulX_eq {x₁ y₁ : F} (h₁ : p.curve.Nonsingular x₁ y₁) (bits : List Bool) :
    smulX p.a24 x₁ bits = xCoord (ofBits bits • Point.some x₁ y₁ h₁) := by
  by_cases hx : x₁ = 0
  · subst hx
    rw [xCoord_nsmul_zero, smulX, (ladder_zero p.a24 bits).1, div_zero]
  · exact ((holds_ladder h₁ hx bits).first.xCoord_eq).symm

/-- A multiple of a point has the x-coordinate that the ladder makes of its x-coordinate. -/
lemma smulX_xCoord (P : p.curve.Point) (bits : List Bool) :
    smulX p.a24 (xCoord P) bits = xCoord (ofBits bits • P) := by
  cases P with
  | zero =>
    have hzero : (Point.zero : p.curve.Point) = 0 := rfl
    rw [hzero, nsmul_zero]
    exact (congrArg (fun z => _ / z) (ladder_zero p.a24 bits).1).trans (div_zero _)
  | some x y h => exact smulX_eq h bits

end Group

lemma exists_point [IsAlgClosed F] (p : Params F) (x : F) :
    ∃ P : p.curve.Point, xCoord P = x := by
  obtain ⟨y, hy⟩ := IsAlgClosed.exists_pow_nat_eq (x ^ 3 + p.A * x ^ 2 + x) two_pos
  exact ⟨.some x y ((p.nonsingular_iff x y).mpr hy), rfl⟩

/-- The order in which two scalars are applied does not matter, for any x-coordinate. -/
theorem smulX_comm (p : Params F) (x : F) (bits bits' : List Bool) :
    smulX p.a24 (smulX p.a24 x bits) bits' = smulX p.a24 (smulX p.a24 x bits') bits := by
  classical
  let φ := algebraMap F (AlgebraicClosure F)
  apply φ.injective
  obtain ⟨P, hP⟩ := exists_point (p.map φ) (φ x)
  have hmul : ∀ b b' : List Bool, φ (smulX p.a24 (smulX p.a24 x b) b') =
      xCoord ((ofBits b * ofBits b') • P) := by
    intro b b'
    rw [smulX_map, smulX_map, ← hP]
    have ha : φ p.a24 = (p.map φ).a24 := rfl
    rw [ha, smulX_xCoord, smulX_xCoord, mul_nsmul]
  rw [hmul, hmul, mul_comm]

end Montgomery
