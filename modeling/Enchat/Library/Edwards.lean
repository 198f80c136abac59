import Enchat.Library.Montgomery

/-!
# Twisted Edwards coordinates of a Montgomery curve

The points of a Montgomery curve have coordinates on `y² - x² = 1 + d x² y²`. When `d` is not a
square, the addition of Edwards is the addition of points, without an exceptional case.
-/

namespace Edwards
open WeierstrassCurve.Affine

/-- A Montgomery curve, the `d` of its Edwards form, a root of `-1` and the scale of `x`. -/
structure Params (F : Type*) [Field F] extends Montgomery.Params F where
  d : F
  i : F
  c : F
  i_sq : i ^ 2 = -1
  not_square : ∀ r : F, r ^ 2 ≠ d
  d_eq : (A + 2) * d = 2 - A
  c_sq : c ^ 2 = -(A + 2)

variable {F : Type*} [Field F] {p : Params F}

namespace Params

variable (p : Params F)

def OnCurve (x y : F) : Prop := y ^ 2 - x ^ 2 = 1 + p.d * x ^ 2 * y ^ 2

lemma A_add_two_ne : p.A + 2 ≠ 0 := by
  intro h
  apply p.A_sq_ne
  linear_combination (p.A - 2) * h

lemma c_ne : p.c ≠ 0 := by
  intro h
  have hc := p.c_sq
  rw [h] at hc
  apply p.A_add_two_ne
  linear_combination hc

lemma i_ne : p.i ≠ 0 := by
  intro h
  have hi := p.i_sq
  rw [h] at hi
  apply one_ne_zero (α := F)
  linear_combination hi

/-- A product with `-d` that is a square has a factor zero. -/
lemma eq_zero_of_sq {r s : F} (h : r ^ 2 = -p.d * s ^ 2) : s = 0 := by
  by_contra hs
  apply p.not_square (p.i * r / s)
  rw [div_pow, mul_pow, p.i_sq, h]
  field_simp

end Params

/-- The denominators of the addition are not zero. -/
lemma Params.OnCurve.mul_ne {x₁ y₁ x₂ y₂ e : F} (h₁ : p.OnCurve x₁ y₁) (h₂ : p.OnCurve x₂ y₂)
    (he : e ^ 2 = 1) : p.d * (x₁ * x₂ * y₁ * y₂) ≠ e := by
  intro h
  unfold Params.OnCurve at h₁ h₂
  have hi := p.i_sq
  have h2 := p.two_ne
  have hxy : p.i * x₁ * y₁ ≠ 0 := by
    intro hzero
    have hx : x₁ * y₁ = 0 := by
      rcases mul_eq_zero.mp hzero with hx | hy
      · rw [(mul_eq_zero.mp hx).resolve_left p.i_ne, zero_mul]
      · rw [hy, mul_zero]
    apply one_ne_zero (α := F)
    rw [← he, ← h]
    linear_combination (p.d ^ 2 * x₁ * y₁ * x₂ ^ 2 * y₂ ^ 2) * hx
  -- twice the same argument: the sum and the difference of the coordinates would both be zero
  have hsum : p.i * x₁ * y₁ * (p.i * x₂ + y₂) = 0 := by
    apply p.eq_zero_of_sq (r := p.i * x₁ + e * y₁)
    grind
  have hdiff : p.i * x₁ * y₁ * (p.i * x₂ - y₂) = 0 := by
    apply p.eq_zero_of_sq (r := p.i * x₁ - e * y₁)
    grind
  have hs := (mul_eq_zero.mp hsum).resolve_left hxy
  have hd := (mul_eq_zero.mp hdiff).resolve_left hxy
  have hy : y₂ = 0 := by
    have h2y : 2 * y₂ = 0 := by linear_combination hs - hd
    exact (mul_eq_zero.mp h2y).resolve_left h2
  have he0 : e = 0 := by rw [← h, hy]; ring
  rw [he0] at he
  norm_num at he

/-- The Edwards coordinates of a point. -/
def xOf : p.curve.Point → F
  | .zero => 0
  | .some u v _ => p.c * u / v

def yOf : p.curve.Point → F
  | .zero => 1
  | .some u _ _ => (u - 1) / (u + 1)

section Points

variable {u v : F} {h : p.curve.Nonsingular u v}

lemma eq_of_nonsingular (h : p.curve.Nonsingular u v) :
    v ^ 2 = u ^ 3 + p.A * u ^ 2 + u := (p.nonsingular_iff u v).mp h

lemma add_one_ne (h : p.curve.Nonsingular u v) : u + 1 ≠ 0 := by
  intro hu
  have heq := eq_of_nonsingular h
  apply p.not_square (v / p.c)
  have hc : p.c ^ 2 ≠ 0 := pow_ne_zero 2 p.c_ne
  have hA := p.A_add_two_ne
  have hd := p.d_eq
  have hcs := p.c_sq
  have hu' : u = -1 := by linear_combination hu
  rw [div_pow, div_eq_iff hc, heq, hu', hcs]
  linear_combination hd

/-- Only the origin lies on the line `v = 0`. -/
lemma v_ne_zero (h : p.curve.Nonsingular u v) (hu : u ≠ 0) : v ≠ 0 := by
  intro hv
  have heq := eq_of_nonsingular h
  have hA := p.A_add_two_ne
  have hi := p.i_sq
  have hd := p.d_eq
  have hquad : u ^ 2 + p.A * u + 1 = 0 := by
    rw [hv] at heq
    apply (mul_eq_zero.mp ?_).resolve_left hu
    linear_combination -heq
  have h2 := p.two_ne
  apply p.not_square (p.i * (2 * u + p.A) / (p.A + 2))
  rw [div_pow, div_eq_iff (pow_ne_zero 2 hA)]
  linear_combination (2 * u + p.A) ^ 2 * hi - 4 * hquad - (p.A + 2) * hd

lemma v_eq_zero {v : F} (h : p.curve.Nonsingular 0 v) : v = 0 := by
  have heq := eq_of_nonsingular h
  apply pow_eq_zero_iff two_ne_zero |>.mp
  rw [heq]
  ring

lemma xOf_mul (h : p.curve.Nonsingular u v) : xOf (.some u v h) * v = p.c * u := by
  by_cases hu : u = 0
  · rw [xOf, hu, mul_zero, zero_div, zero_mul]
  · exact div_mul_cancel₀ _ (v_ne_zero h hu)

lemma yOf_mul (h : p.curve.Nonsingular u v) : yOf (.some u v h) * (u + 1) = u - 1 :=
  div_mul_cancel₀ _ (add_one_ne h)

end Points

lemma onCurve (P : p.curve.Point) : p.OnCurve (xOf P) (yOf P) := by
  unfold Params.OnCurve
  cases P with
  | zero => simp [xOf, yOf]
  | some u v h =>
    have heq := eq_of_nonsingular h
    have hd := p.d_eq
    have hc := p.c_sq
    have hx := xOf_mul h
    have hy := yOf_mul h
    have h1 := add_one_ne h
    by_cases hu : u = 0
    · have hx0 : xOf (.some u v h) = 0 := by
        rw [xOf, hu, mul_zero, zero_div]
      rw [hx0, yOf, hu]
      norm_num
    · have hv := v_ne_zero h hu
      generalize xOf (.some u v h) = x at *
      generalize yOf (.some u v h) = y at *
      have hw : (v * (u + 1)) ^ 2 ≠ 0 := pow_ne_zero 2 (mul_ne_zero hv h1)
      apply mul_right_cancel₀ hw
      calc (y ^ 2 - x ^ 2) * (v * (u + 1)) ^ 2
          = (y * (u + 1)) ^ 2 * v ^ 2 - (x * v) ^ 2 * (u + 1) ^ 2 := by ring
        _ = v ^ 2 * (u + 1) ^ 2 + p.d * (x * v) ^ 2 * (y * (u + 1)) ^ 2 := by
          rw [hx, hy]
          linear_combination -4 * u * heq - u ^ 2 * ((u + 1) ^ 2 + p.d * (u - 1) ^ 2) * hc +
            u ^ 2 * (u - 1) ^ 2 * hd
        _ = (1 + p.d * x ^ 2 * y ^ 2) * (v * (u + 1)) ^ 2 := by ring


lemma xOf_neg (P : p.curve.Point) : xOf (-P) = -xOf P := by
  cases P with
  | zero => exact neg_zero.symm
  | some u v h =>
    rw [Point.neg_some, xOf, xOf, p.negY_eq, div_neg]

lemma yOf_neg (P : p.curve.Point) : yOf (-P) = yOf P := by
  cases P <;> rfl

/-- The denominators of the addition of two points. -/
lemma one_add_ne (P Q : p.curve.Point) : 1 + p.d * (xOf P * xOf Q * yOf P * yOf Q) ≠ 0 := by
  have h := (onCurve P).mul_ne (onCurve Q) (e := -1) (by norm_num)
  intro hc
  apply h
  linear_combination hc

lemma one_sub_ne (P Q : p.curve.Point) : 1 - p.d * (xOf P * xOf Q * yOf P * yOf Q) ≠ 0 := by
  have h := (onCurve P).mul_ne (onCurve Q) (e := 1) (by norm_num)
  intro hc
  apply h
  linear_combination -hc

/-- The x-coordinate on the Montgomery curve. -/
lemma xCoord_eq (P : p.curve.Point) : Montgomery.xCoord P = (1 + yOf P) / (1 - yOf P) := by
  cases P with
  | zero => simp [Montgomery.xCoord, yOf]
  | some u v h =>
    have h1 := add_one_ne h
    have hden : 1 - (u - 1) / (u + 1) ≠ 0 := by
      rw [one_sub_div h1]
      have hnum : u + 1 - (u - 1) = 2 := by ring
      rw [hnum]
      exact div_ne_zero p.two_ne h1
    rw [Montgomery.xCoord, yOf, eq_div_iff hden]
    field_simp
    ring

section Formulas

variable {u₁ v₁ u₂ v₂ : F}

/-- The chord through two points, multiplied out. -/
lemma chord {A d c l u₃ v₃ x₁ y₁ x₂ y₂ : F} (hd : (A + 2) * d = 2 - A) (hc : c ^ 2 = -(A + 2))
    (h₁ : v₁ ^ 2 = u₁ ^ 3 + A * u₁ ^ 2 + u₁) (h₂ : v₂ ^ 2 = u₂ ^ 3 + A * u₂ ^ 2 + u₂)
    (hne : u₂ - u₁ ≠ 0) (hl : l * (u₂ - u₁) = v₂ - v₁) (hu₃ : u₃ = l ^ 2 - A - u₁ - u₂)
    (hv₃ : v₃ = -(l * (u₃ - u₁) + v₁)) (hx₁ : x₁ * v₁ = c * u₁) (hx₂ : x₂ * v₂ = c * u₂)
    (hy₁ : y₁ * (u₁ + 1) = u₁ - 1) (hy₂ : y₂ * (u₂ + 1) = u₂ - 1)
    (hw : v₁ * v₂ * ((u₁ + 1) * (u₂ + 1)) ≠ 0) :
    c * u₃ * (1 + d * (x₁ * x₂ * y₁ * y₂)) = (x₁ * y₂ + y₁ * x₂) * v₃ ∧
      (u₃ - 1) * (1 - d * (x₁ * x₂ * y₁ * y₂)) = (y₁ * y₂ + x₁ * x₂) * (u₃ + 1) := by
  have hdc : d * c ^ 2 = A - 2 := by linear_combination d * hc - hd
  have hsq : (v₁ * v₂) ^ 2 = (u₁ ^ 3 + A * u₁ ^ 2 + u₁) * (u₂ ^ 3 + A * u₂ ^ 2 + u₂) := by
    rw [mul_pow, h₁, h₂]
  have hprod : d * (x₁ * x₂ * y₁ * y₂) * (v₁ * v₂ * ((u₁ + 1) * (u₂ + 1))) =
      (A - 2) * (u₁ * u₂ * ((u₁ - 1) * (u₂ - 1))) := by
    calc d * (x₁ * x₂ * y₁ * y₂) * (v₁ * v₂ * ((u₁ + 1) * (u₂ + 1)))
        = d * ((x₁ * v₁) * (x₂ * v₂)) * ((y₁ * (u₁ + 1)) * (y₂ * (u₂ + 1))) := by ring
      _ = (A - 2) * (u₁ * u₂ * ((u₁ - 1) * (u₂ - 1))) := by
        rw [hx₁, hx₂, hy₁, hy₂]
        linear_combination u₁ * u₂ * ((u₁ - 1) * (u₂ - 1)) * hdc
  have hsum : u₃ * (u₂ - u₁) ^ 2 = (u₁ ^ 3 + A * u₁ ^ 2 + u₁) + (u₂ ^ 3 + A * u₂ ^ 2 + u₂) -
      2 * (v₁ * v₂) - (A + u₁ + u₂) * (u₂ - u₁) ^ 2 := by
    have hl2 : l ^ 2 * (u₂ - u₁) ^ 2 = (v₂ - v₁) ^ 2 := by rw [← hl]; ring
    rw [hu₃]
    linear_combination hl2 + h₁ + h₂
  have hvert : (u₂ - u₁) * v₃ = u₁ * v₂ - u₂ * v₁ - (v₂ - v₁) * u₃ := by
    rw [hv₃]
    linear_combination -(u₃ - u₁) * hl
  have hsq3 := pow_ne_zero 2 hne
  constructor
  · apply mul_right_cancel₀ hw
    apply mul_left_cancel₀ hne
    apply mul_left_cancel₀ hsq3
    have hQ : (x₁ * y₂ + y₁ * x₂) * (v₁ * v₂ * ((u₁ + 1) * (u₂ + 1))) =
        c * (u₁ * (u₁ + 1) * (u₂ - 1) * v₂ + u₂ * (u₁ - 1) * (u₂ + 1) * v₁) := by
      calc (x₁ * y₂ + y₁ * x₂) * (v₁ * v₂ * ((u₁ + 1) * (u₂ + 1)))
          = (x₁ * v₁) * (y₂ * (u₂ + 1)) * ((u₁ + 1) * v₂) +
              (x₂ * v₂) * (y₁ * (u₁ + 1)) * ((u₂ + 1) * v₁) := by ring
        _ = _ := by
          rw [hx₁, hx₂, hy₁, hy₂]
          ring
    linear_combination (u₂ - u₁) ^ 3 * c * u₃ * hprod - (u₂ - u₁) ^ 3 * v₃ * hQ -
      c * (u₂ - u₁) ^ 2 * (u₁ * (u₁ + 1) * (u₂ - 1) * v₂ + u₂ * (u₁ - 1) * (u₂ + 1) * v₁) * hvert +
      c * (u₂ - u₁) ^ 2 * (u₃ - u₁) * (u₁ * (u₁ + 1) * (u₂ - 1)) * h₂ -
      c * (u₂ - u₁) ^ 2 * (u₃ - u₂) * (u₂ * (u₁ - 1) * (u₂ + 1)) * h₁ +
      c * ((u₂ - u₁) * (A - 2) * (u₁ * u₂ * ((u₁ - 1) * (u₂ - 1))) +
        u₁ * (u₁ + 1) * (u₂ - 1) * (u₂ ^ 3 + A * u₂ ^ 2 + u₂) -
        u₂ * (u₁ - 1) * (u₂ + 1) * (u₁ ^ 3 + A * u₁ ^ 2 + u₁) +
        ((u₂ - u₁) * ((u₁ + 1) * (u₂ + 1)) + u₂ * (u₁ - 1) * (u₂ + 1) -
          u₁ * (u₁ + 1) * (u₂ - 1)) * (v₁ * v₂)) * hsum -
      2 * c * ((u₂ - u₁) * ((u₁ + 1) * (u₂ + 1)) + u₂ * (u₁ - 1) * (u₂ + 1) -
        u₁ * (u₁ + 1) * (u₂ - 1)) * hsq
  · apply mul_right_cancel₀ hw
    apply mul_left_cancel₀ hsq3
    have hM : (y₁ * y₂ + x₁ * x₂) * (v₁ * v₂ * ((u₁ + 1) * (u₂ + 1))) =
        v₁ * v₂ * ((u₁ - 1) * (u₂ - 1)) - (A + 2) * (u₁ * u₂ * ((u₁ + 1) * (u₂ + 1))) := by
      calc (y₁ * y₂ + x₁ * x₂) * (v₁ * v₂ * ((u₁ + 1) * (u₂ + 1)))
          = v₁ * v₂ * ((y₁ * (u₁ + 1)) * (y₂ * (u₂ + 1))) +
              (x₁ * v₁) * (x₂ * v₂) * ((u₁ + 1) * (u₂ + 1)) := by ring
        _ = _ := by
          rw [hx₁, hx₂, hy₁, hy₂]
          linear_combination u₁ * u₂ * ((u₁ + 1) * (u₂ + 1)) * hc
    linear_combination (-(u₃ - 1) * (u₂ - u₁) ^ 2) * hprod - (u₂ - u₁) ^ 2 * (u₃ + 1) * hM +
      (2 * (v₁ * v₂) * (u₁ + u₂) + u₁ * u₂ * (4 * (u₁ * u₂ + 1) + 2 * A * (u₁ + u₂))) * hsum -
      4 * (u₁ + u₂) * hsq

/-- The tangent at a point, multiplied out. -/
lemma tangent {A d c u v l u₃ v₃ x y : F} (h2 : (2 : F) ≠ 0) (hd : (A + 2) * d = 2 - A)
    (hc : c ^ 2 = -(A + 2)) (h : v ^ 2 = u ^ 3 + A * u ^ 2 + u)
    (hl : l * (2 * v) = 3 * u ^ 2 + 2 * A * u + 1) (hu₃ : u₃ = l ^ 2 - A - u - u)
    (hv₃ : v₃ = -(l * (u₃ - u) + v)) (hx : x * v = c * u) (hy : y * (u + 1) = u - 1) (hv : v ≠ 0)
    (hu : u + 1 ≠ 0) :
    c * u₃ * (1 + d * (x * x * y * y)) = (x * y + y * x) * v₃ ∧
      (u₃ - 1) * (1 - d * (x * x * y * y)) = (y * y + x * x) * (u₃ + 1) := by
  have hdc : d * c ^ 2 = A - 2 := by linear_combination d * hc - hd
  have hw : v ^ 2 * (u + 1) ^ 2 ≠ 0 := mul_ne_zero (pow_ne_zero 2 hv) (pow_ne_zero 2 hu)
  have hf : (2 * v) ^ 2 ≠ 0 := pow_ne_zero 2 (mul_ne_zero h2 hv)
  have hprod : d * (x * x * y * y) * (v ^ 2 * (u + 1) ^ 2) = (A - 2) * (u ^ 2 * (u - 1) ^ 2) := by
    calc d * (x * x * y * y) * (v ^ 2 * (u + 1) ^ 2)
        = d * (x * v) ^ 2 * (y * (u + 1)) ^ 2 := by ring
      _ = (A - 2) * (u ^ 2 * (u - 1) ^ 2) := by
        rw [hx, hy]
        linear_combination u ^ 2 * (u - 1) ^ 2 * hdc
  have hdbl : u₃ * (2 * v) ^ 2 = (u ^ 2 - 1) ^ 2 := by
    have hl2 : l ^ 2 * (2 * v) ^ 2 = (3 * u ^ 2 + 2 * A * u + 1) ^ 2 := by rw [← hl]; ring
    rw [hu₃]
    linear_combination hl2 - 4 * (A + 2 * u) * h
  have hvert : 2 * v * v₃ = -((3 * u ^ 2 + 2 * A * u + 1) * (u₃ - u) + 2 * v ^ 2) := by
    rw [hv₃]
    linear_combination -(u₃ - u) * hl
  constructor
  · apply mul_right_cancel₀ hw
    apply mul_left_cancel₀ hf
    have hQ : (x * y + y * x) * (v ^ 2 * (u + 1) ^ 2) = c * (u * (u ^ 2 - 1)) * (2 * v) := by
      calc (x * y + y * x) * (v ^ 2 * (u + 1) ^ 2)
          = (x * v) * (y * (u + 1)) * (2 * v * (u + 1)) := by ring
        _ = c * (u * (u ^ 2 - 1)) * (2 * v) := by
          rw [hx, hy]
          ring
    linear_combination c * u₃ * (2 * v) ^ 2 * hprod - v₃ * (2 * v) ^ 2 * hQ -
      (2 * v) ^ 2 * c * (u * (u ^ 2 - 1)) * hvert +
      c * (v ^ 2 * (u + 1) ^ 2 + (A - 2) * (u ^ 2 * (u - 1) ^ 2) +
        u * (u ^ 2 - 1) * (3 * u ^ 2 + 2 * A * u + 1)) * hdbl +
      c * ((u ^ 2 - 1) ^ 2 * (u + 1) ^ 2 + u * (u ^ 2 - 1) * (8 * (v ^ 2 + u ^ 3 + A * u ^ 2 + u) -
        4 * u * (3 * u ^ 2 + 2 * A * u + 1))) * h
  · apply mul_right_cancel₀ hw
    have hM : (y * y + x * x) * (v ^ 2 * (u + 1) ^ 2) =
        v ^ 2 * (u - 1) ^ 2 - (A + 2) * (u ^ 2 * (u + 1) ^ 2) := by
      calc (y * y + x * x) * (v ^ 2 * (u + 1) ^ 2)
          = v ^ 2 * (y * (u + 1)) ^ 2 + (x * v) ^ 2 * (u + 1) ^ 2 := by ring
        _ = v ^ 2 * (u - 1) ^ 2 - (A + 2) * (u ^ 2 * (u + 1) ^ 2) := by
          rw [hx, hy]
          linear_combination u ^ 2 * (u + 1) ^ 2 * hc
    linear_combination -(u₃ - 1) * hprod - (u₃ + 1) * hM + 2 * u * hdbl +
      ((u₃ - 1) * (u + 1) ^ 2 - (u₃ + 1) * (u - 1) ^ 2 - 8 * u * u₃) * h

end Formulas

variable [DecidableEq F]

/-- The statement of the addition law for two points. -/
def Adds (P Q : p.curve.Point) : Prop :=
  xOf (P + Q) * (1 + p.d * (xOf P * xOf Q * yOf P * yOf Q)) =
      xOf P * yOf Q + yOf P * xOf Q ∧
    yOf (P + Q) * (1 - p.d * (xOf P * xOf Q * yOf P * yOf Q)) = yOf P * yOf Q + xOf P * xOf Q

lemma Adds.symm {P Q : p.curve.Point} (h : Adds P Q) : Adds Q P := by
  obtain ⟨hx, hy⟩ := h
  unfold Adds
  rw [add_comm Q P]
  constructor
  · linear_combination hx
  · linear_combination hy

lemma adds_zero (P : p.curve.Point) : Adds P 0 := by
  have hx : xOf (0 : p.curve.Point) = 0 := rfl
  have hy : yOf (0 : p.curve.Point) = 1 := rfl
  unfold Adds
  rw [add_zero, hx, hy]
  constructor <;> ring

lemma adds_neg (P : p.curve.Point) : Adds P (-P) := by
  have hx : xOf (0 : p.curve.Point) = 0 := rfl
  have hy : yOf (0 : p.curve.Point) = 1 := rfl
  have hcurve := onCurve P
  unfold Params.OnCurve at hcurve
  unfold Adds
  rw [add_neg_cancel, xOf_neg, yOf_neg, hx, hy]
  constructor
  · ring
  · linear_combination -hcurve

section Chord

variable {u₁ v₁ u₂ v₂ : F}

/-- The sum with the origin changes the signs of both coordinates. -/
lemma add_origin (h₁ : p.curve.Nonsingular 0 v₁) (h₂ : p.curve.Nonsingular u₂ v₂) (hu : u₂ ≠ 0) :
    xOf (Point.some 0 v₁ h₁ + Point.some u₂ v₂ h₂) = -xOf (.some u₂ v₂ h₂) ∧
      yOf (Point.some 0 v₁ h₁ + Point.some u₂ v₂ h₂) = -yOf (.some u₂ v₂ h₂) := by
  have heq₂ := eq_of_nonsingular h₂
  obtain rfl := v_eq_zero h₁
  have hv := v_ne_zero h₂ hu
  have h1 := add_one_ne h₂
  have hne : (0 : F) ≠ u₂ := fun h => hu h.symm
  have hslope : p.curve.slope 0 u₂ 0 v₂ = v₂ / u₂ := by
    rw [slope_of_X_ne hne, zero_sub, zero_sub, neg_div_neg_eq]
  have hX : p.curve.addX 0 u₂ (p.curve.slope 0 u₂ 0 v₂) = 1 / u₂ := by
    rw [hslope]
    simp only [WeierstrassCurve.Affine.addX, Montgomery.Params.curve]
    field_simp
    linear_combination heq₂
  have hY : p.curve.addY 0 u₂ 0 (p.curve.slope 0 u₂ 0 v₂) = -(v₂ / u₂ ^ 2) := by
    simp only [WeierstrassCurve.Affine.addY, negAddY, p.negY_eq]
    rw [hX, hslope]
    field_simp
    ring
  rw [Point.add_of_X_ne hne]
  simp only [xOf, yOf, hX, hY]
  constructor
  · field_simp
  · have h1' : 1 / u₂ + 1 ≠ 0 := by
      intro hzero
      apply h1
      field_simp at hzero
      linear_combination hzero
    rw [div_eq_iff h1']
    field_simp
    ring

lemma adds_origin {h₁ : p.curve.Nonsingular 0 v₁} (P : p.curve.Point) :
    Adds (Point.some 0 v₁ h₁) P := by
  have hx : xOf (Point.some 0 v₁ h₁) = 0 := by
    rw [xOf, mul_zero, zero_div]
  have hy : yOf (Point.some 0 v₁ h₁) = -1 := by
    rw [yOf]
    norm_num
  cases P with
  | zero => exact adds_zero _
  | some u₂ v₂ h₂ =>
    by_cases hu : u₂ = 0
    · subst hu
      have hneg : Point.some 0 v₂ h₂ = -Point.some 0 v₁ h₁ := by
        rw [Point.neg_some, Point.some.injEq, p.negY_eq, v_eq_zero h₁, v_eq_zero h₂, neg_zero]
        exact ⟨rfl, rfl⟩
      rw [hneg]
      exact adds_neg _
    · obtain ⟨hX, hY⟩ := add_origin h₁ h₂ hu
      unfold Adds
      rw [hX, hY, hx, hy]
      constructor <;> ring

end Chord

/-- From the multiplied out form to the coordinates of the sum. -/
lemma adds_of {u₁ v₁ u₂ v₂ u₃ v₃ : F} {h₁ : p.curve.Nonsingular u₁ v₁}
    {h₂ : p.curve.Nonsingular u₂ v₂} {h₃ : p.curve.Nonsingular u₃ v₃}
    (hsum : Point.some u₁ v₁ h₁ + Point.some u₂ v₂ h₂ = .some u₃ v₃ h₃) (hu : u₃ ≠ 0)
    (hx : p.c * u₃ * (1 + p.d * (xOf (.some u₁ v₁ h₁) * xOf (.some u₂ v₂ h₂) *
      yOf (.some u₁ v₁ h₁) * yOf (.some u₂ v₂ h₂))) = (xOf (.some u₁ v₁ h₁) *
        yOf (.some u₂ v₂ h₂) + yOf (.some u₁ v₁ h₁) * xOf (.some u₂ v₂ h₂)) * v₃)
    (hy : (u₃ - 1) * (1 - p.d * (xOf (.some u₁ v₁ h₁) * xOf (.some u₂ v₂ h₂) *
      yOf (.some u₁ v₁ h₁) * yOf (.some u₂ v₂ h₂))) = (yOf (.some u₁ v₁ h₁) *
        yOf (.some u₂ v₂ h₂) + xOf (.some u₁ v₁ h₁) * xOf (.some u₂ v₂ h₂)) * (u₃ + 1)) :
    Adds (.some u₁ v₁ h₁) (.some u₂ v₂ h₂) := by
  have hv := v_ne_zero h₃ hu
  have h1 := add_one_ne h₃
  unfold Adds
  rw [hsum]
  constructor
  · rw [xOf, div_mul_eq_mul_div, div_eq_iff hv]
    exact hx
  · rw [yOf, div_mul_eq_mul_div, div_eq_iff h1]
    exact hy

/-- A sum that is the origin: one point is the origin less the other one. -/
lemma adds_of_sum_origin {u₁ v₁ v₃ : F} {Q : p.curve.Point} {h₁ : p.curve.Nonsingular u₁ v₁}
    {h₃ : p.curve.Nonsingular 0 v₃} (hu : u₁ ≠ 0)
    (hsum : Point.some u₁ v₁ h₁ + Q = .some 0 v₃ h₃) : Adds (.some u₁ v₁ h₁) Q := by
  have hcurve := onCurve (Point.some u₁ v₁ h₁)
  unfold Params.OnCurve at hcurve
  have hneg := add_origin h₃ ((nonsingular_neg u₁ v₁).mpr h₁) hu
  rw [← Point.neg_some h₁, xOf_neg, yOf_neg, neg_neg, ← hsum, add_neg_cancel_comm] at hneg
  have hx : xOf (Point.some 0 v₃ h₃) = 0 := by
    rw [xOf, mul_zero, zero_div]
  have hy : yOf (Point.some 0 v₃ h₃) = -1 := by
    rw [yOf]
    norm_num
  unfold Adds
  rw [hsum, hx, hy, hneg.1, hneg.2]
  constructor
  · ring
  · linear_combination hcurve

lemma adds_chord {u₁ v₁ u₂ v₂ u₃ v₃ : F} {h₁ : p.curve.Nonsingular u₁ v₁}
    {h₂ : p.curve.Nonsingular u₂ v₂} {h₃ : p.curve.Nonsingular u₃ v₃} (hu₁ : u₁ ≠ 0)
    (hu₂ : u₂ ≠ 0) (hu₃ : u₃ ≠ 0) (hne : u₁ ≠ u₂)
    (hsum : Point.some u₁ v₁ h₁ + Point.some u₂ v₂ h₂ = .some u₃ v₃ h₃) :
    Adds (.some u₁ v₁ h₁) (.some u₂ v₂ h₂) := by
  have hw := mul_ne_zero (mul_ne_zero (v_ne_zero h₁ hu₁) (v_ne_zero h₂ hu₂))
    (mul_ne_zero (add_one_ne h₁) (add_one_ne h₂))
  have hslope : p.curve.slope u₁ u₂ v₁ v₂ * (u₂ - u₁) = v₂ - v₁ := by
    rw [slope_of_X_ne hne, div_mul_eq_mul_div, div_eq_iff (sub_ne_zero.mpr hne)]
    ring
  have heq := hsum
  rw [Point.add_of_X_ne hne, Point.some.injEq] at heq
  obtain ⟨hX, hY⟩ := heq
  generalize p.curve.slope u₁ u₂ v₁ v₂ = l at *
  have hX' : u₃ = l ^ 2 - p.A - u₁ - u₂ := by
    rw [← hX]
    simp only [WeierstrassCurve.Affine.addX, Montgomery.Params.curve]
    ring
  have hY' : v₃ = -(l * (u₃ - u₁) + v₁) := by
    rw [← hY, WeierstrassCurve.Affine.addY, negAddY, p.negY_eq, hX]
  obtain ⟨hx, hy⟩ := chord p.d_eq p.c_sq (eq_of_nonsingular h₁) (eq_of_nonsingular h₂)
    (sub_ne_zero.mpr (Ne.symm hne)) hslope hX' hY' (xOf_mul h₁) (xOf_mul h₂) (yOf_mul h₁)
    (yOf_mul h₂) hw
  exact adds_of hsum hu₃ hx hy

lemma adds_tangent {u v u₃ v₃ : F} {h : p.curve.Nonsingular u v}
    {h₃ : p.curve.Nonsingular u₃ v₃} (hu : u ≠ 0) (hu₃ : u₃ ≠ 0)
    (hsum : Point.some u v h + Point.some u v h = .some u₃ v₃ h₃) :
    Adds (.some u v h) (.some u v h) := by
  have hv := v_ne_zero h hu
  have h2v : 2 * v ≠ 0 := mul_ne_zero p.two_ne hv
  have hneg : v ≠ p.curve.negY u v := by
    rw [p.negY_eq]
    intro hc
    apply h2v
    linear_combination hc
  have hslope : p.curve.slope u u v v * (2 * v) = 3 * u ^ 2 + 2 * p.A * u + 1 := by
    have hden : v - p.curve.negY u v = 2 * v := by
      rw [p.negY_eq]
      ring
    rw [slope_of_Y_ne rfl hneg, hden, div_mul_cancel₀ _ h2v]
    simp only [Montgomery.Params.curve]
    ring
  have heq := hsum
  rw [Point.add_self_of_Y_ne hneg, Point.some.injEq] at heq
  obtain ⟨hX, hY⟩ := heq
  generalize p.curve.slope u u v v = l at *
  have hX' : u₃ = l ^ 2 - p.A - u - u := by
    rw [← hX]
    simp only [WeierstrassCurve.Affine.addX, Montgomery.Params.curve]
    ring
  have hY' : v₃ = -(l * (u₃ - u) + v) := by
    rw [← hY, WeierstrassCurve.Affine.addY, negAddY, p.negY_eq, hX]
  obtain ⟨hx, hy⟩ := tangent p.two_ne p.d_eq p.c_sq (eq_of_nonsingular h) hslope hX' hY'
    (xOf_mul h) (yOf_mul h) hv (add_one_ne h)
  exact adds_of hsum hu₃ hx hy

/-- The addition law of Edwards computes the sum of any two points. -/
theorem adds (P Q : p.curve.Point) : Adds P Q := by
  cases P with
  | zero => exact (adds_zero Q).symm
  | some u₁ v₁ h₁ =>
    cases Q with
    | zero => exact adds_zero _
    | some u₂ v₂ h₂ =>
      by_cases hu₁ : u₁ = 0
      · subst hu₁
        exact adds_origin _
      by_cases hu₂ : u₂ = 0
      · subst hu₂
        exact (adds_origin _).symm
      generalize hR : Point.some u₁ v₁ h₁ + Point.some u₂ v₂ h₂ = R
      cases R with
      | zero =>
        have hneg : Point.some u₂ v₂ h₂ = -Point.some u₁ v₁ h₁ := eq_neg_of_add_eq_zero_right hR
        rw [hneg]
        exact adds_neg _
      | some u₃ v₃ h₃ =>
        by_cases hu₃ : u₃ = 0
        · subst hu₃
          exact adds_of_sum_origin hu₁ hR
        by_cases hu : u₁ = u₂
        · rcases Point.X_eq_iff.mp hu with heq | heq
          · rw [← heq] at hR ⊢
            exact adds_tangent hu₁ hu₃ hR
          · rw [heq, neg_add_cancel] at hR
            cases hR
        · exact adds_chord hu₁ hu₂ hu₃ hu hR

/-- Projective coordinates. -/
structure Proj (P : p.curve.Point) (X Y Z : F) : Prop where
  z_ne : Z ≠ 0
  x : X = xOf P * Z
  y : Y = yOf P * Z

/-- Extended coordinates, with `T = X Y / Z`. -/
structure Ext (P : p.curve.Point) (X Y Z T : F) : Prop extends Proj P X Y Z where
  t : T = xOf P * yOf P * Z

/-- The result of an addition, a denominator for each coordinate. -/
structure Completed (P : p.curve.Point) (X Y Z T : F) : Prop where
  z_ne : Z ≠ 0
  t_ne : T ≠ 0
  x : X = xOf P * Z
  y : Y = yOf P * T

/-- An affine point prepared for additions. -/
structure Precomp (P : p.curve.Point) (a b t : F) : Prop where
  plus : a = yOf P + xOf P
  minus : b = yOf P - xOf P
  prod : t = 2 * p.d * (xOf P * yOf P)

omit [DecidableEq F] in
lemma Completed.ext {P : p.curve.Point} {X Y Z T : F} (h : Completed P X Y Z T) :
    Ext P (X * T) (Y * Z) (Z * T) (X * Y) where
  z_ne := mul_ne_zero h.z_ne h.t_ne
  x := by rw [h.x]; ring
  y := by rw [h.y]; ring
  t := by rw [h.x, h.y]; ring

omit [DecidableEq F] in
lemma ext_zero : Ext (0 : p.curve.Point) 0 1 1 0 :=
  ⟨⟨one_ne_zero, by simp [xOf], by simp [yOf]⟩,
    by simp [xOf]⟩

omit [DecidableEq F] in
lemma precomp_zero : Precomp (0 : p.curve.Point) 1 1 0 :=
  ⟨by simp [xOf, yOf], by simp [xOf, yOf],
    by simp [xOf]⟩

omit [DecidableEq F] in
lemma Precomp.neg {P : p.curve.Point} {a b t : F} (h : Precomp P a b t) :
    Precomp (-P) b a (-t) where
  plus := by rw [h.minus, xOf_neg, yOf_neg]; ring
  minus := by rw [h.plus, xOf_neg, yOf_neg]; ring
  prod := by rw [h.prod, xOf_neg, yOf_neg]; ring

/-- The addition of a prepared point. -/
lemma Ext.madd {P Q : p.curve.Point} {X Y Z T a b t : F} (h : Ext P X Y Z T)
    (hq : Precomp Q a b t) :
    Completed (P + Q) ((Y + X) * a - (Y - X) * b) ((Y + X) * a + (Y - X) * b)
      (Z + Z + t * T) (Z + Z - t * T) := by
  obtain ⟨hx, hy⟩ := adds P Q
  have hz2 : 2 * Z ≠ 0 := mul_ne_zero p.two_ne h.z_ne
  have hZ : Z + Z + t * T = 2 * Z * (1 + p.d * (xOf P * xOf Q * yOf P * yOf Q)) := by
    rw [hq.prod, h.t]
    ring
  have hT : Z + Z - t * T = 2 * Z * (1 - p.d * (xOf P * xOf Q * yOf P * yOf Q)) := by
    rw [hq.prod, h.t]
    ring
  refine ⟨?_, ?_, ?_, ?_⟩
  · rw [hZ]
    exact mul_ne_zero hz2 (one_add_ne P Q)
  · rw [hT]
    exact mul_ne_zero hz2 (one_sub_ne P Q)
  · rw [hZ, hq.plus, hq.minus, h.x, h.y]
    linear_combination -2 * Z * hx
  · rw [hT, hq.plus, hq.minus, h.x, h.y]
    linear_combination -2 * Z * hy

/-- The doubling. -/
lemma Proj.dbl {P : p.curve.Point} {X Y Z : F} (h : Proj P X Y Z) :
    Completed (P + P) ((X + Y) ^ 2 - (Y ^ 2 + X ^ 2)) (Y ^ 2 + X ^ 2) (Y ^ 2 - X ^ 2)
      (Z ^ 2 + Z ^ 2 - (Y ^ 2 - X ^ 2)) := by
  obtain ⟨hx, hy⟩ := adds P P
  have hcurve := onCurve P
  unfold Params.OnCurve at hcurve
  have hz2 : Z ^ 2 ≠ 0 := pow_ne_zero 2 h.z_ne
  have hZ : Y ^ 2 - X ^ 2 = Z ^ 2 * (1 + p.d * (xOf P * xOf P * yOf P * yOf P)) := by
    rw [h.x, h.y]
    linear_combination Z ^ 2 * hcurve
  have hT : Z ^ 2 + Z ^ 2 - (Y ^ 2 - X ^ 2) =
      Z ^ 2 * (1 - p.d * (xOf P * xOf P * yOf P * yOf P)) := by
    rw [hZ]
    ring
  refine ⟨?_, ?_, ?_, ?_⟩
  · rw [hZ]
    exact mul_ne_zero hz2 (one_add_ne P P)
  · rw [hT]
    exact mul_ne_zero hz2 (one_sub_ne P P)
  · rw [hZ, h.x, h.y]
    linear_combination -Z ^ 2 * hx
  · rw [hT, h.x, h.y]
    linear_combination -Z ^ 2 * hy

/-- Equations that tell the sum of two prepared points. -/
lemma Precomp.add {P Q : p.curve.Point} {a₁ b₁ t₁ a₂ b₂ t₂ a b t : F} (h₁ : Precomp P a₁ b₁ t₁)
    (h₂ : Precomp Q a₂ b₂ t₂)
    (hx : (a - b) * (8 + t₁ * (a₂ ^ 2 - b₂ ^ 2)) = 8 * (a₁ * a₂ - b₁ * b₂))
    (hy : (a + b) * (8 - t₁ * (a₂ ^ 2 - b₂ ^ 2)) = 8 * (a₁ * a₂ + b₁ * b₂))
    (ht : t + t = p.d * (a ^ 2 - b ^ 2)) : Precomp (P + Q) a b t := by
  obtain ⟨hxs, hys⟩ := adds P Q
  have h2 := p.two_ne
  have h8 : (8 : F) ≠ 0 := by
    have h : (8 : F) = 2 ^ 3 := by norm_num
    rw [h]
    exact pow_ne_zero 3 h2
  have hone := one_add_ne P Q
  have hsub := one_sub_ne P Q
  rw [h₁.plus, h₁.minus, h₁.prod, h₂.plus, h₂.minus] at hx hy
  have hdiff : a - b = 2 * xOf (P + Q) := by
    apply mul_right_cancel₀ (mul_ne_zero h8 hone)
    linear_combination hx - 16 * hxs
  have hsum : a + b = 2 * yOf (P + Q) := by
    apply mul_right_cancel₀ (mul_ne_zero h8 hsub)
    linear_combination hy - 16 * hys
  refine ⟨?_, ?_, ?_⟩
  · apply mul_left_cancel₀ h2
    linear_combination hdiff + hsum
  · apply mul_left_cancel₀ h2
    linear_combination hsum - hdiff
  · apply mul_left_cancel₀ h2
    linear_combination ht + p.d * (a + b) * hdiff + 2 * p.d * xOf (P + Q) * hsum

omit [DecidableEq F] in
lemma Precomp.proj {P : p.curve.Point} {a b t : F} (h : Precomp P a b t) :
    Proj P (a - b) (a + b) (1 + 1) where
  z_ne := one_add_one_eq_two (R := F) ▸ p.two_ne
  x := by rw [h.plus, h.minus]; ring
  y := by rw [h.plus, h.minus]; ring

omit [DecidableEq F] in
lemma Proj.precomp {P : p.curve.Point} {X Y Z a b t : F} (h : Proj P X Y Z) (ha : a * Z = Y + X)
    (hb : b * Z = Y - X) (ht : t + t = p.d * (a ^ 2 - b ^ 2)) : Precomp P a b t := by
  have hplus : a = yOf P + xOf P := by
    apply mul_right_cancel₀ h.z_ne
    rw [ha, h.x, h.y]
    ring
  have hminus : b = yOf P - xOf P := by
    apply mul_right_cancel₀ h.z_ne
    rw [hb, h.x, h.y]
    ring
  refine ⟨hplus, hminus, ?_⟩
  apply mul_left_cancel₀ p.two_ne
  rw [two_mul, ht, hplus, hminus]
  ring

end Edwards
