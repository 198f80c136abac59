import Enchat.Library.Montgomery
import Enchat.Model.Generator
import Enchat.Model.Sample
import Enchat.Model.X25519
import Enchat.Proofs.FieldBytes

/-!
# The key agreement of Curve25519

The loop of `x25519_scalar_mult_generic` computes the Montgomery ladder over the field. So it
multiplies points of the curve and of its twist by the clamped scalar, and two scalars can be applied
in either order.
-/

namespace Enchat
open Montgomery

def bit (b : Bool) : UInt64 := if b then 1 else 0

lemma scalarBit_eq (e : List UInt8) (pos : ℕ) :
    scalarBit e pos = bit ((LittleEndian.value e).testBit pos) := by
  rw [LittleEndian.testBit_value, scalarBit]
  generalize e.getD (pos / 8) 0 = b
  have hlt : pos % 8 < 8 := Nat.mod_lt _ (by norm_num)
  generalize pos % 8 = i at *
  apply UInt64.toNat_inj.mp
  have hi : (UInt64.ofNat i).toNat % 64 = i := by
    rw [UInt64.toNat_ofNat']
    omega
  have hbit : (bit (b.toNat.testBit i)).toNat = (b.toNat.testBit i).toNat := by
    cases b.toNat.testBit i <;> rfl
  rw [UInt64.toNat_and, UInt64.toNat_shiftRight, UInt8.toNat_toUInt64, hi, hbit, Nat.toNat_testBit,
    Nat.shiftRight_eq_div_pow, UInt64.toNat_one, Nat.one_and_eq_mod_two]

lemma xor_bit (a b : Bool) : bit a ^^^ bit b = bit (a ^^ b) := by
  cases a <;> cases b <;> rfl

/-- The clamped scalar lies between `2 ^ 254` and `2 ^ 255` and is a multiple of eight. -/
lemma value_clampScalar {scalar : List UInt8} (hlen : scalar.length = 32) :
    LittleEndian.value (clampScalar scalar) =
      2 ^ 254 + 8 * (LittleEndian.value scalar / 8 % 2 ^ 251) := by
  obtain ⟨l, r, hl, hr, rfl⟩ := exists_append (n := 1) (k := 31) hlen
  obtain ⟨m, t, hm, ht, rfl⟩ := exists_append (n := 30) (k := 1) hr
  obtain ⟨b, rfl⟩ := List.length_eq_one_iff.mp hl
  obtain ⟨c, rfl⟩ := List.length_eq_one_iff.mp ht
  have hclamp : clampScalar ([b] ++ (m ++ [c])) = [b &&& 248] ++ (m ++ [(c &&& 127) ||| 64]) := by
    simp [clampScalar, List.getD, hm]
  have hlow : (b &&& 248).toNat = b.toNat / 8 * 8 := by
    have h : ∀ n < 256, n &&& 248 = n / 8 * 8 := by decide +kernel
    exact h b.toNat b.toNat_lt
  have hhigh : ((c &&& 127) ||| 64).toNat = 64 + c.toNat % 64 := by
    have h : ∀ n < 256, (n &&& 127) ||| 64 = 64 + n % 64 := by decide +kernel
    exact h c.toNat c.toNat_lt
  have hv := LittleEndian.value_lt m
  have hb := b.toNat_lt
  rw [hclamp]
  simp only [List.cons_append, List.nil_append, LittleEndian.value_append, LittleEndian.value_cons,
    LittleEndian.value_nil, hm, hlow, hhigh] at hv ⊢
  omega

/-- The variables of the loop hold a state of the ladder, whose points are still exchanged if `w`. -/
structure LadderState.Rep (c : LadderState) (t : State F25519) (w : Bool) : Prop where
  x2 : c.x2.Rep (2 ^ 51) t.x2
  z2 : c.z2.Rep (2 ^ 51) t.z2
  x3 : c.x3.Rep (2 ^ 51) t.x3
  z3 : c.z3.Rep (2 ^ 51) t.z3
  swap : c.swap = bit w

lemma LadderState.Rep.cswap {c : LadderState} {t : State F25519} {w : Bool} (h : c.Rep t w)
    (b : Bool) : (c.cswap (bit b)).Rep (t.swapIf b) w := by
  cases b with
  | false =>
    have hzero : bit false = 0 := rfl
    rw [hzero, LadderState.cswap, feCswap_zero, feCswap_zero]
    exact h
  | true =>
    have hone : bit true = 1 := rfl
    rw [hone, LadderState.cswap, feCswap_one, feCswap_one]
    exact ⟨h.x3, h.z3, h.x2, h.z2, h.swap⟩

/-- One round of the loop, which leaves the last exchange to the next one. -/
lemma LadderState.Rep.step {c : LadderState} {t : State F25519} {w : Bool} {x1 : Fe} {x : F25519}
    (hx1 : x1.Rep (2 ^ 51) x) (h : c.Rep t w) (b : Bool) :
    (c.step x1 (bit b)).Rep ((t.swapIf (w ^^ b)).dblAdd 121666 x) b := by
  have hswap := h.cswap (w ^^ b)
  rw [← xor_bit, ← h.swap] at hswap
  simp only [LadderState.step]
  generalize c.cswap (c.swap ^^^ bit b) = c at *
  generalize t.swapIf (w ^^ b) = t at *
  obtain ⟨hx2, hz2, hx3, hz3, -⟩ := hswap
  have hloose : ∀ {f : Fe} {y : F25519}, f.Rep (2 ^ 51) y → f.Rep (3 * 2 ^ 51) y :=
    fun hf => hf.mono (by norm_num)
  have da := fiatCarryMul_rep (fiatSub_rep hx3 hz3) (fiatAdd_rep hx2 hz2)
  have cb := fiatCarryMul_rep (fiatAdd_rep hx3 hz3) (fiatSub_rep hx2 hz2)
  have bb := fiatCarrySquare_rep (fiatSub_rep hx2 hz2)
  have aa := fiatCarrySquare_rep (fiatAdd_rep hx2 hz2)
  have e := fiatSub_rep aa bb
  have he := fiatCarryScmul121666_rep e
  refine ⟨?_, ?_, ?_, ?_, rfl⟩
  · have hres := fiatCarryMul_rep (hloose aa) (hloose bb)
    rwa [← pow_two, ← pow_two] at hres
  · have hres := fiatCarryMul_rep e (fiatAdd_rep bb he)
    rwa [← pow_two, ← pow_two] at hres
  · have hres := fiatCarrySquare_rep (fiatAdd_rep da cb)
    rwa [← pow_two] at hres
  · have hres := fiatCarryMul_rep (hloose hx1) (hloose (fiatCarrySquare_rep (fiatSub_rep da cb)))
    rwa [← pow_two] at hres

lemma swapIf_swapIf (t : State F25519) (a b : Bool) :
    (t.swapIf a).swapIf b = t.swapIf (a ^^ b) := by
  cases a <;> cases b <;> rfl

/-- The loop runs through the bits of the scalar. -/
lemma ladderLoop_rep {x1 : Fe} {x : F25519} (hx1 : x1.Rep (2 ^ 51) x) (e : List UInt8) (n : ℕ)
    {c : LadderState} {t : State F25519} {w : Bool} (h : c.Rep t w) :
    ∃ t' w', (ladderLoop x1 e n c).Rep t' w' ∧ t'.swapIf w' =
      (bits (LittleEndian.value e) n).foldl (State.step 121666 x) (t.swapIf w) := by
  induction n generalizing c t w with
  | zero => exact ⟨t, w, h, rfl⟩
  | succ n ih =>
    have hstep := h.step hx1 ((LittleEndian.value e).testBit n)
    rw [← scalarBit_eq] at hstep
    obtain ⟨t', w', hrep, heq⟩ := ih hstep
    refine ⟨t', w', hrep, ?_⟩
    rw [heq, bits, List.foldl_cons, State.step, swapIf_swapIf]

/-- The x-coordinate that 32 bytes stand for. -/
def uCoordinate (point : List UInt8) : F25519 := ((LittleEndian.value point % 2 ^ 255 : ℕ) : F25519)

/-- The clamped scalar as a number. -/
def clamped (scalar : List UInt8) : ℕ := LittleEndian.value (clampScalar scalar)

/-- The function computes the ladder over the field. -/
theorem x25519ScalarMultGeneric_eq {scalar point : List UInt8} (hpoint : point.length = 32) :
    x25519ScalarMultGeneric scalar point =
      LittleEndian.bytes 32 (smulX 121666 (uCoordinate point) (bits (clamped scalar) 255)).val := by
  have hx1 : (feFrombytes point).Rep (2 ^ 51) (uCoordinate point) := feFrombytes_rep hpoint
  have hinit : (LadderState.init (feFrombytes point)).Rep (State.init (uCoordinate point)) false :=
    ⟨fe1_rep, fe0_rep, hx1, fe1_rep, rfl⟩
  obtain ⟨t, w, hrep, heq⟩ := ladderLoop_rep hx1 (clampScalar scalar) 255 hinit
  have hfinal := hrep.cswap w
  rw [← hrep.swap, heq] at hfinal
  have hinv := feInvert_rep (hfinal.z2.mono (by norm_num))
  have hmul := fiatCarryMul_rep (hfinal.x2.mono (by norm_num)) (hinv.mono (by norm_num))
  rw [← div_eq_mul_inv] at hmul
  exact feTobytes_eq hmul

lemma two_ne25519 : (2 : F25519) ≠ 0 := by decide

lemma A_sq_ne25519 : (486662 : F25519) ^ 2 ≠ 4 := by decide

lemma a24_eq25519 : 4 * (121666 : F25519) = 486662 + 2 := by norm_num

/-- `y² = x³ + 486662 x² + x` -/
def curve25519 : Params F25519 where
  A := 486662
  a24 := 121666
  two_ne := two_ne25519
  A_sq_ne := A_sq_ne25519
  a24_eq := a24_eq25519

lemma clamped_eq {scalar : List UInt8} (hscalar : scalar.length = 32) :
    clamped scalar = 2 ^ 254 + 8 * (LittleEndian.value scalar / 8 % 2 ^ 251) :=
  value_clampScalar hscalar

lemma ofBits_clamped {scalar : List UInt8} (hscalar : scalar.length = 32) :
    ofBits (bits (clamped scalar) 255) = clamped scalar := by
  apply ofBits_bits
  rw [clamped_eq hscalar]
  omega

lemma uCoordinate_bytes (x : F25519) : uCoordinate (LittleEndian.bytes 32 x.val) = x := by
  have hlt : x.val < 2 ^ 255 - 19 := ZMod.val_lt x
  rw [uCoordinate, LittleEndian.value_bytes, Nat.mod_eq_of_lt (hlt.trans (by norm_num)),
    Nat.mod_eq_of_lt (hlt.trans (by norm_num)), ZMod.natCast_zmod_val]

/-- Every point with the x-coordinate of the input is multiplied: points of the curve, points of the
twist and points over any larger field. -/
lemma uCoordinate_scalarMult {scalar point : List UInt8} (hscalar : scalar.length = 32)
    (hpoint : point.length = 32) {K : Type*} [Field K] [DecidableEq K] (φ : F25519 →+* K)
    {P : (curve25519.map φ).curve.Point} (hP : xCoord P = φ (uCoordinate point)) :
    φ (uCoordinate (x25519ScalarMultGeneric scalar point)) = xCoord (clamped scalar • P) := by
  rw [x25519ScalarMultGeneric_eq hpoint, uCoordinate_bytes, smulX_map, ← hP]
  have ha : φ 121666 = (curve25519.map φ).a24 := rfl
  rw [ha, smulX_xCoord, ofBits_clamped hscalar]

lemma scalarMult_comm (a b : List UInt8) {point : List UInt8} (hpoint : point.length = 32) :
    x25519ScalarMultGeneric a (x25519ScalarMultGeneric b point) =
      x25519ScalarMultGeneric b (x25519ScalarMultGeneric a point) := by
  have hmul : ∀ s t : List UInt8, x25519ScalarMultGeneric s (x25519ScalarMultGeneric t point) =
      LittleEndian.bytes 32 (smulX 121666 (smulX 121666 (uCoordinate point)
        (bits (clamped t) 255)) (bits (clamped s) 255)).val := by
    intro s t
    rw [x25519ScalarMultGeneric_eq hpoint, x25519ScalarMultGeneric_eq (by simp),
      uCoordinate_bytes]
  rw [hmul, hmul]
  exact congrArg (fun x : F25519 => LittleEndian.bytes 32 x.val) (smulX_comm curve25519 _ _ _)

lemma x25519ScalarMultGeneric_congr {a b point point' : List UInt8} (ha : a.length = 32)
    (hb : b.length = 32) (hpoint : point.length = 32) (hpoint' : point'.length = 32)
    (hscalar : LittleEndian.value a / 8 % 2 ^ 251 = LittleEndian.value b / 8 % 2 ^ 251)
    (hu : LittleEndian.value point % 2 ^ 255 % p25519 =
      LittleEndian.value point' % 2 ^ 255 % p25519) :
    x25519ScalarMultGeneric a point = x25519ScalarMultGeneric b point' := by
  have hcoord : uCoordinate point = uCoordinate point' :=
    (ZMod.natCast_eq_natCast_iff' _ _ _).mpr hu
  rw [x25519ScalarMultGeneric_eq hpoint, x25519ScalarMultGeneric_eq hpoint', clamped_eq ha,
    clamped_eq hb, hscalar, hcoord]

/-- The masks of `X25519_keypair` change only bits that the clamping sets again. -/
lemma value_maskKey {key : List UInt8} (hkey : key.length = 32) :
    LittleEndian.value (maskKey key) / 8 % 2 ^ 251 = LittleEndian.value key / 8 % 2 ^ 251 := by
  obtain ⟨l, r, hl, hr, rfl⟩ := exists_append (n := 1) (k := 31) hkey
  obtain ⟨m, t, hm, ht, rfl⟩ := exists_append (n := 30) (k := 1) hr
  obtain ⟨b, rfl⟩ := List.length_eq_one_iff.mp hl
  obtain ⟨c, rfl⟩ := List.length_eq_one_iff.mp ht
  have hmask : maskKey ([b] ++ (m ++ [c])) = [b ||| 7] ++ (m ++ [(c &&& 191) ||| 128]) := by
    simp [maskKey, List.getD, hm]
  have hlow : (b ||| 7).toNat / 8 = b.toNat / 8 := by
    have h : ∀ n < 256, (n ||| 7) / 8 = n / 8 := by decide +kernel
    exact h b.toNat b.toNat_lt
  have hhigh : ((c &&& 191) ||| 128).toNat % 64 = c.toNat % 64 := by
    have h : ∀ n < 256, ((n &&& 191) ||| 128) % 64 = n % 64 := by decide +kernel
    exact h c.toNat c.toNat_lt
  have hv := LittleEndian.value_lt m
  have hlow' := (b ||| 7).toNat_lt
  have hb := b.toNat_lt
  rw [hmask]
  simp only [List.cons_append, List.nil_append, LittleEndian.value_append, LittleEndian.value_cons,
    LittleEndian.value_nil, hm] at hv ⊢
  generalize (b ||| 7).toNat = b' at *
  generalize ((c &&& 191) ||| 128).toNat = c' at *
  omega

lemma bytes_eq_zeros_iff (x : F25519) :
    LittleEndian.bytes 32 x.val = List.replicate 32 0 ↔ x = 0 := by
  constructor
  · intro h
    rw [← uCoordinate_bytes x, h]
    decide
  · rintro rfl
    decide

/-- `X25519` with the portable ladder. -/
def boringssl (k : Curve) : Curve := { k with x25519ScalarMult := x25519ScalarMultGeneric }

/-- The 32 bytes `9, 0, …, 0`. -/
def montgomeryBasePoint : List UInt8 := 9 :: List.replicate 31 0

/-- The point with the x-coordinate `9`. -/
def basePoint25519 : curve25519.curve.Point := .some 9
  14781619447589544791020593568409986887264606134616475288964881837755586237401
  ((curve25519.nonsingular_iff _ _).mpr (by decide +kernel))

/-- The point of order two. -/
def origin25519 : curve25519.curve.Point :=
  .some 0 0 ((curve25519.nonsingular_iff _ _).mpr (by decide))

/-- The result is the canonical form of the x-coordinate of the multiple by the clamped scalar, for
every point over every larger field that has the x-coordinate of the input. -/
theorem x25519_multiplies {scalar point : List UInt8} (hscalar : scalar.length = 32)
    (hpoint : point.length = 32) {K : Type*} [Field K] [DecidableEq K] (φ : F25519 →+* K)
    {P : (curve25519.map φ).curve.Point} (hP : xCoord P = φ (uCoordinate point)) :
    ∃ x : F25519, x25519ScalarMultGeneric scalar point = LittleEndian.bytes 32 x.val ∧
      φ x = xCoord ((2 ^ 254 + 8 * (LittleEndian.value scalar / 8 % 2 ^ 251)) • P) := by
  refine ⟨_, x25519ScalarMultGeneric_eq hpoint, ?_⟩
  rw [← clamped_eq hscalar, ← uCoordinate_scalarMult hscalar hpoint φ hP,
    x25519ScalarMultGeneric_eq hpoint, uCoordinate_bytes]

theorem x25519_multiplies_base :
    ∃ x : F25519, x25519ScalarMultGeneric (List.replicate 32 255) montgomeryBasePoint =
        LittleEndian.bytes 32 x.val ∧
      RingHom.id F25519 x = xCoord ((2 ^ 254 + 8 * (LittleEndian.value (List.replicate 32 255) / 8 %
        2 ^ 251)) • (basePoint25519 : (curve25519.map (RingHom.id F25519)).curve.Point)) :=
  x25519_multiplies (by decide) (by decide) (RingHom.id F25519) (by decide)

/-- Two ends that exchange their multiples of one input get the same secret, and both of them refuse
it or none does. -/
theorem x25519_agreement (k : Curve) (a b : List UInt8) {point : List UInt8}
    (hpoint : point.length = 32) :
    (boringssl k).x25519 a ((boringssl k).x25519 b point).1 =
      (boringssl k).x25519 b ((boringssl k).x25519 a point).1 := by
  have hcomm : ((boringssl k).x25519 a ((boringssl k).x25519 b point).1).1 =
      ((boringssl k).x25519 b ((boringssl k).x25519 a point).1).1 := scalarMult_comm a b hpoint
  exact Prod.ext hcomm (congrArg (fun out => decide (out ≠ List.replicate 32 0)) hcomm)

theorem x25519_agreement_base :
    (boringssl sampleCurve).x25519 (List.replicate 32 7)
        ((boringssl sampleCurve).x25519 (List.replicate 32 8) montgomeryBasePoint).1 =
      (boringssl sampleCurve).x25519 (List.replicate 32 8)
        ((boringssl sampleCurve).x25519 (List.replicate 32 7) montgomeryBasePoint).1 :=
  x25519_agreement sampleCurve _ _ (by decide)

/-- Neither the bits that `X25519_keypair` sets nor the representative of the x-coordinate matters:
the result depends on bits 3 to 253 of the key and on the x-coordinate modulo `2 ^ 255 - 19`. -/
theorem x25519_masked (k : Curve) {key key' point point' : List UInt8} (hkey : key.length = 32)
    (hkey' : key'.length = 32) (hpoint : point.length = 32) (hpoint' : point'.length = 32)
    (hbits : LittleEndian.value key / 8 % 2 ^ 251 = LittleEndian.value key' / 8 % 2 ^ 251)
    (hu : LittleEndian.value point % 2 ^ 255 % p25519 =
      LittleEndian.value point' % 2 ^ 255 % p25519) :
    (boringssl k).x25519 (maskKey key) point = (boringssl k).x25519 key' point' := by
  have hout : ((boringssl k).x25519 (maskKey key) point).1 =
      ((boringssl k).x25519 key' point').1 :=
    x25519ScalarMultGeneric_congr (by simp [maskKey, hkey]) hkey' hpoint hpoint'
      ((value_maskKey hkey).trans hbits) hu
  exact Prod.ext hout (congrArg (fun out => decide (out ≠ List.replicate 32 0)) hout)

theorem x25519_masked_base :
    (boringssl sampleCurve).x25519 (maskKey (List.replicate 32 248)) montgomeryBasePoint =
      (boringssl sampleCurve).x25519 (255 :: List.replicate 31 248)
        (246 :: List.replicate 31 255) :=
  x25519_masked sampleCurve (by decide) (by decide) (by decide) (by decide) (by decide +kernel)
    (by decide +kernel)

/-- `X25519` refuses a result exactly when the multiple is infinity or `(0, 0)`. So a point whose
order divides eight is refused with every scalar. -/
theorem x25519_refused_iff (k : Curve) {scalar point : List UInt8} (hscalar : scalar.length = 32)
    (hpoint : point.length = 32) {K : Type*} [Field K] [DecidableEq K] (φ : F25519 →+* K)
    {P : (curve25519.map φ).curve.Point} (hP : xCoord P = φ (uCoordinate point)) :
    ((boringssl k).x25519 scalar point = (List.replicate 32 0, false) ↔
      xCoord ((2 ^ 254 + 8 * (LittleEndian.value scalar / 8 % 2 ^ 251)) • P) = 0) ∧
    (8 • P = 0 → (boringssl k).x25519 scalar point = (List.replicate 32 0, false)) := by
  have hiff : (boringssl k).x25519 scalar point = (List.replicate 32 0, false) ↔
      xCoord (clamped scalar • P) = 0 := by
    have hzero : (boringssl k).x25519 scalar point = (List.replicate 32 0, false) ↔
        x25519ScalarMultGeneric scalar point = List.replicate 32 0 := by
      rw [Curve.x25519, Prod.mk.injEq, decide_eq_false_iff_not, not_ne_iff, and_self]
      rfl
    rw [hzero, ← uCoordinate_scalarMult hscalar hpoint φ hP, map_eq_zero,
      x25519ScalarMultGeneric_eq hpoint, bytes_eq_zeros_iff, uCoordinate_bytes]
  refine ⟨by rw [hiff, clamped_eq hscalar], ?_⟩
  intro hsmall
  have hmul : clamped scalar = 8 * (2 ^ 251 + LittleEndian.value scalar / 8 % 2 ^ 251) := by
    rw [clamped_eq hscalar]
    ring
  rw [hiff, hmul, mul_nsmul, hsmall, nsmul_zero]
  rfl

/-- The point of order two is refused. -/
theorem zero_refused :
    (boringssl sampleCurve).x25519 (List.replicate 32 7) (List.replicate 32 0) =
      (List.replicate 32 0, false) := by
  have htwo : 2 • (origin25519 : (curve25519.map (RingHom.id F25519)).curve.Point) = 0 :=
    two_nsmul_of_y_eq_zero _ rfl
  have height : 8 • (origin25519 : (curve25519.map (RingHom.id F25519)).curve.Point) = 0 := by
    rw [show 8 = 2 * 4 from rfl, mul_nsmul, htwo, nsmul_zero]
  exact (x25519_refused_iff sampleCurve (by decide) (by decide) (RingHom.id F25519)
    (P := origin25519) (by decide)).2 height

end Enchat
