import Enchat.Proofs.Edwards25519

/-!
# The secret of two key pairs

The base point has a prime order, so that no clamped scalar makes it vanish: two key pairs agree on a
secret, and `X25519` accepts it.
-/

namespace Enchat
open Montgomery

/-- The order of the base point. -/
def orderB : ℕ := 2 ^ 252 + 27742317777372353535851937790883648493

/-- The prime numbers below `orderB` in its certificate. -/
def certificateB : List Primality.Order := [
  ⟨2, 1, []⟩, ⟨3, 2, [2]⟩, ⟨5, 2, [2, 2]⟩, ⟨7, 3, [2, 3]⟩, ⟨11, 2, [2, 5]⟩, ⟨13, 2, [2, 2, 3]⟩,
  ⟨17, 3, [2, 2, 2, 2]⟩, ⟨19, 2, [2, 3, 3]⟩, ⟨23, 5, [2, 11]⟩, ⟨41, 6, [2, 2, 2, 5]⟩,
  ⟨43, 3, [2, 3, 7]⟩, ⟨47, 5, [2, 23]⟩, ⟨67, 2, [2, 3, 11]⟩, ⟨73, 5, [2, 2, 2, 3, 3]⟩,
  ⟨79, 3, [2, 3, 13]⟩, ⟨113, 3, [2, 2, 2, 2, 7]⟩, ⟨269, 2, [2, 2, 67]⟩, ⟨307, 5, [2, 3, 3, 17]⟩,
  ⟨1361, 3, [2, 2, 2, 2, 5, 17]⟩, ⟨1723, 3, [2, 3, 7, 41]⟩, ⟨2551, 6, [2, 3, 5, 5, 17]⟩,
  ⟨2851, 2, [2, 3, 5, 5, 19]⟩, ⟨2939, 2, [2, 13, 113]⟩, ⟨3797, 2, [2, 2, 13, 73]⟩,
  ⟨5879, 11, [2, 2939]⟩, ⟨17231, 13, [2, 5, 1723]⟩, ⟨22111, 6, [2, 3, 5, 11, 67]⟩,
  ⟨30703, 3, [2, 3, 7, 17, 43]⟩, ⟨34123, 2, [2, 3, 11, 11, 47]⟩, ⟨41081, 3, [2, 2, 2, 5, 13, 79]⟩,
  ⟨82163, 2, [2, 41081]⟩, ⟨132667, 5, [2, 3, 22111]⟩, ⟨137849, 3, [2, 2, 2, 17231]⟩,
  ⟨409477, 2, [2, 2, 3, 34123]⟩, ⟨531581, 2, [2, 2, 5, 7, 3797]⟩,
  ⟨1224481, 13, [2, 2, 2, 2, 2, 3, 5, 2551]⟩, ⟨14741173, 2, [2, 2, 3, 3, 409477]⟩,
  ⟨58964693, 2, [2, 2, 14741173]⟩, ⟨292386187, 2, [2, 3, 3, 3, 3, 307, 5879]⟩,
  ⟨213441916511, 13, [2, 5, 73, 292386187]⟩,
  ⟨1257559732178653, 2, [2, 2, 3, 7, 23, 531581, 1224481]⟩,
  ⟨4434155615661930479, 17, [2, 41, 43, 1257559732178653]⟩,
  ⟨3044861653679985063343, 5, [2, 3, 11, 30703, 82163, 132667, 137849]⟩,
  ⟨172054593956031949258510691, 2, [2, 5, 1361, 2851, 4434155615661930479]⟩,
  ⟨198211423230930754013084525763697, 5, [2, 2, 2, 2, 3, 23, 58964693, 3044861653679985063343]⟩,
  ⟨19757330305831588566944191468367130476339, 2, [2, 269, 213441916511,
    172054593956031949258510691]⟩,
  ⟨276602624281642239937218680557139826668747, 2, [2, 7,
    19757330305831588566944191468367130476339]⟩]

set_option maxRecDepth 100000 in
lemma prime_orderB : orderB.Prime :=
  Primality.prime_of_certificate (o := ⟨orderB, 2, [2, 2, 3, 11, 198211423230930754013084525763697,
    276602624281642239937218680557139826668747]⟩)
    (show Primality.certificate [] (certificateB ++ [_]) = true by decide +kernel)

set_option maxRecDepth 100000 in
lemma ladder_orderB : (ladder (121666 : F25519) 9 (bits orderB 253)).z2 = 0 := by decide +kernel

lemma nsmul_B_of_ladder {bs : List Bool} (h : (ladder (121666 : F25519) 9 bs).z2 = 0) :
    ofBits bs • B = 0 := by
  have hB : curve25519.curve.Nonsingular 9
      14781619447589544791020593568409986887264606134616475288964881837755586237401 :=
    (curve25519.nonsingular_iff _ _).mpr (by decide +kernel)
  have hzero : ∀ {Q : curve25519.curve.Point} {X Z : F25519}, XZ Q X Z → Z = 0 → Q = 0 := by
    intro Q X Z h hZ
    cases Q with
    | zero => rfl
    | some x y hQ => exact absurd hZ h.1
  exact hzero (holds_ladder hB (by decide) bs).first h

lemma orderB_nsmul : orderB • B = 0 := by
  have h := nsmul_B_of_ladder ladder_orderB
  rwa [ofBits_bits (by norm_num [orderB])] at h

lemma addOrderOf_B : addOrderOf B = orderB := by
  have hne : B ≠ 0 := by
    intro h
    cases h
  have := Fact.mk prime_orderB
  exact addOrderOf_eq_prime orderB_nsmul hne

lemma nsmul_B_eq_zero_iff (n : ℕ) : n • B = 0 ↔ orderB ∣ n := by
  rw [← addOrderOf_B]
  exact (addOrderOf_dvd_iff_nsmul_eq_zero).symm

/-- Infinity is the only multiple of the base point with the x-coordinate `0`. -/
lemma xCoord_nsmul_B (n : ℕ) : xCoord (n • B) = 0 ↔ orderB ∣ n := by
  rw [← nsmul_B_eq_zero_iff]
  constructor
  · intro h
    have htwo : (2 * n) • B = 0 := by
      rw [mul_nsmul']
      generalize n • B = Q at *
      cases Q with
      | zero => rfl
      | some x y hQ =>
        obtain rfl : x = 0 := h
        exact two_nsmul_eq_zero hQ
    rw [nsmul_B_eq_zero_iff] at htwo ⊢
    rcases prime_orderB.dvd_mul.mp htwo with h2 | hn
    · exact absurd (Nat.le_of_dvd (by norm_num) h2) (by decide)
    · exact hn
  · intro h
    rw [h]
    rfl

lemma not_dvd_clamped {scalar : List UInt8} (hscalar : scalar.length = 32) :
    ¬orderB ∣ clamped scalar := by
  have hmul : clamped scalar = 8 * (2 ^ 251 + LittleEndian.value scalar / 8 % 2 ^ 251) := by
    rw [clamped_eq hscalar]
    ring
  rw [hmul, prime_orderB.dvd_mul]
  rintro (h | h)
  · exact absurd (Nat.le_of_dvd (by norm_num) h) (by decide)
  · have hle := Nat.le_of_dvd (by omega) h
    unfold orderB at hle
    omega

/-- `X25519` and `X25519_public_from_private` as they are compiled. -/
def boringsslCurve (k : Curve) : Curve :=
  { boringssl k with x25519PublicFromPrivate := x25519PublicFromPrivate }

/-- The secret of two private keys. -/
def secretBytes (a b : List UInt8) : List UInt8 :=
  LittleEndian.bytes 32 (xCoord ((clamped a * clamped b) • B)).val

lemma secretBytes_comm (a b : List UInt8) : secretBytes a b = secretBytes b a := by
  rw [secretBytes, mul_comm, secretBytes]

lemma secretBytes_ne_zeros {a b : List UInt8} (ha : a.length = 32) (hb : b.length = 32) :
    secretBytes a b ≠ List.replicate 32 0 := by
  rw [secretBytes, Ne, bytes_eq_zeros_iff, xCoord_nsmul_B, prime_orderB.dvd_mul]
  rintro (h | h)
  · exact not_dvd_clamped ha h
  · exact not_dvd_clamped hb h

lemma scalarMult_public {a b : List UInt8} (ha : a.length = 32) (hb : b.length = 32) :
    x25519ScalarMultGeneric a (x25519PublicFromPrivate b) = secretBytes a b := by
  have hpoint : (x25519PublicFromPrivate b).length = 32 := by
    rw [x25519PublicFromPrivate_eq hb, LittleEndian.length_bytes]
  have hmul := uCoordinate_scalarMult ha hpoint (RingHom.id F25519) (P := clamped b • B) (by
    rw [x25519PublicFromPrivate_eq hb, uCoordinate_bytes]
    rfl)
  have hmul' : uCoordinate (x25519ScalarMultGeneric a (x25519PublicFromPrivate b)) =
      xCoord ((clamped a * clamped b) • B) := by
    rw [mul_nsmul']
    exact hmul
  have hcanonical : x25519ScalarMultGeneric a (x25519PublicFromPrivate b) =
      LittleEndian.bytes 32 (uCoordinate
        (x25519ScalarMultGeneric a (x25519PublicFromPrivate b))).val := by
    rw [x25519ScalarMultGeneric_eq hpoint, uCoordinate_bytes]
  rw [hcanonical, hmul', secretBytes]

lemma x25519_public (k : Curve) {a b : List UInt8} (ha : a.length = 32) (hb : b.length = 32) :
    (boringsslCurve k).x25519 a ((boringsslCurve k).x25519PublicFromPrivate b) =
      (secretBytes a b, true) := by
  have hout : (boringsslCurve k).x25519ScalarMult a
      ((boringsslCurve k).x25519PublicFromPrivate b) = secretBytes a b := scalarMult_public ha hb
  rw [Curve.x25519, hout, decide_eq_true (secretBytes_ne_zeros ha hb)]

/-- Two key pairs agree on a secret, and neither end refuses it. -/
theorem keypairs_agree (k : Curve) {a b : List UInt8} (ha : a.length = 32) (hb : b.length = 32) :
    (boringsslCurve k).x25519 a ((boringsslCurve k).x25519PublicFromPrivate b) =
        (boringsslCurve k).x25519 b ((boringsslCurve k).x25519PublicFromPrivate a) ∧
      ((boringsslCurve k).x25519 a ((boringsslCurve k).x25519PublicFromPrivate b)).2 = true := by
  rw [x25519_public k ha hb, x25519_public k hb ha, secretBytes_comm]
  exact ⟨rfl, rfl⟩

theorem keypairs_agree_seven_eight :
    (boringsslCurve sampleCurve).x25519 (List.replicate 32 7)
          ((boringsslCurve sampleCurve).x25519PublicFromPrivate (List.replicate 32 8)) =
        (boringsslCurve sampleCurve).x25519 (List.replicate 32 8)
          ((boringsslCurve sampleCurve).x25519PublicFromPrivate (List.replicate 32 7)) ∧
      ((boringsslCurve sampleCurve).x25519 (List.replicate 32 7)
        ((boringsslCurve sampleCurve).x25519PublicFromPrivate (List.replicate 32 8))).2 = true :=
  keypairs_agree sampleCurve (by decide) (by decide)

/-- Two multiples of the base point with one x-coordinate are equal or opposite. -/
lemma xCoord_eq_iff {m n : ℕ} (hm : ¬orderB ∣ m) (hn : ¬orderB ∣ n) :
    xCoord (m • B) = xCoord (n • B) ↔ m ≡ n [MOD orderB] ∨ orderB ∣ m + n := by
  rw [← nsmul_B_eq_zero_iff] at hm hn
  rw [← nsmul_B_eq_zero_iff, add_nsmul, add_eq_zero_iff_eq_neg, ← addOrderOf_B,
    ← nsmul_eq_nsmul_iff_modEq]
  generalize m • B = P at *
  generalize n • B = Q at *
  cases P with
  | zero => exact absurd rfl hm
  | some x y hP =>
    cases Q with
    | zero => exact absurd rfl hn
    | some x' y' hQ => exact WeierstrassCurve.Affine.Point.X_eq_iff

/-- The bits of the private key that count determine the public key, and the public key determines
them up to the sign of the multiple: numbers with one public key are equal or add up to the order
of the base point. -/
theorem public_key_eq_iff {a b : List UInt8} (ha : a.length = 32) (hb : b.length = 32) :
    x25519PublicFromPrivate a = x25519PublicFromPrivate b ↔
      LittleEndian.value a / 8 % 2 ^ 251 = LittleEndian.value b / 8 % 2 ^ 251 ∨
        LittleEndian.value a / 8 % 2 ^ 251 + LittleEndian.value b / 8 % 2 ^ 251 =
          27742317777372353535851937790883648493 := by
  have hbytes : x25519PublicFromPrivate a = x25519PublicFromPrivate b ↔
      xCoord (clamped a • B) = xCoord (clamped b • B) := by
    rw [x25519PublicFromPrivate_eq ha, x25519PublicFromPrivate_eq hb]
    constructor
    · intro h
      have hu := congrArg uCoordinate h
      rwa [uCoordinate_bytes, uCoordinate_bytes] at hu
    · intro h
      rw [h]
  rw [hbytes, xCoord_eq_iff (not_dvd_clamped ha) (not_dvd_clamped hb)]
  have hclamped : ∀ {s : List UInt8}, s.length = 32 →
      clamped s = 8 * (2 ^ 251 + LittleEndian.value s / 8 % 2 ^ 251) := by
    intro s hs
    rw [clamped_eq hs]
    ring
  have hsmall : ∀ s : List UInt8, LittleEndian.value s / 8 % 2 ^ 251 < 2 ^ 251 :=
    fun s => Nat.mod_lt _ (by norm_num)
  have hcoprime : orderB.gcd 8 = 1 := by decide
  have hva := hsmall a
  have hvb := hsmall b
  rw [hclamped ha, hclamped hb, ← mul_add, prime_orderB.dvd_mul]
  generalize LittleEndian.value a / 8 % 2 ^ 251 = m at *
  generalize LittleEndian.value b / 8 % 2 ^ 251 = n at *
  refine or_congr ?_ ?_
  · constructor
    · intro h
      have hmod := Nat.ModEq.cancel_left_of_coprime hcoprime h
      unfold Nat.ModEq orderB at hmod
      rw [Nat.mod_eq_of_lt (by omega), Nat.mod_eq_of_lt (by omega)] at hmod
      omega
    · rintro rfl
      exact Nat.ModEq.refl _
  · have h8 : ¬orderB ∣ 8 := fun h => absurd (Nat.le_of_dvd (by norm_num) h) (by decide)
    rw [or_iff_right h8]
    unfold orderB
    omega

/-- The low three bits of a private key do not matter. -/
theorem public_key_eq_low_bits :
    x25519PublicFromPrivate (7 :: List.replicate 31 0) =
      x25519PublicFromPrivate (List.replicate 32 0) :=
  (public_key_eq_iff (by decide) (by decide)).mpr (Or.inl (by decide))

end Enchat
