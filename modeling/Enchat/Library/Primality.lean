import Mathlib.NumberTheory.LucasPrimality

/-!
# Certificates of primality

A number `p` is prime when some `a` has the order `p - 1` modulo `p`. A certificate is a list of
numbers in which the prime factors of each `p - 1` come before `p`; powers are computed by repeated
squaring, so that the certificate of a large prime can be evaluated.
-/

namespace Primality

/-- `a ^ n % m` for `n < 2 ^ fuel`. -/
def powMod (m a : ℕ) : ℕ → ℕ → ℕ
  | 0, _ => 1 % m
  | fuel + 1, n =>
    let r := powMod m (a * a % m) fuel (n / 2)
    if n % 2 = 1 then a * r % m else r

lemma powMod_eq (m a : ℕ) {fuel n : ℕ} (h : n < 2 ^ fuel) : powMod m a fuel n = a ^ n % m := by
  induction fuel generalizing a n with
  | zero =>
    obtain rfl : n = 0 := by simpa using h
    rfl
  | succ fuel ih =>
    have hhalf : n / 2 < 2 ^ fuel := by
      rw [pow_succ] at h
      omega
    have hsq : powMod m (a * a % m) fuel (n / 2) = a ^ (2 * (n / 2)) % m := by
      rw [ih _ hhalf, ← Nat.pow_mod, ← pow_two, ← pow_mul]
    rw [powMod, hsq]
    rcases Nat.mod_two_eq_zero_or_one n with h0 | h1
    · rw [if_neg (by omega)]
      congr 2
      omega
    · rw [if_pos h1, Nat.mul_mod_mod, ← pow_succ']
      congr 2
      omega

/-- `a` has the order `p - 1` modulo `p`, where `qs` are the prime factors of `p - 1`. -/
structure Order where
  p : ℕ
  a : ℕ
  qs : List ℕ

def Order.pow (o : Order) (n : ℕ) : ℕ := powMod o.p o.a (o.p.log2 + 1) n

def Order.check (o : Order) : Bool :=
  decide (1 < o.p) && decide (o.qs.prod = o.p - 1) && decide (o.pow (o.p - 1) = 1) &&
    o.qs.all (fun q => decide (o.pow ((o.p - 1) / q) ≠ 1))

lemma Order.prime {o : Order} (h : o.check = true) (hqs : ∀ q ∈ o.qs, q.Prime) : o.p.Prime := by
  simp only [check, Bool.and_eq_true, decide_eq_true_eq, List.all_eq_true] at h
  obtain ⟨⟨⟨hp, hprod⟩, hone⟩, horder⟩ := h
  have hpow : ∀ n, n ≤ o.p - 1 → ((o.a : ZMod o.p) ^ n = 1 ↔ o.pow n = 1) := by
    intro n hn
    have hlog : o.p < 2 ^ (o.p.log2 + 1) := Nat.lt_log2_self
    rw [pow, powMod_eq o.p o.a (by omega), ← Nat.cast_pow, ← Nat.cast_one,
      ZMod.natCast_eq_natCast_iff', Nat.mod_eq_of_lt hp]
  refine lucas_primality o.p (o.a : ZMod o.p) ((hpow _ le_rfl).mpr hone) ?_
  intro q hprime hdvd
  rw [← hprod, hprime.prime.dvd_prod_iff] at hdvd
  obtain ⟨r, hr, hdvd⟩ := hdvd
  rw [(Nat.prime_dvd_prime_iff_eq hprime (hqs r hr)).mp hdvd]
  exact fun hc => horder r hr ((hpow _ (Nat.div_le_self _ _)).mp hc)

/-- Each entry is checked against the numbers in front of it. -/
def certificate : List ℕ → List Order → Bool
  | _, [] => true
  | ps, o :: os =>
    o.check && o.qs.all (fun q => ps.contains q) && certificate (o.p :: ps) os

lemma primes_of_certificate {ps : List ℕ} {os : List Order} (h : certificate ps os = true)
    (hps : ∀ q ∈ ps, q.Prime) : ∀ o ∈ os, o.p.Prime := by
  induction os generalizing ps with
  | nil => simp
  | cons o os ih =>
    simp only [certificate, Bool.and_eq_true, List.all_eq_true, List.contains_iff_mem] at h
    obtain ⟨⟨hcheck, hqs⟩, hrest⟩ := h
    have hprime := Order.prime hcheck (fun q hq => hps q (hqs q hq))
    have hnew : ∀ q ∈ o.p :: ps, q.Prime := by
      intro q hq
      rcases List.mem_cons.mp hq with rfl | hq
      · exact hprime
      · exact hps q hq
    intro o' ho'
    rcases List.mem_cons.mp ho' with rfl | ho'
    · exact hprime
    · exact ih hrest hnew o' ho'

/-- The last number of a certificate is prime. -/
theorem prime_of_certificate {os : List Order} {o : Order}
    (h : certificate [] (os ++ [o]) = true) : o.p.Prime :=
  primes_of_certificate h (by simp) o (by simp)

end Primality
