import Mathlib.Algebra.Order.Group.Nat
import Mathlib.Data.Multiset.Count

/-!
# Symbolic messages and the attacker

Terms with signatures, ciphertexts and Diffie-Hellman values, and what an attacker can derive from
terms that it has seen. A set of terms that contains what the attacker has seen and is closed under
its derivations bounds everything it can ever learn; `Safe` is such a set.
-/

namespace Symbolic

/-- Terms over agents, names of private scalars and public data. `low` are the points of low order,
`exp b ns` is a point `b` multiplied by the scalars with the names `ns`. -/
inductive Term (Agent Name Datum : Type)
  | datum (d : Datum)
  | pk (a : Agent)
  | sk (a : Agent)
  | scalar (n : Name)
  | base
  | low (i : ℕ)
  | exp (b : Term Agent Name Datum) (ns : Multiset Name)
  | pair (x y : Term Agent Name Datum)
  | sig (a : Agent) (m : Term Agent Name Datum)
  | enc (k m : Term Agent Name Datum)
deriving DecidableEq

variable {Agent Name Datum : Type}

namespace Term

def power (b : Term Agent Name Datum) (ns : Multiset Name) : Term Agent Name Datum :=
  if ns.card = 0 then b else .exp b ns

/-- Multiplies a point by a scalar. A term that is not a point of its own counts as one. -/
def dh (n : Name) : Term Agent Name Datum → Term Agent Name Datum
  | .low _ => .low 0
  | .exp b ns => .exp b (n ::ₘ ns)
  | t => .exp t {n}

theorem dh_comm (n m : Name) (t : Term Agent Name Datum) : dh n (dh m t) = dh m (dh n t) := by
  have hpair : n ::ₘ ({m} : Multiset Name) = m ::ₘ {n} := Multiset.pair_comm n m
  cases t with
  | exp b ns => simp only [dh, Multiset.cons_swap]
  | low i => rfl
  | _ => simp only [dh, hpair]

end Term

open Term

section Attacker

variable (honest : Agent → Prop) (secret : Name → Prop)

/-- What an attacker derives from the terms `K`. It owns the private keys of the agents that are not
honest and every scalar that is not secret, and it can undo a multiplication by a known scalar. -/
inductive Derives (K : Set (Term Agent Name Datum)) : Term Agent Name Datum → Prop
  | known {t : Term Agent Name Datum} : t ∈ K → Derives K t
  | datum (d : Datum) : Derives K (.datum d)
  | pk (a : Agent) : Derives K (.pk a)
  | sk {a : Agent} : ¬honest a → Derives K (.sk a)
  | scalar {n : Name} : ¬secret n → Derives K (.scalar n)
  | base : Derives K .base
  | low (i : ℕ) : Derives K (.low i)
  | dh {n : Name} {t : Term Agent Name Datum} : Derives K (.scalar n) → Derives K t →
      Derives K (dh n t)
  | undo {n : Name} {b : Term Agent Name Datum} {ns : Multiset Name} : Derives K (.scalar n) →
      Derives K (.exp b (n ::ₘ ns)) → Derives K (power b ns)
  | pair {x y : Term Agent Name Datum} : Derives K x → Derives K y → Derives K (.pair x y)
  | fst {x y : Term Agent Name Datum} : Derives K (.pair x y) → Derives K x
  | snd {x y : Term Agent Name Datum} : Derives K (.pair x y) → Derives K y
  | sign {a : Agent} {m : Term Agent Name Datum} : Derives K (.sk a) → Derives K m →
      Derives K (.sig a m)
  | enc {k m : Term Agent Name Datum} : Derives K k → Derives K m → Derives K (.enc k m)
  | dec {k m : Term Agent Name Datum} : Derives K (.enc k m) → Derives K k → Derives K m

variable [DecidablePred secret] (signed : Agent → Term Agent Name Datum → Prop)

/-- Terms that give nothing away: a point has at most one secret factor, and a signature of an
honest agent is on a message that this agent has signed. -/
def Safe : Term Agent Name Datum → Prop
  | .datum _ | .pk _ | .base | .low _ => True
  | .sk a => ¬honest a
  | .scalar n => ¬secret n
  | .exp b ns => Safe b ∧ ns.countP secret ≤ 1
  | .pair x y => Safe x ∧ Safe y
  | .sig a m => honest a → signed a m
  | .enc _ m => Safe m

variable {honest secret signed}

lemma Safe.mono {signed' : Agent → Term Agent Name Datum → Prop}
    (hsigned : ∀ a m, signed a m → signed' a m) {t : Term Agent Name Datum}
    (h : Safe honest secret signed t) : Safe honest secret signed' t := by
  induction t with
  | exp b ns ih => exact ⟨ih h.1, h.2⟩
  | pair x y ihx ihy => exact ⟨ihx h.1, ihy h.2⟩
  | sig a m _ => exact fun ha => hsigned a m (h ha)
  | enc k m _ ihm => exact ihm h
  | _ => exact h

lemma Safe.dh {n : Name} (hn : ¬secret n) {t : Term Agent Name Datum}
    (h : Safe honest secret signed t) : Safe honest secret signed (Term.dh n t) := by
  have hone : ({n} : Multiset Name).countP secret ≤ 1 := Multiset.countP_le_card secret {n}
  cases t with
  | low i => trivial
  | exp b ns =>
    refine ⟨h.1, ?_⟩
    rw [Multiset.countP_cons_of_neg _ hn]
    exact h.2
  | _ => exact ⟨h, hone⟩

lemma Safe.undo {n : Name} {b : Term Agent Name Datum} {ns : Multiset Name}
    (h : Safe honest secret signed (.exp b (n ::ₘ ns))) :
    Safe honest secret signed (power b ns) := by
  have hle : ns.countP secret ≤ (n ::ₘ ns).countP secret :=
    Multiset.countP_le_of_le secret (Multiset.le_cons_self ns n)
  unfold power
  split
  · exact h.1
  · exact ⟨h.1, hle.trans h.2⟩

/-- The attacker derives safe terms only. -/
theorem Derives.safe {K : Set (Term Agent Name Datum)}
    (hK : ∀ t ∈ K, Safe honest secret signed t) {t : Term Agent Name Datum}
    (h : Derives honest secret K t) : Safe honest secret signed t := by
  induction h with
  | known ht => exact hK _ ht
  | datum d => trivial
  | pk a => trivial
  | sk ha => exact ha
  | scalar hn => exact hn
  | base => trivial
  | low i => trivial
  | dh _ _ ihn iht => exact Safe.dh ihn iht
  | undo _ _ _ iht => exact Safe.undo iht
  | pair _ _ ihx ihy => exact ⟨ihx, ihy⟩
  | fst _ ih => exact ih.1
  | snd _ ih => exact ih.2
  | @sign a m _ _ iha _ => exact fun ha => absurd ha iha
  | enc _ _ _ ihm => exact ihm
  | dec _ _ ihm _ => exact ihm

/-- Signatures cannot be forged. -/
theorem Derives.signed_of_honest {K : Set (Term Agent Name Datum)}
    (hK : ∀ t ∈ K, Safe honest secret signed t) {a : Agent} {m : Term Agent Name Datum}
    (h : Derives honest secret K (.sig a m)) (ha : honest a) : signed a m :=
  h.safe hK ha

/-- The Diffie-Hellman value of two secret scalars stays secret. -/
theorem not_derives_dh {K : Set (Term Agent Name Datum)}
    (hK : ∀ t ∈ K, Safe honest secret signed t) {n m : Name} (hn : secret n) (hm : secret m) :
    ¬Derives honest secret K (Term.dh n (Term.dh m .base)) := by
  intro h
  have htwo := (h.safe hK).2
  rw [Multiset.countP_cons_of_pos _ hn, ← Multiset.cons_zero, Multiset.countP_cons_of_pos _ hm] at htwo
  omega

end Attacker

end Symbolic
