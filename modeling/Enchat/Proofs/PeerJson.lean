import Enchat.Model.PeerJson

/-!
# Peers survive JSON when their port is there and fits

What `toJson` writes, `fromJson` reads back. In the other direction a missing port leaves memory
that nobody has written, and a number that is no 16-bit port is narrowed to one.
-/

namespace Enchat

variable {QString : Type}

namespace JsonValue

/-- The members that a peer has, under the types that it gives them. -/
structure WellTyped (j : JsonValue QString) : Prop where
  publicKey : ∃ s, j.get "public_key" = .string s
  name : ∃ s, j.get "name" = .string s
  address : ∃ s, j.get "address" = .string s
  port : ∃ x, j.get "port" = .double x

/-- The two values have the same members of a peer. -/
def SameMembers (j j' : JsonValue QString) : Prop :=
  ∀ key ∈ ["public_key", "name", "address", "port"], j.get key = j'.get key

lemma toInt_natCast {n : ℕ} (h : n < 65536) : toInt n = n := by
  unfold toInt
  rw [Rat.den_natCast, Rat.num_natCast]
  exact if_pos ⟨rfl, by omega, by omega⟩

end JsonValue

namespace Peer

open JsonValue

lemma toNat_ofInt_natCast {n : ℕ} (h : n < 65536) : (UInt16.ofInt n).toNat = n := by
  unfold UInt16.ofInt
  rw [UInt16.toNat_ofNat']
  omega

/-- A number comes back from 16 bits if and only if it is a port. -/
lemma port_survives_iff (x : ℚ) :
    ((UInt16.ofInt (toInt x)).toNat : ℚ) = x ↔ ∃ n : ℕ, n < 65536 ∧ x = n := by
  constructor
  · intro h
    exact ⟨(UInt16.ofInt (toInt x)).toNat, UInt16.toNat_lt _, h.symm⟩
  · rintro ⟨n, hn, rfl⟩
    rw [toInt_natCast hn, toNat_ofInt_natCast hn]

lemma toJson_get (p : Peer QString) :
    p.toJson.get "public_key" = .string p.pubKey ∧ p.toJson.get "name" = .string p.name ∧
      p.toJson.get "address" = .string p.address ∧
      p.toJson.get "port" = .double p.port.toNat :=
  ⟨rfl, rfl, rfl, rfl⟩

/-- Whatever the target held before, it becomes the peer that was written. -/
theorem fromJson_toJson (p q : Peer QString) : q.fromJson p.toJson = p := by
  obtain ⟨hkey, hname, haddress, hport⟩ := p.toJson_get
  have hp : UInt16.ofInt (toInt p.port.toNat) = p.port := by
    apply UInt16.toNat.inj
    rw [toInt_natCast (UInt16.toNat_lt _), toNat_ofInt_natCast (UInt16.toNat_lt _)]
  unfold fromJson
  rw [hkey, hname, haddress, hport]
  simp only [readString, readPort, hp]

/-- A new peer is determined by the value that it is read from if and only if this has a port. -/
lemma determined_iff (emptyString : QString) (j : JsonValue QString) :
    (∀ memory memory', (created emptyString memory).fromJson j =
      (created emptyString memory').fromJson j) ↔ ∃ x, j.get "port" = .double x := by
  constructor
  · intro hsame
    have hport := congrArg Peer.port (hsame 0 1)
    simp only [fromJson, created] at hport
    cases hget : j.get "port" with
    | double x => exact ⟨x, rfl⟩
    | _ =>
      rw [hget] at hport
      cases hport
  · rintro ⟨x, hget⟩ memory memory'
    unfold fromJson
    rw [hget]
    rfl

/-- The members of a well-typed value come back if and only if its number is a port. -/
lemma sameMembers_iff {j : JsonValue QString} (h : j.WellTyped) {x : ℚ}
    (hport : j.get "port" = .double x) (p : Peer QString) :
    SameMembers (p.fromJson j).toJson j ↔ ∃ n : ℕ, n < 65536 ∧ x = n := by
  obtain ⟨key, hkey⟩ := h.publicKey
  obtain ⟨name, hname⟩ := h.name
  obtain ⟨address, haddress⟩ := h.address
  obtain ⟨hkey', hname', haddress', hport'⟩ := (p.fromJson j).toJson_get
  rw [← port_survives_iff]
  unfold SameMembers
  simp only [List.forall_mem_cons, hkey', hname', haddress', hport', hkey, hname, haddress, hport]
  simp only [fromJson, hkey, hname, haddress, hport, readString, readPort, double.injEq, true_and,
    List.not_mem_nil, false_imp_iff, implies_true, and_true]

/-- Peers survive JSON in both directions if and only if the value has a port that is a number and,
if its other members are strings, a whole number of 16 bits. -/
theorem survives_json_iff (emptyString : QString) (j : JsonValue QString) :
    ((∀ memory memory', (created emptyString memory).fromJson j =
        (created emptyString memory').fromJson j) ∧
      (j.WellTyped → ∀ memory,
        SameMembers ((created emptyString memory).fromJson j).toJson j) ∧
      ∀ p q : Peer QString, q.fromJson p.toJson = p) ↔
    ∃ x, j.get "port" = .double x ∧ (j.WellTyped → ∃ n : ℕ, n < 65536 ∧ x = n) := by
  constructor
  · rintro ⟨hdetermined, hmembers, _⟩
    obtain ⟨x, hport⟩ := (determined_iff emptyString j).mp hdetermined
    exact ⟨x, hport, fun h => (sameMembers_iff h hport _).mp (hmembers h 0)⟩
  · rintro ⟨x, hport, hwhole⟩
    refine ⟨(determined_iff emptyString j).mpr ⟨x, hport⟩, fun h memory => ?_, fromJson_toJson⟩
    exact (sameMembers_iff h hport _).mpr (hwhole h)

/-- The value that a configuration with a key and a name gives for a peer. -/
def withoutPort : JsonValue String :=
  .object [("public_key", .string "OHn7o8NcecboWeiFARZIPcC18A4z2oCBVwi1PbOGdxU="),
    ("name", .string "peer0")]

/-- A peer whose port does not fit in 16 bits. -/
def withLongPort : JsonValue String :=
  .object [("public_key", .string "k"), ("name", .string "n"), ("address", .string "a"),
    ("port", .double 65537)]

/-- Without a port the peer depends on what its memory held, and 65537 becomes 1. -/
theorem json_not_survived :
    (created "" 0).fromJson withoutPort ≠ (created "" 1).fromJson withoutPort ∧
    withLongPort.WellTyped ∧ ¬SameMembers ((created "" 0).fromJson withLongPort).toJson withLongPort := by
  have htyped : withLongPort.WellTyped := ⟨⟨_, rfl⟩, ⟨_, rfl⟩, ⟨_, rfl⟩, ⟨_, rfl⟩⟩
  refine ⟨?_, htyped, ?_⟩
  · intro heq
    cases congrArg Peer.port heq
  · intro hsame
    obtain ⟨n, hn, heq⟩ := (sameMembers_iff htyped rfl _).mp hsame
    have hcast : ((65537 : ℕ) : ℚ) = n := heq
    have hnat : 65537 = n := Rat.natCast_inj.mp hcast
    omega

end Peer

end Enchat
