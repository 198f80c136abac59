import Enchat.Proofs.KeystreamReuse

/-!
# How long one direction of a session keeps its keystream fresh

The position in the keystream is a 32-bit block counter and an offset in the block. Nothing stops
a session before the counter comes round, so the positions are distinct for 2 ^ 38 bytes.
-/

namespace Enchat
open Buffer

/-- Block counter and offset of a keystream byte. -/
def KeystreamByte.position (kb : KeystreamByte) : UInt32 × ℕ := (kb.counter, kb.offset)

namespace ChachaContext

lemma position_started (ctx : ChachaContext) (key : List UInt8) (i : ℕ) :
    ((ctx.started key).locate i).position = (UInt32.ofNat (i / 64), i % 64) := by
  have hleft : (ctx.started key).left = 0 := left_of_le (Nat.le_refl 64)
  have hcounter : (ctx.started key).counter = 0 := by
    simp [counter, started, mbedtlsChacha20Starts, mbedtlsChacha20Setkey]
  rw [locate_of_le (by omega), hleft, hcounter, Nat.sub_zero]
  unfold KeystreamByte.position
  rw [UInt32.zero_add]

/-- Two positions are the same when the bytes are a multiple of 2 ^ 38 apart. -/
lemma position_eq_iff (i j : ℕ) :
    ((UInt32.ofNat (i / 64), i % 64) : UInt32 × ℕ) = (UInt32.ofNat (j / 64), j % 64) ↔
      i % 2 ^ 38 = j % 2 ^ 38 := by
  rw [Prod.mk.injEq, ← UInt32.toNat_inj, UInt32.toNat_ofNat', UInt32.toNat_ofNat']
  omega

/-- The first `n` positions are distinct if and only if the block counter does not come round. -/
lemma nodup_positions_iff (ctx : ChachaContext) (key : List UInt8) (n : ℕ) :
    (((List.range n).map (ctx.started key).locate).map KeystreamByte.position).Nodup ↔
      n ≤ 2 ^ 38 := by
  have hpositions : ((List.range n).map (ctx.started key).locate).map KeystreamByte.position =
      (List.range n).map (fun i => (UInt32.ofNat (i / 64), i % 64)) := by
    rw [List.map_map]
    apply List.map_congr_left
    intro i _
    exact position_started ctx key i
  rw [hpositions]
  constructor
  · intro hnodup
    by_contra hlong
    have hsame := List.inj_on_of_nodup_map hnodup (List.mem_range.mpr (show 0 < n by omega))
      (List.mem_range.mpr (show 2 ^ 38 < n by omega)) ((position_eq_iff 0 (2 ^ 38)).mpr rfl)
    omega
  · intro hshort
    refine List.Nodup.map_on ?_ List.nodup_range
    intro i hi j hj heq
    have hmod := (position_eq_iff i j).mp heq
    rw [List.mem_range] at hi hj
    omega

end ChachaContext

namespace SessionPair

variable {QString : Type} (q : Qt (List UInt8) QString) (k : Curve)
  {a b : ChatSession (List UInt8) QString ChachaContext}

/-- The keystream positions of one direction are pairwise distinct over a session if and only if
its payloads have at most 2 ^ 38 bytes together. -/
theorem positions_distinct_iff (hkey : a.chacha20Key = b.chacha20Key) (calls : List WriteCall)
    (side : Side) :
    ((((start q k a b).sendAll q k calls).used side).map KeystreamByte.position).Nodup ↔
      total side calls ≤ 2 ^ 38 := by
  rw [(sendAll_used q k hkey calls side).1]
  exact ChachaContext.nodup_positions_iff _ _ _

/-- The sample client sends 63 bytes and then two, the second of which is in the next block. -/
theorem positions_distinct_straddling :
    let calls : List WriteCall := [⟨.near, [63, 0, 1, 0] ++ List.replicate 63 104, 63⟩,
      ⟨.far, [1, 0, 1, 0, 105], 1⟩, ⟨.near, [2, 0, 1, 0, 106, 107], 2⟩]
    let positions := ((sampleSends calls).used .near).map KeystreamByte.position
    positions.drop 62 = [(0, 62), (0, 63), (1, 0)] ∧ positions.Nodup := by
  intro calls positions
  refine ⟨by decide +kernel, ?_⟩
  exact (positions_distinct_iff sampleQt sampleCurve sample_keys_agree calls .near).mpr (by decide)

/-- A frame that fills the buffer of 4096 bytes. -/
def longestCall : WriteCall := ⟨.near, List.replicate 4096 0, 4092⟩

lemma total_replicate_longestCall (n : ℕ) :
    total .near (List.replicate n longestCall) = n * 4092 := by
  have hlen : longestCall.payload.length = 4092 := by
    simp only [WriteCall.payload, longestCall, List.length_take, List.length_drop,
      List.length_replicate]
    rfl
  induction n with
  | zero => rfl
  | succ n ih =>
    rw [List.replicate_succ, total, ih, hlen]
    simp only [longestCall, if_true]
    omega

lemma not_nodup_of_long {n : ℕ} (h : 2 ^ 38 < n * 4092) :
    ¬(((sampleSends (List.replicate n longestCall)).used .near).map
      KeystreamByte.position).Nodup := by
  unfold sampleSends
  rw [(sendAll_used sampleQt sampleCurve sample_keys_agree _ .near).1,
    ChachaContext.nodup_positions_iff, total_replicate_longestCall]
  omega

/-- After a handshake the sample client sends 67174465 frames that fill their buffers. -/
theorem positions_repeat :
    ((sampleSends []).sess .near).chachaEctx = sampleClientDone.chachaEctx ∧
    ¬(((sampleSends (List.replicate 67174465 longestCall)).used .near).map
      KeystreamByte.position).Nodup :=
  ⟨by decide +kernel, not_nodup_of_long (by decide)⟩

end SessionPair

end Enchat
