import Mathlib.Data.List.Induction
import Mathlib.Tactic.IntervalCases
import Enchat.Model.Link
import Enchat.Model.Sample
import Enchat.Proofs.Keystream

/-!
# The two directions of a session share their keystream

`initChaCha20` gives the encrypt contexts of both endpoints the same key, nonce and counter. What
the endpoints XOR into their payloads is therefore disjoint only when one of them sends nothing.
-/

namespace Enchat
open Buffer

def blockInput (key : Vector UInt32 8) (counter : UInt32) (nonce : Vector UInt32 3) :
    Vector UInt32 16 :=
  #v[0x61707865, 0x3320646e, 0x79622d32, 0x6b206574, key[0], key[1], key[2], key[3], key[4], key[5],
    key[6], key[7], counter, nonce[0], nonce[1], nonce[2]]

/-- The byte at an offset of the block for a key, nonce and counter. -/
def KeystreamByte.value (kb : KeystreamByte) : UInt8 :=
  (chacha20Block (blockInput kb.key kb.counter kb.nonce)).toList.getD kb.offset 0

namespace ChachaContext

/-- The context that `initChaCha20` makes. -/
def started (ctx : ChachaContext) (key : List UInt8) : ChachaContext :=
  mbedtlsChacha20Starts (mbedtlsChacha20Setkey (mbedtlsChacha20Init ctx) key) key 0

lemma started_congr (ctx ctx' : ChachaContext) (key : List UInt8) :
    ctx.started key = ctx'.started key := rfl

lemma blockState_started (ctx : ChachaContext) (key : List UInt8) (j : ℕ) :
    (ctx.started key).blockState j =
      blockInput (ctx.started key).keyWords ((ctx.started key).counter + UInt32.ofNat j)
        (ctx.started key).nonceWords := by
  apply Vector.ext
  intro i hi
  interval_cases i <;>
    simp [blockState, blockInput, keyWords, nonceWords, counter, setCounter, started, mbedtlsChacha20Starts,
      mbedtlsChacha20Setkey]

/-- The keystream of the context consists of the bytes that `locate` names. -/
def Genuine (ctx : ChachaContext) : Prop := ∀ i, ctx.stream i = (ctx.locate i).value

lemma genuine_started (ctx : ChachaContext) (key : List UInt8) : (ctx.started key).Genuine := by
  intro i
  have hleft : (ctx.started key).left = 0 := left_of_le (Nat.le_refl 64)
  rw [stream_of_le (by omega), locate_of_le (by omega), blockState_started]
  rfl

lemma Genuine.update {ctx : ChachaContext} (h : ctx.Genuine) (input : List UInt8) :
    (mbedtlsChacha20Update ctx input).1.Genuine := by
  intro i
  rw [mbedtlsChacha20Update_follows stream_follows, mbedtlsChacha20Update_follows locate_follows]
  exact h _

lemma Genuine.update_eq {ctx : ChachaContext} (h : ctx.Genuine) (input : List UInt8) :
    (mbedtlsChacha20Update ctx input).2 =
      List.zipWith (· ^^^ ·) input
        (((List.range input.length).map ctx.locate).map KeystreamByte.value) := by
  have hmap : (List.range input.length).map ctx.stream =
      ((List.range input.length).map ctx.locate).map KeystreamByte.value := by
    rw [List.map_map]
    refine List.map_congr_left (fun i _ => ?_)
    rw [Function.comp_apply, h i]
  rw [mbedtlsChacha20Update_output, xorStream_eq_zipWith, hmap]

end ChachaContext

/-- Two sessions, and the keystream bytes that each has XORed into its payloads. -/
structure SessionPair (QString : Type) where
  sess : Side → ChatSession (List UInt8) QString ChachaContext
  used : Side → List KeystreamByte

variable {QString : Type} (q : Qt (List UInt8) QString) (k : Curve)

/-- The keystream bytes for the next `n` bytes of payload. -/
def ChatSession.nextKeystream (s : ChatSession (List UInt8) QString ChachaContext) (n : ℕ) :
    List KeystreamByte :=
  (List.range n).map s.chachaEctx.locate

namespace SessionPair

def start (a b : ChatSession (List UInt8) QString ChachaContext) : SessionPair QString where
  sess
    | .near => a.initChaCha20 (bytePrimitives q k mbedtlsChacha20)
    | .far => b.initChaCha20 (bytePrimitives q k mbedtlsChacha20)
  used _ := []

def send (p : SessionPair QString) (call : WriteCall) : SessionPair QString where
  sess := Function.update p.sess call.side
    ((p.sess call.side).writeMsg (bytePrimitives q k mbedtlsChacha20) call.msg call.size).1
  used := Function.update p.used call.side
    (p.used call.side ++ (p.sess call.side).nextKeystream call.payload.length)

def sendAll (p : SessionPair QString) (calls : List WriteCall) : SessionPair QString :=
  calls.foldl (send q k) p

def total (side : Side) : List WriteCall → ℕ
  | [] => 0
  | call :: calls => (if call.side = side then call.payload.length else 0) + total side calls

lemma total_append (side : Side) (calls calls' : List WriteCall) :
    total side (calls ++ calls') = total side calls + total side calls' := by
  induction calls with
  | nil => simp [total]
  | cons call calls ih => simp [total, ih, Nat.add_assoc]

lemma total_eq_zero_iff (side : Side) (calls : List WriteCall) :
    total side calls = 0 ↔ ∀ call ∈ calls, call.side = side → call.payload = [] := by
  induction calls with
  | nil => simp [total]
  | cons call calls ih =>
    simp only [total, Nat.add_eq_zero_iff, ih, List.forall_mem_cons]
    by_cases hs : call.side = side
    · simp [hs]
    · simp [hs]

variable {a b : ChatSession (List UInt8) QString ChachaContext}

lemma start_ectx (hkey : a.chacha20Key = b.chacha20Key) (side : Side) :
    ((start q k a b).sess side).chachaEctx = a.chachaEctx.started a.chacha20Key := by
  cases side with
  | near => rfl
  | far => exact congrArg a.chachaEctx.started hkey.symm

lemma sendAll_used (hkey : a.chacha20Key = b.chacha20Key) (calls : List WriteCall) (side : Side) :
    ((start q k a b).sendAll q k calls).used side =
      (List.range (total side calls)).map (a.chachaEctx.started a.chacha20Key).locate ∧
    ∀ i, (((start q k a b).sendAll q k calls).sess side).chachaEctx.locate i =
      (a.chachaEctx.started a.chacha20Key).locate (total side calls + i) := by
  induction calls using List.reverseRecOn with
  | nil =>
    refine ⟨rfl, fun i => ?_⟩
    rw [show total side [] = 0 from rfl, Nat.zero_add]
    exact congrArg (fun ctx => ctx.locate i) (start_ectx q k hkey side)
  | append_singleton calls call ih =>
    obtain ⟨hused, hpos⟩ := ih
    have hsnoc : (start q k a b).sendAll q k (calls ++ [call]) =
        ((start q k a b).sendAll q k calls).send q k call := List.foldl_concat ..
    rw [hsnoc, total_append]
    by_cases hs : call.side = side
    · subst hs
      have htotal : total call.side [call] = call.payload.length := by simp [total]
      rw [htotal]
      constructor
      · simp only [send, Function.update_self, hused, ChatSession.nextKeystream, List.range_add,
          List.map_append, List.map_map]
        congr 1
        exact List.map_congr_left (fun i _ => hpos i)
      · intro i
        simp only [send, Function.update_self]
        refine (mbedtlsChacha20Update_follows ChachaContext.locate_follows _ _ i).trans ?_
        rw [hpos, Nat.add_assoc]
        rfl
    · have htotal : total side [call] = 0 := by simp [total, hs]
      rw [htotal, Nat.add_zero]
      simp only [send, Function.update_of_ne (Ne.symm hs)]
      exact ⟨hused, hpos⟩

lemma sendAll_genuine (calls : List WriteCall) (side : Side) :
    (((start q k a b).sendAll q k calls).sess side).chachaEctx.Genuine := by
  induction calls using List.reverseRecOn with
  | nil =>
    cases side with
    | near => exact ChachaContext.genuine_started a.chachaEctx a.chacha20Key
    | far => exact ChachaContext.genuine_started b.chachaEctx b.chacha20Key
  | append_singleton calls call ih =>
    have hsnoc : (start q k a b).sendAll q k (calls ++ [call]) =
        ((start q k a b).sendAll q k calls).send q k call := List.foldl_concat ..
    rw [hsnoc]
    by_cases hs : call.side = side
    · subst hs
      simp only [send, Function.update_self]
      exact ih.update _
    · simp only [send, Function.update_of_ne (Ne.symm hs)]
      exact ih

/-- The keystream bytes that are recorded are the ones that the next call XORs into its payload. -/
lemma update_eq_nextKeystream (calls : List WriteCall) (side : Side) (payload : List UInt8) :
    (mbedtlsChacha20Update (((start q k a b).sendAll q k calls).sess side).chachaEctx payload).2 =
      List.zipWith (· ^^^ ·) payload
        (((((start q k a b).sendAll q k calls).sess side).nextKeystream payload.length).map
          KeystreamByte.value) := by
  exact (sendAll_genuine q k calls side).update_eq payload

/-- The two directions of a session use disjoint keystream bytes if and only if one of the two
endpoints encrypts no byte. -/
theorem keystream_disjoint_iff (hkey : a.chacha20Key = b.chacha20Key) (calls : List WriteCall) :
    (∀ kb ∈ ((start q k a b).sendAll q k calls).used .near,
      kb ∉ ((start q k a b).sendAll q k calls).used .far) ↔
    (∀ call ∈ calls, call.side = .near → call.payload = []) ∨
      (∀ call ∈ calls, call.side = .far → call.payload = []) := by
  rw [← total_eq_zero_iff, ← total_eq_zero_iff, (sendAll_used q k hkey calls .near).1,
    (sendAll_used q k hkey calls .far).1]
  constructor
  · intro hdisjoint
    by_contra hboth
    have hnear : 0 < total .near calls := by omega
    have hfar : 0 < total .far calls := by omega
    refine hdisjoint ((a.chachaEctx.started a.chacha20Key).locate 0) ?_ ?_
    · exact List.mem_map_of_mem (List.mem_range.mpr hnear)
    · exact List.mem_map_of_mem (List.mem_range.mpr hfar)
  · rintro (hnear | hfar)
    · simp [hnear]
    · simp [hfar]

/-- Calls of `writeMsg` on the sample client and server after their handshake. -/
def sampleSends (calls : List WriteCall) : SessionPair (List UInt8) :=
  (start sampleQt sampleCurve sampleClientDone.beforeInit sampleServerDone.beforeInit).sendAll
    sampleQt sampleCurve calls

/-- Only the client sends. -/
theorem keystream_disjoint_one_way :
    ((sampleSends [⟨.near, [0, 0, 1, 0, 104], 1⟩]).used .near).length = 1 ∧
    ∀ kb ∈ (sampleSends [⟨.near, [0, 0, 1, 0, 104], 1⟩]).used .near,
      kb ∉ (sampleSends [⟨.near, [0, 0, 1, 0, 104], 1⟩]).used .far := by
  constructor
  · decide +kernel
  · exact (keystream_disjoint_iff sampleQt sampleCurve (by decide +kernel) _).mpr
      (Or.inr (by simp))

/-- After a handshake with each other, client and server each send one byte and use the same
keystream byte for it. -/
theorem both_directions_share_keystream :
    ((sampleSends []).sess .near).chachaEctx = sampleClientDone.chachaEctx ∧
    ((sampleSends []).sess .far).chachaEctx = sampleServerDone.chachaEctx ∧
    ∃ kb, kb ∈ (sampleSends [⟨.near, [0, 0, 1, 0, 104], 1⟩, ⟨.far, [0, 0, 1, 0, 105], 1⟩]).used .near ∧
      kb ∈ (sampleSends [⟨.near, [0, 0, 1, 0, 104], 1⟩, ⟨.far, [0, 0, 1, 0, 105], 1⟩]).used .far := by
  refine ⟨by decide +kernel, by decide +kernel,
    ⟨Vector.replicate 8 0x0f0f0f0f, Vector.replicate 3 0x0f0f0f0f, 0, 0⟩, ?_, ?_⟩
  · decide +kernel
  · decide +kernel

end SessionPair

end Enchat
