import Enchat.Model.Chacha20

/-!
# The keystream of a ChaCha20 context

`mbedtlsChacha20Update` XORs its input with the next bytes of one keystream, whatever the lengths
of the calls are. Two readings of a context follow its keystream: `stream` gives the bytes and
`locate` says from which key, nonce, block and offset they come.
-/

namespace Enchat
open Buffer

/-- What identifies one keystream byte. -/
structure KeystreamByte where
  key : Vector UInt32 8
  nonce : Vector UInt32 3
  counter : UInt32
  offset : ℕ
deriving DecidableEq

namespace ChachaContext

def left (ctx : ChachaContext) : ℕ := 64 - ctx.keystreamBytesUsed

/-- The initial state of the `j`th block from now on. -/
def blockState (ctx : ChachaContext) (j : ℕ) : Vector UInt32 16 :=
  (ctx.setCounter (ctx.counter + UInt32.ofNat j)).state

/-- The `i`th keystream byte that the context has not used yet. -/
def stream (ctx : ChachaContext) (i : ℕ) : UInt8 :=
  if i < ctx.left then ctx.keystream8.toList.getD (ctx.keystreamBytesUsed + i) 0
  else (chacha20Block (ctx.blockState ((i - ctx.left) / 64))).toList.getD ((i - ctx.left) % 64) 0

def keyWords (ctx : ChachaContext) : Vector UInt32 8 :=
  Vector.ofFn (fun i => ctx.state[4 + i.val])

def nonceWords (ctx : ChachaContext) : Vector UInt32 3 :=
  Vector.ofFn (fun i => ctx.state[13 + i.val])

/-- Where the `i`th unused keystream byte comes from. The counter was already incremented when
the leftover block was generated. -/
def locate (ctx : ChachaContext) (i : ℕ) : KeystreamByte :=
  if i < ctx.left then ⟨ctx.keyWords, ctx.nonceWords, ctx.counter - 1, ctx.keystreamBytesUsed + i⟩
  else ⟨ctx.keyWords, ctx.nonceWords, ctx.counter + UInt32.ofNat ((i - ctx.left) / 64),
    (i - ctx.left) % 64⟩

/-- A reading of contexts that moves along the keystream with every byte that is used. -/
structure Follows {α : Type} (f : ChachaContext → ℕ → α) : Prop where
  leftover : ∀ ctx i, ctx.keystreamBytesUsed < 64 →
    f { ctx with keystreamBytesUsed := ctx.keystreamBytesUsed + 1 } i = f ctx (1 + i)
  block : ∀ ctx i, 64 ≤ ctx.keystreamBytesUsed → f ctx.nextBlock i = f ctx (64 + i)
  partialBlock : ∀ ctx n i, 64 ≤ ctx.keystreamBytesUsed → 0 < n → n < 64 →
    f { ctx.nextBlock with keystreamBytesUsed := n } i = f ctx (n + i)

@[simp] lemma keyWords_nextBlock (ctx : ChachaContext) : ctx.nextBlock.keyWords = ctx.keyWords := by
  apply Vector.ext
  intro i hi
  simp only [keyWords, nextBlock, setCounter, Vector.getElem_ofFn]
  rw [Vector.getElem_set_ne _ _ (by omega)]

@[simp] lemma nonceWords_nextBlock (ctx : ChachaContext) :
    ctx.nextBlock.nonceWords = ctx.nonceWords := by
  apply Vector.ext
  intro i hi
  simp only [nonceWords, nextBlock, setCounter, Vector.getElem_ofFn]
  rw [Vector.getElem_set_ne _ _ (by omega)]

@[simp] lemma counter_nextBlock (ctx : ChachaContext) :
    ctx.nextBlock.counter = ctx.counter + 1 := by
  simp [nextBlock, counter, setCounter]

lemma blockState_zero (ctx : ChachaContext) : ctx.blockState 0 = ctx.state := by
  simp [blockState, counter, setCounter]

lemma blockState_nextBlock (ctx : ChachaContext) (j : ℕ) :
    ctx.nextBlock.blockState j = ctx.blockState (j + 1) := by
  simp only [blockState, counter_nextBlock]
  simp only [nextBlock, setCounter, Vector.set_set, UInt32.ofNat_add, UInt32.add_assoc]
  rw [UInt32.add_comm 1]
  rfl

lemma stream_of_lt {ctx : ChachaContext} {i : ℕ} (h : i < ctx.left) :
    ctx.stream i = ctx.keystream8.toList.getD (ctx.keystreamBytesUsed + i) 0 :=
  if_pos h

lemma stream_of_le {ctx : ChachaContext} {i : ℕ} (h : ctx.left ≤ i) :
    ctx.stream i =
      (chacha20Block (ctx.blockState ((i - ctx.left) / 64))).toList.getD ((i - ctx.left) % 64) 0 :=
  if_neg (by omega)

lemma locate_of_lt {ctx : ChachaContext} {i : ℕ} (h : i < ctx.left) :
    ctx.locate i =
      ⟨ctx.keyWords, ctx.nonceWords, ctx.counter - 1, ctx.keystreamBytesUsed + i⟩ :=
  if_pos h

lemma locate_of_le {ctx : ChachaContext} {i : ℕ} (h : ctx.left ≤ i) :
    ctx.locate i = ⟨ctx.keyWords, ctx.nonceWords,
      ctx.counter + UInt32.ofNat ((i - ctx.left) / 64), (i - ctx.left) % 64⟩ :=
  if_neg (by omega)

lemma left_of_le {ctx : ChachaContext} (h : 64 ≤ ctx.keystreamBytesUsed) : ctx.left = 0 := by
  simp only [left]
  omega

lemma stream_follows : Follows stream where
  leftover ctx i hused := by
    have hleft : ctx.left = 64 - ctx.keystreamBytesUsed := rfl
    have hnext : ({ ctx with keystreamBytesUsed := ctx.keystreamBytesUsed + 1 } :
        ChachaContext).left = 64 - (ctx.keystreamBytesUsed + 1) := rfl
    by_cases hi : 1 + i < ctx.left
    · rw [stream_of_lt (by omega), stream_of_lt hi, Nat.add_assoc]
    · rw [stream_of_le (by omega), stream_of_le (by omega), hnext,
        show i - (64 - (ctx.keystreamBytesUsed + 1)) = 1 + i - ctx.left by omega]
      rfl
  block ctx i hused := by
    have hnext : ctx.nextBlock.left = 0 := left_of_le hused
    rw [stream_of_le (by omega), stream_of_le (by rw [left_of_le hused]; omega), hnext,
      left_of_le hused, blockState_nextBlock, Nat.sub_zero, Nat.sub_zero,
      show (64 + i) / 64 = i / 64 + 1 by omega, show (64 + i) % 64 = i % 64 by omega]
  partialBlock ctx n i hused hn hn' := by
    have hnext : ({ ctx.nextBlock with keystreamBytesUsed := n } : ChachaContext).left = 64 - n :=
      rfl
    rw [stream_of_le (show ctx.left ≤ n + i by rw [left_of_le hused]; omega), left_of_le hused,
      Nat.sub_zero]
    by_cases hi : i < 64 - n
    · rw [stream_of_lt hi, show (n + i) / 64 = 0 by omega, show (n + i) % 64 = n + i by omega,
        blockState_zero]
      rfl
    · rw [stream_of_le (by omega), hnext, show (n + i) / 64 = (i - (64 - n)) / 64 + 1 by omega,
        show (n + i) % 64 = (i - (64 - n)) % 64 by omega, ← blockState_nextBlock]
      rfl

lemma locate_follows : Follows locate where
  leftover ctx i hused := by
    have hleft : ctx.left = 64 - ctx.keystreamBytesUsed := rfl
    have hnext : ({ ctx with keystreamBytesUsed := ctx.keystreamBytesUsed + 1 } :
        ChachaContext).left = 64 - (ctx.keystreamBytesUsed + 1) := rfl
    by_cases hi : 1 + i < ctx.left
    · rw [locate_of_lt (by omega), locate_of_lt hi, Nat.add_assoc]
      rfl
    · rw [locate_of_le (by omega), locate_of_le (by omega), hnext,
        show i - (64 - (ctx.keystreamBytesUsed + 1)) = 1 + i - ctx.left by omega]
      rfl
  block ctx i hused := by
    have hnext : ctx.nextBlock.left = 0 := left_of_le hused
    rw [locate_of_le (by omega), locate_of_le (by rw [left_of_le hused]; omega), hnext,
      left_of_le hused, keyWords_nextBlock, nonceWords_nextBlock, counter_nextBlock,
      Nat.sub_zero, Nat.sub_zero, UInt32.add_assoc,
      show (64 + i) / 64 = 1 + i / 64 by omega, show (64 + i) % 64 = i % 64 by omega,
      UInt32.ofNat_add]
    rfl
  partialBlock ctx n i hused hn hn' := by
    have hnext : ({ ctx.nextBlock with keystreamBytesUsed := n } : ChachaContext).left = 64 - n :=
      rfl
    have hkey : ({ ctx.nextBlock with keystreamBytesUsed := n } : ChachaContext).keyWords =
        ctx.keyWords := keyWords_nextBlock ctx
    have hnonce : ({ ctx.nextBlock with keystreamBytesUsed := n } : ChachaContext).nonceWords =
        ctx.nonceWords := nonceWords_nextBlock ctx
    have hcounter : ({ ctx.nextBlock with keystreamBytesUsed := n } : ChachaContext).counter =
        ctx.counter + 1 := counter_nextBlock ctx
    rw [locate_of_le (show ctx.left ≤ n + i by rw [left_of_le hused]; omega), left_of_le hused,
      Nat.sub_zero]
    by_cases hi : i < 64 - n
    · rw [locate_of_lt hi, hkey, hnonce, hcounter,
        show (n + i) / 64 = 0 by omega, show (n + i) % 64 = n + i by omega]
      simp
    · rw [locate_of_le (by omega), hnext, hkey, hnonce, hcounter,
        show (n + i) / 64 = 1 + (i - (64 - n)) / 64 by omega,
        show (n + i) % 64 = (i - (64 - n)) % 64 by omega, UInt32.ofNat_add, UInt32.add_assoc]
      rfl

end ChachaContext

open ChachaContext

/-- What a loop of the update has done: it turned a prefix of its input into output with the next
keystream bytes and left the rest of the input. -/
def Processed (ctx : ChachaContext) (input : List UInt8)
    (r : ChachaContext × List UInt8 × List UInt8) : Prop :=
  ∃ pre, input = pre ++ r.2.2 ∧ r.2.1 = xorStream ctx.stream pre ∧
    ∀ (α : Type) (f : ChachaContext → ℕ → α), Follows f → ∀ i, f r.1 i = f ctx (pre.length + i)

lemma Processed.refl (ctx : ChachaContext) (input : List UInt8) :
    Processed ctx input (ctx, [], input) :=
  ⟨[], by simp, by simp, by simp⟩

lemma Processed.trans {ctx : ChachaContext} {input : List UInt8}
    {r r' : ChachaContext × List UInt8 × List UInt8} (h : Processed ctx input r)
    (h' : Processed r.1 r.2.2 r') : Processed ctx input (r'.1, r.2.1 ++ r'.2.1, r'.2.2) := by
  obtain ⟨pre, hin, hout, hf⟩ := h
  obtain ⟨pre', hin', hout', hf'⟩ := h'
  refine ⟨pre ++ pre', ?_, ?_, ?_⟩
  · rw [hin, hin', List.append_assoc]
  · have hks : xorStream r.1.stream pre' = xorStream (fun i => ctx.stream (pre.length + i)) pre' :=
      xorStream_congr (fun i _ => hf _ _ stream_follows i)
    rw [hout, hout', xorStream_append, hks]
  · intro α f hfol i
    rw [hf' α f hfol i, hf α f hfol, List.length_append, Nat.add_assoc]

lemma leftoverLoop_processed (ctx : ChachaContext) (input : List UInt8) :
    Processed ctx input (leftoverLoop ctx input) := by
  induction input generalizing ctx with
  | nil => exact Processed.refl ctx []
  | cons b input ih =>
    rw [leftoverLoop]
    by_cases hused : ctx.keystreamBytesUsed < 64
    · rw [if_pos hused]
      have hstep : Processed ctx (b :: input)
          ({ ctx with keystreamBytesUsed := ctx.keystreamBytesUsed + 1 },
            [b ^^^ ctx.keystream8.toList.getD ctx.keystreamBytesUsed 0], input) := by
        refine ⟨[b], rfl, ?_, fun α f hf i => hf.leftover ctx i hused⟩
        have hleft : 0 < ctx.left := by simp only [left]; omega
        simp only [xorStream, stream_of_lt hleft, Nat.add_zero]
      exact hstep.trans (ih _)
    · rw [if_neg hused]
      exact Processed.refl ctx _

lemma leftoverLoop_used (ctx : ChachaContext) (input : List UInt8)
    (h : (leftoverLoop ctx input).2.2 ≠ []) : 64 ≤ (leftoverLoop ctx input).1.keystreamBytesUsed := by
  induction input generalizing ctx with
  | nil => simp [leftoverLoop] at h
  | cons b input ih =>
    rw [leftoverLoop] at h ⊢
    by_cases hused : ctx.keystreamBytesUsed < 64
    · rw [if_pos hused] at h ⊢
      exact ih _ h
    · rw [if_neg hused]
      exact Nat.not_lt.mp hused

lemma xor_block_eq {ctx : ChachaContext} (hused : 64 ≤ ctx.keystreamBytesUsed) {input : List UInt8}
    (hlen : input.length ≤ 64) :
    mbedtlsXor input ctx.nextBlock.keystream8 = xorStream ctx.stream input := by
  apply xorStream_congr
  intro i hi
  rw [stream_of_le (by rw [left_of_le hused]; omega), left_of_le hused, Nat.sub_zero,
    show i / 64 = 0 by omega, show i % 64 = i by omega, blockState_zero]
  rfl

lemma blockLoop_processed (ctx : ChachaContext) (input : List UInt8)
    (hused : input ≠ [] → 64 ≤ ctx.keystreamBytesUsed) :
    Processed ctx input (blockLoop ctx input) ∧ (blockLoop ctx input).2.2.length < 64 ∧
      (blockLoop ctx input).1.keystreamBytesUsed = ctx.keystreamBytesUsed := by
  induction ctx, input using blockLoop.induct with
  | case1 ctx input hlen ih =>
    have hu : 64 ≤ ctx.keystreamBytesUsed := hused (by rintro rfl; simp at hlen)
    obtain ⟨hp, hshort, hkeep⟩ := ih (fun _ => hu)
    rw [blockLoop, if_pos hlen]
    refine ⟨?_, hshort, hkeep⟩
    have hstep : Processed ctx input (ctx.nextBlock,
        mbedtlsXor (input.take 64) ctx.nextBlock.keystream8, input.drop 64) := by
      refine ⟨input.take 64, (List.take_append_drop 64 input).symm, ?_, ?_⟩
      · exact xor_block_eq hu (by rw [List.length_take]; omega)
      · intro α f hf i
        rw [hf.block ctx i hu, List.length_take, Nat.min_eq_left hlen]
    exact hstep.trans hp
  | case2 ctx input hlen =>
    rw [blockLoop, if_neg hlen]
    exact ⟨Processed.refl ctx input, by simpa using hlen, rfl⟩

/-- The whole update: all input bytes are XORed with the next keystream bytes. -/
theorem mbedtlsChacha20Update_processed (ctx : ChachaContext) (input : List UInt8) :
    Processed ctx input ((mbedtlsChacha20Update ctx input).1, (mbedtlsChacha20Update ctx input).2, []) := by
  have hl := leftoverLoop_processed ctx input
  obtain ⟨hb, hshort, hkeep⟩ := blockLoop_processed (leftoverLoop ctx input).1
    (leftoverLoop ctx input).2.2 (leftoverLoop_used ctx input)
  have hlb := hl.trans hb
  unfold mbedtlsChacha20Update
  dsimp only
  by_cases hrest : 0 < (blockLoop (leftoverLoop ctx input).1 (leftoverLoop ctx input).2.2).2.2.length
  · rw [if_pos hrest]
    have hne : (leftoverLoop ctx input).2.2 ≠ [] := by
      intro hnil
      rw [hnil, blockLoop] at hrest
      simp at hrest
    have hu := hkeep ▸ leftoverLoop_used ctx input hne
    refine hlb.trans (show Processed _ _ (_, _, []) from
      ⟨_, by simp, xor_block_eq hu (by omega), ?_⟩)
    intro α f hf i
    exact hf.partialBlock _ _ i hu hrest hshort
  · rw [if_neg hrest]
    have hnil := List.length_eq_zero_iff.mp (Nat.eq_zero_of_not_pos hrest)
    rw [hnil] at hlb
    exact hlb

lemma mbedtlsChacha20Update_output (ctx : ChachaContext) (input : List UInt8) :
    (mbedtlsChacha20Update ctx input).2 = xorStream ctx.stream input := by
  obtain ⟨pre, hin, hout, _⟩ := mbedtlsChacha20Update_processed ctx input
  obtain rfl : input = pre := by simpa using hin
  exact hout

-- the first test vector of `mbedtls_chacha20_self_test`
example : (mbedtlsChacha20Update (mbedtlsChacha20Starts (mbedtlsChacha20Setkey
    (mbedtlsChacha20Init ⟨Vector.replicate 16 0, Vector.replicate 64 0, 64⟩)
    (List.replicate 32 0)) (List.replicate 12 0) 0) [0, 0, 0, 0, 0, 0, 0, 0]).2 =
    [0x76, 0xb8, 0xe0, 0xad, 0xa0, 0xf1, 0x3d, 0x90] := by
  decide +kernel

lemma mbedtlsChacha20Update_follows {α : Type} {f : ChachaContext → ℕ → α} (hf : Follows f)
    (ctx : ChachaContext) (input : List UInt8) (i : ℕ) :
    f (mbedtlsChacha20Update ctx input).1 i = f ctx (input.length + i) := by
  obtain ⟨pre, hin, _, hfol⟩ := mbedtlsChacha20Update_processed ctx input
  obtain rfl : input = pre := by simpa using hin
  exact hfol α f hf i

/-! ### The context depends on the lengths only -/

lemma leftoverLoop_context (ctx : ChachaContext) {xs ys : List UInt8} (h : xs.length = ys.length) :
    (leftoverLoop ctx xs).1 = (leftoverLoop ctx ys).1 ∧
      (leftoverLoop ctx xs).2.2.length = (leftoverLoop ctx ys).2.2.length := by
  induction xs generalizing ctx ys with
  | nil =>
    obtain rfl := List.length_eq_zero_iff.mp h.symm
    exact ⟨rfl, rfl⟩
  | cons x xs ih =>
    cases ys with
    | nil => simp at h
    | cons y ys =>
      have hlen : xs.length = ys.length := by simpa using h
      simp only [leftoverLoop]
      by_cases hused : ctx.keystreamBytesUsed < 64
      · simp only [hused, if_true]
        exact ih _ hlen
      · simp only [hused, if_false, List.length_cons, hlen, and_self]

lemma blockLoop_context (ctx : ChachaContext) (xs ys : List UInt8) (h : xs.length = ys.length) :
    (blockLoop ctx xs).1 = (blockLoop ctx ys).1 ∧
      (blockLoop ctx xs).2.2.length = (blockLoop ctx ys).2.2.length := by
  induction ctx, xs using blockLoop.induct generalizing ys with
  | case1 ctx xs hlen ih =>
    rw [blockLoop, if_pos hlen, blockLoop.eq_def ctx ys, if_pos (by omega)]
    exact ih (ys.drop 64) (by rw [List.length_drop, List.length_drop, h])
  | case2 ctx xs hlen =>
    rw [blockLoop, if_neg hlen, blockLoop, if_neg (by omega)]
    exact ⟨rfl, h⟩

lemma mbedtlsChacha20Update_context (ctx : ChachaContext) (xs ys : List UInt8)
    (h : xs.length = ys.length) :
    (mbedtlsChacha20Update ctx xs).1 = (mbedtlsChacha20Update ctx ys).1 := by
  obtain ⟨hl, hllen⟩ := leftoverLoop_context ctx h
  obtain ⟨hb, hblen⟩ := blockLoop_context (leftoverLoop ctx ys).1 _ _ hllen
  simp only [mbedtlsChacha20Update, hl, hb, hblen]
  split <;> rfl

/-- ChaCha20 as `crypto/chacha20.c` computes it is a stream cipher. -/
def chacha20Cipher : StreamCipher ChachaContext where
  update := mbedtlsChacha20Update
  stream := stream
  output := mbedtlsChacha20Update_output
  advance := mbedtlsChacha20Update_follows stream_follows
  context := mbedtlsChacha20Update_context

end Enchat
