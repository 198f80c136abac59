import Mathlib.Data.List.Basic
import Mathlib.Tactic.Common
import Enchat.Library.Buffer
import Enchat.Library.StreamCipher

/-!
# ChaCha20 as in `crypto/chacha20.c`

The context, the block function and the streaming update of the vendored mbedTLS cipher. A
context keeps the unused part of the last keystream block between two calls of the update.
-/

namespace Enchat
open Buffer

structure ChachaContext where
  state : Vector UInt32 16
  keystream8 : Vector UInt8 64
  keystreamBytesUsed : ℕ
deriving DecidableEq

def rotl32 (value amount : UInt32) : UInt32 :=
  (value <<< amount) ||| (value >>> (32 - amount))

def chacha20QuarterRound (state : Vector UInt32 16) (a b c d : Fin 16) : Vector UInt32 16 :=
  let state := state.set a (state[a] + state[b])
  let state := state.set d (rotl32 (state[d] ^^^ state[a]) 16)
  let state := state.set c (state[c] + state[d])
  let state := state.set b (rotl32 (state[b] ^^^ state[c]) 12)
  let state := state.set a (state[a] + state[b])
  let state := state.set d (rotl32 (state[d] ^^^ state[a]) 8)
  let state := state.set c (state[c] + state[d])
  state.set b (rotl32 (state[b] ^^^ state[c]) 7)

def chacha20InnerBlock (state : Vector UInt32 16) : Vector UInt32 16 :=
  let state := chacha20QuarterRound state 0 4 8 12
  let state := chacha20QuarterRound state 1 5 9 13
  let state := chacha20QuarterRound state 2 6 10 14
  let state := chacha20QuarterRound state 3 7 11 15
  let state := chacha20QuarterRound state 0 5 10 15
  let state := chacha20QuarterRound state 1 6 11 12
  let state := chacha20QuarterRound state 2 7 8 13
  chacha20QuarterRound state 3 4 9 14

/-- Ten double rounds, the feed-forward and the little-endian serialisation. -/
def chacha20Block (initialState : Vector UInt32 16) : Vector UInt8 64 :=
  let workingState := (Nat.repeat chacha20InnerBlock 10 initialState).zipWith (· + ·) initialState
  Vector.ofFn (fun i => (workingState[i.val / 4] >>> UInt32.ofNat (8 * (i.val % 4))).toUInt8)

def mbedtlsChacha20Init (_ctx : ChachaContext) : ChachaContext where
  state := Vector.replicate 16 0
  keystream8 := Vector.replicate 64 0
  keystreamBytesUsed := 64

def mbedtlsChacha20Setkey (ctx : ChachaContext) (key : List UInt8) : ChachaContext :=
  let state := ctx.state
    |>.set 0 0x61707865 |>.set 1 0x3320646e |>.set 2 0x79622d32 |>.set 3 0x6b206574
    |>.set 4 (getU32 key 0) |>.set 5 (getU32 key 4) |>.set 6 (getU32 key 8)
    |>.set 7 (getU32 key 12) |>.set 8 (getU32 key 16) |>.set 9 (getU32 key 20)
    |>.set 10 (getU32 key 24) |>.set 11 (getU32 key 28)
  { ctx with state := state }

def mbedtlsChacha20Starts (ctx : ChachaContext) (nonce : List UInt8) (counter : UInt32) :
    ChachaContext where
  state := ctx.state
    |>.set 12 counter
    |>.set 13 (getU32 nonce 0) |>.set 14 (getU32 nonce 4) |>.set 15 (getU32 nonce 8)
  keystream8 := Vector.replicate 64 0
  keystreamBytesUsed := 64

/-- The block counter is word 12 of the state. -/
def ChachaContext.counter (ctx : ChachaContext) : UInt32 := ctx.state[12]

def ChachaContext.setCounter (ctx : ChachaContext) (counter : UInt32) : ChachaContext :=
  { ctx with state := ctx.state.set 12 counter }

/-- Generates the next keystream block and increments the block counter. -/
def ChachaContext.nextBlock (ctx : ChachaContext) : ChachaContext :=
  { ctx.setCounter (ctx.counter + 1) with keystream8 := chacha20Block ctx.state }

/-- `mbedtls_xor` with the first bytes of a keystream block. -/
def mbedtlsXor (input : List UInt8) (keystream8 : Vector UInt8 64) : List UInt8 :=
  xorStream (fun i => keystream8.toList.getD i 0) input

/-- The first loop of the update: uses up leftover keystream bytes. The result is the context,
the output and the input that is left. -/
def leftoverLoop (ctx : ChachaContext) : List UInt8 → ChachaContext × List UInt8 × List UInt8
  | [] => (ctx, [], [])
  | b :: input =>
    if ctx.keystreamBytesUsed < 64 then
      let r := leftoverLoop
        { ctx with keystreamBytesUsed := ctx.keystreamBytesUsed + 1 } input
      (r.1, (b ^^^ ctx.keystream8.toList.getD ctx.keystreamBytesUsed 0) :: r.2.1, r.2.2)
    else (ctx, [], b :: input)

/-- The second loop of the update: whole blocks. -/
def blockLoop (ctx : ChachaContext) (input : List UInt8) :
    ChachaContext × List UInt8 × List UInt8 :=
  if 64 ≤ input.length then
    let r := blockLoop ctx.nextBlock (input.drop 64)
    (r.1, mbedtlsXor (input.take 64) ctx.nextBlock.keystream8 ++ r.2.1, r.2.2)
  else (ctx, [], input)
termination_by input.length
decreasing_by simp only [List.length_drop]; omega

def mbedtlsChacha20Update (ctx : ChachaContext) (input : List UInt8) :
    ChachaContext × List UInt8 :=
  let l := leftoverLoop ctx input
  let b := blockLoop l.1 l.2.2
  if 0 < b.2.2.length then
    ({ b.1.nextBlock with keystreamBytesUsed := b.2.2.length },
      l.2.1 ++ b.2.1 ++ mbedtlsXor b.2.2 b.1.nextBlock.keystream8)
  else (b.1, l.2.1 ++ b.2.1)

end Enchat
