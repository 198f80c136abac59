import Enchat.Model.Field25519

/-!
# `X25519` of `boringssl/curve25519.c`

The ladder of `x25519_scalar_mult_generic`, the function behind `x25519_scalar_mult` when neither of
the assembly versions is compiled in.
-/

namespace Enchat

/-- The copy of the scalar with the three bytes that are masked. -/
def clampScalar (scalar : List UInt8) : List UInt8 :=
  let e := scalar.set 0 (scalar.getD 0 0 &&& 248)
  let e := e.set 31 (e.getD 31 0 &&& 127)
  e.set 31 (e.getD 31 0 ||| 64)

/-- The variables of the loop. -/
structure LadderState where
  x2 : Fe
  z2 : Fe
  x3 : Fe
  z3 : Fe
  swap : UInt64

namespace LadderState

def init (x1 : Fe) : LadderState where
  x2 := fe1
  z2 := fe0
  x3 := x1
  z3 := fe1
  swap := 0

/-- Exchanges the two points if `b` is `1`. -/
def cswap (s : LadderState) (b : UInt64) : LadderState :=
  let x := feCswap s.x2 s.x3 b
  let z := feCswap s.z2 s.z3 b
  { s with x2 := x.1, x3 := x.2, z2 := z.1, z3 := z.2 }

/-- The body of the loop for the bit `b`. -/
def step (x1 : Fe) (s : LadderState) (b : UInt64) : LadderState :=
  let s := s.cswap (s.swap ^^^ b)
  let tmp0l := feSub s.x3 s.z3
  let tmp1l := feSub s.x2 s.z2
  let x2l := feAdd s.x2 s.z2
  let z2l := feAdd s.x3 s.z3
  let z3 := feMul tmp0l x2l
  let z2 := feMul z2l tmp1l
  let tmp0 := feSq tmp1l
  let tmp1 := feSq x2l
  let x3l := feAdd z3 z2
  let z2l := feSub z3 z2
  let x2 := feMul tmp1 tmp0
  let tmp1l := feSub tmp1 tmp0
  let z2 := feSq z2l
  let z3 := feMul121666 tmp1l
  let x3 := feSq x3l
  let tmp0l := feAdd tmp0 z3
  let z3 := feMul x1 z2
  let z2 := feMul tmp1l tmp0l
  { x2, z2, x3, z3, swap := b }

end LadderState

/-- `1 & (e[pos / 8] >> (pos & 7))` -/
def scalarBit (e : List UInt8) (pos : ℕ) : UInt64 :=
  1 &&& ((e.getD (pos / 8) 0).toUInt64 >>> UInt64.ofNat (pos % 8))

/-- The loop from bit `pos - 1` down to bit `0`. -/
def ladderLoop (x1 : Fe) (e : List UInt8) : ℕ → LadderState → LadderState
  | 0, s => s
  | pos + 1, s => ladderLoop x1 e pos (s.step x1 (scalarBit e pos))

def x25519ScalarMultGeneric (scalar point : List UInt8) : List UInt8 :=
  let e := clampScalar scalar
  let x1 := feFrombytes point
  let s := ladderLoop x1 e 255 (LadderState.init x1)
  let s := s.cswap s.swap
  feTobytes (feMul s.x2 (feInvert s.z2))

end Enchat
