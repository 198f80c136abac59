import Mathlib.Algebra.Group.Nat.Defs
import Mathlib.Data.List.Basic
import Mathlib.Tactic.Common

/-!
# The field of Curve25519 as in `boringssl/curve25519.c`

Integers modulo `2 ^ 255 - 19` in five 64-bit limbs. The functions `fiat_25519_*` are those of
`curve25519_64_msvc.h`, the header that is compiled when there is no 128-bit type: products are
pairs of words, and the portable form of the addition with carry stands for the intrinsic too.
-/

namespace Enchat

/-- `fe` and `fe_loose`: `v0 + 2 ^ 51 v1 + 2 ^ 102 v2 + 2 ^ 153 v3 + 2 ^ 204 v4`. -/
structure Fe where
  v0 : UInt64
  v1 : UInt64
  v2 : UInt64
  v3 : UInt64
  v4 : UInt64
deriving DecidableEq

/-- The low and the high word of a 128-bit value. -/
structure Wide where
  lo : UInt64
  hi : UInt64

/-- A conversion to `fiat_25519_uint1`, which has eight bits. -/
def fiatUint1 (x : UInt64) : UInt64 := x.toUInt8.toUInt64

/-- `fiat_25519_addcarryx_u64`: the sum and the carry. -/
def fiatAddcarryxU64 (arg1 arg2 arg3 : UInt64) : UInt64 × UInt64 :=
  let sum := arg2 + arg1
  let carry := if sum < arg1 then 1 else 0
  let out := arg3 + sum
  (out, carry + if out < sum then 1 else 0)

def fiatAddcarryxU51 (arg1 arg2 arg3 : UInt64) : UInt64 × UInt64 :=
  let x1 := arg1 + arg2 + arg3
  (x1 &&& 0x7ffffffffffff, fiatUint1 (x1 >>> 51))

/-- `fiat_25519_subborrowx_u51`: the right shift of the difference keeps its sign, and the borrow
is the negated result in eight bits. -/
def fiatSubborrowxU51 (arg1 arg2 arg3 : UInt64) : UInt64 × UInt64 :=
  let x1 := arg2 - arg1 - arg3
  let x2 := (x1.toInt64 >>> 51).toUInt64
  (x1 &&& 0x7ffffffffffff, fiatUint1 (0 - x2))

def fiatMulxU64 (arg1 arg2 : UInt64) : Wide :=
  ⟨arg1 * arg2, UInt64.ofNat (arg1.toNat * arg2.toNat / 2 ^ 64)⟩

def fiatCmovznzU64 (arg1 arg2 arg3 : UInt64) : UInt64 :=
  let x2 := 0 - (if arg1 = 0 then 0 else 1)
  (x2 &&& arg3) ||| (~~~x2 &&& arg2)

/-- Both words of a sum. -/
def addWide (a b : Wide) : Wide :=
  let lo := fiatAddcarryxU64 0 a.lo b.lo
  ⟨lo.1, (fiatAddcarryxU64 lo.2 a.hi b.hi).1⟩

/-- The sum of a word and a pair of words. -/
def addCarried (x : UInt64) (b : Wide) : Wide :=
  let lo := fiatAddcarryxU64 0 x b.lo
  ⟨lo.1, lo.2 + b.hi⟩

def Wide.shiftRight51 (w : Wide) : UInt64 :=
  (w.lo >>> 51) ||| ((w.hi <<< 13) &&& 0xffffffffffffffff)

/-- The end that the multiplications share: one carry through all limbs and back to the first, and
from there to the third. `first` converts the carry out of the first limb. -/
def fiatCarryWide (first : UInt64 → UInt64) (t0 t1 t2 t3 t4 : Wide) : Fe :=
  let s1 := addCarried t0.shiftRight51 t1
  let s2 := addCarried s1.shiftRight51 t2
  let s3 := addCarried s2.shiftRight51 t3
  let s4 := addCarried s3.shiftRight51 t4
  let y0 := (t0.lo &&& 0x7ffffffffffff) + s4.shiftRight51 * 0x13
  let y1 := first (y0 >>> 51) + (s1.lo &&& 0x7ffffffffffff)
  { v0 := y0 &&& 0x7ffffffffffff
    v1 := y1 &&& 0x7ffffffffffff
    v2 := fiatUint1 (y1 >>> 51) + (s2.lo &&& 0x7ffffffffffff)
    v3 := s3.lo &&& 0x7ffffffffffff
    v4 := s4.lo &&& 0x7ffffffffffff }

def fiatCarryMul (f g : Fe) : Fe :=
  let t0 := addWide (fiatMulxU64 f.v0 g.v0) (addWide (fiatMulxU64 f.v1 (g.v4 * 0x13))
    (addWide (fiatMulxU64 f.v2 (g.v3 * 0x13)) (addWide (fiatMulxU64 f.v3 (g.v2 * 0x13))
      (fiatMulxU64 f.v4 (g.v1 * 0x13)))))
  let t4 := addWide (fiatMulxU64 f.v0 g.v4) (addWide (fiatMulxU64 f.v1 g.v3)
    (addWide (fiatMulxU64 f.v2 g.v2) (addWide (fiatMulxU64 f.v3 g.v1) (fiatMulxU64 f.v4 g.v0))))
  let t3 := addWide (fiatMulxU64 f.v0 g.v3) (addWide (fiatMulxU64 f.v1 g.v2)
    (addWide (fiatMulxU64 f.v2 g.v1) (addWide (fiatMulxU64 f.v3 g.v0)
      (fiatMulxU64 f.v4 (g.v4 * 0x13)))))
  let t2 := addWide (fiatMulxU64 f.v0 g.v2) (addWide (fiatMulxU64 f.v1 g.v1)
    (addWide (fiatMulxU64 f.v2 g.v0) (addWide (fiatMulxU64 f.v3 (g.v4 * 0x13))
      (fiatMulxU64 f.v4 (g.v3 * 0x13)))))
  let t1 := addWide (fiatMulxU64 f.v0 g.v1) (addWide (fiatMulxU64 f.v1 g.v0)
    (addWide (fiatMulxU64 f.v2 (g.v4 * 0x13)) (addWide (fiatMulxU64 f.v3 (g.v3 * 0x13))
      (fiatMulxU64 f.v4 (g.v2 * 0x13)))))
  fiatCarryWide id t0 t1 t2 t3 t4

def fiatCarrySquare (f : Fe) : Fe :=
  let x1 := f.v4 * 0x13
  let x2 := x1 * 2
  let x3 := f.v4 * 2
  let x4 := f.v3 * 0x13
  let x5 := x4 * 2
  let x6 := f.v3 * 2
  let x7 := f.v2 * 2
  let x8 := f.v1 * 2
  let t0 := addWide (fiatMulxU64 f.v0 f.v0) (addWide (fiatMulxU64 f.v1 x2) (fiatMulxU64 f.v2 x5))
  let t4 := addWide (fiatMulxU64 f.v0 x3) (addWide (fiatMulxU64 f.v1 x6) (fiatMulxU64 f.v2 f.v2))
  let t3 := addWide (fiatMulxU64 f.v0 x6) (addWide (fiatMulxU64 f.v1 x7) (fiatMulxU64 f.v4 x1))
  let t2 := addWide (fiatMulxU64 f.v0 x7) (addWide (fiatMulxU64 f.v1 f.v1) (fiatMulxU64 f.v3 x2))
  let t1 := addWide (fiatMulxU64 f.v0 x8) (addWide (fiatMulxU64 f.v2 x2) (fiatMulxU64 f.v3 x4))
  fiatCarryWide id t0 t1 t2 t3 t4

def fiatCarryScmul121666 (f : Fe) : Fe :=
  fiatCarryWide fiatUint1 (fiatMulxU64 0x1db42 f.v0) (fiatMulxU64 0x1db42 f.v1)
    (fiatMulxU64 0x1db42 f.v2) (fiatMulxU64 0x1db42 f.v3) (fiatMulxU64 0x1db42 f.v4)

def fiatCarry (f : Fe) : Fe :=
  let x1 := f.v0
  let x2 := (x1 >>> 51) + f.v1
  let x3 := (x2 >>> 51) + f.v2
  let x4 := (x3 >>> 51) + f.v3
  let x5 := (x4 >>> 51) + f.v4
  let x6 := (x1 &&& (0x7ffffffffffff : UInt64)) + (x5 >>> 51) * 0x13
  let x7 := fiatUint1 (x6 >>> 51) + (x2 &&& 0x7ffffffffffff)
  { v0 := x6 &&& 0x7ffffffffffff
    v1 := x7 &&& 0x7ffffffffffff
    v2 := fiatUint1 (x7 >>> 51) + (x3 &&& 0x7ffffffffffff)
    v3 := x4 &&& 0x7ffffffffffff
    v4 := x5 &&& 0x7ffffffffffff }

def fiatAdd (f g : Fe) : Fe :=
  ⟨f.v0 + g.v0, f.v1 + g.v1, f.v2 + g.v2, f.v3 + g.v3, f.v4 + g.v4⟩

def fiatSub (f g : Fe) : Fe where
  v0 := 0xfffffffffffda + f.v0 - g.v0
  v1 := 0xffffffffffffe + f.v1 - g.v1
  v2 := 0xffffffffffffe + f.v2 - g.v2
  v3 := 0xffffffffffffe + f.v3 - g.v3
  v4 := 0xffffffffffffe + f.v4 - g.v4

def fiatOpp (f : Fe) : Fe where
  v0 := 0xfffffffffffda - f.v0
  v1 := 0xffffffffffffe - f.v1
  v2 := 0xffffffffffffe - f.v2
  v3 := 0xffffffffffffe - f.v3
  v4 := 0xffffffffffffe - f.v4

/-- `n` bytes of `x` from the lowest on, and what is left of `x`. -/
def shiftOutBytes : ℕ → UInt64 → List UInt8 × UInt64
  | 0, x => ([], x)
  | n + 1, x =>
    let r := shiftOutBytes n (x >>> 8)
    ((x &&& 0xff).toUInt8 :: r.1, r.2)

/-- Subtracts the modulus and adds it again if there was a borrow. -/
def fiatFreeze (f : Fe) : Fe :=
  let b0 := fiatSubborrowxU51 0 f.v0 0x7ffffffffffed
  let b1 := fiatSubborrowxU51 b0.2 f.v1 0x7ffffffffffff
  let b2 := fiatSubborrowxU51 b1.2 f.v2 0x7ffffffffffff
  let b3 := fiatSubborrowxU51 b2.2 f.v3 0x7ffffffffffff
  let b4 := fiatSubborrowxU51 b3.2 f.v4 0x7ffffffffffff
  let x11 := fiatCmovznzU64 b4.2 0 0xffffffffffffffff
  let c0 := fiatAddcarryxU51 0 b0.1 (x11 &&& 0x7ffffffffffed)
  let c1 := fiatAddcarryxU51 c0.2 b1.1 (x11 &&& 0x7ffffffffffff)
  let c2 := fiatAddcarryxU51 c1.2 b2.1 (x11 &&& 0x7ffffffffffff)
  let c3 := fiatAddcarryxU51 c2.2 b3.1 (x11 &&& 0x7ffffffffffff)
  let c4 := fiatAddcarryxU51 c3.2 b4.1 (x11 &&& 0x7ffffffffffff)
  ⟨c0.1, c1.1, c2.1, c3.1, c4.1⟩

/-- The 32 bytes of the canonical representative. -/
def fiatToBytes (f : Fe) : List UInt8 :=
  let x := fiatFreeze f
  let s0 := shiftOutBytes 6 x.v0
  let s1 := shiftOutBytes 6 ((x.v1 <<< 3) + s0.2.toUInt8.toUInt64)
  let s2 := shiftOutBytes 7 ((x.v2 <<< 6) + s1.2.toUInt8.toUInt64)
  let s3 := shiftOutBytes 6 (x.v3 * 2 + fiatUint1 s2.2)
  let s4 := shiftOutBytes 6 ((x.v4 <<< 4) + s3.2.toUInt8.toUInt64)
  s0.1 ++ s1.1 ++ s2.1 ++ s3.1 ++ s4.1 ++ [s4.2.toUInt8]

def fiatFromBytes (s : List UInt8) : Fe :=
  let b (i : ℕ) (n : UInt64) : UInt64 := (s.getD i 0).toUInt64 <<< n
  let x38 := b 6 48 + (b 5 40 + (b 4 32 + (b 3 24 + (b 2 16 + (b 1 8 + b 0 0)))))
  let x46 := b 12 45 + (b 11 37 + (b 10 29 + (b 9 21 + (b 8 13 + (b 7 5 +
    (x38 >>> 51).toUInt8.toUInt64)))))
  let x55 := b 19 50 + (b 18 42 + (b 17 34 + (b 16 26 + (b 15 18 + (b 14 10 + (b 13 2 +
    (x46 >>> 51).toUInt8.toUInt64))))))
  let x63 := b 25 47 + (b 24 39 + (b 23 31 + (b 22 23 + (b 21 15 + (b 20 7 +
    (x55 >>> 51).toUInt8.toUInt64)))))
  let x71 := b 31 44 + (b 30 36 + (b 29 28 + (b 28 20 + (b 27 12 + (b 26 4 +
    (x63 >>> 51).toUInt8.toUInt64)))))
  { v0 := x38 &&& 0x7ffffffffffff
    v1 := x46 &&& 0x7ffffffffffff
    v2 := x55 &&& 0x7ffffffffffff
    v3 := x63 &&& 0x7ffffffffffff
    v4 := x71 }

/-- `fe_frombytes`: the highest bit of the 32 bytes is ignored. -/
def feFrombytes (s : List UInt8) : Fe :=
  fiatFromBytes (s.set 31 (s.getD 31 0 &&& 0x7f))

def feTobytes (f : Fe) : List UInt8 := fiatToBytes f

def fe0 : Fe := ⟨0, 0, 0, 0, 0⟩

def fe1 : Fe := ⟨1, 0, 0, 0, 0⟩

def feAdd (f g : Fe) : Fe := fiatAdd f g

def feSub (f g : Fe) : Fe := fiatSub f g

def feNeg (f : Fe) : Fe := fiatOpp f

/-- `fe_mul_ttt` and its variants, which differ in the types of the arguments only. -/
def feMul (f g : Fe) : Fe := fiatCarryMul f g

/-- `fe_sq_tl` and `fe_sq_tt`. -/
def feSq (f : Fe) : Fe := fiatCarrySquare f

def feMul121666 (f : Fe) : Fe := fiatCarryScmul121666 f

/-- `fe_cswap`: exchanges `f` and `g` if `b` is `1`, without a branch. -/
def feCswap (f g : Fe) (b : UInt64) : Fe × Fe :=
  let b := 0 - b
  let x (s t : UInt64) : UInt64 := (s ^^^ t) &&& b
  (⟨f.v0 ^^^ x f.v0 g.v0, f.v1 ^^^ x f.v1 g.v1, f.v2 ^^^ x f.v2 g.v2, f.v3 ^^^ x f.v3 g.v3,
      f.v4 ^^^ x f.v4 g.v4⟩,
    ⟨g.v0 ^^^ x f.v0 g.v0, g.v1 ^^^ x f.v1 g.v1, g.v2 ^^^ x f.v2 g.v2, g.v3 ^^^ x f.v3 g.v3,
      g.v4 ^^^ x f.v4 g.v4⟩)

/-- `n` squarings in a row. -/
def feSqN (n : ℕ) (f : Fe) : Fe := Nat.repeat feSq n f

/-- `fe_loose_invert`: the power `2 ^ 255 - 21`. -/
def feInvert (z : Fe) : Fe :=
  let t0 := feSq z
  let t1 := feSqN 2 t0
  let t1 := feMul z t1
  let t0 := feMul t0 t1
  let t2 := feSq t0
  let t1 := feMul t1 t2
  let t2 := feSqN 5 t1
  let t1 := feMul t2 t1
  let t2 := feSqN 10 t1
  let t2 := feMul t2 t1
  let t3 := feSqN 20 t2
  let t2 := feMul t3 t2
  let t2 := feSqN 10 t2
  let t1 := feMul t2 t1
  let t2 := feSqN 50 t1
  let t2 := feMul t2 t1
  let t3 := feSqN 100 t2
  let t2 := feMul t3 t2
  let t2 := feSqN 50 t2
  let t1 := feMul t2 t1
  let t1 := feSqN 5 t1
  feMul t1 t0

end Enchat
