import Enchat.Library.LittleEndian
import Enchat.Model.BaseTable
import Enchat.Model.X25519

/-!
# Multiples of the base point in `boringssl/curve25519.c`

`X25519_public_from_private` does not use the ladder: it adds points of the Edwards curve, which it
takes from a table with masks instead of branches.
-/

namespace Enchat

/-- `(X : Y : Z)` with `x = X / Z` and `y = Y / Z`. -/
structure GeP2 where
  X : Fe
  Y : Fe
  Z : Fe

/-- `(X : Y : Z : T)` with `x y = T / Z` as well. -/
structure GeP3 where
  X : Fe
  Y : Fe
  Z : Fe
  T : Fe

/-- `((X : Z), (Y : T))` with `x = X / Z` and `y = Y / T`. -/
structure GeP1p1 where
  X : Fe
  Y : Fe
  Z : Fe
  T : Fe

/-- `(y + x, y - x, 2 d x y)` -/
structure GePrecomp where
  yplusx : Fe
  yminusx : Fe
  xy2d : Fe

def feCarry (f : Fe) : Fe := fiatCarry f

def feFrombytesStrict (s : List UInt8) : Fe := fiatFromBytes s

/-- `fe_sq2_tt` -/
def feSq2 (f : Fe) : Fe :=
  let h := feSq f
  feCarry (feAdd h h)

def feCmov (f g : Fe) (b : UInt64) : Fe := (feCswap f g b).1

def geP3Zero : GeP3 := ⟨fe0, fe1, fe1, fe0⟩

def geP3ToP2 (p : GeP3) : GeP2 := ⟨p.X, p.Y, p.Z⟩

def geP1p1ToP2 (p : GeP1p1) : GeP2 where
  X := feMul p.X p.T
  Y := feMul p.Y p.Z
  Z := feMul p.Z p.T

def geP1p1ToP3 (p : GeP1p1) : GeP3 where
  X := feMul p.X p.T
  Y := feMul p.Y p.Z
  Z := feMul p.Z p.T
  T := feMul p.X p.Y

def geP2Dbl (p : GeP2) : GeP1p1 :=
  let trX := feSq p.X
  let trZ := feSq p.Y
  let trT := feSq2 p.Z
  let t0 := feSq (feAdd p.X p.Y)
  let rY := feAdd trZ trX
  let rZ := feSub trZ trX
  let rX := feSub t0 (feCarry rY)
  let rT := feSub trT (feCarry rZ)
  ⟨rX, rY, rZ, rT⟩

def geP3Dbl (p : GeP3) : GeP1p1 := geP2Dbl (geP3ToP2 p)

def geMadd (p : GeP3) (q : GePrecomp) : GeP1p1 :=
  let trZ := feMul (feAdd p.Y p.X) q.yplusx
  let trY := feMul (feSub p.Y p.X) q.yminusx
  let trT := feMul q.xy2d p.T
  let rX := feSub trZ trY
  let rY := feAdd trZ trY
  let trZ := feCarry (feAdd p.Z p.Z)
  ⟨rX, rY, feAdd trZ trT, feSub trZ trT⟩

/-- `cmov` -/
def geCmov (t u : GePrecomp) (b : UInt8) : GePrecomp where
  yplusx := feCmov t.yplusx u.yplusx b.toUInt64
  yminusx := feCmov t.yminusx u.yminusx b.toUInt64
  xy2d := feCmov t.xy2d u.xy2d b.toUInt64

def constantTimeMsbW (a : UInt64) : UInt64 := (0 : UInt64) - (a >>> 63)

def constantTimeIsZeroW (a : UInt64) : UInt64 := constantTimeMsbW (~~~a &&& (a - 1))

def constantTimeEqW (a b : UInt64) : UInt64 := constantTimeIsZeroW (a ^^^ b)

/-- A `signed char` as a `crypto_word_t`. -/
def wordOfChar (b : Int8) : UInt64 := b.toInt64.toUInt64

def constantTimeConditionalMemxor (dst src : List UInt8) (mask : UInt64) : List UInt8 :=
  List.zipWith (fun out x => out ^^^ (mask.toUInt8 &&& x)) dst src

/-- The copy of one of the three arrays: starts as `first, 0, …, 0` and goes through all entries of
the row. -/
def selectBytes (row : List PrecompEntry) (field : PrecompEntry → ℕ) (babs first : UInt8) :
    List UInt8 :=
  row.zipIdx.foldl
    (fun t x => constantTimeConditionalMemxor t (LittleEndian.bytes 32 (field x.1))
      (constantTimeEqW babs.toUInt64 (UInt64.ofNat (1 + x.2))))
    (first :: List.replicate 31 0)

/-- `table_select`: the multiple `b` of the first point of the row `pos`. -/
def tableSelect (pos : ℕ) (b : Int8) : GePrecomp :=
  let bnegative := (constantTimeMsbW (wordOfChar b)).toUInt8
  let babs := b.toUInt8 - ((bnegative &&& b.toUInt8) <<< 1)
  let row := k25519Precomp.getD pos []
  let one := (constantTimeIsZeroW (wordOfChar b) &&& 1).toUInt8
  let yplusx := feFrombytesStrict (selectBytes row PrecompEntry.yplusx babs one)
  let yminusx := feFrombytesStrict (selectBytes row PrecompEntry.yminusx babs one)
  let xy2d := feFrombytesStrict (selectBytes row PrecompEntry.xy2d babs 0)
  geCmov ⟨yplusx, yminusx, xy2d⟩ ⟨yminusx, yplusx, feNeg xy2d⟩ (bnegative >>> 7)

/-- Two digits of four bits for each byte. -/
def nibbles (a : List UInt8) : List Int8 :=
  a.flatMap fun x : UInt8 => [((x >>> 0) &&& 15).toInt8, ((x >>> 4) &&& 15).toInt8]

/-- The digits with the carry moved upwards, each between `-8` and `8`. -/
def recode : Int8 → List Int8 → List Int8
  | _, [] => []
  | carry, [x] => [x + carry]
  | carry, x :: y :: e =>
    let x := x + carry
    let carry := (x + 8) >>> 4
    (x - (carry <<< 4)) :: recode carry (y :: e)

/-- One of the two loops: adds for every row the multiple with the given digit. -/
def addRows (digit : ℕ → Int8) (h : GeP3) : GeP3 :=
  (List.range 32).foldl (fun h pos => geP1p1ToP3 (geMadd h (tableSelect pos (digit pos)))) h

def geScalarmultBase (a : List UInt8) : GeP3 :=
  let e := recode 0 (nibbles a)
  let h := addRows (fun pos => e.getD (2 * pos + 1) 0) geP3Zero
  let s := geP1p1ToP2 (geP3Dbl h)
  let s := geP1p1ToP2 (geP2Dbl s)
  let s := geP1p1ToP2 (geP2Dbl s)
  let h := geP1p1ToP3 (geP2Dbl s)
  addRows (fun pos => e.getD (2 * pos) 0) h

def x25519PublicFromPrivate (privateKey : List UInt8) : List UInt8 :=
  let A := geScalarmultBase (clampScalar privateKey)
  let zplusy := feAdd A.Z A.Y
  let zminusyInv := feInvert (feSub A.Z A.Y)
  feTobytes (feMul zplusy zminusyInv)

end Enchat
