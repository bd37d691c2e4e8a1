import BulletinPipeline.Number.Power

-- Binary floating point numbers of 64 bits. A number is its bit pattern, a finite number stands for `significand * 2
-- ^ scale` with its sign, and every operation rounds an exact quotient of natural numbers once, to the nearest
-- number and to the even one of two.
namespace BulletinPipeline

structure Double where
  bits : UInt64
  deriving DecidableEq, Repr

namespace Double

def isNegative (d : Double) : Bool :=
  twoTo 63 ≤ d.bits.toNat

def exponentField (d : Double) : Nat :=
  d.bits.toNat / twoTo 52 % twoTo 11

def fraction (d : Double) : Nat :=
  d.bits.toNat % twoTo 52

def isFinite (d : Double) : Bool :=
  d.exponentField < 2047

def isNaN (d : Double) : Bool :=
  d.exponentField = 2047 && d.fraction ≠ 0

def significand (d : Double) : Nat :=
  if d.exponentField = 0 then d.fraction else twoTo 52 + d.fraction

def scale (d : Double) : Int :=
  (max d.exponentField 1 : Nat) - 1075

def isZero (d : Double) : Bool :=
  d.isFinite && d.significand = 0

def ofMagnitude (negative : Bool) (magnitude : Nat) : Double :=
  ⟨UInt64.ofNat (magnitude + if negative then twoTo 63 else 0)⟩

def zero (negative : Bool) : Double :=
  ofMagnitude negative 0

def infinity (negative : Bool) : Double :=
  ofMagnitude negative (2047 * twoTo 52)

def nan : Double :=
  ofMagnitude false (2047 * twoTo 52 + twoTo 51)

def neg (d : Double) : Double :=
  ⟨d.bits ^^^ UInt64.ofNat (twoTo 63)⟩

def roundQuotient (num den : Nat) : Nat :=
  let q := num / den
  let r := num % den
  if 2 * r < den || (2 * r == den && q % 2 == 0) then q else q + 1

def scaled (num den : Nat) (e : Int) : Nat × Nat :=
  (num * twoTo e.toNat, den * twoTo (-e).toNat)

-- The exponent of the last place of the number next to a quotient: the quotient has 53 binary digits above it,
-- unless it lies below every normal number.
def placeOf (num den : Nat) : Int :=
  let e : Int := (num.log2 : Int) - den.log2 - 52
  let (n, d) := scaled num den (-e)
  max (-1074) (if n < d * twoTo 52 then e - 1 else e)

def ofQuotient (negative : Bool) (num den : Nat) : Double :=
  if num = 0 then zero negative
  else
    let e := placeOf num den
    let (n, d) := scaled num den (-e)
    let magnitude := (e + 1074).toNat * twoTo 52 + roundQuotient n d
    if 2047 * twoTo 52 ≤ magnitude then infinity negative else ofMagnitude negative magnitude

def ofInt (n : Int) : Double :=
  ofQuotient (n < 0) n.natAbs 1

def truncNat (d : Double) : Nat :=
  d.significand * twoTo d.scale.toNat / twoTo (-d.scale).toNat

def isWhole (d : Double) : Bool :=
  d.isFinite && d.significand * twoTo d.scale.toNat % twoTo (-d.scale).toNat == 0

def trunc (d : Double) : Int :=
  if d.isNegative then -(d.truncNat : Int) else d.truncNat

def mul (a b : Double) : Double :=
  let (n, d) := scaled (a.significand * b.significand) 1 (a.scale + b.scale)
  ofQuotient (a.isNegative != b.isNegative) n d

def div (a b : Double) : Double :=
  let (n, d) := scaled a.significand b.significand (a.scale - b.scale)
  ofQuotient (a.isNegative != b.isNegative) n d

end Double
end BulletinPipeline
