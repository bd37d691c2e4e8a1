import BulletinPipeline.Number.Double

namespace BulletinPipeline

structure Decimal where
  digits   : Nat
  exponent : Int
  deriving DecidableEq, Repr

inductive Tie
  | up | even
  deriving DecidableEq, Repr

structure Layout where
  -- The least and the greatest number of digits before the point (zeros after it count below zero) with which no
  -- exponent is written; always so without bounds.
  positional   : Option (Int × Int)
  pointZero    : Bool
  exponentPlus : Bool
  tie          : Tie
  deriving Repr

namespace Decimal

def dropZeros (d : Decimal) : Decimal :=
  go d.digits d
where
  go : Nat → Decimal → Decimal
    | 0, d => d
    | n + 1, d =>
      if d.digits ≠ 0 ∧ d.digits % 10 = 0 then go (n / 10) ⟨d.digits / 10, d.exponent + 1⟩ else d

def point (d : Decimal) : List Char × Int :=
  let cs := Nat.toDigits 10 d.digits
  (cs, cs.length + d.exponent)

def positional (pointZero : Bool) (d : Decimal) : List Char :=
  let (cs, p) := d.point
  let n := p.toNat
  let whole := if p ≤ 0 then ['0'] else cs.take n ++ List.replicate (n - cs.length) '0'
  let fraction := if p ≤ 0 then List.replicate (-p).toNat '0' ++ cs else cs.drop n
  whole ++ if fraction.isEmpty then (if pointZero then ['.', '0'] else []) else '.' :: fraction

def scientific (exponentPlus : Bool) (d : Decimal) : List Char :=
  let (cs, p) := d.point
  let e := p - 1
  cs.take 1 ++ (if cs.length = 1 then [] else '.' :: cs.drop 1) ++ ['e']
    ++ (if e < 0 then ['-'] else if exponentPlus then ['+'] else []) ++ Nat.toDigits 10 e.natAbs

def text (layout : Layout) (d : Decimal) : List Char :=
  match layout.positional with
  | some (low, high) =>
    if low ≤ d.point.2 ∧ d.point.2 ≤ high then d.positional layout.pointZero
    else d.scientific layout.exponentPlus
  | none => d.positional layout.pointZero

end Decimal

namespace Double

-- A finite number other than zero in units of a quarter of its last place, between the midpoints to its neighbours.
-- The midpoints count as near enough when the significand is even.
structure Interval where
  low    : Nat
  middle : Nat
  high   : Nat
  closed : Bool
  scale  : Int

def interval (d : Double) : Interval where
  -- The neighbour below a power of two is only half as far.
  low    := 4 * d.significand - if d.fraction = 0 ∧ 1 < d.exponentField then 1 else 2
  middle := 4 * d.significand
  high   := 4 * d.significand + 2
  closed := d.significand % 2 = 0
  scale  := d.scale - 2

namespace Interval

-- Factors that bring the units of the interval and of the grid `10 ^ k` to one unit.
def factors (i : Interval) (k : Int) : Nat × Nat :=
  (twoTo i.scale.toNat * tenTo (-k).toNat, tenTo k.toNat * twoTo (-i.scale).toNat)

def contains (i : Interval) (c : Nat) (k : Int) : Bool :=
  let (a, b) := i.factors k
  if i.closed then i.low * a ≤ c * b && c * b ≤ i.high * a else i.low * a < c * b && c * b < i.high * a

def nearest? (i : Interval) (tie : Tie) (k : Int) : Option Nat :=
  let (a, b) := i.factors k
  let c := i.middle * a / b
  let r := i.middle * a % b
  let upFirst := b < 2 * r || (2 * r == b && (tie == .up || c % 2 == 1))
  let candidates := if upFirst then [c + 1, c] else [c, c + 1]
  candidates.find? (i.contains · k)

def below (i : Interval) (p : Int) : Bool :=
  let (a, b) := i.factors p
  i.middle * a < b

def magnitude (i : Interval) : Int :=
  let p := (i.middle.log2 + i.scale) * 30103 / 100000
  if i.below p then p else if i.below (p + 1) then p + 1 else p + 2

end Interval

def shortest (tie : Tie) (d : Double) : Decimal :=
  let i := d.interval
  let p := i.magnitude
  let grids := (List.range 18).map fun n : Nat => p - (n + 1)
  match grids.findSome? fun k => (i.nearest? tie k).map (Decimal.mk · k) with
  | some dec => dec.dropZeros
  | none     => ⟨i.middle * twoTo i.scale.toNat / twoTo (-i.scale).toNat, 0⟩

def finiteText (layout : Layout) (d : Double) : String :=
  let digits :=
    if d.significand = 0 then (if layout.pointZero then ['0', '.', '0'] else ['0'])
    else (d.shortest layout.tie).text layout
  String.ofList (if d.isNegative then '-' :: digits else digits)

def text (layout : Layout) (d : Double) : String :=
  if d.isNaN then "NaN"
  else if d.isFinite then d.finiteText layout
  else if d.isNegative then "-inf" else "inf"

end Double

namespace Layout

-- Numbers in a shown value: a point always, and an exponent below 0.0001 and from 10 to the 16th.
def shown : Layout := ⟨some (-3, 16), true, false, .up⟩

-- Numbers turned into text: never an exponent, no point in a whole number.
def plain : Layout := ⟨none, false, false, .up⟩

-- Numbers in a JSON text: an exponent, always with its sign, below 0.00001 and from 10 to the 16th.
def json : Layout := ⟨some (-4, 16), true, true, .even⟩

end Layout
end BulletinPipeline
