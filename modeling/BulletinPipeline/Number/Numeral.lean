import BulletinPipeline.Number.Double
import BulletinPipeline.Text.CharClass

namespace BulletinPipeline

open Text

inductive IntegerFault
  | empty | invalidDigit | tooLarge | tooSmall
  deriving DecidableEq, Repr

inductive FloatFault
  | empty | invalid
  deriving DecidableEq, Repr

namespace IntegerFault

def message : IntegerFault → String
  | empty        => "cannot parse integer from empty string"
  | invalidDigit => "invalid digit found in string"
  | tooLarge     => "number too large to fit in target type"
  | tooSmall     => "number too small to fit in target type"

end IntegerFault

namespace FloatFault

def message : FloatFault → String
  | empty   => "cannot parse float from empty string"
  | invalid => "invalid float literal"

end FloatFault

namespace Numeral

def valueOf (cs : List Char) : Nat :=
  cs.foldl (fun n c => 10 * n + (c.toNat - '0'.toNat)) 0

def digit? (base : Nat) (c : Char) : Option Nat :=
  let value? :=
    if isAsciiDigit c then some (c.toNat - 0x30)
    else if 0x61 ≤ c.toNat ∧ c.toNat ≤ 0x66 then some (c.toNat - 0x61 + 10)
    else if 0x41 ≤ c.toNat ∧ c.toNat ≤ 0x46 then some (c.toNat - 0x41 + 10)
    else none
  value?.filter (· < base)

def natural? (base : Nat) (cs : List Char) : Option Nat :=
  if cs.isEmpty then none else cs.foldlM (fun n c => (digit? base c).map (base * n + ·)) 0

def splitSign : List Char → Bool × List Char
  | '-' :: cs => (true, cs)
  | '+' :: cs => (false, cs)
  | cs        => (false, cs)

-- A digit other than the first is wrong only if no bound is passed before it.
def accumulate (bound : Nat) : Nat → List Char → Option (Option Nat)
  | n, []      => some (some n)
  | n, c :: cs =>
    if isAsciiDigit c then
      let n' := 10 * n + (c.toNat - '0'.toNat)
      if n' ≤ bound then accumulate bound n' cs else some none
    else none

def readInt (low high : Nat) (s : List Char) : Except IntegerFault Int :=
  let (negative, digits) := splitSign s
  match s, digits with
  | [], _ => .error .empty
  | _, [] => .error .invalidDigit
  | _, _  =>
    match accumulate (if negative then low else high) 0 digits with
    | none          => .error .invalidDigit
    | some none     => .error (if negative then .tooSmall else .tooLarge)
    | some (some n) => .ok (if negative then -n else n)

def readInt32 (s : List Char) : Except IntegerFault Int32 :=
  (readInt (twoTo 31) (twoTo 31 - 1) s).map Int32.ofInt

def readInt64 (s : List Char) : Except IntegerFault Int64 :=
  (readInt (twoTo 63) (twoTo 63 - 1) s).map Int64.ofInt

def readUnsigned (high : Nat) (s : List Char) : Except IntegerFault Nat :=
  match s with
  | '-' :: _ => .error .invalidDigit
  | s        => (readInt 0 high s).map Int.toNat

-- The number `m * 10 ^ e`, where `m` has at most `size` digits.
def scaleTen (negative : Bool) (m size : Nat) (e : Int) : Double :=
  if m = 0 then .zero negative
  -- Beyond these bounds the exact quotient would only be rounded to the same result.
  else if 400 < e then .infinity negative
  else if e + size < -400 then .zero negative
  else .ofQuotient negative (m * tenTo e.toNat) (tenTo (-e).toNat)

def readExponent : List Char → Option Int
  | [] => some 0
  | c :: cs =>
    if c = 'e' ∨ c = 'E' then
      let (negative, digits) := splitSign cs
      if digits.isEmpty ∨ ¬ digits.all isAsciiDigit then none
      else some (if negative then -(valueOf digits : Int) else valueOf digits)
    else none

def readDecimal (negative : Bool) (cs : List Char) : Option Double :=
  let whole := cs.takeWhile isAsciiDigit
  let (fraction, rest) :=
    match cs.dropWhile isAsciiDigit with
    | '.' :: cs => (cs.takeWhile isAsciiDigit, cs.dropWhile isAsciiDigit)
    | cs        => ([], cs)
  let digits := whole ++ fraction
  if digits.isEmpty then none
  else (readExponent rest).map fun e =>
    scaleTen negative (valueOf digits) digits.length (e - fraction.length)

def readDouble (s : List Char) : Except FloatFault Double :=
  let (negative, body) := splitSign s
  let word := body.map fun c => if isAsciiUpper c then Char.ofNat (c.toNat + 0x20) else c
  if s.isEmpty then .error .empty
  else if word = ['n', 'a', 'n'] then
    .ok (if negative then Double.nan.neg else .nan)
  else if word = ['i', 'n', 'f'] ∨ word = ['i', 'n', 'f', 'i', 'n', 'i', 't', 'y'] then
    .ok (.infinity negative)
  else match readDecimal negative body with
    | some d => .ok d
    | none   => .error .invalid

end Numeral
end BulletinPipeline
