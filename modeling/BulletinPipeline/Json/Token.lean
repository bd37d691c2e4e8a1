import BulletinPipeline.Number.Numeral

namespace BulletinPipeline.Json

open Text

inductive Token
  | openList | closeList | openMap | closeMap | comma | colon
  | null | bool (b : Bool)
  | integer (n : Int)
  | float (d : Double)
  | text (s : List Char)
  deriving Repr

def powerOfTen (n : Nat) : Double :=
  .ofQuotient false (tenTo n) 1

-- The product of a number and a power of ten, in steps that each round. The fuel bounds the divisions of numbers too
-- small for one step; each takes away 308 from the exponent.
def scaleByTen : Nat → Double → Int → Option Double
  | fuel, d, e =>
    if e.natAbs ≤ 308 then
      if 0 ≤ e then
        let product := d.mul (powerOfTen e.toNat)
        if product.isFinite then some product else none
      else some (d.div (powerOfTen e.natAbs))
    else if d.isZero then some d
    else if 0 ≤ e then none
    else match fuel with
      | 0        => some (.zero d.isNegative)
      | fuel + 1 => scaleByTen fuel (d.div (powerOfTen 308)) (e + 308)

-- Appends digits to a number as long as it fits 64 bits; also the number of digits left.
def gather (n : Nat) : List Char → Nat × Nat
  | []      => (n, 0)
  | c :: cs =>
    let n' := 10 * n + (c.toNat - '0'.toNat)
    if n' < twoTo 64 then gather n' cs else (n, cs.length + 1)

structure NumberParts where
  negative  : Bool
  whole     : List Char
  fraction  : Option (List Char)
  exponent  : Option (Bool × List Char)

def digitsOnly (cs : List Char) : Bool :=
  !cs.isEmpty && cs.all isAsciiDigit

def numberParts? (cs : List Char) : Option NumberParts :=
  let (negative, cs) := match cs with
    | '-' :: cs => (true, cs)
    | cs        => (false, cs)
  let whole := cs.takeWhile isAsciiDigit
  let rest := cs.dropWhile isAsciiDigit
  let (fraction, rest) := match rest with
    | '.' :: rest => (some (rest.takeWhile isAsciiDigit), rest.dropWhile isAsciiDigit)
    | rest        => (none, rest)
  let (exponent, rest) := match rest with
    | 'e' :: rest | 'E' :: rest => (some (Numeral.splitSign rest), [])
    | rest                      => (none, rest)
  let plain := whole == ['0'] || (whole.head? != some '0' && !whole.isEmpty)
  if rest.isEmpty && plain && fraction.all digitsOnly && exponent.all (digitsOnly ·.2) then
    some ⟨negative, whole, fraction, exponent⟩
  else none

-- The number written by its parts: without a fraction and an exponent a whole number if it fits 64 bits, else the
-- gathered digits times a power of ten. A number too large is refused.
def NumberParts.token? (p : NumberParts) : Option Token :=
  let (n, dropped) := gather 0 p.whole
  if p.fraction.isNone ∧ p.exponent.isNone ∧ dropped = 0
      ∧ (p.negative = false ∨ (n ≠ 0 ∧ n ≤ twoTo 63)) then
    some (.integer (if p.negative then -n else n))
  else
    let fraction := p.fraction.getD []
    let (m, unused) := gather n fraction
    -- Digits before the point that do not fit move it one way, digits after it that do the other way.
    let point : Int := dropped + unused - fraction.length
    let exponent : Int := match p.exponent with
      | some (negative, digits) =>
        if negative then -(Numeral.valueOf digits : Int) else Numeral.valueOf digits
      | none => 0
    let magnitude :=
      -- An exponent beyond 32 bits leaves nothing of the number, or has no bound.
      if twoTo 31 ≤ exponent.natAbs then
        if m = 0 ∨ exponent < 0 then some (Double.zero false) else none
      else scaleByTen 20 (.ofInt m) (max (-(twoTo 31 : Int)) (min (twoTo 31 - 1) (point + exponent)))
    magnitude.map fun d => .float (if p.negative then d.neg else d)

def wordToken? (cs : List Char) : Option Token :=
  if cs = ['n', 'u', 'l', 'l'] then some .null
  else if cs = ['t', 'r', 'u', 'e'] then some (.bool true)
  else if cs = ['f', 'a', 'l', 's', 'e'] then some (.bool false)
  else none

def markToken? : Char → Option Token
  | '[' => some .openList
  | ']' => some .closeList
  | '\x7b' => some .openMap
  | '\x7d' => some .closeMap
  | ',' => some .comma
  | ':' => some .colon
  | _   => none

def escaped? : Char → Option Char
  | '"'  => some '"'
  | '\\' => some '\\'
  | '/'  => some '/'
  | 'b'  => some '\x08'
  | 'f'  => some '\x0c'
  | 'n'  => some '\n'
  | 'r'  => some '\r'
  | 't'  => some '\t'
  | _    => none

-- What the scanner has seen of the token at hand. Texts, words and numbers are held backwards; `high` is the first
-- half of a pair of surrogates.
inductive Scan
  | between
  | number (seen : List Char)
  | word (seen : List Char)
  | text (seen : List Char)
  | escape (seen : List Char)
  | hex (seen : List Char) (high : Option Nat) (digits value : Nat)
  -- A second half has to follow a first one, as an escape: the part of its mark seen so far.
  | low (seen : List Char) (high : Nat) (slash : Bool)
  | failed

def isNumberChar (c : Char) : Bool :=
  isAsciiDigit c || c == '-' || c == '+' || c == '.' || c == 'e' || c == 'E'

def scanBetween (out : List Token) (c : Char) : List Token × Scan :=
  if c = ' ' ∨ c = '\n' ∨ c = '\t' ∨ c = '\r' then (out, .between)
  else if c = '"' then (out, .text [])
  else if isAsciiDigit c ∨ c = '-' then (out, .number [c])
  else if isAsciiLower c then (out, .word [c])
  else match markToken? c with
    | some t => (t :: out, .between)
    | none   => (out, .failed)

def closeNumber? (seen : List Char) : Option Token :=
  (numberParts? seen.reverse).bind (·.token?)

def scanUnit (seen : List Char) (high : Option Nat) (unit : Nat) : Scan :=
  match high with
  | some h =>
    if 0xDC00 ≤ unit ∧ unit < 0xE000 then
      .text (Char.ofNat (0x10000 + (h - 0xD800) * 0x400 + (unit - 0xDC00)) :: seen)
    else .failed
  | none =>
    if 0xD800 ≤ unit ∧ unit < 0xDC00 then .low seen unit false
    else if 0xDC00 ≤ unit ∧ unit < 0xE000 then .failed
    else .text (Char.ofNat unit :: seen)

def scanChar (out : List Token) (c : Char) : Scan → List Token × Scan
  | .between => scanBetween out c
  | .number seen =>
    if isNumberChar c then (out, .number (c :: seen))
    else match closeNumber? seen with
      | some t => scanBetween (t :: out) c
      | none   => (out, .failed)
  | .word seen =>
    if isAsciiLower c then (out, .word (c :: seen))
    else match wordToken? seen.reverse with
      | some t => scanBetween (t :: out) c
      | none   => (out, .failed)
  | .text seen =>
    if c = '"' then (.text seen.reverse :: out, .between)
    else if c = '\\' then (out, .escape seen)
    else if c.toNat < 0x20 then (out, .failed)
    else (out, .text (c :: seen))
  | .escape seen =>
    if c = 'u' then (out, .hex seen none 0 0)
    else match escaped? c with
      | some e => (out, .text (e :: seen))
      | none   => (out, .failed)
  | .hex seen high digits value =>
    match Numeral.digit? 16 c with
    | some h =>
      let value := 16 * value + h
      if digits = 3 then (out, scanUnit seen high value) else (out, .hex seen high (digits + 1) value)
    | none => (out, .failed)
  | .low seen high slash =>
    if slash = false ∧ c = '\\' then (out, .low seen high true)
    else if slash ∧ c = 'u' then (out, .hex seen (some high) 0 0)
    else (out, .failed)
  | .failed => (out, .failed)

def tokens? (cs : List Char) : Option (List Token) :=
  match cs.foldl (fun s c => scanChar s.1 c s.2) ([], .between) with
  | (out, .between)     => some out.reverse
  | (out, .number seen) => (closeNumber? seen).map fun t => (t :: out).reverse
  | (out, .word seen)   => (wordToken? seen.reverse).map fun t => (t :: out).reverse
  | _                   => none

end BulletinPipeline.Json
