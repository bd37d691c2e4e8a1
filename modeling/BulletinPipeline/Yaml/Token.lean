import BulletinPipeline.Yaml.Scalar

namespace BulletinPipeline.Yaml

open Text

inductive Token
  | version (major minor : Nat)
  | handle (name start : String)
  | documentStart | documentEnd
  | blockSequence | blockMapping | blockEnd
  | flowSequence | flowSequenceEnd | flowMapping | flowMappingEnd
  | item
  | comma
  | key | value
  | alias (name : String)
  | anchor (name : String)
  | tag (handle suffix : String)
  | scalar (isPlain : Bool) (text : String)
  deriving DecidableEq, Repr

def isNameEnd (c : Char) : Bool :=
  isGap c || c = '?' || c = ':' || c = ',' || c = ']' || c = '}' || c = '%' || c = '@' || c = '\x60'

def anchorName? (c : Cursor) : Option (String × Cursor) :=
  let name := c.takeWhile isNameChar
  let after := c.dropWhile isNameChar
  if name.isEmpty ∨ ¬ after.rest.head?.all isNameEnd then none else some (String.ofList name, after)

def isTagChar (bracketed : Bool) (c : Char) : Bool :=
  isNameChar c || [';', '/', '?', ':', '@', '&', '=', '+', '$', '.', '%', '!', '~', '*', '\'', '(', ')'].contains c
    || (bracketed && (c = ',' || c = '[' || c = ']'))

def octets : List Char → List Nat × List Char
  | '%' :: a :: b :: cs =>
    match Numeral.natural? 16 [a, b] with
    | some n => let (ns, rest) := octets cs; (n :: ns, rest)
    | none   => ([], '%' :: a :: b :: cs)
  | cs => ([], cs)

-- The number of octets that one character takes, and the bits that the first of them holds.
def leadBits (n : Nat) : Option (Nat × Nat) :=
  if n < 0x80 then some (1, n)
  else if 0xC0 ≤ n ∧ n < 0xE0 then some (2, n % 0x20)
  else if 0xE0 ≤ n ∧ n < 0xF0 then some (3, n % 0x10)
  else if 0xF0 ≤ n ∧ n < 0xF8 then some (4, n % 8)
  else none

-- Characters from octets; a lone octet that only goes on is refused. The fuel is the number of octets.
def ofOctets? : Nat → List Nat → Option (List Char)
  | _, []             => some []
  | 0, _              => none
  | fuel + 1, n :: ns => do
    let (size, bits) ← leadBits n
    let more := ns.take (size - 1)
    if more.length = size - 1 ∧ more.all (fun m => m / 0x40 = 2) then
      let code := more.foldl (fun v m => 0x40 * v + m % 0x40) bits
      return Char.ofNat code :: (← ofOctets? fuel (ns.drop (size - 1)))
    else none

def unescapeTag? : Nat → List Char → Option (List Char)
  | _, []             => some []
  | 0, _              => none
  | fuel + 1, c :: cs =>
    if c = '%' then do
      let (ns, rest) := octets (c :: cs)
      if ns.isEmpty then none
      else return (← ofOctets? ns.length ns) ++ (← unescapeTag? fuel rest)
    else (unescapeTag? fuel cs).map (c :: ·)

def tagText? (bracketed : Bool) (c : Cursor) : Option (List Char × Cursor) :=
  let run := c.takeWhile (isTagChar bracketed)
  (unescapeTag? run.length run).map (·, c.dropWhile (isTagChar bracketed))

-- A handle: a word between two exclamation marks, and whether the second mark is there. The cursor is behind the
-- first mark.
def handle (c : Cursor) : List Char × Bool × Cursor :=
  let word := c.takeWhile isNameChar
  let after := c.dropWhile isNameChar
  if after.rest.head? = some '!' then (word, true, after.drop 1) else (word, false, after)

def tag? (flow : Bool) (c : Cursor) : Option (Token × Cursor) := do
  let (token, after) ←
    if c.rest.head? = some '<' then do
      let (text, after) ← tagText? true (c.drop 1)
      if text.isEmpty ∨ after.rest.head? ≠ some '>' then none
      else some (Token.tag "" (String.ofList text), after.drop 1)
    else
      match handle c with
      | (word, true, after) => do
        let (text, after) ← tagText? false after
        if text.isEmpty then none
        else some (.tag (String.ofList ('!' :: word ++ ['!'])) (String.ofList text), after)
      | (word, false, after) => do
        let (text, after) ← tagText? false after
        let text := word ++ text
        some (if text.isEmpty then .tag "" "!" else .tag "!" (String.ofList text), after)
  if endsWord after.rest ∨ (flow ∧ after.rest.head? = some ',') then some (token, after) else none

def versionNumber? (c : Cursor) : Option (Nat × Cursor) :=
  let digits := c.takeWhile isAsciiDigit
  if digits.isEmpty ∨ 9 < digits.length then none
  else some (Numeral.valueOf digits, c.drop digits.length)

def version? (c : Cursor) : Option (Token × Cursor) := do
  let (major, c) ← versionNumber? c
  if c.rest.head? = some '.' then
    let (minor, c) ← versionNumber? (c.drop 1)
    return (.version major minor, c)
  else none

def shortForm? (c : Cursor) : Option (Token × Cursor) := do
  if c.rest.head? ≠ some '!' then none
  else
    let (word, closed, c) := handle (c.drop 1)
    if (closed ∨ word = []) ∧ c.rest.head?.any isSpace then
      let (start, c) ← tagText? true (c.dropWhile isSpace)
      if start.isEmpty then none
      else
        let name := '!' :: word ++ if closed then ['!'] else []
        return (.handle (String.ofList name) (String.ofList start), c)
    else none

def directive? (c : Cursor) : Option (Token × Cursor) := do
  let name := c.takeWhile isNameChar
  let content := (c.dropWhile isNameChar).dropWhile isSpace
  let (token, c) ←
    if ¬ endsWord (c.dropWhile isNameChar).rest then none
    else if name = "YAML".toList then version? content
    else if name = "TAG".toList then shortForm? content
    else none
  if ¬ endsWord c.rest then none
  else
    let c := c.dropWhile isSpace
    let c := if c.rest.head? = some '#' then c.dropWhile (!isBreak ·) else c
    if c.rest.head?.all isBreak then some (token, c.drop 1) else none

end BulletinPipeline.Yaml
