import BulletinPipeline.Number.Decimal
import BulletinPipeline.Text.Quoted
import BulletinPipeline.Yaml.Cursor
import BulletinPipeline.Yaml.Resolve

-- Plain data as a YAML text in block style. A text is written plain where it reads back as itself, else in quotes,
-- and as a block if it has several lines.
namespace BulletinPipeline.Yaml

open Text

def isShown (c : Char) : Bool :=
  let n := c.toNat
  n = 0x0A || (0x20 ≤ n && n ≤ 0x7E) || (0xA0 ≤ n && n ≤ 0xFFFD && n ≠ 0xFEFF)

def firstMarks : List Char :=
  ['#', ',', '[', ']', '\x7b', '\x7d', '&', '*', '!', '|', '>', '\'', '"', '%', '@', '\x60']

def startsOtherwise (cs : List Char) : Bool :=
  cs.head?.any firstMarks.contains
    || (cs.head?.any ['?', ':', '-'].contains && endsWord cs.tail)
    || ['-', '-', '-'].isPrefixOf cs || ['.', '.', '.'].isPrefixOf cs

def hasPair (first second : Char → Bool) : List Char → Bool
  | c :: d :: cs => (first c && second d) || hasPair first second (d :: cs)
  | _            => false

-- What would end a plain scalar: a colon before a gap or at the end, or a hash mark behind a gap.
def hasInnerMark (cs : List Char) : Bool :=
  hasPair (· = ':') isGap cs || cs.getLast? = some ':' || hasPair isGap (· = '#') cs

def needsEscapes (cs : List Char) : Bool :=
  cs.any (!isShown ·) || hasPair (· = ' ') isBreak cs

def isPlain (cs : List Char) : Bool :=
  !cs.isEmpty && !needsEscapes cs && !cs.any isBreak && !startsOtherwise cs && !hasInnerMark cs
    && cs.head? ≠ some ' ' && cs.getLast? ≠ some ' '

def looksOtherwise (s : String) : Bool :=
  match plainData? s with
  | some (.text _) => isPadded (Numeral.splitSign s.toList).2
  | _              => true

def hexCode (size n : Nat) : List Char :=
  let digits := (Nat.toDigits 16 n).map Char.toUpper
  List.replicate (size - digits.length) '0' ++ digits

def writeDoubled (c : Char) : List Char :=
  if c = '"' then ['\\', '"']
  else if c = '\\' then ['\\', '\\']
  else if isShown c ∧ ¬ isBreak c then [c]
  else
    '\\' :: match c.toNat with
      | 0x00   => ['0']
      | 0x07   => ['a']
      | 0x08   => ['b']
      | 0x09   => ['t']
      | 0x0A   => ['n']
      | 0x0B   => ['v']
      | 0x0C   => ['f']
      | 0x0D   => ['r']
      | 0x1B   => ['e']
      | 0x85   => ['N']
      | 0x2028 => ['L']
      | 0x2029 => ['P']
      | n      =>
        if n < 0x100 then 'x' :: hexCode 2 n
        else if n < 0x10000 then 'u' :: hexCode 4 n
        else 'U' :: hexCode 8 n

def doubleQuoted (cs : List Char) : List Char :=
  '"' :: cs.flatMap writeDoubled ++ ['"']

def indentLines (indent : Nat) (fresh : Bool) : List Char → List Char
  | []      => []
  | c :: cs =>
    if isBreak c then c :: indentLines indent true cs
    else (if fresh then List.replicate indent ' ' else []) ++ c :: indentLines indent false cs

def singleQuoted (indent : Nat) (cs : List Char) : List Char :=
  '\'' :: indentLines indent false (cs.flatMap fun c => if c = '\'' then ['\'', '\''] else [c]) ++ ['\'']

def chompMark (cs : List Char) : List Char :=
  match cs.reverse with
  | c :: d :: _ => if ¬ isBreak c then ['-'] else if isBreak d then ['+'] else []
  | [c]         => if isBreak c then ['+'] else ['-']
  | []          => ['-']

def literal (indent : Nat) (cs : List Char) : List Char :=
  let mark := if cs.head?.any fun c => c = ' ' || isBreak c then ['2'] else []
  let lines := if cs.getLast? = some '\n' then cs.dropLast else cs
  '|' :: mark ++ chompMark cs ++ '\n' :: indentLines indent true lines

def writeText (indent : Nat) (s : String) : List Char :=
  let cs := s.toList
  if cs.contains '\n' then
    if needsEscapes cs ∨ cs.getLast? = some ' ' then doubleQuoted cs else literal indent cs
  else if ¬ looksOtherwise s ∧ isPlain cs then cs
  else if needsEscapes cs ∨ hasPair isBreak (· = ' ') cs then doubleQuoted cs
  else singleQuoted indent cs

def writeKey (s : String) : List Char :=
  if s.toList.any isBreak then doubleQuoted s.toList else writeText 0 s

def stack (indent : Nat) (parts : List (List Char)) : List Char :=
  List.intercalate ('\n' :: List.replicate indent ' ') parts

def writeFloat (d : Double) : String :=
  if d.isFinite then d.text .shown
  else if d.isNaN then ".nan"
  else if d.isNegative then "-.inf"
  else ".inf"

mutual

def writeAt (column : Nat) : Data → List Char
  | .null        => "null".toList
  | .bool b      => (if b then "true" else "false").toList
  | .integer n   => (toString n).toList
  | .float d     => (writeFloat d).toList
  | .text s      => writeText (max column 2) s
  | .list []     => ['[', ']']
  | .list items  => stack column (writeItems column items)
  | .map []      => ['\x7b', '\x7d']
  | .map entries => stack column (writeEntries column entries)

def writeItems (column : Nat) : List Data → List (List Char)
  | []      => []
  | d :: ds => ('-' :: ' ' :: writeAt (column + 2) d) :: writeItems column ds

def writeEntries (column : Nat) : List (String × Data) → List (List Char)
  | []           => []
  | (k, d) :: es => (writeKey k ++ ':' :: writeBehind column d) :: writeEntries column es

-- Data behind a key. Maps start on a line of their own further in, and lists on one as far in as the key.
def writeBehind (column : Nat) : Data → List Char
  | .list (i :: is) => '\n' :: List.replicate column ' ' ++ stack column (writeItems column (i :: is))
  | .map (e :: es)  =>
    '\n' :: List.replicate (column + 2) ' ' ++ stack (column + 2) (writeEntries (column + 2) (e :: es))
  | .text s         => ' ' :: writeText (column + 2) s
  | .null           => " null".toList
  | .bool b         => ' ' :: (if b then "true" else "false").toList
  | .integer n      => ' ' :: (toString n).toList
  | .float d        => ' ' :: (writeFloat d).toList
  | .list []        => [' ', '[', ']']
  | .map []         => [' ', '\x7b', '\x7d']

end

def write (d : Data) : String :=
  String.ofList (writeAt 0 d ++ ['\n'])

end BulletinPipeline.Yaml
