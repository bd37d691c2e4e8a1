import BulletinPipeline.Number.Numeral
import BulletinPipeline.Text.Blank
import BulletinPipeline.Regex.Syntax

-- Regular expressions read from text. The reader goes through the characters once with a stack of the groups that
-- are open; the classes in brackets inside have a stack of their own. Each step takes a character, so that the
-- number of characters bounds the steps.
namespace BulletinPipeline.Regex

open Text

structure Modes where
  ignoreCase : Bool
  multiLine  : Bool
  dotAll     : Bool
  lazyFirst  : Bool
  unicode    : Bool
  anyReturn  : Bool
  spaced     : Bool
  deriving DecidableEq, Repr

namespace Modes

def initial : Modes :=
  ⟨false, false, false, false, true, false, false⟩

def set? (m : Modes) (on : Bool) : Char → Option Modes
  | 'i' => some { m with ignoreCase := on }
  | 'm' => some { m with multiLine := on }
  | 's' => some { m with dotAll := on }
  | 'U' => some { m with lazyFirst := on }
  | 'u' => some { m with unicode := on }
  | 'R' => some { m with anyReturn := on }
  | 'x' => some { m with spaced := on }
  | _   => none

def lineEnd (m : Modes) : LineEnd :=
  if m.anyReturn then .anyReturn else .newline

def fold (m : Modes) (s : CharSet) : CharSet :=
  if m.ignoreCase then .folded s else s

end Modes

def skipSpace (m : Modes) (cs : List Char) : List Char :=
  if m.spaced then go cs.length cs else cs
where
  go : Nat → List Char → List Char
    | 0, cs => cs
    | fuel + 1, cs =>
      match trimLeft cs with
      | '#' :: cs => go fuel (cs.dropWhile (· ≠ '\n'))
      | cs        => cs

inductive Escape
  | char (c : Char)
  | set (s : CharSet)
  | assert (a : Assertion)

def hexChar? (ds : List Char) : Option Char := do
  let n ← Numeral.natural? 16 ds
  if n.isValidChar then some (Char.ofNat n) else none

def readHex (size : Nat) (cs : List Char) : Option (Char × List Char) :=
  match cs with
  | '\x7b' :: cs =>
    match cs.dropWhile (· ≠ '\x7d') with
    | _ :: rest => (hexChar? (cs.takeWhile (· ≠ '\x7d'))).map (·, rest)
    | []        => none
  | cs => if cs.length < size then none else (hexChar? (cs.take size)).map (·, cs.drop size)

def readProperty (cs : List Char) : Option (CharSet × List Char) :=
  match cs with
  | '\x7b' :: cs =>
    match cs.dropWhile (· ≠ '\x7d') with
    | _ :: rest =>
      let name := cs.takeWhile (· ≠ '\x7d')
      let value := match name.dropWhile fun c => !(c = '=' ∨ c = ':') with
        | _ :: value => value
        | []         => name
      (CharSet.property? value).map (·, rest)
    | [] => none
  | c :: cs => (CharSet.property? [c]).map (·, cs)
  | []      => none

def isEscapable (c : Char) : Bool :=
  c.toNat < 0x80 && !(isAsciiDigit c || isAsciiUpper c || isAsciiLower c || c == '<' || c == '>')

-- A set that is kept or turned round; characters outside of a set of ASCII characters have no place where only ASCII
-- counts.
def classFor (m : Modes) (negated : Bool) (wide narrow : CharSet) : Option CharSet :=
  if m.unicode then some (if negated then .not wide else wide)
  else if negated then none else some narrow

def borderNamed? (ascii : Bool) (name : List Char) : Option Assertion :=
  match String.ofList name with
  | "start"      => some (.wordStart ascii)
  | "end"        => some (.wordEnd ascii)
  | "start-half" => some (.halfStart ascii)
  | "end-half"   => some (.halfEnd ascii)
  | _            => none

def isBorderNameChar (c : Char) : Bool :=
  isAsciiLower c || isAsciiUpper c || c == '-'

def readEscape (m : Modes) : List Char → Option (Escape × List Char)
  | [] => none
  | c :: cs =>
    let set (s : Option CharSet) : Option (Escape × List Char) := s.map fun s => (.set s, cs)
    let border (a : Assertion) : Option (Escape × List Char) := some (.assert a, cs)
    let ascii := !m.unicode
    match c with
    | 'x' => (readHex 2 cs).map fun r => (.char r.1, r.2)
    | 'u' => (readHex 4 cs).map fun r => (.char r.1, r.2)
    | 'U' => (readHex 8 cs).map fun r => (.char r.1, r.2)
    | 'p' => if ascii then none else (readProperty cs).map fun r => (.set (m.fold r.1), r.2)
    | 'P' => if ascii then none else (readProperty cs).map fun r => (.set (.not (m.fold r.1)), r.2)
    | 'd' => set (classFor m false .digit .asciiDigit)
    | 'D' => set (classFor m true .digit .asciiDigit)
    | 's' => set (classFor m false .blank .asciiBlank)
    | 'S' => set (classFor m true .blank .asciiBlank)
    | 'w' => set (classFor m false .word .asciiWord)
    | 'W' => set (classFor m true .word .asciiWord)
    | 'a' => some (.char '\x07', cs)
    | 'f' => some (.char '\x0c', cs)
    | 't' => some (.char '\t', cs)
    | 'n' => some (.char '\n', cs)
    | 'r' => some (.char '\r', cs)
    | 'v' => some (.char '\x0b', cs)
    | 'A' => border .startText
    | 'z' => border .endText
    | 'B' => border (.noWordBorder ascii)
    | '<' => border (.wordStart ascii)
    | '>' => border (.wordEnd ascii)
    | 'b' =>
      match cs with
      | '\x7b' :: rest =>
        if rest.head?.any isBorderNameChar then
          match rest.dropWhile isBorderNameChar with
          | '\x7d' :: rest' =>
            (borderNamed? ascii (rest.takeWhile isBorderNameChar)).map fun a => (.assert a, rest')
          | _ => none
        else border (.wordBorder ascii)
      | _ => border (.wordBorder ascii)
    | c => if isEscapable c then some (.char c, cs) else none

inductive SetOp
  | inter | diff | symmetric

def SetOp.apply (m : Modes) (op : SetOp) (s t : CharSet) : CharSet :=
  match op with
  | inter     => .inter (m.fold s) (m.fold t)
  | diff      => .diff (m.fold s) (m.fold t)
  | symmetric => .symmetric (m.fold s) (m.fold t)

-- A class that is still open: what stands before the last operator, and what came since.
structure OpenClass where
  negated : Bool
  before  : Option (CharSet × SetOp)
  items   : CharSet

namespace OpenClass

def add (k : OpenClass) (s : CharSet) : OpenClass :=
  { k with items := .union k.items s }

def total (m : Modes) (k : OpenClass) : CharSet :=
  match k.before with
  | some (s, op) => op.apply m s k.items
  | none         => k.items

def operator (m : Modes) (k : OpenClass) (op : SetOp) : OpenClass :=
  ⟨k.negated, some (k.total m, op), .empty⟩

def close (m : Modes) (k : OpenClass) : Option CharSet :=
  if k.negated then if m.unicode then some (.not (m.fold (k.total m))) else none
  else some (m.fold (k.total m))

end OpenClass

-- Dashes at the start of a class stand for themselves.
def readDashes (m : Modes) : Nat → OpenClass → Bool → List Char → OpenClass × Bool × List Char
  | 0,        k, started, cs => (k, started, cs)
  | fuel + 1, k, started, cs =>
    match cs with
    | '-' :: cs => readDashes m fuel (k.add (.char '-')) true (skipSpace m cs)
    | cs        => (k, started, cs)

-- Opens a class behind its bracket. A closing bracket that comes first stands for itself.
def openClass (m : Modes) (cs : List Char) : OpenClass × List Char :=
  let cs := skipSpace m cs
  let (negated, cs) := match cs with
    | '^' :: cs => (true, skipSpace m cs)
    | cs        => (false, cs)
  let (k, started, cs) := readDashes m cs.length ⟨negated, none, .empty⟩ false cs
  match started, cs with
  | false, ']' :: cs => (k.add (.char ']'), skipSpace m cs)
  | _,     cs        => (k, cs)

def readNamedClass (m : Modes) (cs : List Char) : Option (CharSet × List Char) :=
  match cs with
  | '[' :: ':' :: cs =>
    let (negated, cs) := match cs with
      | '^' :: cs => (true, cs)
      | cs        => (false, cs)
    match cs.dropWhile (· ≠ ':') with
    | ':' :: ']' :: rest =>
      (CharSet.named? (String.ofList (cs.takeWhile (· ≠ ':')))).map fun s =>
        (if negated then .not (m.fold s) else s, rest)
    | _ => none
  | _ => none

def readClassItem (m : Modes) : List Char → Option (Escape × List Char)
  | '\\' :: cs => readEscape m cs
  | c :: cs    => some (.char c, cs)
  | []         => none

def rangeRest? (m : Modes) (cs : List Char) : Option (List Char) :=
  match cs with
  | '-' :: cs =>
    match skipSpace m cs with
    | ']' :: _ => none
    | '-' :: _ => none
    | cs       => some cs
  | _ => none

def readRange (m : Modes) (cs : List Char) : Option (CharSet × List Char) := do
  let (first, cs) ← readClassItem m cs
  match rangeRest? m (skipSpace m cs), first with
  | none,    .char c   => some (.char c, skipSpace m cs)
  | none,    .set s    => some (s, skipSpace m cs)
  | some cs, .char a   =>
    match ← readClassItem m cs with
    | (.char b, cs) => if a.toNat ≤ b.toNat then some (.span a.toNat b.toNat, cs) else none
    | _             => none
  | _,       _         => none

def readClass (m : Modes) : Nat → OpenClass → List OpenClass → List Char → Option (CharSet × List Char)
  | 0, _, _, _ => none
  | fuel + 1, k, ks, cs =>
    match skipSpace m cs with
    | [] => none
    | '[' :: cs =>
      match readNamedClass m ('[' :: cs) with
      | some (s, cs) => readClass m fuel (k.add s) ks cs
      | none         => let (inner, cs) := openClass m cs; readClass m fuel inner (k :: ks) cs
    | ']' :: cs =>
      match k.close m, ks with
      | some s, []            => some (s, cs)
      | some s, outer :: ks   => readClass m fuel (outer.add s) ks cs
      | none,   _             => none
    | '&' :: '&' :: cs => readClass m fuel (k.operator m .inter) ks cs
    | '-' :: '-' :: cs => readClass m fuel (k.operator m .diff) ks cs
    | '~' :: '~' :: cs => readClass m fuel (k.operator m .symmetric) ks cs
    | cs =>
      match readRange m cs with
      | some (s, cs) => readClass m fuel (k.add s) ks cs
      | none         => none

def readCount (m : Modes) (cs : List Char) : Option (Nat × List Char) :=
  let cs := trimLeft cs
  let (ds, rest) := go cs.length [] cs
  let n := Numeral.valueOf ds
  if ds.isEmpty ∨ twoTo 32 ≤ n then none else some (n, trimLeft rest)
where
  go : Nat → List Char → List Char → List Char × List Char
    | 0, ds, cs => (ds.reverse, cs)
    | fuel + 1, ds, cs =>
      match cs with
      | c :: rest => if isAsciiDigit c then go fuel (c :: ds) (skipSpace m rest) else (ds.reverse, cs)
      | []        => (ds.reverse, [])

def readBounds (m : Modes) (cs : List Char) : Option ((Nat × Option Nat) × List Char) := do
  let (min, cs) ← readCount m (skipSpace m cs)
  match cs with
  | '\x7d' :: cs => some ((min, some min), cs)
  | ',' :: cs =>
    match skipSpace m cs with
    | '\x7d' :: cs => some ((min, none), cs)
    | cs =>
      match ← readCount m cs with
      | (max, '\x7d' :: cs) => if min ≤ max then some ((min, some max), cs) else none
      | _                   => none
  | _ => none

structure OpenGroup where
  outer        : Modes
  index        : Option Nat
  alternatives : List Node
  items        : List (Option Node)

namespace OpenGroup

def sequence (g : OpenGroup) : Node :=
  match g.items.filterMap id with
  | []      => .empty
  | n :: ns => ns.foldl (fun later n => .seq n later) n

def close (g : OpenGroup) : Node :=
  let n := g.alternatives.foldl (fun later n => .alt n later) g.sequence
  match g.index with
  | some i => .group i n
  | none   => n

def push (g : OpenGroup) (n : Node) : OpenGroup :=
  { g with items := some n :: g.items }

def nextAlternative (g : OpenGroup) : OpenGroup :=
  { g with alternatives := g.sequence :: g.alternatives, items := [] }

end OpenGroup

structure Reader where
  modes  : Modes
  group  : OpenGroup
  outer  : List OpenGroup
  groups : Nat
  names  : List (String × Nat)

namespace Reader

def initial : Reader :=
  ⟨.initial, ⟨.initial, none, [], []⟩, [], 0, []⟩

def push (r : Reader) (n : Node) : Reader :=
  { r with group := r.group.push n }

def openGroup (r : Reader) (index : Option Nat) (modes : Modes) : Reader :=
  { r with modes := modes, group := ⟨r.modes, index, [], []⟩, outer := r.group :: r.outer }

def capture (r : Reader) : Reader :=
  { r.openGroup (some (r.groups + 1)) r.modes with groups := r.groups + 1 }

def closeGroup? (r : Reader) : Option Reader :=
  match r.outer with
  | g :: gs => some { r with modes := r.group.outer, group := g.push r.group.close, outer := gs }
  | []      => none

def repeat? (r : Reader) (min : Nat) (max : Option Nat) (greedy : Bool) : Option Reader :=
  match r.group.items with
  | some n :: items =>
    let n := n.repeated min max (greedy != r.modes.lazyFirst)
    some { r with group := { r.group with items := some n :: items } }
  | _ => none

end Reader

def isNameStart (c : Char) : Bool :=
  c == '_' || Category.anyContains (Category.letters ++ [.letterNumber]) c

def isNameChar (c : Char) : Bool :=
  isNameStart c || c == '.' || c == '[' || c == ']' || Category.anyContains Category.numbers c

def readNamedGroup (r : Reader) (cs : List Char) : Option (Reader × List Char) :=
  let name := cs.takeWhile (· ≠ '>')
  match name, cs.dropWhile (· ≠ '>') with
  | c :: ns, '>' :: rest =>
    let key := String.ofList name
    if isNameStart c ∧ ns.all isNameChar ∧ (r.names.lookup key).isNone then
      some ({ r.capture with names := (key, r.groups + 1) :: r.names }, rest)
    else none
  | _, _ => none

-- Switches modes: letters, and after a dash letters of modes to switch off, each letter once.
def readModes (m : Modes) (on : Bool) (seen : List Char) (dangling : Bool) :
    List Char → Option (Modes × Char × List Char)
  | [] => none
  | c :: cs =>
    if c = ':' ∨ c = ')' then if dangling then none else some (m, c, cs)
    else if c ∈ seen then none
    else if c = '-' then readModes m false (c :: seen) true cs
    else match m.set? on c with
      | some m => readModes m on (c :: seen) false cs
      | none   => none

def readGroup (r : Reader) (cs : List Char) : Option (Reader × List Char) :=
  match cs with
  | '?' :: 'P' :: '<' :: cs => readNamedGroup r cs
  | '?' :: '<' :: cs =>
    match cs with
    | '=' :: _ => none
    | '!' :: _ => none
    | cs       => readNamedGroup r cs
  | '?' :: ')' :: _ => none
  | '?' :: cs =>
    match readModes r.modes true [] false cs with
    | some (m, ':', cs) => some (r.openGroup none m, cs)
    | some (m, _, cs)   =>
      some ({ r with modes := m, group := { r.group with items := none :: r.group.items } }, cs)
    | none => none
  | cs => some (r.capture, cs)

def dotSet (m : Modes) : Option CharSet :=
  if !m.unicode then none
  else if m.dotAll then some .all
  else if m.anyReturn then some (.not (.union (.char '\n') (.char '\r')))
  else some (.not (.char '\n'))

def readLazy (m : Modes) (cs : List Char) : Bool × List Char :=
  match skipSpace m cs with
  | '?' :: cs => (false, cs)
  | _         => (true, cs)

def readRepeat (r : Reader) (min : Nat) (max : Option Nat) (cs : List Char) : Option (Reader × List Char) :=
  let (greedy, cs) := readLazy r.modes cs
  (r.repeat? min max greedy).map (·, cs)

def readItem (r : Reader) (c : Char) (cs : List Char) : Option (Reader × List Char) :=
  let m := r.modes
  match c with
  | '(' => readGroup r cs
  | ')' => r.closeGroup?.map (·, cs)
  | '|' => some ({ r with group := r.group.nextAlternative }, cs)
  | '[' => do
    let (k, rest) := openClass m cs
    let (s, cs) ← readClass m (cs.length + 1) k [] rest
    some (r.push (.one s), cs)
  | '?' => readRepeat r 0 (some 1) cs
  | '*' => readRepeat r 0 none cs
  | '+' => readRepeat r 1 none cs
  | '\x7b' => do
    let ((min, max), cs) ← readBounds m cs
    readRepeat r min max cs
  | '\\' => do
    match ← readEscape m cs with
    | (.char c, cs)   => some (r.push (.one (m.fold (.char c))), cs)
    | (.set s, cs)    => some (r.push (.one s), cs)
    | (.assert a, cs) => some (r.push (.assert a), cs)
  | '.' => (dotSet m).map fun s => (r.push (.one s), cs)
  | '^' => some (r.push (.assert (if m.multiLine then .startLine m.lineEnd else .startText)), cs)
  | '$' => some (r.push (.assert (if m.multiLine then .endLine m.lineEnd else .endText)), cs)
  | c   => some (r.push (.one (m.fold (.char c))), cs)

def readAll : Nat → Reader → List Char → Option Reader
  | 0, r, cs => if (skipSpace r.modes cs).isEmpty then some r else none
  | fuel + 1, r, cs =>
    match skipSpace r.modes cs with
    | []      => some r
    | c :: cs =>
      match readItem r c cs with
      | some (r, cs) => readAll fuel r cs
      | none         => none

def parse? (cs : List Char) : Option (Node × Nat × List (String × Nat)) := do
  let r ← readAll cs.length .initial cs
  if r.outer.isEmpty then some (r.group.close, r.groups, r.names) else none

end BulletinPipeline.Regex
