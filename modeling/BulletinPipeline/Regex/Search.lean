import BulletinPipeline.Regex.Program

-- Search for the first match of a program in a text. The searcher tries the ways through the program in order of
-- preference and never twice from one instruction and place, since what has failed there would fail again.
namespace BulletinPipeline.Regex

open Text

abbrev Slots := List (Nat × Nat)

namespace Assertion

def isWordAt (ascii : Bool) (c : Option Char) : Bool :=
  c.any (if ascii then CharSet.asciiWord else .word).contains

def holds (before after : Option Char) : Assertion → Bool
  | startText => before.isNone
  | endText   => after.isNone
  | startLine .newline   => before.isNone || before = some '\n'
  | endLine .newline     => after.isNone || after = some '\n'
  | startLine .anyReturn =>
    before.isNone || before = some '\n' || (before = some '\r' && after ≠ some '\n')
  | endLine .anyReturn   =>
    after.isNone || after = some '\r' || (after = some '\n' && before ≠ some '\r')
  | wordBorder ascii     => isWordAt ascii before != isWordAt ascii after
  | noWordBorder ascii   => isWordAt ascii before == isWordAt ascii after
  | wordStart ascii      => !isWordAt ascii before && isWordAt ascii after
  | wordEnd ascii        => isWordAt ascii before && !isWordAt ascii after
  | halfStart ascii      => !isWordAt ascii before
  | halfEnd ascii        => !isWordAt ascii after

end Assertion

structure Thread where
  instruction : Nat
  place       : Nat
  slots       : Slots

def target (i : Nat) (by_ : Int) : Nat :=
  ((i : Int) + by_).toNat

def successors (text : Array Char) (t : Thread) : Instruction → List Thread
  | .take s =>
    match text[t.place]? with
    | some c => if s.contains c then [⟨t.instruction + 1, t.place + 1, t.slots⟩] else []
    | none   => []
  | .assert a =>
    let before := if t.place = 0 then none else text[t.place - 1]?
    if a.holds before text[t.place]? then [⟨t.instruction + 1, t.place, t.slots⟩] else []
  | .save slot => [⟨t.instruction + 1, t.place, (slot, t.place) :: t.slots⟩]
  | .fork a b  =>
    [⟨target t.instruction a, t.place, t.slots⟩, ⟨target t.instruction b, t.place, t.slots⟩]
  | .jump a    => [⟨target t.instruction a, t.place, t.slots⟩]

-- Follows threads until one comes to the end of the program. `seen` marks instructions and places that were tried,
-- `width` to a row. Each mark is set once and adds two threads at most, which bounds the steps.
def follow (program : Array Instruction) (text : Array Char) (width : Nat) :
    Nat → Array Bool → List Thread → Option Thread × Array Bool
  | 0, seen, _ => (none, seen)
  | _, seen, [] => (none, seen)
  | fuel + 1, seen, t :: ts =>
    match program[t.instruction]? with
    | none   => (some t, seen)
    | some i =>
      let mark := t.instruction * width + t.place
      if seen.getD mark false then follow program text width fuel seen ts
      else follow program text width fuel (seen.setIfInBounds mark true) (successors text t i ++ ts)

structure Match where
  start : Nat
  stop  : Nat
  slots : Slots
  deriving Repr

def searchFrom (program : Array Instruction) (text : Array Char) (width : Nat) :
    Nat → Nat → Array Bool → Option Match
  | 0, _, _ => none
  | n + 1, start, seen =>
    match follow program text width (2 * seen.size + 2) seen [⟨0, start, []⟩] with
    | (some t, _)  => some ⟨start, t.place, t.slots⟩
    | (none, seen) => searchFrom program text width n (start + 1) seen

def search (program : Array Instruction) (text : Array Char) (start : Nat) : Option Match :=
  let width := text.size + 1
  searchFrom program text width (width - start) start (Array.replicate (program.size * width) false)

-- All matches from a place on, one behind the other. An empty match right behind the last one is passed over. There
-- are no more matches than places.
def matchesFrom (program : Array Instruction) (text : Array Char) :
    Nat → Nat → Option Nat → List Match
  | 0, _, _ => []
  | n + 1, start, last =>
    let found := (search program text start).bind fun m =>
      if m.start = m.stop ∧ some m.stop = last then
        if start < text.size then search program text (start + 1) else none
      else some m
    match found with
    | some m => m :: matchesFrom program text n m.stop (some m.stop)
    | none   => []

def allMatches (program : Array Instruction) (text : Array Char) : List Match :=
  matchesFrom program text (text.size + 1) 0 none

namespace Match

-- The part of the text that a group matched last; group 0 is the whole match.
def group (m : Match) (text : Array Char) (i : Nat) : List Char :=
  if i = 0 then (text.extract m.start m.stop).toList
  else match m.slots.lookup (2 * i), m.slots.lookup (2 * i + 1) with
    | some a, some b => (text.extract a b).toList
    | _,      _      => []

end Match
end BulletinPipeline.Regex
