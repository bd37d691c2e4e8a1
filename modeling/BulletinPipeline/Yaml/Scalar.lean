import BulletinPipeline.Number.Numeral
import BulletinPipeline.Yaml.Cursor

namespace BulletinPipeline.Yaml

open Text

-- The text that a gap between words stands for: one line break is a space, further ones are kept, and blanks count
-- only within a line.
def foldGap (gap : List Char) : List Char :=
  match gap.filter isBreak with
  | []        => gap
  | ['\n']    => [' ']
  | '\n' :: bs => bs
  | bs        => bs

def isFlowMark (c : Char) : Bool :=
  c = ',' || c = '[' || c = ']' || c = '{' || c = '}'

def endsPlain (flow : Bool) : List Char → Bool
  | []        => true
  | ':' :: cs => endsWord cs
  | c :: _    => flow && isFlowMark c

def isClash (flow : Bool) : List Char → Bool
  | ':' :: c :: _ => flow && (isFlowMark c || c = '?')
  | _             => false

def isIndented (indent : Nat) (gap : List Char) : Bool :=
  ((gap.foldl (fun (ok, started, column) c =>
    if isBreak c then (ok, true, 0)
    else (ok && !(started && column < indent && c = '\t'), started, column + 1))
    (true, false, 0)) : Bool × Bool × Nat).1

-- A plain scalar and whether a line break follows it. `pending` is the gap before the cursor.
def plain (flow : Bool) (indent : Nat) (pending : List Char) (c : Cursor) :
    Option (List Char × Bool × Cursor) :=
  let done := some ([], pending.any isBreak, c)
  match _h : c.rest with
  | [] => done
  | d :: cs =>
    if isGap d then
      let gap := c.takeWhile isGap
      let after := c.dropWhile isGap
      if ¬ isIndented indent gap then none
      else if gap.any isBreak ∧ ¬ flow ∧ after.column < indent then some ([], true, after)
      else if after.atDocumentMark ∨ after.rest.head? = some '#' then some ([], gap.any isBreak, after)
      else plain flow indent gap after
    else if isClash flow (d :: cs) then none
    else if endsPlain flow (d :: cs) then done
    else (plain flow indent [] (c.drop 1)).map fun (s, r) => (foldGap pending ++ d :: s, r)
termination_by c.rest.length
decreasing_by
  · exact Cursor.length_dropWhile_lt _h ‹_›
  · exact Cursor.length_drop_lt _h 0

def escaped? : Char → Option Char
  | '0'  => some '\x00'
  | 'a'  => some '\x07'
  | 'b'  => some '\x08'
  | 't'  => some '\t'
  | '\t' => some '\t'
  | 'n'  => some '\n'
  | 'v'  => some '\x0b'
  | 'f'  => some '\x0c'
  | 'r'  => some '\r'
  | 'e'  => some '\x1b'
  | ' '  => some ' '
  | '"'  => some '"'
  | '/'  => some '/'
  | '\\' => some '\\'
  | 'N'  => some '\u0085'
  | '_'  => some '\u00a0'
  | 'L'  => some '\u2028'
  | 'P'  => some '\u2029'
  | _    => none

def codeLength? : Char → Option Nat
  | 'x' => some 2
  | 'u' => some 4
  | 'U' => some 8
  | _   => none

def charOf? (n : Nat) : Option Char :=
  if h : n.isValidChar then some (Char.ofNatAux n h) else none

def escape? : List Char → Option (Char × Nat)
  | []      => none
  | c :: cs =>
    match codeLength? c with
    | none   => (escaped? c).map (·, 1)
    | some n =>
      let digits := cs.take n
      if digits.length = n then ((Numeral.natural? 16 digits).bind charOf?).map (·, n + 1) else none

-- A scalar in quotes; the cursor is behind the first quote. `doubled` tells the sort of quotes.
def quoted (doubled : Bool) (c : Cursor) : Option (List Char × Cursor) :=
  if c.atDocumentMark then none
  else match _h : c.rest with
    | [] => none
    | d :: cs =>
      if isGap d then
        (quoted doubled (c.dropWhile isGap)).map fun (s, r) => (foldGap (c.takeWhile isGap) ++ s, r)
      else if d = (if doubled then '"' else '\'') then
        if ¬ doubled ∧ cs.head? = some '\'' then
          (quoted doubled (c.drop 2)).map fun (s, r) => (d :: s, r)
        else some ([], c.drop 1)
      else if doubled ∧ d = '\\' then
        if cs.head?.any isBreak then
          -- A line break behind a backslash vanishes, together with the blanks around it.
          let gap := (c.drop 2).takeWhile isGap
          (quoted doubled ((c.drop 2).dropWhile isGap)).map fun (s, r) => (gap.filter isBreak ++ s, r)
        else match escape? cs with
          | none        => none
          | some (e, n) => (quoted doubled (c.drop (n + 1))).map fun (s, r) => (e :: s, r)
      else (quoted doubled (c.drop 1)).map fun (s, r) => (d :: s, r)
termination_by c.rest.length
decreasing_by
  · exact Cursor.length_dropWhile_lt _h ‹_›
  · exact Cursor.length_drop_lt _h 1
  · exact Nat.lt_of_le_of_lt (Cursor.length_dropWhile_le isGap _) (Cursor.length_drop_lt _h 1)
  · exact Cursor.length_drop_lt _h _
  · exact Cursor.length_drop_lt _h 0

inductive Chomp
  | strip | clip | keep
  deriving DecidableEq, Repr

def chomp? : List Char → Option (Chomp × List Char)
  | '-' :: cs => some (.strip, cs)
  | '+' :: cs => some (.keep, cs)
  | _         => none

def blockIndent? : List Char → Option (Nat × List Char)
  | c :: cs => if isAsciiDigit c then some (c.toNat - 0x30, cs) else none
  | []      => none

def blockHeader (cs : List Char) : Chomp × Option Nat × List Char :=
  match chomp? cs with
  | some (chomp, cs) =>
    match blockIndent? cs with
    | some (n, cs) => (chomp, some n, cs)
    | none         => (chomp, none, cs)
  | none =>
    match blockIndent? cs with
    | none         => (.clip, none, cs)
    | some (n, cs) =>
      match chomp? cs with
      | some (chomp, cs) => (chomp, some n, cs)
      | none             => (.clip, some n, cs)

-- The empty lines at the cursor, up to an indentation if there is one. Gives their line breaks and the widest of
-- their columns.
def emptyLines (indent : Option Nat) (c : Cursor) : Option (List Char × Nat × Cursor) :=
  let blanks := c.takeWhile (· = ' ')
  let after := c.drop (match indent with
    | some n => min blanks.length (n - c.column)
    | none   => blanks.length)
  match _h : after.rest with
  | d :: _ =>
    if d = '\t' ∧ indent.all (after.column < ·) then none
    else if isBreak d then
      (emptyLines indent (after.drop 1)).map fun (breaks, widest, r) =>
        (d :: breaks, max after.column widest, r)
    else some ([], after.column, after)
  | [] => some ([], after.column, after)
termination_by c.rest.length
decreasing_by
  exact Nat.lt_of_lt_of_le (Cursor.length_drop_lt _h 0) (Cursor.length_drop_le _ c)

-- What is left of a block behind its lines: the break behind the last line, and those of the empty lines after that.
structure BlockEnd where
  last   : List Char
  breaks : List Char
  after  : Cursor

-- The lines of a block that is indented by some columns. `behind` tells what stands before the cursor, and `blank`
-- whether the line before starts with a blank.
def blockLines (folded : Bool) (indent : Nat) (blank : Bool) (behind : BlockEnd) :
    Option (List Char × BlockEnd) :=
  let c := behind.after
  match c.rest with
  | [] => some ([], behind)
  | d :: _ =>
    if c.column ≠ indent then some ([], behind)
    else
      let joint :=
        if folded ∧ behind.last = ['\n'] ∧ ¬ blank ∧ ¬ isSpace d then
          if behind.breaks.isEmpty then [' '] else behind.breaks
        else behind.last ++ behind.breaks
      let line := c.takeWhile (!isBreak ·)
      let ended := c.dropWhile (!isBreak ·)
      match emptyLines (some indent) (ended.drop 1) with
      | none => none
      | some (breaks, _, after) =>
        if _h : after.rest.length < c.rest.length then
          (blockLines folded indent (isSpace d) ⟨ended.rest.take 1, breaks, after⟩).map
            fun (s, e) => (joint ++ line ++ s, e)
        else none
termination_by behind.after.rest.length

-- A block of lines, the cursor behind its first mark. `outer` is the least indentation it may have, and `base` what
-- an indentation given in its header is added to.
def block (folded : Bool) (outer base : Nat) (c : Cursor) : Option (List Char × Cursor) := do
  let (chomp, given, rest) := blockHeader c.rest
  let c := (c.drop (c.rest.length - rest.length)).dropWhile isSpace
  let c := if c.rest.head? = some '#' then c.dropWhile (!isBreak ·) else c
  if given = some 0 ∨ ¬ c.rest.head?.all isBreak then none
  else
    let given := given.map (base + ·)
    let (breaks, widest, c) ← emptyLines given (c.drop 1)
    let indent := given.getD (max widest (max outer 1))
    let (s, e) ← blockLines folded indent false ⟨[], breaks, c⟩
    let ending := match chomp with
      | .strip => []
      | .clip  => e.last
      | .keep  => e.last ++ e.breaks
    return (s ++ ending, e.after)

end BulletinPipeline.Yaml
