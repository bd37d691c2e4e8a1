import BulletinPipeline.Yaml.Token

-- The tokens of a text, with marks for the blocks that its indentation opens and closes. A key of a mapping needs no
-- mark in front; the outline remembers where one may have started, and puts its mark there as soon as a colon
-- follows.
namespace BulletinPipeline.Yaml

structure KeyPlace where
  place    : Place
  tokens   : Nat
  required : Bool

structure Outline where
  cursor     : Cursor
  tokens     : List Token
  blocks     : List Nat
  -- Where a key may have started between the innermost brackets.
  keyPlace   : Option KeyPlace
  -- The same for the brackets around them, one for each pair that is open.
  outer      : List (Option KeyPlace)
  keyAllowed : Bool

namespace Outline

def start (cs : List Char) : Outline :=
  ⟨⟨cs, ⟨0, 0⟩⟩, [], [], none, [], true⟩

def flow (o : Outline) : Bool :=
  !o.outer.isEmpty

def column (o : Outline) : Nat :=
  o.cursor.column

def isDeeper (o : Outline) (column : Nat) : Bool :=
  o.blocks.head?.all (· < column)

def inside (o : Outline) : Nat :=
  (o.blocks.head?.map (· + 1)).getD 0

-- Goes on to the next token. A line break outside of brackets allows a key, and a tab may not stand where a key may.
def skipBlanks (o : Outline) : Outline :=
  match _h : o.cursor.rest with
  | [] => o
  | c :: _ =>
    if c = ' ' ∨ (c = '\t' ∧ (o.flow ∨ o.keyAllowed = false)) then
      skipBlanks { o with cursor := o.cursor.drop 1 }
    else if c = '#' then
      let after := o.cursor.dropWhile (!isBreak ·)
      if _h' : after.rest.length < o.cursor.rest.length then skipBlanks { o with cursor := after } else o
    else if isBreak c then
      skipBlanks { o with cursor := o.cursor.drop 1, keyAllowed := o.keyAllowed || !o.flow }
    else o
termination_by o.cursor.rest.length
decreasing_by
  · exact Cursor.length_drop_lt _h 0
  · exact _h'
  · exact Cursor.length_drop_lt _h 0

-- Forgets a place that the cursor has left: a key stands on one line, and is not longer than 1024 characters. A
-- place that requires a key must not be left.
def expire (now : Place) : Option KeyPlace → Option (Option KeyPlace)
  | none   => some none
  | some k =>
    if k.place.line = now.line ∧ now.column ≤ k.place.column + 1024 then some (some k)
    else if k.required then none
    else some none

def expireKeys (o : Outline) : Option Outline := do
  let keyPlace ← expire o.cursor.place o.keyPlace
  let outer ← o.outer.mapM (expire o.cursor.place)
  return { o with keyPlace, outer }

def dropKey (o : Outline) : Option Outline :=
  if o.keyPlace.any (·.required) then none else some { o with keyPlace := none }

def saveKey (o : Outline) : Option Outline :=
  if o.keyAllowed then do
    let o ← o.dropKey
    let required := !o.flow && o.blocks.head? = some o.column
    return { o with keyPlace := some ⟨o.cursor.place, o.tokens.length, required⟩ }
  else some o

def push (t : Token) (o : Outline) : Outline :=
  { o with tokens := t :: o.tokens }

def insertAfter (n : Nat) (t : Token) (o : Outline) : Outline :=
  let later := o.tokens.length - n
  { o with tokens := o.tokens.take later ++ t :: o.tokens.drop later }

def closeBlocks (column : Option Nat) (o : Outline) : Outline :=
  if o.flow then o
  else
    let closed := o.blocks.takeWhile fun b => column.all (· < b)
    { o with
      tokens := List.replicate closed.length .blockEnd ++ o.tokens
      blocks := o.blocks.drop closed.length }

def openBlock (column n : Nat) (t : Token) (o : Outline) : Outline :=
  if o.flow = false ∧ o.isDeeper column then
    { o.insertAfter n t with blocks := column :: o.blocks }
  else o

def openBlockHere (t : Token) (o : Outline) : Option Outline :=
  if o.flow then some o
  else if o.keyAllowed then some (o.openBlock o.column o.tokens.length t)
  else none

def take (t : Token) (n : Nat) (o : Outline) : Outline :=
  { o.push t with cursor := o.cursor.drop n }

def allowKey (allowed : Bool) (o : Outline) : Outline :=
  { o with keyAllowed := allowed }

def takeRead (read : Cursor → Option (Token × Cursor)) (o : Outline) : Option Outline := do
  let o ← o.saveKey
  let (t, cursor) ← read (o.cursor.drop 1)
  return { (o.push t).allowKey false with cursor }

def leaveDocument (o : Outline) : Option Outline := do
  return (← (o.closeBlocks none).dropKey).allowKey false

def openBracket (t : Token) (o : Outline) : Option Outline := do
  let o ← o.saveKey
  return { (o.take t 1).allowKey true with keyPlace := none, outer := o.keyPlace :: o.outer }

def closeBracket (t : Token) (o : Outline) : Option Outline := do
  let o ← o.dropKey
  let o := (o.take t 1).allowKey false
  match o.outer with
  | []               => return o
  | keyPlace :: outer => return { o with keyPlace, outer }

def item (o : Outline) : Option Outline := do
  let o ← o.openBlockHere .blockSequence
  return ((← o.dropKey).allowKey true).take .item 1

def key (o : Outline) : Option Outline := do
  let o ← o.openBlockHere .blockMapping
  return ((← o.dropKey).allowKey (!o.flow)).take .key 1

-- The colon before a value. Its key has started earlier, or is missing.
def value (o : Outline) : Option Outline :=
  match o.keyPlace with
  | some k =>
    let o := (o.insertAfter k.tokens .key).openBlock k.place.column k.tokens .blockMapping
    some (({ o with keyPlace := none }.allowKey false).take .value 1)
  | none => do
    let o ← o.openBlockHere .blockMapping
    return (o.allowKey (!o.flow)).take .value 1

def blockScalar (folded : Bool) (o : Outline) : Option Outline := do
  let o ← o.dropKey
  let (text, cursor) ← block folded o.inside (o.blocks.headD 0) (o.cursor.drop 1)
  return { (o.push (.scalar false (String.ofList text))).allowKey true with cursor }

def plainScalar (o : Outline) : Option Outline := do
  let o ← o.saveKey
  let (text, broken, cursor) ← plain o.flow o.inside [] o.cursor
  return { (o.push (.scalar true (String.ofList text))).allowKey broken with cursor }

def startsPlain (flow : Bool) : List Char → Bool
  | []      => false
  | c :: cs =>
    if isGap c then false
    else if c = '-' then !cs.head?.any isSpace
    else if c = '?' ∨ c = ':' then !flow && !endsWord cs
    else !(isFlowMark c || c = '#' || c = '&' || c = '*' || c = '!' || c = '|' || c = '>' || c = '\''
      || c = '"' || c = '%' || c = '@' || c = '\x60')

def token (o : Outline) : Option Outline :=
  let asText (t : List Char × Cursor) := (Token.scalar false (String.ofList t.1), t.2)
  match o.cursor.rest with
  | [] => none
  | c :: cs =>
    if o.column = 0 ∧ c = '%' then do
      let o ← o.leaveDocument
      let (t, cursor) ← directive? (o.cursor.drop 1)
      return { o.push t with cursor }
    else if o.cursor.atDocumentMark then do
      return (← o.leaveDocument).take (if c = '-' then .documentStart else .documentEnd) 3
    else if c = '[' then o.openBracket .flowSequence
    else if c = '{' then o.openBracket .flowMapping
    else if c = ']' then o.closeBracket .flowSequenceEnd
    else if c = '}' then o.closeBracket .flowMappingEnd
    else if c = ',' then o.dropKey.map fun o => (o.allowKey true).take .comma 1
    else if c = '-' ∧ endsWord cs then o.item
    else if c = '?' ∧ (o.flow ∨ endsWord cs) then o.key
    else if c = ':' ∧ (o.flow ∨ endsWord cs) then o.value
    else if c = '*' then o.takeRead fun c => (anchorName? c).map fun (n, c) => (.alias n, c)
    else if c = '&' then o.takeRead fun c => (anchorName? c).map fun (n, c) => (.anchor n, c)
    else if c = '!' then o.takeRead (tag? o.flow)
    else if (c = '|' ∨ c = '>') ∧ o.flow = false then o.blockScalar (c = '>')
    else if c = '\'' ∨ c = '"' then o.takeRead fun d => (quoted (c = '"') d).map asText
    else if startsPlain o.flow (c :: cs) then o.plainScalar
    else none

def finish (o : Outline) : Option (List Token) := do
  let here ← o.skipBlanks.expireKeys
  if here.cursor.rest.isEmpty then
    let here ← (here.closeBlocks none).dropKey
    return here.tokens.reverse
  else
    let next ← (here.closeBlocks (some here.column)).token
    if _h : next.cursor.rest.length < o.cursor.rest.length then finish next else none
termination_by o.cursor.rest.length

end Outline

def tokens? (s : String) : Option (List Token) :=
  let cs := s.toList
  if cs.all isAllowed then
    let o := Outline.start (withLineFeeds cs)
    (if cs.head? = some '\ufeff' then { o with cursor := o.cursor.drop 1 } else o).finish
  else none

end BulletinPipeline.Yaml
