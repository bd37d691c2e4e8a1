import BulletinPipeline.Text.CharClass

-- The characters of YAML texts, and the walk over them. A cursor knows the line and column it stands in. All line
-- breaks but the two Unicode separators are made line feeds before the walk begins.
namespace BulletinPipeline.Yaml

open Text

def isAllowed (c : Char) : Bool :=
  let n := c.toNat
  n = 0x09 || n = 0x0A || n = 0x0D || n = 0x85 || (0x20 ≤ n && n ≤ 0x7E) || (0xA0 ≤ n && n ≤ 0xFFFD)
    || 0x10000 ≤ n

def isBreak (c : Char) : Bool :=
  c = '\n' || c = '\u2028' || c = '\u2029'

def isSpace (c : Char) : Bool :=
  c = ' ' || c = '\t'

def isGap (c : Char) : Bool :=
  isSpace c || isBreak c

def isNameChar (c : Char) : Bool :=
  isAsciiDigit c || isAsciiUpper c || isAsciiLower c || c = '_' || c = '-'

def endsWord : List Char → Bool
  | []     => true
  | c :: _ => isGap c

def isDocumentMark : List Char → Bool
  | '-' :: '-' :: '-' :: cs => endsWord cs
  | '.' :: '.' :: '.' :: cs => endsWord cs
  | _                       => false

def withLineFeeds : List Char → List Char
  | []                => []
  | '\r' :: '\n' :: cs => '\n' :: withLineFeeds cs
  | c :: cs           => (if c = '\r' ∨ c = '\u0085' then '\n' else c) :: withLineFeeds cs

structure Place where
  line   : Nat
  column : Nat
  deriving DecidableEq, Repr

def Place.step (p : Place) (c : Char) : Place :=
  if isBreak c then ⟨p.line + 1, 0⟩ else ⟨p.line, p.column + 1⟩

structure Cursor where
  rest  : List Char
  place : Place

namespace Cursor

abbrev column (c : Cursor) : Nat :=
  c.place.column

def drop (n : Nat) (c : Cursor) : Cursor :=
  ⟨c.rest.drop n, (c.rest.take n).foldl Place.step c.place⟩

@[simp]
theorem rest_drop (n : Nat) (c : Cursor) : (c.drop n).rest = c.rest.drop n :=
  rfl

def takeWhile (p : Char → Bool) (c : Cursor) : List Char :=
  c.rest.takeWhile p

def dropWhile (p : Char → Bool) (c : Cursor) : Cursor :=
  c.drop (c.takeWhile p).length

theorem length_drop_le (n : Nat) (c : Cursor) : (c.drop n).rest.length ≤ c.rest.length := by
  rw [rest_drop, List.length_drop]
  omega

theorem length_drop_lt {c : Cursor} {d : Char} {cs : List Char} (h : c.rest = d :: cs) (n : Nat) :
    (c.drop (n + 1)).rest.length < c.rest.length := by
  rw [rest_drop, List.length_drop, h, List.length_cons]
  omega

theorem length_dropWhile_le (p : Char → Bool) (c : Cursor) :
    (c.dropWhile p).rest.length ≤ c.rest.length :=
  length_drop_le _ c

theorem length_dropWhile_lt {p : Char → Bool} {c : Cursor} {d : Char} {cs : List Char}
    (h : c.rest = d :: cs) (hd : p d) : (c.dropWhile p).rest.length < c.rest.length := by
  rw [dropWhile, takeWhile, h, List.takeWhile_cons_of_pos hd]
  exact h ▸ length_drop_lt h _

def atDocumentMark (c : Cursor) : Bool :=
  c.column = 0 && isDocumentMark c.rest

end Cursor
end BulletinPipeline.Yaml
