import BulletinPipeline.Number.Numeral
import BulletinPipeline.Text.CharClass

-- Templates of replacements. `$name` and `$` with a name in braces stand for what a group matched, `$$` for a dollar
-- sign; any other dollar sign stands for itself.
namespace BulletinPipeline.Regex

open Text

inductive Template.Part
  | text (cs : List Char)
  | number (i : Nat)
  | name (s : String)
  deriving Repr

abbrev Template := List Template.Part

namespace Template

def isNameChar (c : Char) : Bool :=
  isAsciiDigit c || isAsciiLower c || isAsciiUpper c || c == '_'

def Part.ofName (cs : List Char) : Part :=
  match Numeral.readUnsigned (twoTo 64 - 1) cs with
  | .ok i    => .number i
  | .error _ => .name (String.ofList cs)

def reference? (cs : List Char) : Option (Part × Nat) :=
  match cs with
  | '\x7b' :: cs =>
    let name := cs.takeWhile (· ≠ '\x7d')
    if name.length < cs.length then some (.ofName name, name.length + 2) else none
  | cs =>
    let name := cs.takeWhile isNameChar
    if name.isEmpty then none else some (.ofName name, name.length)

-- Reads a template, of which `skip` characters have been read ahead.
def ofChars : Nat → List Char → Template
  | _, [] => []
  | skip + 1, _ :: cs => ofChars skip cs
  | 0, c :: cs =>
    if c = '$' then
      if cs.head? = some '$' then .text ['$'] :: ofChars 1 cs
      else match reference? cs with
        | some (part, n) => part :: ofChars n cs
        | none           => .text ['$'] :: ofChars 0 cs
    else .text [c] :: ofChars 0 cs

end Template
end BulletinPipeline.Regex
