import BulletinPipeline.Text.Case
import BulletinPipeline.Text.CharClass

namespace BulletinPipeline.Regex

open Text

inductive CharSet
  | empty
  | all
  | span (first last : Nat)
  | blank | digit | word
  | capital
  | category (cs : List Category)
  | not (s : CharSet)
  | union (s t : CharSet)
  | inter (s t : CharSet)
  | folded (s : CharSet)
  deriving Repr

namespace CharSet

def contains : CharSet → Char → Bool
  | empty,      _ => false
  | all,        _ => true
  | span a b,   c => a ≤ c.toNat && c.toNat ≤ b
  | blank,      c => isBlank c
  | digit,      c => isDecimalDigit c
  | word,       c => isWordChar c
  | capital,    c => isCapital c
  | category cs, c => Category.anyContains cs c
  | not s,      c => !s.contains c
  | union s t,  c => s.contains c || t.contains c
  | inter s t,  c => s.contains c && t.contains c
  | folded s,   c => (caseVariants c.toNat).any fun n => s.contains (Char.ofNat n)

def char (c : Char) : CharSet :=
  span c.toNat c.toNat

def diff (s t : CharSet) : CharSet :=
  inter s (not t)

def symmetric (s t : CharSet) : CharSet :=
  union (diff s t) (diff t s)

def ofSpans : List (Nat × Nat) → CharSet
  | []            => empty
  | [(a, b)]      => span a b
  | (a, b) :: abs => union (span a b) (ofSpans abs)

def asciiWord : CharSet :=
  ofSpans [(0x30, 0x39), (0x41, 0x5A), (0x5F, 0x5F), (0x61, 0x7A)]

def asciiDigit : CharSet :=
  span 0x30 0x39

def asciiBlank : CharSet :=
  ofSpans [(0x09, 0x0D), (0x20, 0x20)]

def named? (name : String) : Option CharSet :=
  match name with
  | "alnum"  => some (ofSpans [(0x30, 0x39), (0x41, 0x5A), (0x61, 0x7A)])
  | "alpha"  => some (ofSpans [(0x41, 0x5A), (0x61, 0x7A)])
  | "ascii"  => some (span 0x00 0x7F)
  | "blank"  => some (ofSpans [(0x09, 0x09), (0x20, 0x20)])
  | "cntrl"  => some (ofSpans [(0x00, 0x1F), (0x7F, 0x7F)])
  | "digit"  => some asciiDigit
  | "graph"  => some (span 0x21 0x7E)
  | "lower"  => some (span 0x61 0x7A)
  | "print"  => some (span 0x20 0x7E)
  | "punct"  => some (ofSpans [(0x21, 0x2F), (0x3A, 0x40), (0x5B, 0x60), (0x7B, 0x7E)])
  | "space"  => some asciiBlank
  | "upper"  => some (span 0x41 0x5A)
  | "word"   => some asciiWord
  | "xdigit" => some (ofSpans [(0x30, 0x39), (0x41, 0x46), (0x61, 0x66)])
  | _        => none

def categoryNames : List (List String × List Category) :=
  [(["l", "letter"], Category.letters),
   (["lc", "casedletter"], [.uppercaseLetter, .lowercaseLetter, .titlecaseLetter]),
   (["lu", "uppercaseletter"], [.uppercaseLetter]),
   (["ll", "lowercaseletter"], [.lowercaseLetter]),
   (["lt", "titlecaseletter"], [.titlecaseLetter]),
   (["lm", "modifierletter"], [.modifierLetter]),
   (["lo", "otherletter"], [.otherLetter]),
   (["m", "mark", "combiningmark"], Category.marks),
   (["mn", "nonspacingmark"], [.nonspacingMark]),
   (["mc", "spacingmark"], [.spacingMark]),
   (["me", "enclosingmark"], [.enclosingMark]),
   (["n", "number"], Category.numbers),
   (["nd", "decimalnumber", "digit"], [.decimalNumber]),
   (["nl", "letternumber"], [.letterNumber]),
   (["no", "othernumber"], [.otherNumber]),
   (["p", "punctuation", "punct"], Category.punctuation),
   (["pc", "connectorpunctuation"], [.connectorPunctuation]),
   (["pd", "dashpunctuation"], [.dashPunctuation]),
   (["ps", "openpunctuation"], [.openPunctuation]),
   (["pe", "closepunctuation"], [.closePunctuation]),
   (["pi", "initialpunctuation"], [.initialPunctuation]),
   (["pf", "finalpunctuation"], [.finalPunctuation]),
   (["po", "otherpunctuation"], [.otherPunctuation]),
   (["s", "symbol"], Category.symbols),
   (["sm", "mathsymbol"], [.mathSymbol]),
   (["sc", "currencysymbol"], [.currencySymbol]),
   (["sk", "modifiersymbol"], [.modifierSymbol]),
   (["so", "othersymbol"], [.otherSymbol]),
   (["z", "separator"], Category.separators),
   (["zs", "spaceseparator"], [.spaceSeparator]),
   (["zl", "lineseparator"], [.lineSeparator]),
   (["zp", "paragraphseparator"], [.paragraphSeparator]),
   (["c", "other"], Category.others),
   (["cc", "control", "cntrl"], [.control]),
   (["cf", "format"], [.format]),
   (["co", "privateuse"], [.privateUse]),
   (["cn", "unassigned"], [.unassigned])]

def property? (name : List Char) : Option CharSet :=
  let plain := (name.filter fun c => !(c = ' ' ∨ c = '-' ∨ c = '_')).map asciiLowerChar
  let key := String.ofList (if ['i', 's'].isPrefixOf plain ∧ 2 < plain.length then plain.drop 2 else plain)
  match key with
  | "any"        => some all
  | "ascii"      => some (span 0x00 0x7F)
  | "assigned"   => some (not (category [.unassigned]))
  | "whitespace" => some blank
  | "wspace"     => some blank
  | "space"      => some blank
  | "uppercase"  => some capital
  | "upper"      => some capital
  | _            => (categoryNames.find? (·.1.contains key)).map fun e => category e.2

end CharSet
end BulletinPipeline.Regex
