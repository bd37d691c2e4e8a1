import BulletinPipeline.Text.Category.Letter
import BulletinPipeline.Text.Category.Mark
import BulletinPipeline.Text.Category.Number
import BulletinPipeline.Text.Category.Punctuation
import BulletinPipeline.Text.Category.Symbol
import BulletinPipeline.Text.Category.Other

namespace BulletinPipeline.Text

-- The general categories of Unicode; `unassigned` is what no table lists.
inductive Category
  | uppercaseLetter | lowercaseLetter | titlecaseLetter | modifierLetter | otherLetter
  | nonspacingMark | spacingMark | enclosingMark
  | decimalNumber | letterNumber | otherNumber
  | connectorPunctuation | dashPunctuation | openPunctuation | closePunctuation
  | initialPunctuation | finalPunctuation | otherPunctuation
  | mathSymbol | currencySymbol | modifierSymbol | otherSymbol
  | spaceSeparator | lineSeparator | paragraphSeparator
  | control | format | privateUse | unassigned
  deriving DecidableEq, Repr

namespace Category

def letters : List Category :=
  [uppercaseLetter, lowercaseLetter, titlecaseLetter, modifierLetter, otherLetter]

def marks : List Category :=
  [nonspacingMark, spacingMark, enclosingMark]

def numbers : List Category :=
  [decimalNumber, letterNumber, otherNumber]

def punctuation : List Category :=
  [connectorPunctuation, dashPunctuation, openPunctuation, closePunctuation,
   initialPunctuation, finalPunctuation, otherPunctuation]

def symbols : List Category :=
  [mathSymbol, currencySymbol, modifierSymbol, otherSymbol]

def separators : List Category :=
  [spaceSeparator, lineSeparator, paragraphSeparator]

def others : List Category :=
  [control, format, privateUse, unassigned]

def assigned : List Category :=
  letters ++ marks ++ numbers ++ punctuation ++ symbols ++ separators ++ [control, format, privateUse]

def spans : Category → List Span
  | uppercaseLetter      => uppercaseLetters
  | lowercaseLetter      => lowercaseLetters
  | titlecaseLetter      => titlecaseLetters
  | modifierLetter       => modifierLetters
  | otherLetter          => otherLetters
  | nonspacingMark       => nonspacingMarks
  | spacingMark          => spacingMarks
  | enclosingMark        => enclosingMarks
  | decimalNumber        => decimalNumbers
  | letterNumber         => letterNumbers
  | otherNumber          => otherNumbers
  | connectorPunctuation => Category.connectorPunctuations
  | dashPunctuation      => Category.dashPunctuations
  | openPunctuation      => Category.openPunctuations
  | closePunctuation     => Category.closePunctuations
  | initialPunctuation   => Category.initialPunctuations
  | finalPunctuation     => Category.finalPunctuations
  | otherPunctuation     => Category.otherPunctuations
  | mathSymbol           => mathSymbols
  | currencySymbol       => currencySymbols
  | modifierSymbol       => modifierSymbols
  | otherSymbol          => otherSymbols
  | spaceSeparator       => spaceSeparators
  | lineSeparator        => lineSeparators
  | paragraphSeparator   => paragraphSeparators
  | control              => controls
  | format               => formats
  | privateUse           => privateUses
  | unassigned           => []

def contains (cat : Category) (c : Char) : Bool :=
  match cat with
  | unassigned => assigned.all fun cat => !Span.covers cat.spans c.toNat
  | cat        => Span.covers cat.spans c.toNat

def anyContains (cats : List Category) (c : Char) : Bool :=
  cats.any (·.contains c)

end Category
end BulletinPipeline.Text
