import BulletinPipeline.Text.Case.Table
import BulletinPipeline.Text.Case.FoldingTable

-- Case of characters and texts. A character may turn into several characters (`ß` into `SS`), so that the mappings
-- give texts; each character is mapped on its own, whatever stands beside it.
namespace BulletinPipeline.Text

def upperChars (c : Char) : List Char :=
  match Case.upperExpansions.lookup c.toNat with
  | some ns => ns.map Char.ofNat
  | none    => [((Shift.lookup Case.upperRuns c.toNat).map Char.ofNat).getD c]

def lowerChars (c : Char) : List Char :=
  match Case.lowerExpansions.lookup c.toNat with
  | some ns => ns.map Char.ofNat
  | none    => [((Shift.lookup Case.lowerRuns c.toNat).map Char.ofNat).getD c]

def upper (s : String) : String :=
  String.ofList (s.toList.flatMap upperChars)

def asciiLowerChar (c : Char) : Char :=
  if 0x41 ≤ c.toNat && c.toNat ≤ 0x5A then Char.ofNat (c.toNat + 0x20) else c

def asciiLower (s : String) : String :=
  String.ofList (s.toList.map asciiLowerChar)

def fold (n : Nat) : Nat :=
  (Shift.lookup Case.foldRuns n).getD n

def caseVariants (n : Nat) : List Nat :=
  let f := fold n
  f :: Case.foldRuns.filterMap (·.preimageOf? f)

end BulletinPipeline.Text
