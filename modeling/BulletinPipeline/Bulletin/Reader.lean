import BulletinPipeline.Bulletin.Basic
import BulletinPipeline.Text.Blank

namespace BulletinPipeline

namespace Bulletin

structure Header where
  kind    : List Char
  station : List Char
  issued  : List Char
  deriving DecidableEq, Repr

namespace Header

def kinds : List (List Char) :=
  [['M', 'E', 'T', 'A', 'R'], ['S', 'P', 'E', 'C', 'I'], ['T', 'A', 'F']]

def corrections : List (List Char) :=
  [['C', 'O', 'R'], ['A', 'M', 'D']]

def word? (words : List (List Char)) (cs : List Char) : Option (List Char × List Char) :=
  (words.find? (·.isPrefixOf cs)).map fun w => (w, cs.drop w.length)

def afterBlanks? : List Char → Option (List Char)
  | c :: cs => if Text.isBlank c then some (Text.trimLeft cs) else none
  | []      => none

def run? (isMember : Char → Bool) (n : Nat) (cs : List Char) : Option (List Char × List Char) :=
  let run := cs.take n
  if run.length = n ∧ run.all isMember then some (run, cs.drop n) else none

def place? (cs : List Char) : Option (List Char × List Char) := do
  let (station, rest) ← run? Text.isAsciiUpper 4 cs
  let (digits, rest) ← run? Text.isDecimalDigit 6 (← afterBlanks? rest)
  if rest.head? = some 'Z' then some (station, digits ++ ['Z']) else none

def correctedPlace? (cs : List Char) : Option (List Char × List Char) := do
  let (_, rest) ← word? corrections cs
  place? (← afterBlanks? rest)

def ofChars? (cs : List Char) : Option Header := do
  let (kind, rest) ← word? kinds cs
  let rest ← afterBlanks? rest
  let (station, issued) ← (correctedPlace? rest).or (place? rest)
  return ⟨kind, station, issued⟩

end Header

def chunks : List Char → List (List Char)
  | []      => [[]]
  | c :: cs =>
    if c = '=' then [] :: chunks cs
    else match chunks cs with
      | []      => [[c]]
      | p :: ps => (c :: p) :: ps

def ofChunk? (source : String) (chunk : List Char) : Option Bulletin :=
  let body := Text.trimChars chunk
  (Header.ofChars? body).map fun h =>
    { kind    := String.ofList h.kind
      station := String.ofList h.station
      issued  := String.ofList h.issued
      text    := String.ofList (body ++ ['='])
      source  := source }

def readAll (text source : String) : List Bulletin :=
  (chunks text.toList).filterMap (ofChunk? source)

end Bulletin
end BulletinPipeline
