import BulletinPipeline.Data
import BulletinPipeline.Number.Decimal
import BulletinPipeline.Text.Quoted

namespace BulletinPipeline.Json

open Text

def writeChar (c : Char) : List Char :=
  if c = '"' then ['\\', '"']
  else if c = '\\' then ['\\', '\\']
  else if c = '\n' then ['\\', 'n']
  else if c = '\r' then ['\\', 'r']
  else if c = '\t' then ['\\', 't']
  else if c.toNat = 0x08 then ['\\', 'b']
  else if c.toNat = 0x0c then ['\\', 'f']
  else if c.toNat < 0x20 then
    ['\\', 'u', '0', '0'] ++ (if c.toNat < 0x10 then ['0'] else []) ++ hexDigits c.toNat
  else [c]

def writeText (s : String) : String :=
  String.ofList (['"'] ++ s.toList.flatMap writeChar ++ ['"'])

mutual

def write : Data → String
  | .null        => "null"
  | .bool b      => if b then "true" else "false"
  | .integer n   => toString n
  | .float d     => if d.isFinite then d.text .json else "null"
  | .text s      => writeText s
  | .list items  => "[" ++ String.intercalate "," (writeItems items) ++ "]"
  | .map entries => "\x7b" ++ String.intercalate "," (writeEntries entries) ++ "\x7d"

def writeItems : List Data → List String
  | []      => []
  | d :: ds => write d :: writeItems ds

def writeEntries : List (String × Data) → List String
  | []           => []
  | (k, d) :: es => (writeText k ++ ":" ++ write d) :: writeEntries es

end
end BulletinPipeline.Json
