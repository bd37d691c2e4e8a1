import BulletinPipeline.Data
import BulletinPipeline.Value.Basic

namespace BulletinPipeline

namespace Value

mutual

def toData : Value → Data
  | null                    => .null
  | bool b                  => .bool b
  | int n                   => .integer n.toInt
  | long n                  => .integer n.toInt
  | double d                => .float d
  | string s                => .text s
  | list items              => .list (toDataItems items)
  | map entries             => .map (toDataEntries entries)
  | absent                  => .null
  | present v               => v.toData
  | optionalInt none        => .null
  | optionalInt (some n)    => .integer n.toInt
  | optionalLong none       => .null
  | optionalLong (some n)   => .integer n.toInt
  | optionalDouble none     => .null
  | optionalDouble (some d) => .float d
  | config _ ps             => .map (toDataEntries ps)
  | object o                => .text ("<" ++ o.type.name ++ ">")

def toDataItems : List Value → List Data
  | []      => []
  | v :: vs => v.toData :: toDataItems vs

def toDataEntries : List (String × Value) → List (String × Data)
  | []           => []
  | (k, v) :: es => (k, v.toData) :: toDataEntries es

end

-- A whole number as a value: of 64 bits where it fits, else the nearest floating point number.
def ofInteger (n : Int) : Value :=
  if -(twoTo 63 : Int) ≤ n ∧ n < twoTo 63 then .long (Int64.ofInt n) else .double (.ofInt n)

def ofFloat (d : Double) : Value :=
  if d.isFinite then .double d else .null

mutual

def ofData : Data → Value
  | .null        => null
  | .bool b      => bool b
  | .integer n   => ofInteger n
  | .float d     => ofFloat d
  | .text s      => string s
  | .list items  => list (ofDataItems items)
  | .map entries => map (ofDataEntries entries)

def ofDataItems : List Data → List Value
  | []      => []
  | d :: ds => ofData d :: ofDataItems ds

def ofDataEntries : List (String × Data) → List (String × Value)
  | []           => []
  | (k, d) :: es => (k, ofData d) :: ofDataEntries es

end

end Value

def Config.toData (c : Config) : Data :=
  c.toValue.toData

end BulletinPipeline
