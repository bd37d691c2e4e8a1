import BulletinPipeline.Data
import BulletinPipeline.Number.Numeral

namespace BulletinPipeline.Yaml

open Text

def isNull (s : String) : Bool :=
  s = "null" || s = "Null" || s = "NULL" || s = "~"

def bool? (s : String) : Option Bool :=
  if s = "true" ∨ s = "True" ∨ s = "TRUE" then some true
  else if s = "false" ∨ s = "False" ∨ s = "FALSE" then some false
  else none

def isPadded (digits : List Char) : Bool :=
  digits.head? = some '0' && 1 < digits.length && digits.all isAsciiDigit

-- A whole number: its sign and its size. A letter behind a leading zero gives another base than ten.
def whole? (cs : List Char) : Option (Bool × Nat) :=
  let (negative, digits) := Numeral.splitSign cs
  let size? := match digits with
    | '0' :: 'x' :: ds => Numeral.natural? 16 ds
    | '0' :: 'o' :: ds => Numeral.natural? 8 ds
    | '0' :: 'b' :: ds => Numeral.natural? 2 ds
    | ds               => if isPadded ds then none else Numeral.natural? 10 ds
  size?.map (negative, ·)

-- A whole number of 64 bits. One that does not fit is refused, unless it does not fit 128 bits either: then it is
-- none at all.
def integer? (cs : List Char) : Option (Option Int) :=
  match whole? cs with
  | none => none
  | some (false, n) =>
    if n < twoTo 64 then some (some n) else if n < twoTo 128 then some none else none
  | some (true, n) =>
    if n ≤ twoTo 63 then some (some (-n)) else if n ≤ twoTo 127 then some none else none

def float? (s : String) : Option Double :=
  if [".inf", ".Inf", ".INF", "+.inf", "+.Inf", "+.INF"].contains s then some (.infinity false)
  else if ["-.inf", "-.Inf", "-.INF"].contains s then some (.infinity true)
  else if [".nan", ".NaN", ".NAN"].contains s then some .nan
  else match Numeral.readDouble s.toList with
    | .ok d    => if d.isFinite then some d else none
    | .error _ => none

def plainData? (s : String) : Option Data :=
  if s.isEmpty ∨ isNull s then some .null
  else match bool? s with
    | some b => some (.bool b)
    | none   =>
      match integer? s.toList with
      | some n => n.map .integer
      | none   =>
        match float? s with
        | some d => some (if isPadded (Numeral.splitSign s.toList).2 then .text s else .float d)
        | none   => some (.text s)

def isLocalTag (tag : String) : Bool :=
  tag.toList.head? = some '!'

def scalarData? (tag : Option String) (isPlain : Bool) (s : String) : Option Data :=
  match tag with
  | none     => if isPlain then plainData? s else some (.text s)
  | some tag =>
    if isLocalTag tag then none
    else if tag = "tag:yaml.org,2002:null" then if isNull s then some .null else none
    else if tag = "tag:yaml.org,2002:bool" then (bool? s).map .bool
    else if tag = "tag:yaml.org,2002:int" then (integer? s.toList).join.map .integer
    else if tag = "tag:yaml.org,2002:float" then (float? s).map .float
    else some (.text s)

end BulletinPipeline.Yaml
