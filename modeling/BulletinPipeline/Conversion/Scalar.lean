import BulletinPipeline.Error
import BulletinPipeline.Number.Decimal
import BulletinPipeline.Text.Blank
import BulletinPipeline.Text.Case

namespace BulletinPipeline.Conversion

abbrev Result := Except ConversionError

def readAs {α φ : Type} (type : ValueType) (fault : φ → ReadFault) (read : List Char → Except φ α)
    (s : String) : Result α :=
  match read (Text.trimChars s.toList) with
  | .ok a    => .ok a
  | .error f => .error (.unreadable type s (fault f))

def readBool (cs : List Char) : Except Unit Bool :=
  let word := cs.map Text.asciiLowerChar
  if word = ['t', 'r', 'u', 'e'] then .ok true
  else if word = ['f', 'a', 'l', 's', 'e'] then .ok false
  else .error ()

def toBool : Value → Result Bool
  | .bool b   => .ok b
  | .string s => readAs .bool (fun _ => .notBoolean) readBool s
  | v         => .error (.incompatible .bool v.kind)

-- Floating point numbers convert to whole numbers below this bound only.
def wholeBound : Nat := 92 * tenTo 17

def toLong : Value → Result Int64
  | .int n    => .ok (Int64.ofInt n.toInt)
  | .long n   => .ok n
  | .double d =>
    if d.isWhole && d.truncNat < wholeBound then .ok (Int64.ofInt d.trunc)
    else .error (.outOfRange .long (d.text .plain))
  | .string s => readAs .long .integer Numeral.readInt64 s
  | v         => .error (.incompatible .long v.kind)

def narrow (n : Int64) : Result Int32 :=
  if -(twoTo 31 : Int) ≤ n.toInt ∧ n.toInt < twoTo 31 then .ok (Int32.ofInt n.toInt)
  else .error (.outOfRange .int (toString n.toInt))

def toInt : Value → Result Int32
  | .string s => readAs .int .integer Numeral.readInt32 s
  | v =>
    match toLong v with
    | .ok n                        => narrow n
    | .error (.incompatible _ k)   => .error (.incompatible .int k)
    | .error e                     => .error e

def toDouble : Value → Result Double
  | .int n    => .ok (.ofInt n.toInt)
  | .long n   => .ok (.ofInt n.toInt)
  | .double d => .ok d
  | .string s => readAs .double .float Numeral.readDouble s
  | v         => .error (.incompatible .double v.kind)

def toText : Value → Result String
  | .string s => .ok s
  | .bool b   => .ok (if b then "true" else "false")
  | .int n    => .ok (toString n.toInt)
  | .long n   => .ok (toString n.toInt)
  | .double d => .ok (d.text .plain)
  | v         => .error (.incompatible .string v.kind)

end BulletinPipeline.Conversion
