import BulletinPipeline.Error

-- Strict extraction of a value in the form that a component wants. Nothing is read or rounded here: a whole number
-- may only change its width, and a wrapper may only be taken off where the form is optional.
namespace BulletinPipeline

inductive Form
  | value | bool | int | long | double | string | map | config
  | list (item : Form)
  | option (item : Form)
  | object (type : ObjectType)
  deriving DecidableEq, Repr

inductive Extracted
  | value (v : Value)
  | bool (b : Bool)
  | int (n : Int32)
  | long (n : Int64)
  | double (d : Double)
  | string (s : String)
  | map (entries : Entries Value)
  | config (c : Config)
  | list (items : List Extracted)
  | option (item : Option Extracted)
  | object (o : Object)
  deriving Repr

namespace Extraction

abbrev Result := Except ConversionError

def bool : Value → Result Bool
  | .bool b => .ok b
  | v       => .error (.incompatible .bool v.kind)

def int : Value → Result Int32
  | .int n  => .ok n
  | .long n =>
    if -(twoTo 31 : Int) ≤ n.toInt ∧ n.toInt < twoTo 31 then .ok (Int32.ofInt n.toInt)
    else .error (.outOfRange .int (toString n.toInt))
  | v       => .error (.incompatible .int v.kind)

def long : Value → Result Int64
  | .int n  => .ok (Int64.ofInt n.toInt)
  | .long n => .ok n
  | v       => .error (.incompatible .long v.kind)

def double : Value → Result Double
  | .double d => .ok d
  | .int n    => .ok (.ofInt n.toInt)
  | v         => .error (.incompatible .double v.kind)

def string : Value → Result String
  | .string s => .ok s
  | v         => .error (.incompatible .string v.kind)

def map : Value → Result (Entries Value)
  | .map es      => .ok es
  | .config _ ps => .ok ps
  | v            => .error (.incompatible .map v.kind)

def config : Value → Result Config
  | .config s ps => .ok ⟨s, ps⟩
  | v            => .error (.incompatible .any v.kind)

def object (type : ObjectType) : Value → Result Object
  | .object o => if o.type = type then .ok o else .error (.incompatible (.object type) .object)
  | v         => .error (.incompatible (.object type) v.kind)

def items {α : Type} (item : Value → Result α) (index : Nat) : List Value → Result (List α)
  | []      => .ok []
  | v :: vs =>
    match item v with
    | .error e => .error (.element index e)
    | .ok a    => (items item (index + 1) vs).map (a :: ·)

def list {α : Type} (item : Value → Result α) : Value → Result (List α)
  | .list vs => items item 0 vs
  | v        => .error (.incompatible (.list .any) v.kind)

def option {α : Type} (item : Value → Result α) (v : Value) : Result (Option α) :=
  match v with
  | .null => .ok none
  | v =>
    match v.held? with
    | some none     => .ok none
    | some (some w) => (item w).map some
    | none          => (item v).map some

end Extraction

def Form.extract : Form → Value → Except ConversionError Extracted
  | value,    v => .ok (.value v)
  | bool,     v => (Extraction.bool v).map .bool
  | int,      v => (Extraction.int v).map .int
  | long,     v => (Extraction.long v).map .long
  | double,   v => (Extraction.double v).map .double
  | string,   v => (Extraction.string v).map .string
  | map,      v => (Extraction.map v).map .map
  | config,   v => (Extraction.config v).map .config
  | list f,   v => (Extraction.list f.extract v).map .list
  | option f, v => (Extraction.option f.extract v).map .option
  | object t, v => (Extraction.object t v).map .object

namespace Config

def get {α : Type} (c : Config) (property : String) (extract : Value → Except ConversionError α) :
    Except Error α :=
  match c.properties.lookup property with
  | none   => .error (.unknownOption c.schema property)
  | some v =>
    match extract v with
    | .ok a    => .ok a
    | .error e => .error (.conversion c.schema property e)

end Config
end BulletinPipeline
