import BulletinPipeline.Entries
import BulletinPipeline.Number.Double
import BulletinPipeline.ValueType

-- Configuration values: what a loader reads, and what conversion makes of it. Values are equal when they are the
-- same value; floating point numbers are when their bits are.
namespace BulletinPipeline

structure Object where
  type     : ObjectType
  identity : String
  content  : String
  deriving DecidableEq, Repr

-- A configuration value. The last forms before `object` come from conversion only: wrappers that may be empty, and
-- materialized schemas.
inductive Value
  | null
  | bool (b : Bool)
  | int (n : Int32)
  | long (n : Int64)
  | double (d : Double)
  | string (s : String)
  | list (items : List Value)
  | map (entries : List (String × Value))
  | absent
  | present (v : Value)
  | optionalInt (n : Option Int32)
  | optionalLong (n : Option Int64)
  | optionalDouble (d : Option Double)
  | config (schema : String) (properties : List (String × Value))
  | object (o : Object)
  deriving Repr, Inhabited

structure Config where
  schema     : String
  properties : Entries Value
  deriving Repr

inductive Kind
  | null | bool | int | long | double | string | list | map | optional | config | object
  deriving DecidableEq, Repr

def Kind.text : Kind → String
  | null     => "null"
  | bool     => "bool"
  | int      => "int"
  | long     => "long"
  | double   => "double"
  | string   => "string"
  | list     => "list"
  | map      => "map"
  | optional => "optional"
  | config   => "config"
  | object   => "object"

def Config.toValue (c : Config) : Value :=
  .config c.schema c.properties

namespace Value

def kind : Value → Kind
  | null             => .null
  | bool _           => .bool
  | int _            => .int
  | long _           => .long
  | double _         => .double
  | string _         => .string
  | list _           => .list
  | map _            => .map
  | absent           => .optional
  | present _        => .optional
  | optionalInt _    => .optional
  | optionalLong _   => .optional
  | optionalDouble _ => .optional
  | config _ _       => .config
  | object _         => .object

def type : Value → ValueType
  | null             => .any
  | bool _           => .bool
  | int _            => .int
  | long _           => .long
  | double _         => .double
  | string _         => .string
  | list _           => .list .any
  | map _            => .map
  | absent           => .optional .any
  | present _        => .optional .any
  | optionalInt _    => .optionalInt
  | optionalLong _   => .optionalLong
  | optionalDouble _ => .optionalDouble
  | config _ _       => .any
  | object o         => .object o.type

def held? : Value → Option (Option Value)
  | absent           => some none
  | present v        => some (some v)
  | optionalInt n    => some (n.map int)
  | optionalLong n   => some (n.map long)
  | optionalDouble d => some (d.map double)
  | _                => none

mutual

def beq : Value → Value → Bool
  | null,             null             => true
  | bool a,           bool b           => a = b
  | int a,            int b            => a = b
  | long a,           long b           => a = b
  | double a,         double b         => a = b
  | string a,         string b         => a = b
  | list as,          list bs          => beqItems as bs
  | map as,           map bs           => beqEntries as bs
  | absent,           absent           => true
  | present a,        present b        => beq a b
  | optionalInt a,    optionalInt b    => a = b
  | optionalLong a,   optionalLong b   => a = b
  | optionalDouble a, optionalDouble b => a = b
  | config s as,      config t bs      => s = t && beqEntries as bs
  | object a,         object b         => a = b
  | _,                _                => false

def beqItems : List Value → List Value → Bool
  | [],      []      => true
  | a :: as, b :: bs => beq a b && beqItems as bs
  | _,       _       => false

def beqEntries : List (String × Value) → List (String × Value) → Bool
  | [],           []           => true
  | (k, a) :: as, (l, b) :: bs => k = l && beq a b && beqEntries as bs
  | _,            _            => false

end

mutual

theorem eq_of_beq : ∀ a b, beq a b → a = b
  | a, b, h => by
    cases a <;> cases b <;> simp_all [beq]
    case list.list => exact eq_of_beqItems _ _ h
    case map.map => exact eq_of_beqEntries _ _ h
    case present.present => exact eq_of_beq _ _ h
    case config.config => exact eq_of_beqEntries _ _ h.2

theorem eq_of_beqItems : ∀ as bs, beqItems as bs → as = bs
  | [],      [],      _ => rfl
  | a :: as, b :: bs, h => by
    simp [beqItems] at h
    rw [eq_of_beq a b h.1, eq_of_beqItems as bs h.2]
  | [],      _ :: _,  h => by simp [beqItems] at h
  | _ :: _,  [],      h => by simp [beqItems] at h

theorem eq_of_beqEntries : ∀ as bs, beqEntries as bs → as = bs
  | [],           [],           _ => rfl
  | (k, a) :: as, (l, b) :: bs, h => by
    simp [beqEntries] at h
    rw [h.1.1, eq_of_beq a b h.1.2, eq_of_beqEntries as bs h.2]
  | [],           _ :: _,       h => by simp [beqEntries] at h
  | _ :: _,       [],           h => by simp [beqEntries] at h

end

mutual

theorem beq_self : ∀ a, beq a a
  | null | bool _ | int _ | long _ | double _ | string _ | absent | optionalInt _ | optionalLong _
  | optionalDouble _ | object _ => by simp [beq]
  | list as     => by simp [beq, beqItems_self as]
  | map as      => by simp [beq, beqEntries_self as]
  | present a   => by simp [beq, beq_self a]
  | config _ as => by simp [beq, beqEntries_self as]

theorem beqItems_self : ∀ as, beqItems as as
  | []      => rfl
  | a :: as => by simp [beqItems, beq_self a, beqItems_self as]

theorem beqEntries_self : ∀ as, beqEntries as as
  | []           => rfl
  | (_, a) :: as => by simp [beqEntries, beq_self a, beqEntries_self as]

end

instance : DecidableEq Value := fun a b =>
  if h : beq a b then isTrue (eq_of_beq a b h) else isFalse fun e => h (e ▸ beq_self a)

end Value

instance : DecidableEq Config := fun a b =>
  if h : a.toValue = b.toValue then
    isTrue (by cases a; cases b; simp [Config.toValue] at h; simp [h])
  else
    isFalse fun e => h (congrArg Config.toValue e)

namespace ValueType

def empty? : ValueType → Option Value
  | optional _     => some .absent
  | optionalInt    => some (.optionalInt none)
  | optionalLong   => some (.optionalLong none)
  | optionalDouble => some (.optionalDouble none)
  | _              => none

def nothing (t : ValueType) : Value :=
  t.empty?.getD .null

end ValueType
end BulletinPipeline
