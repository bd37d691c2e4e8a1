namespace BulletinPipeline

structure SchemaRef where
  name   : String
  target : String
  deriving DecidableEq, Repr

structure ObjectType where
  name : String
  deriving DecidableEq, Repr

inductive ValueType
  | any | bool | int | long | double | string | map
  | list (item : ValueType)
  | optional (item : ValueType)
  | optionalInt | optionalLong | optionalDouble
  | schema (ref : SchemaRef)
  | object (type : ObjectType)
  deriving DecidableEq, Repr

namespace ValueType

def inner? : ValueType → Option ValueType
  | optional t     => some t
  | optionalInt    => some int
  | optionalLong   => some long
  | optionalDouble => some double
  | _              => none

def isOptional (t : ValueType) : Bool :=
  t.inner?.isSome

def unwrapped (t : ValueType) : ValueType :=
  t.inner?.getD t

-- The schema that a member of this type refers to, at most one optional wrapper removed.
def schemaRef? (t : ValueType) : Option SchemaRef :=
  match t.unwrapped with
  | schema r => some r
  | _        => none

-- Types are the same when they read the same; schemas are known by name alone.
def same : ValueType → ValueType → Bool
  | list t,     list u     => t.same u
  | optional t, optional u => t.same u
  | schema r,   schema s   => r.name = s.name
  | t,          u          => t = u

-- A value declared as `u` may stand where `t` is expected: anything may where `any` is, lists and generic optionals
-- follow their items, and no number is widened.
def assignableFrom : (t u : ValueType) → Bool
  | any,        _          => true
  | list t,     list u     => t.assignableFrom u
  | optional t, optional u => t.assignableFrom u
  | t,          u          => t.same u

def text : ValueType → String
  | any            => "any"
  | bool           => "bool"
  | int            => "int"
  | long           => "long"
  | double         => "double"
  | string         => "string"
  | map            => "map"
  | list t         => "list<" ++ t.text ++ ">"
  | optional t     => "optional<" ++ t.text ++ ">"
  | optionalInt    => "optional_int"
  | optionalLong   => "optional_long"
  | optionalDouble => "optional_double"
  | schema r       => r.name
  | object o       => o.name

end ValueType

def typesText (ts : List ValueType) : String :=
  String.intercalate ", " (ts.map ValueType.text)

end BulletinPipeline
