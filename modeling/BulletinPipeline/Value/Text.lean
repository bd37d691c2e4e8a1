import BulletinPipeline.Number.Decimal
import BulletinPipeline.Text.Quoted
import BulletinPipeline.Value.Basic

namespace BulletinPipeline

def Value.joined (items : List String) : String :=
  String.intercalate ", " items

def boolText (b : Bool) : String :=
  if b then "true" else "false"

namespace Value

mutual

def text : Value → String
  | null                    => "null"
  | bool b                  => boolText b
  | int n                   => toString n.toInt
  | long n                  => toString n.toInt
  | double d                => d.text .shown
  | string s                => Text.quote s
  | list items              => "[" ++ joined (itemTexts items) ++ "]"
  | map entries             => "\x7b" ++ joined (entryTexts entries) ++ "\x7d"
  | absent                  => "Optional.empty"
  | present v               => "Optional[" ++ text v ++ "]"
  | optionalInt none        => "OptionalInt.empty"
  | optionalInt (some n)    => "OptionalInt[" ++ toString n.toInt ++ "]"
  | optionalLong none       => "OptionalLong.empty"
  | optionalLong (some n)   => "OptionalLong[" ++ toString n.toInt ++ "]"
  | optionalDouble none     => "OptionalDouble.empty"
  | optionalDouble (some d) => "OptionalDouble[" ++ d.text .shown ++ "]"
  | config schema ps        => schema ++ "\x7b" ++ joined (entryTexts ps) ++ "\x7d"
  | object o                => "<" ++ o.type.name ++ ">"

def itemTexts : List Value → List String
  | []      => []
  | v :: vs => text v :: itemTexts vs

def entryTexts : List (String × Value) → List String
  | []           => []
  | (k, v) :: es => (k ++ "=" ++ text v) :: entryTexts es

end

mutual

def detail : Value → String
  | null             => "Null"
  | bool b           => "Bool(" ++ boolText b ++ ")"
  | int n            => "Int(" ++ toString n.toInt ++ ")"
  | long n           => "Long(" ++ toString n.toInt ++ ")"
  | double d         => "Double(" ++ d.text .shown ++ ")"
  | string s         => "String(" ++ Text.quote s ++ ")"
  | list items       => "List([" ++ joined (itemDetails items) ++ "])"
  | map entries      => "Map(\x7b" ++ joined (entryDetails entries) ++ "\x7d)"
  | absent           => "Optional(Generic(None))"
  | present v        => "Optional(Generic(Some(" ++ detail v ++ ")))"
  | optionalInt n    => "Optional(Int(" ++ heldDetail (n.map (toString ·.toInt)) ++ "))"
  | optionalLong n   => "Optional(Long(" ++ heldDetail (n.map (toString ·.toInt)) ++ "))"
  | optionalDouble d => "Optional(Double(" ++ heldDetail (d.map (Double.text .shown)) ++ "))"
  | config schema ps => "Config(" ++ configDetail schema ps ++ ")"
  | object o         => "Object(ObjectValue(" ++ Text.quote o.type.name ++ "))"

def itemDetails : List Value → List String
  | []      => []
  | v :: vs => detail v :: itemDetails vs

def entryDetails : List (String × Value) → List String
  | []           => []
  | (k, v) :: es => (Text.quote k ++ ": " ++ detail v) :: entryDetails es

def configDetail (schema : String) (ps : List (String × Value)) : String :=
  "ConfigValue \x7b schema: " ++ Text.quote schema ++ ", properties: \x7b" ++ joined (entryDetails ps)
    ++ "\x7d \x7d"

def heldDetail : Option String → String
  | none   => "None"
  | some s => "Some(" ++ s ++ ")"

end

end Value

namespace Config

def text (c : Config) : String :=
  c.toValue.text

def detail (c : Config) : String :=
  Value.configDetail c.schema c.properties

end Config
end BulletinPipeline
