import BulletinPipeline.Descriptor
import BulletinPipeline.Number.Numeral
import BulletinPipeline.Value.Basic

namespace BulletinPipeline

inductive SchemaFault
  | concrete
  | untagged
  | parameters (accessor : String)
  deriving DecidableEq, Repr

def SchemaFault.message : SchemaFault → String
  | concrete            => "concrete types cannot describe configuration"
  | untagged            => "type is not tagged as a schema"
  | parameters accessor => "accessor '" ++ accessor ++ "' takes parameters"

inductive SchemaError
  | violation (schema : String) (fault : SchemaFault)
  | ambiguousNames (schema : String) (groups : Entries (List String))
  | circular (path : List String)
  deriving DecidableEq, Repr

def SchemaError.message : SchemaError → String
  | violation schema fault => "'" ++ schema ++ "' is not a valid schema type: " ++ fault.message
  | ambiguousNames schema groups =>
    "ambiguous config names in '" ++ schema ++ "': "
      ++ String.intercalate "; " (groups.map fun g =>
          "'" ++ g.1 ++ "' <- [" ++ String.intercalate ", " g.2 ++ "]")
  | circular path => "circular schema reference: " ++ String.intercalate " -> " path

inductive ReadFault
  | notBoolean
  | integer (fault : IntegerFault)
  | float (fault : FloatFault)
  | other (text : String)
  deriving DecidableEq, Repr

def ReadFault.message : ReadFault → String
  | notBoolean    => "expected 'true' or 'false'"
  | integer fault => fault.message
  | float fault   => fault.message
  | other text    => text

mutual

inductive ConversionError
  | incompatible (expected : ValueType) (found : Kind)
  | outOfRange (expected : ValueType) (value : String)
  | unreadable (expected : ValueType) (input : String) (fault : ReadFault)
  | element (index : Nat) (source : ConversionError)
  | noSuchParameter (executable : Signature) (index : Nat)
  | nested (source : Error)

inductive Error
  | schema (fault : SchemaError)
  | unknownOption (target option : String)
  | missingRequiredOption (target option : String)
  | conversion (target option : String) (source : ConversionError)
  | construction (factory type : String) (source : Cause)
  | propertySet (factory type property : String) (source : Cause)
  | noMatchingConstructor (type : String) (attempted : List ValueType)
  | ambiguousConstructor (type : String) (attempted : List ValueType) (candidates : Nat)
  | duplicateSlotName (type slot : String)
  | ambiguousProperty (type property : String) (mutators : List String)
  | duplicateRenamedKey (factory target first second : String)
  | duplicateFactory (name : String)
  | unknownFactory (name : String)

inductive Cause
  | conversion (source : ConversionError)
  | badPattern
  | badCount (fault : IntegerFault)
  | other (text : String)

end

inductive ErrorKind
  | schemaViolation | circularReference | unknownOption | missingRequiredOption | duplicateOption
  | conversionFailure | constructionFailure | assembly
  deriving DecidableEq, Repr

mutual

def ConversionError.message : ConversionError → String
  | .incompatible expected found => "cannot convert " ++ found.text ++ " to " ++ expected.text
  | .outOfRange expected value   => "value " ++ value ++ " is out of range for " ++ expected.text
  | .unreadable expected input fault =>
    "cannot parse '" ++ input ++ "' as " ++ expected.text ++ ": " ++ fault.message
  | .element index source => "invalid list element " ++ toString index ++ ": " ++ source.message
  | .noSuchParameter executable index =>
    "'" ++ executable.text ++ "' has no parameter at position " ++ toString index
  | .nested source => "invalid nested configuration: " ++ source.message

def Error.message : Error → String
  | .schema fault => fault.message
  | .unknownOption target option => "unknown config option '" ++ option ++ "' for '" ++ target ++ "'"
  | .missingRequiredOption target option =>
    "missing required option '" ++ option ++ "' for '" ++ target ++ "'"
  | .conversion target option source =>
    "invalid value for option '" ++ option ++ "' of '" ++ target ++ "': " ++ source.message
  | .construction factory type source =>
    "factory '" ++ factory ++ "' failed to construct '" ++ type ++ "': " ++ source.message
  | .propertySet factory type property source =>
    "factory '" ++ factory ++ "' failed to set property '" ++ property ++ "' on '" ++ type ++ "': "
      ++ source.message
  | .noMatchingConstructor type attempted =>
    "no public constructor of '" ++ type ++ "' accepts (" ++ typesText attempted ++ ")"
  | .ambiguousConstructor type attempted candidates =>
    toString candidates ++ " public constructors of '" ++ type ++ "' accept (" ++ typesText attempted
      ++ ")"
  | .duplicateSlotName type slot => "duplicate config slot '" ++ slot ++ "' for '" ++ type ++ "'"
  | .ambiguousProperty type property mutators =>
    "ambiguous property '" ++ property ++ "' on '" ++ type ++ "': "
      ++ String.intercalate ", " mutators
  | .duplicateRenamedKey factory target first second =>
    "factory '" ++ factory ++ "' maps both '" ++ first ++ "' and '" ++ second ++ "' to '" ++ target
      ++ "'"
  | .duplicateFactory name => "factory '" ++ name ++ "' is already registered"
  | .unknownFactory name   => "no factory registered for '" ++ name ++ "'"

def Cause.message : Cause → String
  | .conversion source => source.message
  | .badPattern        => "malformed regular expression"
  | .badCount fault    => fault.message
  | .other text        => text

end

mutual

def ConversionError.causes : ConversionError → List String
  | .element _ source => source.message :: source.causes
  | .nested source    => source.message :: source.causes
  | _                 => []

def Error.causes : Error → List String
  | .conversion _ _ source    => source.message :: source.causes
  | .construction _ _ source  => source.message :: source.causes
  | .propertySet _ _ _ source => source.message :: source.causes
  | _                         => []

def Cause.causes : Cause → List String
  | .conversion source => source.causes
  | _                  => []

end

mutual

def ConversionError.nestedKind? : ConversionError → Option ErrorKind
  | .nested source    => some source.kind
  | .element _ source => source.nestedKind?
  | _                 => none

-- The class of an error; one in a nested configuration decides the class of those around it.
def Error.kind : Error → ErrorKind
  | .schema (.circular _)        => .circularReference
  | .schema _                    => .schemaViolation
  | .unknownOption ..            => .unknownOption
  | .missingRequiredOption ..    => .missingRequiredOption
  | .duplicateRenamedKey ..      => .duplicateOption
  | .conversion _ _ source       => source.nestedKind?.getD .conversionFailure
  | .construction ..             => .constructionFailure
  | .propertySet ..              => .constructionFailure
  | _                            => .assembly

end
end BulletinPipeline
