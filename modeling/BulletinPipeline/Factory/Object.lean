import BulletinPipeline.Conversion.Converter
import BulletinPipeline.Factory.Basic
import BulletinPipeline.PropertyName
import BulletinPipeline.Text.Quoted

namespace BulletinPipeline

structure Arguments where
  values    : List Value
  signature : Signature

namespace Arguments

-- Takes an argument in some form, and leaves null in its place.
def take {α : Type} (extract : Value → Except ConversionError α) (i : Nat) :
    StateT Arguments (Except ConversionError) α := fun args =>
  match args.values[i]? with
  | none   => .error (.noSuchParameter args.signature i)
  | some v => (extract v).map fun a => (a, { args with values := args.values.set i .null })

end Arguments

structure Constructor (m : Type → Type) (α : Type) where
  params   : List ValueType
  isPublic : Bool
  invoke   : Arguments → ExceptT Cause m α

structure Mutator (m : Type → Type) (α : Type) where
  name     : String
  param    : ValueType
  isPublic : Bool
  mutate   : α → Value → ExceptT Cause m α

structure ObjectClass (m : Type → Type) (α : Type) where
  name         : String
  constructors : List (Constructor m α)
  mutators     : List (Mutator m α)

inductive Slot
  | fixed (value : Value) (type : ValueType)
  | option (name : String) (type : ValueType)
  deriving Repr

namespace Slot

def type : Slot → ValueType
  | fixed _ t  => t
  | option _ t => t

def optionName? : Slot → Option String
  | fixed ..   => none
  | option n _ => some n

def ofValue (v : Value) : Slot :=
  fixed v v.type

end Slot

structure Blueprint (m : Type → Type) (α : Type) where
  target    : ObjectClass m α
  name      : Option String
  converter : Converter
  slots     : List Slot

structure ObjectFactory (m : Type → Type) (α : Type) where
  name        : String
  type        : String
  converter   : Converter
  constructor : Constructor m α
  slots       : List Slot
  mutators    : Entries (Mutator m α)

variable {m : Type → Type} {α : Type}

def Constructor.accepts (c : Constructor m α) (declared : List ValueType) : Bool :=
  c.isPublic && c.params.length = declared.length
    && (c.params.zip declared).all fun p => p.1.assignableFrom p.2

def firstRepeated? : List String → List String → Option String
  | _, [] => none
  | seen, n :: ns => if n ∈ seen then some n else firstRepeated? (n :: seen) ns

namespace Blueprint

def optionSlots (b : Blueprint m α) : List String :=
  b.slots.filterMap Slot.optionName?

def slotTypes (b : Blueprint m α) : List ValueType :=
  b.slots.map Slot.type

def mutatorGroups (b : Blueprint m α) : Entries (List (Mutator m α)) :=
  Entries.groupBy (propertyName ·.name) (b.target.mutators.filter (·.isPublic))

def resolve (b : Blueprint m α) : Except Error (ObjectFactory m α) :=
  match firstRepeated? [] b.optionSlots with
  | some slot => .error (.duplicateSlotName b.target.name slot)
  | none =>
    match b.target.constructors.filter (·.accepts b.slotTypes) with
    | []  => .error (.noMatchingConstructor b.target.name b.slotTypes)
    | [c] =>
      match b.mutatorGroups.find? (1 < ·.2.length) with
      | some (property, group) =>
        .error (.ambiguousProperty b.target.name property (group.map Mutator.name))
      | none => .ok
        { name        := b.name.getD b.target.name
          type        := b.target.name
          converter   := b.converter
          constructor := c
          slots       := b.slots
          mutators    := b.mutatorGroups.filterMap fun g => g.2.head?.map (g.1, ·) }
    | cs => .error (.ambiguousConstructor b.target.name b.slotTypes cs.length)

end Blueprint

namespace ObjectFactory

def signature (f : ObjectFactory m α) : Signature :=
  ⟨f.type, "new", f.constructor.params, .any⟩

def mutatorSignature (f : ObjectFactory m α) (x : Mutator m α) : Signature :=
  ⟨f.type, x.name, [x.param], .any⟩

def optionSlots (f : ObjectFactory m α) : List String :=
  f.slots.filterMap Slot.optionName?

def optionNames (f : ObjectFactory m α) : List String :=
  ascendingNames (f.optionSlots ++ Entries.keys f.mutators)

def understands (f : ObjectFactory m α) (key : String) : Bool :=
  f.optionSlots.contains key || (f.mutators.lookup key).isSome

def argument (f : ObjectFactory m α) (env : Environment) (raw : Entries Value) (i : Nat) :
    Slot → Except Error Value
  | .fixed v _  => .ok v
  | .option n _ =>
    match raw.lookup n with
    | none   => .error (.missingRequiredOption f.name n)
    | some v =>
      match f.converter.toParameter env v f.signature i with
      | .ok v    => .ok v
      | .error e => .error (.conversion f.name n e)

def argumentsFrom (f : ObjectFactory m α) (env : Environment) (raw : Entries Value) (i : Nat) :
    List Slot → Except Error (List Value)
  | [] => .ok []
  | s :: ss => do
    let v ← f.argument env raw i s
    let vs ← f.argumentsFrom env raw (i + 1) ss
    return v :: vs

def settings (f : ObjectFactory m α) (raw : Entries Value) : List (String × Mutator m α × Value) :=
  raw.filterMap fun (key, v) =>
    if f.optionSlots.contains key then none
    else (f.mutators.lookup key).map (key, ·, v)

variable [Monad m]

def set (f : ObjectFactory m α) (env : Environment) (object : α) :
    String × Mutator m α × Value → ExceptT Error m α := fun (property, x, raw) =>
  match f.converter.toParameter env raw (f.mutatorSignature x) 0 with
  | .error e => throw (.propertySet f.name f.type property (.conversion e))
  | .ok v    => (x.mutate object v).adapt (.propertySet f.name f.type property)

-- Builds an object. Unknown options are refused before anything else happens.
def create (f : ObjectFactory m α) (env : Environment) (raw : Entries Value) : ExceptT Error m α :=
  match (Entries.keys raw).find? (!f.understands ·) with
  | some key => throw (.unknownOption f.name key)
  | none => do
    let values ← f.argumentsFrom env raw 0 f.slots
    let object ← (f.constructor.invoke ⟨values, f.signature⟩).adapt (.construction f.name f.type)
    (f.settings raw).foldlM (f.set env) object

def toFactory (f : ObjectFactory m α) (env : Environment) : Factory m α where
  name        := f.name
  optionNames := f.optionNames
  create      := f.create env

def detail (f : ObjectFactory m α) : String :=
  "ReflectiveFactory \x7b name: " ++ Text.quote f.name ++ ", constructor: "
    ++ Text.quote f.signature.text ++ " \x7d"

end ObjectFactory
end BulletinPipeline
