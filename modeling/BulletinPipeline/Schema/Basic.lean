import BulletinPipeline.Error
import BulletinPipeline.PropertyName

namespace BulletinPipeline

structure Property where
  name     : String
  accessor : Signature
  deriving DecidableEq, Repr

namespace Property

def isOptional (p : Property) : Bool :=
  p.accessor.returns.isOptional

def nested? (p : Property) : Option SchemaRef :=
  p.accessor.returns.schemaRef?

end Property

-- A schema, its properties in ascending order of their names.
structure Schema where
  name       : String
  properties : List Property
  deriving DecidableEq, Repr

namespace Schema

def optionNames (s : Schema) : List String :=
  s.properties.map Property.name

def references (s : Schema) : List SchemaRef :=
  s.properties.filterMap Property.nested?

def collisions (groups : Entries (List Signature)) : Entries (List String) :=
  (groups.filter fun g => 1 < g.2.length).map fun g =>
    (g.1, (g.2.map Signature.name).mergeSort fun a b => decide (a ≤ b))

def ofDescriptor (d : Descriptor) : Except SchemaError Schema :=
  if d.form = .concrete then .error (.violation d.name .concrete)
  else if d.tagged = false then .error (.violation d.name .untagged)
  else match d.accessors.find? (!·.params.isEmpty) with
    | some a => .error (.violation d.name (.parameters a.name))
    | none =>
      let groups := Entries.groupBy (propertyName ·.name) d.accessors
      if collisions groups = [] then
        .ok ⟨d.name, groups.filterMap fun g => g.2.head?.map (Property.mk g.1)⟩
      else .error (.ambiguousNames d.name (collisions groups))

end Schema
end BulletinPipeline
