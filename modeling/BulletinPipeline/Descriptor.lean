import BulletinPipeline.Entries
import BulletinPipeline.ValueType

namespace BulletinPipeline

structure Signature where
  owner   : String
  name    : String
  params  : List ValueType
  returns : ValueType
  deriving DecidableEq, Repr

namespace Signature

def text (s : Signature) : String :=
  s.owner ++ "." ++ s.name ++ "(" ++ typesText s.params ++ ") -> " ++ s.returns.text

def same (s t : Signature) : Bool :=
  s.owner = t.owner && s.name = t.name && s.params.length = t.params.length
    && (s.params.zip t.params).all (fun p => p.1.same p.2) && s.returns.same t.returns

end Signature

-- A contract has accessors only; a concrete type never describes configuration.
inductive TypeForm
  | contract | concrete
  deriving DecidableEq, Repr

-- Abstract members are read from the configuration, members with a body are not.
inductive MemberBody
  | abstract | default | static
  deriving DecidableEq, Repr

structure Member where
  signature : Signature
  body      : MemberBody
  deriving DecidableEq, Repr

structure Descriptor where
  name    : String
  form    : TypeForm
  tagged  : Bool
  members : List Member
  deriving DecidableEq, Repr

namespace Descriptor

def schema (name : String) (accessors : List (String × ValueType)) : Descriptor where
  name    := name
  form    := .contract
  tagged  := true
  members := accessors.map fun a => ⟨⟨name, a.1, [], a.2⟩, .abstract⟩

def concrete (name : String) : Descriptor :=
  ⟨name, .concrete, false, []⟩

def accessors (d : Descriptor) : List Signature :=
  (d.members.filter (·.body = .abstract)).map Member.signature

-- Descriptions are the same when they read the same; schemas that members refer to count by name.
def same (d e : Descriptor) : Bool :=
  d.name = e.name && d.form = e.form && d.tagged = e.tagged && d.members.length = e.members.length
    && (d.members.zip e.members).all fun p => p.1.body = p.2.body && p.1.signature.same p.2.signature

end Descriptor

structure Environment where
  descriptors : Entries Descriptor

namespace Environment

def empty : Environment :=
  ⟨[]⟩

def resolve? (env : Environment) (r : SchemaRef) : Option Descriptor :=
  env.descriptors.lookup r.target

def names (env : Environment) : List String :=
  env.descriptors.map (·.2.name)

def define (env : Environment) (ds : Entries Descriptor) : Environment :=
  ⟨ds.foldl (fun es e => Entries.insert e.1 e.2 es) env.descriptors⟩

end Environment
end BulletinPipeline
