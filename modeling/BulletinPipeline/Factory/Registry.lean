import BulletinPipeline.Factory.Basic

namespace BulletinPipeline

structure Registry (m : Type → Type) (α : Type) where
  factories : Entries (Factory m α)

namespace Registry

variable {m : Type → Type} [Monad m] {α : Type}

def empty : Registry m α :=
  ⟨[]⟩

def get? (r : Registry m α) (name : String) : Option (Factory m α) :=
  r.factories.lookup name

def register (r : Registry m α) (f : Factory m α) : Except Error (Registry m α) :=
  if (r.get? f.name).isSome then .error (.duplicateFactory f.name)
  else .ok ⟨Entries.insert f.name f r.factories⟩

def ofList (fs : List (Factory m α)) : Except Error (Registry m α) :=
  fs.foldlM register empty

def names (r : Registry m α) : List String :=
  Entries.keys r.factories

def create (r : Registry m α) (name : String) (raw : Entries Value) : ExceptT Error m α :=
  match r.get? name with
  | some f => f.create raw
  | none   => throw (.unknownFactory name)

end Registry
end BulletinPipeline
