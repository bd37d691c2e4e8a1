import BulletinPipeline.Error

namespace BulletinPipeline

structure Factory (m : Type → Type) (α : Type) where
  name        : String
  optionNames : List String
  create      : Entries Value → ExceptT Error m α

abbrev Renaming := String → String

namespace Renaming

-- Names that have an alias get it; the last alias of a name counts.
def ofAliases (aliases : List (String × String)) : Renaming := fun k =>
  (aliases.reverse.lookup k).getD k

def dropWord (word : String) : Renaming := fun k =>
  if word.toList.isPrefixOf k.toList then String.ofList (k.toList.drop word.toList.length) else k

-- Renames from a position on. `seen` holds the new names so far, each with the old one.
def renameFrom (factory : String) (rename : Renaming) (seen : List (String × String))
    (out : Entries Value) : Entries Value → Except Error (Entries Value)
  | [] => .ok out
  | (k, v) :: es =>
    match seen.lookup (rename k) with
    | some first => .error (.duplicateRenamedKey factory (rename k) first k)
    | none       => renameFrom factory rename ((rename k, k) :: seen) (Entries.insert (rename k) v out) es

def apply (factory : String) (rename : Renaming) (raw : Entries Value) :
    Except Error (Entries Value) :=
  renameFrom factory rename [] [] raw

end Renaming

namespace Factory

variable {m : Type → Type} [Monad m] {α β : Type}

def map (f : α → β) (factory : Factory m α) : Factory m β where
  name        := factory.name
  optionNames := factory.optionNames
  create raw  := f <$> factory.create raw

def named (name : String) (factory : Factory m α) : Factory m α :=
  { factory with name := name }

def observed (creating : Entries Value → m Unit) (failed : Error → m Unit) (factory : Factory m α) :
    Factory m α where
  name        := factory.name
  optionNames := factory.optionNames
  create raw  := do
    creating raw
    tryCatch (factory.create raw) fun e => do
      failed e
      throw e

def renamed (rename : Renaming) (name : Option String) (factory : Factory m α) : Factory m α where
  name        := name.getD factory.name
  optionNames := factory.optionNames
  create raw  := do
    let raw ← rename.apply (name.getD factory.name) raw
    factory.create raw

end Factory
end BulletinPipeline
