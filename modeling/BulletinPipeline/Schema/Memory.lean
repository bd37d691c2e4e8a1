import BulletinPipeline.Schema.Basic

namespace BulletinPipeline

-- A validated descriptor and its schema; `stamp` tells one validation from another.
structure Remembered where
  descriptor : Descriptor
  schema     : Schema
  stamp      : Nat

structure Cache where
  entries : Entries Remembered
  stamps  : Nat

abbrev Memory := Option Cache

namespace Memory

def fresh : Memory :=
  some ⟨[], 0⟩

def none : Memory :=
  Option.none

def find? (m : Memory) (d : Descriptor) : Option Remembered :=
  match m with
  | some c => (c.entries.lookup d.name).filter (·.descriptor.same d)
  | .none  => .none

def remember (m : Memory) (d : Descriptor) (s : Schema) : Memory :=
  m.map fun c => ⟨Entries.insert s.name ⟨d, s, c.stamps⟩ c.entries, c.stamps + 1⟩

end Memory
end BulletinPipeline
