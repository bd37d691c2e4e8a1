import BulletinPipeline.Proofs.Factory.Resolution

namespace BulletinPipeline

instance {m : Type → Type} {α : Type} (c : Constructor m α) (declared : List ValueType) :
    Decidable (c.Matches declared) :=
  inferInstanceAs (Decidable (_ ∧ _))

namespace Blueprint

variable {m : Type → Type} {α : Type} {b : Blueprint m α} {c : Constructor m α} {k n : String}

-- The public constructors that the slots fit.
def candidates (b : Blueprint m α) : List (Constructor m α) :=
  b.target.constructors.filter fun c => c.Matches b.slotTypes

-- The properties that public mutators set, each as often as there is one that sets it.
def properties (b : Blueprint m α) : List String :=
  (b.target.mutators.filter (·.isPublic)).map (propertyName ·.name)

-- The public mutators that set a property, as they are declared.
def setters (b : Blueprint m α) (property : String) : List (Mutator m α) :=
  (b.target.mutators.filter (·.isPublic)).filter (propertyName ·.name = property)

def withMembers (b : Blueprint m α) (cs : List (Constructor m α)) (ms : List (Mutator m α)) :
    Blueprint m α :=
  { b with target := { b.target with constructors := cs, mutators := ms } }

section Distinct

variable (hd : b.optionSlots.Nodup)

include hd

end Distinct

-- What building has to answer: a factory with the one constructor that the slots fit, if nothing is at fault,
-- else the first fault in a fixed order. Members that are not public are not even looked at.
structure Outcome (b : Blueprint m α) (answer : Except Error (ObjectFactory m α)) : Prop where
  succeeds  : (∃ f, answer = .ok f)
    ↔ b.optionSlots.Nodup ∧ (∃ c, b.candidates = [c]) ∧ b.properties.Nodup
  result    : ∀ f, answer = .ok f → b.Resolves f ∧ b.candidates = [f.constructor]
  repeated  : ¬b.optionSlots.Nodup → ∃ before n after, b.optionSlots = before ++ n :: after
    ∧ before.Nodup ∧ n ∈ before ∧ answer = .error (.duplicateSlotName b.target.name n)
  unmatched : b.optionSlots.Nodup → b.candidates = [] →
    answer = .error (.noMatchingConstructor b.target.name b.slotTypes)
  ambiguous : b.optionSlots.Nodup → 1 < b.candidates.length →
    answer = .error (.ambiguousConstructor b.target.name b.slotTypes b.candidates.length)
  colliding : b.optionSlots.Nodup → (∃ c, b.candidates = [c]) → ¬b.properties.Nodup →
    ∃ k, IsLeast {k | 1 < (b.setters k).length} k
      ∧ answer = .error (.ambiguousProperty b.target.name k ((b.setters k).map Mutator.name))
  hidden    : ∀ cs ms, cs.filter (·.isPublic) = b.target.constructors.filter (·.isPublic) →
    ms.filter (·.isPublic) = b.target.mutators.filter (·.isPublic) →
    (b.withMembers cs ms).resolve = answer

end Blueprint
end BulletinPipeline
