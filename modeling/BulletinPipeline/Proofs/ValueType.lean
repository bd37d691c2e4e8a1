import BulletinPipeline.ValueType

namespace BulletinPipeline.ValueType

-- Lists and optional wrappers are looked through, so that a type speaks of at most one schema.
def schemaInside? : ValueType → Option SchemaRef
  | list t     => t.schemaInside?
  | optional t => t.schemaInside?
  | schema r   => some r
  | _          => none

theorem eq_of_schemaRef? {t : ValueType} {r : SchemaRef} (h : t.schemaRef? = some r) :
    t = schema r ∨ t = optional (schema r) := by
  cases t
  case schema => exact .inl (congrArg schema (Option.some.inj h))
  case optional t =>
    cases t
    case schema => exact .inr (congrArg (fun r => optional (schema r)) (Option.some.inj h))
    all_goals contradiction
  all_goals contradiction

theorem schemaRef?_eq_none {t u : ValueType} (h : t.inner? = some u) (hu : ∀ r, u ≠ .schema r) :
    t.schemaRef? = none := by
  unfold schemaRef? unwrapped
  rw [h]
  split
  case h_1 r hr => exact absurd hr (hu r)
  case h_2      => rfl

theorem schemaInside?_of_schemaRef? {t : ValueType} {r : SchemaRef} (h : t.schemaRef? = some r) :
    t.schemaInside? = some r := by
  cases eq_of_schemaRef? h <;> subst t <;> rfl

-- The ways in which types read the same.
inductive Alike : ValueType → ValueType → Prop
  | refl (t : ValueType) : Alike t t
  | list {t u : ValueType} : Alike t u → Alike (.list t) (.list u)
  | optional {t u : ValueType} : Alike t u → Alike (.optional t) (.optional u)
  | schema {r s : SchemaRef} : r.name = s.name → Alike (.schema r) (.schema s)

theorem alike_of_same {t u : ValueType} (h : t.same u) : t.Alike u := by
  fun_induction same t u
  case case1 hi => exact .list (hi h)
  case case2 hi => exact .optional (hi h)
  case case3    => exact .schema (of_decide_eq_true h)
  case case4    => exact of_decide_eq_true h ▸ .refl _

theorem Alike.symm {t u : ValueType} (h : t.Alike u) : u.Alike t := by
  induction h
  case refl t      => exact .refl t
  case list hi     => exact .list hi
  case optional hi => exact .optional hi
  case schema hn   => exact .schema hn.symm

end BulletinPipeline.ValueType
