import BulletinPipeline.Proofs.Conversion.Basic

namespace BulletinPipeline

namespace Value

-- A wrapper that is empty leaves null, however deep inside others it is.
def core : Value → Value
  | absent           => null
  | present v        => v.core
  | optionalInt n    => (n.map int).getD null
  | optionalLong n   => (n.map long).getD null
  | optionalDouble d => (d.map double).getD null
  | v                => v

variable {v : Value}

theorem core_of_held?_eq_none (h : v.held? = none) : v.core = v := by
  cases v <;> first | rfl | contradiction

theorem core_of_held?_eq_some {held : Option Value} (h : v.held? = some held) :
    v.core = (held.map core).getD null := by
  cases v <;> cases h
  case optionalInt n    => cases n <;> rfl
  case optionalLong n   => cases n <;> rfl
  case optionalDouble d => cases d <;> rfl
  all_goals rfl

theorem Bare.core_eq (h : v.Bare) : v.core = v :=
  core_of_held?_eq_none h.held?

-- Wrappers are taken off until none is left.
theorem held?_core (v : Value) : v.core.held? = none := by
  cases h : v.held?
  case none => rw [core_of_held?_eq_none h, h]
  case some held =>
    rw [core_of_held?_eq_some h]
    cases held
    case none   => rfl
    case some w =>
      have := Conversion.sizeOf_lt_of_held? h
      exact held?_core w
termination_by sizeOf v

theorem bare_core (h : v.core ≠ null) : v.core.Bare :=
  ⟨v.held?_core, h⟩

theorem ne_null_of_bare_core (h : v.core.Bare) : v ≠ null := by
  rintro rfl
  exact h.ne_null rfl

theorem sizeOf_core_le (v : Value) : sizeOf v.core ≤ sizeOf v := by
  cases h : v.held?
  case none => rw [core_of_held?_eq_none h]
  case some held =>
    rw [core_of_held?_eq_some h]
    cases held
    case none =>
      cases v <;> simp
      omega
    case some w =>
      have hlt := Conversion.sizeOf_lt_of_held? h
      exact (sizeOf_core_le w).trans hlt.le
termination_by sizeOf v

end Value

namespace Conversion

variable {env : Environment} {raw : Value} {t : ValueType}

-- A wrapper is kept where its own type is wanted, and to that its core converts.
theorem convert_core_of_kept (hp : t.isPrimitiveOptional) (h : t.assignableFrom raw.type) :
    convert env raw.core t = .ok raw := by
  cases t <;> simp [ValueType.isPrimitiveOptional] at hp
    <;> cases raw <;> simp [ValueType.assignableFrom, ValueType.same, Value.type] at h
  case optionalInt n =>
    cases n
    case none   => exact convert_null _
    case some n =>
      have hb : (Value.int n).Bare := ⟨rfl, nofun⟩
      have hr : plain? .optionalInt = some _ := rfl
      refine (convert_plain hb hr).trans ?_
      rw [toInt_int]
      rfl
  case optionalLong n =>
    cases n
    case none   => exact convert_null _
    case some n =>
      have hb : (Value.long n).Bare := ⟨rfl, nofun⟩
      have hr : plain? .optionalLong = some _ := rfl
      exact convert_plain hb hr
  case optionalDouble d =>
    cases d
    case none   => exact convert_null _
    case some d =>
      have hb : (Value.double d).Bare := ⟨rfl, nofun⟩
      have hr : plain? .optionalDouble = some _ := rfl
      exact convert_plain hb hr

theorem convert_core (env : Environment) (raw : Value) (t : ValueType) :
    convert env raw.core t = convert env raw t := by
  cases h : raw.held?
  case none => rw [Value.core_of_held?_eq_none h]
  case some held =>
    rw [convert_held h]
    split
    case isTrue hk =>
      have ⟨hp, ha⟩ := Bool.and_eq_true_iff.mp hk
      exact convert_core_of_kept hp ha
    case isFalse =>
      rw [Value.core_of_held?_eq_some h]
      cases held
      case none   => exact convert_null t
      case some w =>
        have := sizeOf_lt_of_held? h
        exact convert_core env w t
termination_by sizeOf raw

theorem convert_of_kept (hp : t.isPrimitiveOptional) (h : t.assignableFrom raw.type) :
    convert env raw t = .ok raw :=
  (convert_core env raw t).symm.trans (convert_core_of_kept hp h)

end Conversion
end BulletinPipeline
