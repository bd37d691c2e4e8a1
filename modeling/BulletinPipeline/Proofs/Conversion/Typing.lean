import BulletinPipeline.Proofs.Conversion.Settled
import BulletinPipeline.Proofs.Recursion.Evaluation

namespace BulletinPipeline

-- The values of a type. Null is a value of all types but the optional ones, which have an empty value each.
inductive Value.Inhabits : Value → ValueType → Prop
  | null {t : ValueType} : t.isOptional = false → Inhabits .null t
  | any {v : Value} : v.held? = none → Inhabits v .any
  | bool (b : Bool) : Inhabits (.bool b) .bool
  | int (n : Int32) : Inhabits (.int n) .int
  | long (n : Int64) : Inhabits (.long n) .long
  | double (d : Double) : Inhabits (.double d) .double
  | string (s : String) : Inhabits (.string s) .string
  | list {items : List Value} {t : ValueType} :
    (∀ v ∈ items, Inhabits v t) → Inhabits (.list items) (.list t)
  | map (entries : Entries Value) : Inhabits (.map entries) .map
  | absent (t : ValueType) : Inhabits .absent (.optional t)
  | present {v : Value} {t : ValueType} : v ≠ .null → Inhabits v t → Inhabits (.present v) (.optional t)
  | optionalInt (n : Option Int32) : Inhabits (.optionalInt n) .optionalInt
  | optionalLong (n : Option Int64) : Inhabits (.optionalLong n) .optionalLong
  | optionalDouble (d : Option Double) : Inhabits (.optionalDouble d) .optionalDouble
  | config (r : SchemaRef) (properties : Entries Value) : Inhabits (.config r.name properties) (.schema r)
  | object (o : Object) : Inhabits (.object o) (.object o.type)

namespace ValueType

variable {t : ValueType} {v : Value}

theorem inhabits_nothing (t : ValueType) : t.nothing.Inhabits t := by
  cases t
  case optional t     => exact .absent t
  case optionalInt    => exact .optionalInt none
  case optionalLong   => exact .optionalLong none
  case optionalDouble => exact .optionalDouble none
  all_goals exact .null rfl

theorem wrap_null (t : ValueType) : t.wrap .null = .ok t.nothing := by
  cases t <;> rfl

-- Every wrapper takes the values of the type that it wraps, and gives a value of its own type.
theorem exists_wrap_eq_ok (ho : t.isOptional) (h : v.Inhabits t.unwrapped) :
    ∃ w, t.wrap v = .ok w ∧ w.Inhabits t := by
  by_cases hn : v = .null
  case pos => exact ⟨t.nothing, hn ▸ wrap_null t, inhabits_nothing t⟩
  case neg =>
    cases t
    case optional t => exact ⟨.present v, wrap_optional t hn, .present hn h⟩
    case optionalInt =>
      cases h
      case null  => contradiction
      case int n => exact ⟨.optionalInt (some n), rfl, .optionalInt _⟩
    case optionalLong =>
      cases h
      case null   => contradiction
      case long n => exact ⟨.optionalLong (some n), rfl, .optionalLong _⟩
    case optionalDouble =>
      cases h
      case null     => contradiction
      case double d => exact ⟨.optionalDouble (some d), rfl, .optionalDouble _⟩
    all_goals contradiction

end ValueType

-- A configuration has the name of its reference, as what that stands for has it.
theorem Value.Settled.inhabits {env : Environment} {v : Value} {t : ValueType} (h : v.Settled env t)
    (hn : env.NamesTargets t) : v.Inhabits t := by
  induction h
  case null h           => exact .null h
  case any h            => exact .any h
  case bool b           => exact .bool b
  case int n            => exact .int n
  case long n           => exact .long n
  case double d         => exact .double d
  case string s         => exact .string s
  case list hi          => exact .list fun v hv => hi v hv hn
  case map entries      => exact .map entries
  case absent t         => exact .absent t
  case present hb _ hi  => exact .present (ne_null_of_bare_core hb) (hi hn)
  case optionalInt n    => exact .optionalInt n
  case optionalLong n   => exact .optionalLong n
  case optionalDouble d => exact .optionalDouble d
  case config r _ ps hr => exact hr.eq_name (hn r rfl) ▸ .config r ps
  case object o         => exact .object o

namespace Conversion

variable {env : Environment} {raw v : Value} {t : ValueType} {r : SchemaRef}

theorem inhabits_of_convert (raw : Value) (t : ValueType) {v : Value}
    (hn : ∀ r, t.schemaInside? = some r → env.NamesTarget r) (h : convert env raw t = .ok v) :
    v.Inhabits t :=
  (settled_of_convert raw t h).inhabits hn

-- What is converted for a wrapper, or materialized for an optional property, is never refused by it.
theorem convert_sound (raw : Value) (t : ValueType)
    (hn : ∀ r, t.schemaInside? = some r → env.NamesTarget r) :
    (∀ v, convert env raw t = .ok v → v.Inhabits t)
    ∧ (raw.Bare → t.isOptional → convert env raw t = (do t.wrap (← convert env raw t.unwrapped))
        ∧ ∀ v, convert env raw t.unwrapped = .ok v → ∃ w, t.wrap v = .ok w)
    ∧ ∀ (p : Property) (r : SchemaRef) (c : Config), p.nested? = some r → p.isOptional →
        p.accessor.returns.wrap c.toValue = .ok (.present c.toValue) := by
  refine ⟨fun v h => inhabits_of_convert raw t hn h, fun hb ho => ⟨convert_eq_wrap hb ho, fun v h => ?_⟩,
    fun p r c hr ho => ?_⟩
  · have hu : ∀ r, t.unwrapped.schemaInside? = some r → env.NamesTarget r := by
      cases t <;> exact hn
    have ⟨w, hw, _⟩ := ValueType.exists_wrap_eq_ok ho (inhabits_of_convert raw _ hu h)
    exact ⟨w, hw⟩
  · cases ValueType.eq_of_schemaRef? hr
    case inl ht => simp [Property.isOptional, ht, ValueType.isOptional, ValueType.inner?] at ho
    case inr ht => rw [ht]; rfl

def retryList : ValueType :=
  .list (.optional (.schema ⟨"Retry", "Retry"⟩))

def retries : Value :=
  .list [.map [("attempts", .int 3)], .null]

theorem convert_sound_retries :
    (∀ r, retryList.schemaInside? = some r → Materializer.jobs.NamesTarget r)
      ∧ convert Materializer.jobs retries retryList
          = .ok (.list [.present (.config "Retry" [("attempts", .long 3)]), .absent])
      ∧ Value.Inhabits (.list [.present (.config "Retry" [("attempts", .long 3)]), .absent]) retryList := by
  have hn : ∀ r, retryList.schemaInside? = some r → Materializer.jobs.NamesTarget r := by
    intro r hr d hd
    cases hr
    cases hd
    rfl
  have hc : convert Materializer.jobs retries retryList
      = .ok (.list [.present (.config "Retry" [("attempts", .long 3)]), .absent]) :=
    convert_of_within (n := 4) rfl
  exact ⟨hn, hc, (convert_sound retries retryList hn).1 _ hc⟩

end Conversion
end BulletinPipeline
