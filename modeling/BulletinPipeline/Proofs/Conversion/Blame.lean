import BulletinPipeline.Proofs.Conversion.Core
import BulletinPipeline.Proofs.Conversion.Refusal
import BulletinPipeline.Proofs.Recursion.Evaluation
import BulletinPipeline.Proofs.ValueType

namespace BulletinPipeline.Conversion

-- An error about a value of a type is an error about a part of it: the value is found by following the items that
-- the error names, the type by taking off a list for each item and all that is optional.
inductive Blames (env : Environment) :
    ValueType → Value → ConversionError → ValueType → Value → ConversionError → Prop
  | self {t raw e} (ho : t.isOptional = false) (hl : ∀ item, t ≠ .list item) (hc : convert env raw t = .error e) :
    Blames env t raw e t raw.core e
  | inner {t raw e u v e'} (ho : t.isOptional) (hb : Blames env t.unwrapped raw e u v e') :
    Blames env t raw e u v e'
  | item {t raw raws i part e u v e'} (hr : raw.core = .list raws) (hp : raws[i]? = some part)
    (hf : ∀ j < i, ∀ p, raws[j]? = some p → ∃ w, convert env p t = .ok w)
    (hc : convert env part t = .error e) (hb : Blames env t part e u v e') :
    Blames env (.list t) raw (.element i e) u v e'
  | single {t raw e u v e'} (hr : ∀ raws, raw.core ≠ .list raws) (hb : Blames env t raw e u v e') :
    Blames env (.list t) raw (.element 0 e) u v e'

-- The error names the type that the value it leads to was meant to have.
def BlamesMeant (env : Environment) (t : ValueType) (raw : Value) (e : ConversionError) : Prop :=
  ∃ u v source, Blames env t raw e u v source ∧ source.expected? = some u

variable {env : Environment} {raw v : Value} {t : ValueType} {e : ConversionError}

-- An error leads to one value only.
theorem Blames.unique {u u' : ValueType} {v' : Value} {source source' : ConversionError}
    (h : Blames env t raw e u v source) (h' : Blames env t raw e u' v' source') :
    u = u' ∧ v = v' ∧ source = source' := by
  induction h generalizing u' v' source'
  case self ho hl hc =>
    cases h'
    case self         => exact ⟨rfl, rfl, rfl⟩
    case inner ho' _  => exact nomatch ho.symm.trans ho'
    case item         => exact absurd rfl (hl _)
    case single       => exact absurd rfl (hl _)
  case inner ho hb hi =>
    cases h'
    case self ho' _ _ => exact nomatch ho'.symm.trans ho
    case inner hb'    => exact hi hb'
    case item         => contradiction
    case single       => contradiction
  case item hr hp hf hc hb hi =>
    cases h'
    case self hl _               => exact absurd rfl (hl _)
    case inner                   => contradiction
    case item hr' hp' _ _ hb'    =>
      cases hr.symm.trans hr'
      cases hp.symm.trans hp'
      exact hi hb'
    case single hr' _            => exact absurd hr (hr' _)
  case single hr hb hi =>
    cases h'
    case self hl _          => exact absurd rfl (hl _)
    case inner              => contradiction
    case item hr' _ _ _ _   => exact absurd hr' (hr _)
    case single hb'         => exact hi hb'

theorem bare_core_of_error (h : convert env raw t = .error e) : raw.core.Bare := by
  refine raw.bare_core fun hn => ?_
  rw [← convert_core, hn, convert_null] at h
  contradiction

-- Nothing that the type wraps fails to be wrapped.
theorem error_unwrapped (ho : t.isOptional) (h : convert env raw t = .error e) :
    convert env raw t.unwrapped = .error e := by
  have hb := bare_core_of_error h
  rw [← convert_core, convert_eq_wrap hb ho] at h
  rw [← convert_core]
  cases t <;> cases ho
  case optional t => exact error_of_bind (fun v => by cases v <;> exact ⟨_, rfl⟩) h
  all_goals
    rw [ValueType.unwrapped, ValueType.inner?, Option.getD_some, convert_plain hb rfl] at h ⊢
    exact error_of_map_bind h fun _ => ⟨_, rfl⟩

theorem expected?_self (ho : t.isOptional = false) (hl : ∀ item, t ≠ .list item) (hs : t.schemaInside? = none)
    (h : convert env raw t = .error e) : e.expected? = some (blamed t raw.core) := by
  have hb := bare_core_of_error h
  rw [← convert_core] at h
  cases hr : plain? t
  case none      => cases t <;> simp [plain?, ValueType.isOptional, ValueType.inner?, ValueType.schemaInside?] at *
  case some read =>
    have hu : t.unwrapped = t := by cases t <;> first | rfl | contradiction
    exact hu ▸ expected?_of_plain hr ((convert_plain hb hr).symm.trans h)

-- Induction on the type, as every item that an error names takes a list off it.
theorem exists_blames (hs : t.schemaInside? = none) (h : convert env raw t = .error e) :
    ∃ u v source, Blames env t raw e u v source ∧ source.expected? = some (blamed u v) := by
  induction t generalizing raw e
  case list t hi =>
    have hb := bare_core_of_error h
    by_cases hr : ∃ raws, raw.core = .list raws
    case pos =>
      obtain ⟨raws, hr⟩ := hr
      rw [← convert_core, hr, convert_list] at h
      obtain ⟨i, part, source, hp, hf, hc, rfl⟩ := exists_first_of_convertItems_error (error_of_map h)
      obtain ⟨u, v, source, hx, he⟩ := hi hs hc
      rw [Nat.zero_add]
      exact ⟨u, v, source, .item hr hp hf hc hx, he⟩
    case neg =>
      have hr := not_exists.mp hr
      rw [← convert_core, convert_single hb hr, convert_core] at h
      cases hc : convert env raw t <;> rw [hc] at h <;> cases h
      obtain ⟨u, v, source, hx, he⟩ := hi hs hc
      exact ⟨u, v, source, .single hr hx, he⟩
  case optional t hi =>
    obtain ⟨u, v, source, hx, he⟩ := hi hs (error_unwrapped rfl h)
    exact ⟨u, v, source, .inner rfl hx, he⟩
  case optionalInt | optionalLong | optionalDouble =>
    have h := error_unwrapped rfl h
    exact ⟨_, _, e, .inner rfl (.self rfl nofun h), expected?_self rfl nofun rfl h⟩
  case schema => contradiction
  all_goals exact ⟨_, _, e, .self rfl nofun h, expected?_self rfl nofun hs h⟩

-- Through lists and optional types an error leads to the first item that is refused and to the type it was meant to
-- have, and names that type, except for floating point numbers that are refused on the way to an int as no long
-- numbers.
theorem blames_of_convert (hs : t.schemaInside? = none) (h : convert env raw t = .error e) :
    ∃ u v source, Blames env t raw e u v source ∧ source.expected? = some (blamed u v)
      ∧ (BlamesMeant env t raw e ↔ blamed u v = u) := by
  obtain ⟨u, v, source, hb, he⟩ := exists_blames hs h
  refine ⟨u, v, source, hb, he, fun ⟨u', v', source', hb', he'⟩ => ?_, fun hu => ⟨u, v, source, hb, hu ▸ he⟩⟩
  obtain ⟨rfl, rfl, rfl⟩ := hb.unique hb'
  exact Option.some.inj (he.symm.trans he')

-- The second list is the first one that is refused, for its second item.
theorem blames_of_convert_lists :
    let t := ValueType.list (.optional (.list (.optional .bool)))
    let raw := Value.list [.null, .list [.present (.bool true), .int 3], .int 3]
    let e := ConversionError.element 1 (.element 1 (.incompatible .bool .int))
    convert .empty raw t = .error e ∧ ∃ u v source, Blames .empty t raw e u v source
      ∧ source.expected? = some (blamed u v) ∧ (BlamesMeant .empty t raw e ↔ blamed u v = u) := by
  intro t raw e
  have h : convert .empty raw t = .error e := convert_of_within (n := 8) rfl
  exact ⟨h, blames_of_convert rfl h⟩

-- One and a half is refused as a long number where an int is meant.
theorem not_blamesMeant_fraction :
    let d : Double := ⟨0x3ff8000000000000⟩
    convert .empty (.double d) .int = .error (.outOfRange .long (d.text .plain))
      ∧ ¬BlamesMeant .empty .int (.double d) (.outOfRange .long (d.text .plain)) := by
  intro d
  have hb : (Value.double d).Bare := ⟨rfl, nofun⟩
  refine ⟨?_, ?_⟩
  · rw [convert_int .empty hb, toInt_eq (by simp), toLong, if_neg (by decide)]
    rfl
  · rintro ⟨u, v, source, hx, he⟩
    cases hx
    case self  => cases Option.some.inj he
    case inner => contradiction

end BulletinPipeline.Conversion
