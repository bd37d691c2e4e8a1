import BulletinPipeline.Proofs.Conversion.Core
import BulletinPipeline.Proofs.Schema.Outcome
import BulletinPipeline.Proofs.ValueType

namespace BulletinPipeline

namespace Environment

-- The names that a configuration for a reference may have: that of the reference, and that of what it stands for.
def GoesBy (env : Environment) (r : SchemaRef) (name : String) : Prop :=
  name = r.name ∨ ∃ d, env.resolve? r = some d ∧ d.name = name

-- The reference goes by the name of what it stands for.
def NamesTarget (env : Environment) (r : SchemaRef) : Prop :=
  ∀ d, env.resolve? r = some d → d.name = r.name

-- So do the references that a type speaks of.
def NamesTargets (env : Environment) (t : ValueType) : Prop :=
  ∀ r, t.schemaInside? = some r → env.NamesTarget r

theorem GoesBy.eq_name {env : Environment} {r : SchemaRef} {name : String} (h : env.GoesBy r name)
    (hn : env.NamesTarget r) : name = r.name := by
  cases h
  case inl h => exact h
  case inr h =>
    obtain ⟨d, hd, rfl⟩ := h
    exact hn d hd

end Environment

-- The values that conversion gives for a type. What a wrapper holds is something.
inductive Value.Settled (env : Environment) : ValueType → Value → Prop
  | null {t : ValueType} : t.isOptional = false → Settled env t .null
  | any {v : Value} : v.held? = none → Settled env .any v
  | bool (b : Bool) : Settled env .bool (.bool b)
  | int (n : Int32) : Settled env .int (.int n)
  | long (n : Int64) : Settled env .long (.long n)
  | double (d : Double) : Settled env .double (.double d)
  | string (s : String) : Settled env .string (.string s)
  | list {items : List Value} {t : ValueType} : (∀ v ∈ items, Settled env t v) → Settled env (.list t) (.list items)
  | map (entries : Entries Value) : Settled env .map (.map entries)
  | absent (t : ValueType) : Settled env (.optional t) .absent
  | present {v : Value} {t : ValueType} : v.core.Bare → Settled env t v → Settled env (.optional t) (.present v)
  | optionalInt (n : Option Int32) : Settled env .optionalInt (.optionalInt n)
  | optionalLong (n : Option Int64) : Settled env .optionalLong (.optionalLong n)
  | optionalDouble (d : Option Double) : Settled env .optionalDouble (.optionalDouble d)
  | config {r : SchemaRef} {name : String} (properties : Entries Value) :
    env.GoesBy r name → Settled env (.schema r) (.config name properties)
  | object (o : Object) : Settled env (.object o.type) (.object o)

theorem ValueType.settled_nothing (env : Environment) (t : ValueType) : t.nothing.Settled env t := by
  cases t
  case optional t     => exact .absent t
  case optionalInt    => exact .optionalInt none
  case optionalLong   => exact .optionalLong none
  case optionalDouble => exact .optionalDouble none
  all_goals exact .null rfl

namespace Environment

variable {env : Environment} {D P : Descriptor → Prop} {d : Descriptor} {path : List String} {m : Memory} {s : Schema}

theorem name_of_validate (hm : m.Keeps D P) (h : (validate env d path m).1 = .ok s) : s.name = d.name := by
  obtain ⟨e, rfl, he⟩ := exists_table_of_validate hm h
  cases he
  case inl he => exact congrArg Descriptor.name he
  case inr he => exact Descriptor.name_eq_of_same he.1

end Environment

namespace Schema

variable {env : Environment} {convert : Value → Signature → Except ConversionError Value} {s : Schema}
  {raw : Entries Value} {c : Config} {m : Memory}

theorem goesBy_of_resolve {D P : Descriptor → Prop} {r : SchemaRef} (hm : m.Keeps D P)
    (h : (resolve env r m).1 = .ok s) : env.GoesBy r s.name := by
  unfold resolve at h
  split at h
  case h_1 => contradiction
  case h_2 d hd =>
    have hs : (validate env d [] m).1 = .ok s := by
      split at h <;> simp_all
    exact .inr ⟨d, hd, (Environment.name_of_validate hm hs).symm⟩

theorem name_of_fill {path : List String} (h : (s.fill env convert raw path m).1 = .ok c) :
    c.schema = s.name := by
  rw [fill_eq] at h
  split at h
  case isTrue => contradiction
  cases hk : s.unknown? raw <;> rw [assemble, hk] at h
  case some => contradiction
  case none =>
    dsimp only at h
    rw [bind_apply] at h
    split at h
    case h_1 => exact congrArg Config.schema (Except.ok.inj h).symm
    case h_2 => contradiction

end Schema

namespace Conversion

variable {env : Environment} {raw v : Value} {t : ValueType} {r : SchemaRef}

-- A value of the type, and something at that.
structure Gives (env : Environment) (t : ValueType) (v : Value) : Prop where
  settled : v.Settled env t
  bare    : v.core.Bare

theorem gives_of_map {α : Type} {x : Result α} {f : α → Value} (hs : ∀ a, (f a).Settled env t)
    (hb : ∀ a, (f a).core.Bare) (h : x.map f = .ok v) : Gives env t v := by
  obtain ⟨a, rfl⟩ := exists_of_map_eq_ok h
  exact ⟨hs a, hb a⟩

theorem gives_of_plain {read : Value → Result Value} (hr : plain? t = some read) (hb : raw.Bare)
    (h : read raw = .ok v) : Gives env t v := by
  cases t <;> cases hr
  case any =>
    cases h
    exact ⟨.any hb.held?, hb.core_eq.symm ▸ hb⟩
  case bool   => exact gives_of_map .bool (fun _ => ⟨rfl, nofun⟩) h
  case int    => exact gives_of_map .int (fun _ => ⟨rfl, nofun⟩) h
  case long   => exact gives_of_map .long (fun _ => ⟨rfl, nofun⟩) h
  case double => exact gives_of_map .double (fun _ => ⟨rfl, nofun⟩) h
  case string => exact gives_of_map .string (fun _ => ⟨rfl, nofun⟩) h
  case map    => cases raw <;> cases h <;> exact ⟨.map _, rfl, nofun⟩
  case optionalInt =>
    obtain ⟨_, ⟨⟩⟩ := exists_of_bind_eq_ok h
    exact ⟨.optionalInt _, rfl, nofun⟩
  case optionalLong =>
    obtain ⟨_, ⟨⟩⟩ := exists_of_bind_eq_ok h
    exact ⟨.optionalLong _, rfl, nofun⟩
  case optionalDouble =>
    obtain ⟨_, ⟨⟩⟩ := exists_of_bind_eq_ok h
    exact ⟨.optionalDouble _, rfl, nofun⟩
  case object =>
    cases raw <;> try contradiction
    case object o =>
      dsimp only at h
      split at h <;> cases h
      case isTrue ht => exact ht ▸ ⟨.object o, rfl, nofun⟩

theorem gives_of_schema (hb : raw.Bare) (h : convert env raw (.schema r) = .ok v) : Gives env (.schema r) v := by
  rcases raw.eq_map_or_config_or with ⟨raws, rfl⟩ | ⟨s, ps, rfl⟩ | ⟨hm, hc⟩
  · rw [convert_schema, bind_apply] at h
    split at h
    case h_2 => contradiction
    case h_1 c hc =>
      cases h
      split at hc
      case h_2 => contradiction
      case h_1 s _ hs =>
        have hm : Memory.none.Keeps (fun _ => True) Descriptor.Legal := Memory.keeps_none
        have hr := Schema.goesBy_of_resolve hm (congrArg Prod.fst hs)
        exact ⟨.config _ (Schema.name_of_fill hc ▸ hr), c.bare_toValue⟩
  · rw [convert_config] at h
    split at h
    case isFalse => contradiction
    case isTrue hs =>
      cases h
      exact ⟨.config ps (.inl hs), Config.bare_toValue ⟨s, ps⟩⟩
  · rw [convert_schema_of_bare hb hm hc] at h
    contradiction

-- For one raw value that is something, induction on the type.
theorem gives_of_parts
    (hi : ∀ part, sizeOf part < sizeOf raw → ∀ t w, convert env part t = .ok w → w.Settled env t)
    (hb : raw.Bare) (h : convert env raw t = .ok v) : Gives env t v := by
  induction t generalizing v
  case list t ht =>
    by_cases hl : ∃ raws, raw = .list raws
    case pos =>
      obtain ⟨raws, rfl⟩ := hl
      rw [convert_list] at h
      cases hs : convertItems env t 0 raws <;> rw [hs] at h <;> cases h
      refine ⟨.list fun w hw => ?_, rfl, nofun⟩
      have ⟨part, hp, hc⟩ := exists_mem_of_convertItems hs hw
      refine hi part ?_ t w hc
      have := List.sizeOf_lt_of_mem hp
      rw [Value.list.sizeOf_spec]
      omega
    case neg =>
      rw [convert_single hb (not_exists.mp hl)] at h
      cases hw : convert env raw t <;> rw [hw] at h <;> cases h
      exact ⟨.list (List.forall_mem_singleton.mpr (ht hw).settled), rfl, nofun⟩
  case optional t ht =>
    rw [convert_optional hb, bind_eq_ok_iff] at h
    have ⟨w, hw, h⟩ := h
    have hg := ht hw
    cases (ValueType.wrap_optional t (Value.ne_null_of_bare_core hg.bare)).symm.trans h
    exact ⟨.present hg.bare hg.settled, hg.bare⟩
  case schema r => exact gives_of_schema hb h
  all_goals exact gives_of_plain rfl hb ((convert_plain hb rfl).symm.trans h)

theorem settled_of_convert (raw : Value) (t : ValueType) {v : Value} (h : convert env raw t = .ok v) :
    v.Settled env t := by
  rw [← convert_core] at h
  by_cases hn : raw.core = .null
  case pos =>
    rw [hn, convert_null] at h
    exact Except.ok.inj h ▸ t.settled_nothing env
  case neg =>
    refine (gives_of_parts (fun part hp t w hw => ?_) (Value.bare_core hn) h).settled
    have := raw.sizeOf_core_le
    exact settled_of_convert part t hw
termination_by sizeOf raw

theorem gives_of_bare (hb : raw.Bare) (h : convert env raw t = .ok v) : Gives env t v :=
  gives_of_parts (fun part _ t _ hw => settled_of_convert part t hw) hb h

-- Conversion looks at the core alone, and what it gives for null is null or an empty wrapper, as it is for nothing
-- else.
theorem convert_transparent (env : Environment) (raw : Value) (t : ValueType) :
    convert env raw t = convert env raw.core t
    ∧ (convert env raw t = .ok .null ↔ t.isOptional = false ∧ raw.core = .null)
    ∧ ((∃ v, convert env raw t = .ok v ∧ v.held? = some none) ↔ t.isOptional = true ∧ raw.core = .null) := by
  refine ⟨(convert_core env raw t).symm, ?_⟩
  rw [← convert_core]
  by_cases hn : raw.core = .null
  case pos =>
    rw [hn, convert_null]
    cases t <;> simp [ValueType.nothing, ValueType.empty?, ValueType.isOptional, ValueType.inner?, Value.held?]
  case neg =>
    have hb := Value.bare_core hn
    refine ⟨iff_of_false (fun h => ?null) fun h => hn h.2, iff_of_false (fun h => ?empty) fun h => hn h.2⟩
    case null => exact Value.ne_null_of_bare_core (gives_of_bare hb h).bare rfl
    case empty =>
      obtain ⟨v, h, he⟩ := h
      exact (gives_of_bare hb h).bare.ne_null (Value.core_of_held?_eq_some he)

end Conversion
end BulletinPipeline
