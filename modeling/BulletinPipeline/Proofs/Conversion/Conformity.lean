import BulletinPipeline.Proofs.Conversion.SchemaFaults

namespace BulletinPipeline

-- What loaders give, with any floating point number.
inductive Value.Raw : Value → Prop
  | null : Raw .null
  | bool (b : Bool) : Raw (.bool b)
  | long (n : Int64) : Raw (.long n)
  | double (d : Double) : Raw (.double d)
  | string (s : String) : Raw (.string s)
  | list {items : List Value} : (∀ v ∈ items, Raw v) → Raw (.list items)
  | map {entries : Entries Value} : (∀ e ∈ entries, Raw e.2) → Raw (.map entries)

theorem Value.Raw.bare {v : Value} (h : v.Raw) (hn : v ≠ .null) : v.Bare := by
  refine ⟨?_, hn⟩
  cases h <;> rfl

-- The types that say what their values are made of.
def ValueType.isDefinite : ValueType → Bool
  | bool | int | long | string | optionalInt | optionalLong | schema _ => true
  | list t | optional t                                                => t.isDefinite
  | any | double | map | optionalDouble | object _                     => false

-- So do all accessors of the descriptor, and of those that it contains.
def Environment.Definite (env : Environment) (d : Descriptor) : Prop :=
  ∀ e, env.Contains d e → ∀ a ∈ e.accessors, a.returns.isDefinite

theorem Environment.Definite.of_mentions {env : Environment} {d e : Descriptor} (h : env.Definite d)
    (he : env.Mentions d e) : env.Definite e :=
  fun c hc => h c (.head he hc)

-- The values of a type, all the way down.
inductive Value.Conforms (env : Environment) : ValueType → Value → Prop
  | null {t : ValueType} : t.isOptional = false → Conforms env t .null
  | bool (b : Bool) : Conforms env .bool (.bool b)
  | int (n : Int32) : Conforms env .int (.int n)
  | long (n : Int64) : Conforms env .long (.long n)
  | string (s : String) : Conforms env .string (.string s)
  | list {items : List Value} {t : ValueType} :
    (∀ v ∈ items, Conforms env t v) → Conforms env (.list t) (.list items)
  | absent (t : ValueType) : Conforms env (.optional t) .absent
  | present {v : Value} {t : ValueType} : Conforms env t v → Conforms env (.optional t) (.present v)
  | optionalInt (n : Option Int32) : Conforms env .optionalInt (.optionalInt n)
  | optionalLong (n : Option Int64) : Conforms env .optionalLong (.optionalLong n)
  | config {r : SchemaRef} {ps : Entries Value} :
    env.Defines (env.target r) → Entries.keys ps = (env.target r).table.optionNames →
      (∀ p ∈ (env.target r).table.properties, ∀ v, ps.lookup p.name = some v →
        Conforms env p.accessor.returns v) →
      Conforms env (.schema r) (.config (env.target r).name ps)

namespace Conversion

variable {env : Environment} {raw v : Value} {t : ValueType} {r : SchemaRef} {d : Descriptor}

theorem conforms_nothing (t : ValueType) : t.isDefinite → t.nothing.Conforms env t := by
  cases t
  case optional t     => exact fun _ => .absent t
  case optionalInt    => exact fun _ => .optionalInt none
  case optionalLong   => exact fun _ => .optionalLong none
  case optionalDouble => exact nofun
  all_goals exact fun _ => .null rfl

-- What the type promises about a raw value.
def Sound (env : Environment) (raw : Value) (t : ValueType) : Prop :=
  t.isDefinite → (∀ r, t.schemaInside? = some r → env.Definite (env.target r)) →
    ∀ v, convert env raw t = .ok v → v.Conforms env t

theorem sound_null (env : Environment) (t : ValueType) : Sound env .null t := by
  intro ht _ v h
  cases (convert_null t).symm.trans h
  exact conforms_nothing t ht

theorem sound_plain {read : Value → Result Value} (hb : raw.Bare) (hr : plain? t = some read) :
    Sound env raw t := by
  intro ht _ v h
  rw [convert_plain hb hr] at h
  cases t <;> cases hr <;> try contradiction
  case bool =>
    obtain ⟨_, rfl⟩ := exists_of_map_eq_ok h
    exact .bool _
  case int =>
    obtain ⟨_, rfl⟩ := exists_of_map_eq_ok h
    exact .int _
  case long =>
    obtain ⟨_, rfl⟩ := exists_of_map_eq_ok h
    exact .long _
  case string =>
    obtain ⟨_, rfl⟩ := exists_of_map_eq_ok h
    exact .string _
  case optionalInt =>
    obtain ⟨_, ⟨⟩⟩ := exists_of_bind_eq_ok h
    exact .optionalInt _
  case optionalLong =>
    obtain ⟨_, ⟨⟩⟩ := exists_of_bind_eq_ok h
    exact .optionalLong _

theorem sound_list {raws : List Value} (hi : ∀ raw ∈ raws, Sound env raw t) : Sound env (.list raws) (.list t) := by
  intro ht hd v h
  rw [convert_list] at h
  cases hs : convertItems env t 0 raws <;> rw [hs] at h <;> cases h
  refine .list fun w hw => ?_
  obtain ⟨raw, hr, hc⟩ := exists_mem_of_convertItems hs hw
  exact hi raw hr ht hd w hc

theorem sound_single (hb : raw.Bare) (hl : ∀ raws, raw ≠ .list raws) (hi : Sound env raw t) :
    Sound env raw (.list t) := by
  intro ht hd v h
  rw [convert_single hb hl] at h
  cases hw : convert env raw t <;> rw [hw] at h <;> cases h
  case ok w => exact .list (List.forall_mem_singleton.mpr (hi ht hd w hw))

theorem sound_optional (hb : raw.Bare) (hi : Sound env raw t) : Sound env raw (.optional t) := by
  intro ht hd v h
  rw [convert_optional hb, bind_eq_ok_iff] at h
  obtain ⟨w, hw, h⟩ := h
  have hc := hi ht hd w hw
  by_cases hn : w = .null
  case pos =>
    subst hn
    cases h
    exact .absent t
  case neg =>
    have hp : (ValueType.optional t).wrap w = .ok (.present w) := by
      cases w <;> first | rfl | contradiction
    cases hp.symm.trans h
    exact .present hc

theorem conforms_properties (u : env.NamesUnique) (hv : env.Valid d) (hd : env.Definite d) {raws : Entries Value}
    {c : Config} (hi : ∀ e ∈ raws, ∀ t, Sound env e.2 t)
    (h : env.configure (Converter.standard.toResult env) d raws = .ok c) :
    c.schema = d.name ∧ Entries.keys c.properties = d.table.optionNames
      ∧ ∀ p ∈ d.table.properties, ∀ v, c.properties.lookup p.name = some v → v.Conforms env p.accessor.returns := by
  rw [u.configure_eq hv _ fun _ _ => rfl, Schema.assemble_eq_ok_iff d.ascending_optionNames] at h
  obtain ⟨_, hs, hk, hp⟩ := h
  refine ⟨hs, hk, fun p hm v hl => ?_⟩
  obtain ⟨w, hw, hy⟩ := hp p hm
  cases hw.symm.trans hl
  have ha := (hv.self_legal.mem_properties.mp hm).1
  have ht := hd d .refl _ ha
  have hr (r : SchemaRef) (hr : p.accessor.returns.schemaInside? = some r) : env.Definite (env.target r) :=
    hd.of_mentions ⟨_, ha, r, hr, rfl⟩
  cases hy
  case absent hn he =>
    have hn : v = p.accessor.returns.nothing := by rw [ValueType.nothing, he]; rfl
    exact hn ▸ conforms_nothing _ ht
  case converted w hn hc hw => exact hi _ (Entries.mem_of_lookup hn) _ ht hr _ hw
  case nested r nested c hn hr' hc =>
    have hw := (convert_schema_eq_ok_iff u).mpr ⟨hv.of_edge (hv.edge_of_nested? hm hr'), c, hc, rfl⟩
    have hs := hi _ (Entries.mem_of_lookup hn) (.schema r) rfl (fun q hq => ?definite) _ hw
    case definite =>
      cases hq
      exact hr r (ValueType.schemaInside?_of_schemaRef? hr')
    rw [Property.isOptional]
    cases ValueType.eq_of_schemaRef? hr'
    case inl he =>
      rw [he]
      exact hs
    case inr he =>
      rw [he]
      exact .present hs

theorem sound_schema (u : env.NamesUnique) {raws : Entries Value} (hi : ∀ e ∈ raws, ∀ t, Sound env e.2 t) :
    Sound env (.map raws) (.schema r) := by
  intro _ hd v h
  obtain ⟨hv, c, hc, rfl⟩ := (convert_schema_eq_ok_iff u).mp h
  obtain ⟨hs, hk, hp⟩ := conforms_properties u hv (hd r rfl) hi hc
  rw [Config.toValue, hs]
  exact .config (Environment.defines_of_resolve? (Environment.resolve?_of_legal_target hv.self_legal)) hk hp

-- For one raw value, induction on the type.
theorem sound_of_parts (u : env.NamesUnique) (hl : raw.Raw)
    (hi : ∀ part, sizeOf part < sizeOf raw → part.Raw → ∀ t, Sound env part t) (t : ValueType) : Sound env raw t := by
  by_cases hn : raw = .null
  case pos => exact hn ▸ sound_null env t
  case neg =>
    have hb := hl.bare hn
    induction t
    case list t ht =>
      by_cases hr : ∃ raws, raw = .list raws
      case neg => exact sound_single hb (not_exists.mp hr) ht
      case pos =>
        obtain ⟨raws, rfl⟩ := hr
        cases hl
        case list hl =>
          refine sound_list fun part hm => hi part ?_ (hl part hm) t
          have := List.sizeOf_lt_of_mem hm
          rw [Value.list.sizeOf_spec]
          omega
    case optional t ht => exact sound_optional hb ht
    case schema r =>
      cases hl
      case map raws hl =>
        refine sound_schema u fun e hm => hi e.2 ?_ (hl e hm)
        have hlt := sizeOf_lt_of_mem_entries hm
        rw [Value.map.sizeOf_spec]
        omega
      all_goals exact fun _ _ _ h => nomatch (convert_schema_of_bare hb nofun nofun).symm.trans h
    all_goals exact sound_plain hb rfl

theorem sound_of_raw (u : env.NamesUnique) (raw : Value) (hl : raw.Raw) (t : ValueType) : Sound env raw t :=
  sound_of_parts u hl (fun part _ hl => sound_of_raw u part hl) t
termination_by sizeOf raw

end Conversion
end BulletinPipeline
