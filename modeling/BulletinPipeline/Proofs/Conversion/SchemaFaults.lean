import BulletinPipeline.Proofs.Conversion.NestedMaps
import BulletinPipeline.Proofs.Conversion.Refusal
import BulletinPipeline.Proofs.Recursion.Evaluation

namespace BulletinPipeline

open Relation

namespace ErrorKind

def isStructural : ErrorKind → Bool
  | schemaViolation | circularReference => true
  | _                                   => false

end ErrorKind

theorem Error.isStructural_schema (fault : SchemaError) : (Error.schema fault).kind.isStructural := by
  cases fault <;> simp [kind, ErrorKind.isStructural]

-- The data is to blame, and not a schema.
def ConversionError.BlamesData (source : ConversionError) : Prop :=
  ∀ e, source.nested? = some e → e.kind.isStructural = false

namespace ConversionError.BlamesData

variable {source : ConversionError}

theorem of_nested? (h : source.nested? = none) : source.BlamesData :=
  fun _ he => nomatch h.symm.trans he

theorem element (h : source.BlamesData) (i : Nat) : (element i source).BlamesData :=
  h

end ConversionError.BlamesData

theorem Error.isStructural_conversion {source : ConversionError} (target option : String)
    (h : source.BlamesData) : (conversion target option source).kind.isStructural = false := by
  rw [kind, source.nestedKind?_eq]
  cases hs : source.nested?
  case none   => rfl
  case some e => exact h e hs

namespace Environment

-- An accessor speaks of a schema, whatever lists and wrappers stand around it.
def Mentions (env : Environment) (d e : Descriptor) : Prop :=
  ∃ a ∈ d.accessors, ∃ r, a.returns.schemaInside? = some r ∧ env.target r = e

abbrev Contains (env : Environment) : Descriptor → Descriptor → Prop :=
  ReflTransGen env.Mentions

def ValidThroughout (env : Environment) (d : Descriptor) : Prop :=
  ∀ e, env.Contains d e → env.Valid e

variable {env : Environment} {d e : Descriptor}

namespace ValidThroughout

theorem valid (h : env.ValidThroughout d) : env.Valid d :=
  h d .refl

theorem of_mentions (h : env.ValidThroughout d) (he : env.Mentions d e) : env.ValidThroughout e :=
  fun c hc => h c (.head he hc)

end ValidThroughout
end Environment

namespace Conversion

variable {env : Environment} {raw v : Value} {t : ValueType} {r : SchemaRef} {source : ConversionError}

theorem nested?_of_expected? (h : source.expected? = some t) : source.nested? = none := by
  cases source <;> first | rfl | contradiction

theorem blamesData_of_plain {read : Value → Result Value} (hr : plain? t = some read) (hb : raw.Bare)
    (h : convert env raw t = .error source) : source.BlamesData :=
  .of_nested? (nested?_of_expected? (expected?_of_plain hr ((convert_plain hb hr).symm.trans h)))

theorem exists_mem_of_convertItems_error {raws : List Value} {i : Nat}
    (h : convertItems env t i raws = .error source) :
    ∃ raw ∈ raws, ∃ j e, convert env raw t = .error e ∧ source = .element j e := by
  obtain ⟨k, raw, e, hr, _, he, rfl⟩ := exists_first_of_convertItems_error h
  exact ⟨raw, List.mem_of_getElem? hr, _, e, he, rfl⟩

theorem convert_map_of_valid (u : env.NamesUnique) (hv : env.Valid (env.target r)) (raws : Entries Value) :
    convert env (.map raws) (.schema r)
      = ((env.configure (Converter.standard.toResult env) (env.target r) raws).map
          Config.toValue).mapError .nested := by
  rw [convert_schema, (u.answers_resolve_fill hv raws .none Memory.keeps_none).1]
  cases env.configure (Converter.standard.toResult env) (env.target r) raws <;> rfl

-- Whatever conversion to the type looks at is valid.
def Settled (env : Environment) (t : ValueType) : Prop :=
  ∀ r, t.schemaInside? = some r → env.ValidThroughout (env.target r)

theorem blamesData_of_schema (u : env.NamesUnique)
    (hm : ∀ raws, sizeOf raws < sizeOf raw → ∀ d e, env.ValidThroughout d →
      env.configure (Converter.standard.toResult env) d raws = .error e → e.kind.isStructural = false)
    (hv : env.ValidThroughout (env.target r)) (hb : raw.Bare)
    (h : convert env raw (.schema r) = .error source) : source.BlamesData := by
  rcases raw.eq_map_or_config_or with ⟨raws, rfl⟩ | ⟨s, ps, rfl⟩ | ⟨hs, hc⟩
  · rw [convert_map_of_valid u hv.valid] at h
    cases hc : env.configure (Converter.standard.toResult env) (env.target r) raws <;> rw [hc] at h <;>
      cases h
    intro e he
    cases he
    exact hm raws (by simp) _ _ hv hc
  · rw [convert_config] at h
    split at h <;> cases h
    exact .of_nested? rfl
  · rw [convert_schema_of_bare hb hs hc] at h
    cases h
    exact .of_nested? rfl

-- For one raw value, induction on the type.
theorem blamesData_of_parts (u : env.NamesUnique)
    (hi : ∀ part, sizeOf part < sizeOf raw → ∀ t source, Settled env t →
      convert env part t = .error source → source.BlamesData)
    (hm : ∀ raws, sizeOf raws < sizeOf raw → ∀ d e, env.ValidThroughout d →
      env.configure (Converter.standard.toResult env) d raws = .error e → e.kind.isStructural = false)
    (ht : Settled env t) (h : convert env raw t = .error source) : source.BlamesData := by
  rcases raw.eq_null_or_held_or_bare with hr | ⟨held, hr⟩ | hb
  · subst hr
    exact nomatch (convert_null t).symm.trans h
  · rw [convert_held hr] at h
    split at h
    case isTrue => contradiction
    case isFalse =>
      cases held
      case none   => contradiction
      case some w => exact hi w (sizeOf_lt_of_held? hr) t source ht h
  · induction t generalizing source
    case list t hl =>
      by_cases hs : ∃ raws, raw = .list raws
      case pos =>
        obtain ⟨raws, rfl⟩ := hs
        rw [convert_list] at h
        cases hc : convertItems env t 0 raws <;> rw [hc] at h <;> cases h
        obtain ⟨part, hp, j, e, he, rfl⟩ := exists_mem_of_convertItems_error hc
        refine (hi part ?_ t e ht he).element j
        have := List.sizeOf_lt_of_mem hp
        rw [Value.list.sizeOf_spec]
        omega
      case neg =>
        rw [convert_single hb (not_exists.mp hs)] at h
        cases hc : convert env raw t <;> rw [hc] at h <;> cases h
        exact (hl ht hc).element 0
    case optional t ho =>
      rw [convert_optional hb] at h
      exact ho ht (error_of_bind (fun v => by cases v <;> exact ⟨_, rfl⟩) h)
    case schema r => exact blamesData_of_schema u hm (ht r rfl) hb h
    all_goals exact blamesData_of_plain rfl hb h

-- For one raw map, over the property that is at fault.
theorem isStructural_of_parts (u : env.NamesUnique) {d : Descriptor} {raws : Entries Value} {e : Error}
    (hi : ∀ part, sizeOf part < sizeOf raws → ∀ t source, Settled env t →
      convert env part t = .error source → source.BlamesData)
    (hm : ∀ nested, sizeOf nested < sizeOf raws → ∀ d e, env.ValidThroughout d →
      env.configure (Converter.standard.toResult env) d nested = .error e → e.kind.isStructural = false)
    (hd : env.ValidThroughout d)
    (h : env.configure (Converter.standard.toResult env) d raws = .error e) :
    e.kind.isStructural = false := by
  -- What an accessor speaks of is contained, whether it is built in place or met by conversion.
  rw [u.configure_eq hd.valid raws fun _ _ => rfl] at h
  rcases Schema.exists_yields_of_assemble h with ⟨k, rfl⟩ | ⟨p, hp, hy⟩
  · rfl
  · have hs : Settled env p.accessor.returns := fun r hr =>
      hd.of_mentions ⟨p.accessor, (hd.valid.self_legal.mem_properties.mp hp).1, r, hr, rfl⟩
    cases hy
    case missing => rfl
    case faulty r nested hl hr he =>
      exact hm nested (Schema.sizeOf_lt_of_lookup_map hl) _ e
        (hs r (ValueType.schemaInside?_of_schemaRef? hr)) he
    case refused v source hl _ he =>
      exact Error.isStructural_conversion _ _ (hi v (sizeOf_lt_of_lookup hl) _ source hs he)

mutual

theorem blamesData_of_convert (u : env.NamesUnique) (raw : Value) (t : ValueType) {source : ConversionError}
    (ht : Settled env t) (h : convert env raw t = .error source) : source.BlamesData :=
  blamesData_of_parts u (fun part _ t _ ht h => blamesData_of_convert u part t ht h)
    (fun raws _ _ _ hd h => isStructural_of_configure u raws hd h) ht h
termination_by sizeOf raw

-- What is valid throughout has no fault left for data to meet.
theorem isStructural_of_configure (u : env.NamesUnique) {d : Descriptor} (raws : Entries Value) {e : Error}
    (hd : env.ValidThroughout d)
    (h : env.configure (Converter.standard.toResult env) d raws = .error e) :
    e.kind.isStructural = false :=
  isStructural_of_parts u (fun part _ t _ ht h => blamesData_of_convert u part t ht h)
    (fun nested _ _ _ hd h => isStructural_of_configure u nested hd h) hd h
termination_by sizeOf raws

end

theorem exists_of_resolve_eq_error {m : Memory} {e : Error} (h : (Schema.resolve env r m).1 = .error e) :
    ∃ fault, e = .schema fault := by
  unfold Schema.resolve at h
  split at h
  case h_1 => exact ⟨_, (Except.error.inj h).symm⟩
  case h_2 =>
    split at h
    case h_1 => exact ⟨_, (Except.error.inj h).symm⟩
    case h_2 => contradiction

theorem exists_convert_of_not_valid (u : env.NamesUnique) (hv : ¬env.Valid (env.target r))
    (raws : Entries Value) :
    ∃ fault, convert env (.map raws) (.schema r) = .error (.nested (.schema fault)) := by
  have hr (s : Schema) : (Schema.resolve env r .none).1 ≠ .ok s :=
    fun h => hv (u.valid_of_resolve Memory.keeps_none h)
  rw [convert_schema, bind_apply]
  cases hs : Schema.resolve env r .none
  case mk x m =>
    cases x
    case ok s    => exact absurd (congrArg Prod.fst hs) (hr s)
    case error e =>
      have ⟨fault, hf⟩ := exists_of_resolve_eq_error (congrArg Prod.fst hs)
      exact ⟨fault, hf ▸ rfl⟩

end Conversion

namespace Schema

-- A map for one property, and null for all others.
def mapAt (s : Schema) (name : String) (nested : Entries Value) : Entries Value :=
  s.properties.map fun p => (p.name, if p.name = name then .map nested else .null)

variable {s : Schema} {p : Property} {name : String} {nested : Entries Value}

theorem keys_mapAt (s : Schema) (name : String) (nested : Entries Value) :
    Entries.keys (s.mapAt name nested) = s.optionNames := by
  simp [mapAt, Entries.keys, optionNames]

theorem ascending_mapAt (hs : s.optionNames.Pairwise (· < ·)) : (s.mapAt name nested).Ascending := by
  rw [Entries.Ascending, keys_mapAt]
  exact hs

theorem lookup_mapAt (hs : s.optionNames.Pairwise (· < ·)) (hp : p ∈ s.properties) :
    (s.mapAt name nested).lookup p.name = some (if p.name = name then .map nested else .null) :=
  (ascending_mapAt hs).lookup_eq_some_iff.mpr (List.mem_map_of_mem hp)

end Schema

namespace Environment.NamesUnique

open Conversion

variable {env : Environment} {d e : Descriptor} {r : SchemaRef} {a : Signature}

-- A fault in a nested map comes out of a schema that mentions what the map is for, under the same kind:
-- bare where the member returns the schema itself, and through conversion where it stands inside a type.
theorem exists_configure_eq_error (u : env.NamesUnique) (hd : env.Valid d) (ha : a ∈ d.accessors)
    (hr : a.returns.schemaInside? = some r) {nested : Entries Value} {err : Error}
    (h : convert env (.map nested) (.schema r) = .error (.nested err)) :
    ∃ raw err', raw.Ascending ∧ env.configure (Converter.standard.toResult env) d raw = .error err'
      ∧ err'.kind = err.kind := by
  let p : Property := ⟨propertyName a.name, a⟩
  let inner (r : SchemaRef) := env.configure (Converter.standard.toResult env) (env.target r)
  have hp : p ∈ d.table.properties := hd.self_legal.mem_properties.mpr ⟨ha, rfl⟩
  have hs := d.ascending_optionNames
  have hl : (d.table.mapAt p.name nested).lookup p.name = some (.map nested) := by
    simp [Schema.lookup_mapAt hs hp]
  have hy : ∃ err', p.Yields (Converter.standard.toResult env) inner d.table.name
      (d.table.mapAt p.name nested) (.error err') ∧ err'.kind = err.kind := by
    cases hn : p.nested?
    case some r' =>
      cases hr.symm.trans (ValueType.schemaInside?_of_schemaRef? hn)
      have hv := hd.of_edge (hd.edge_of_nested? hp hn)
      rw [convert_map_of_valid u hv] at h
      cases hc : inner r nested <;> simp only [inner] at hc <;> rw [hc] at h <;> cases h
      exact ⟨err, .faulty hl hn hc, rfl⟩
    case none =>
      have ⟨source, hc, hs⟩ := exists_convert_eq_error hr h
      refine ⟨_, .refused hl (fun r _ hr => ?_) hc, Error.kind_of_nested _ _ hs⟩
      exact nomatch hn.symm.trans hr
  have ⟨err', hy, hk⟩ := hy
  refine ⟨d.table.mapAt p.name nested, err', Schema.ascending_mapAt hs, ?_, hk⟩
  rw [u.configure_eq hd _ fun _ _ => rfl]
  refine Schema.assemble_of_yields hs (Schema.ascending_mapAt hs) ?_ hp (fun q hq hlt => ?_) hy
  · simp [Schema.keys_mapAt]
  · have hl : (d.table.mapAt p.name nested).lookup q.name = some .null := by
      simp [Schema.lookup_mapAt hs hq, ne_of_lt hlt]
    exact ⟨_, .converted hl (fun _ _ _ => nofun) (convert_null _)⟩

-- Along what mentions what, down to a schema that is not valid.
theorem exists_structural_of_contains (u : env.NamesUnique) (h : env.Contains d e) (he : ¬env.Valid e)
    (hd : env.Valid d) : ∃ raw err, raw.Ascending
      ∧ env.configure (Converter.standard.toResult env) d raw = .error err ∧ err.kind.isStructural := by
  induction h using ReflTransGen.head_induction_on
  case refl => exact absurd hd he
  case head d c hm _ hi =>
    have ⟨a, ha, r, hr, ht⟩ := hm
    subst ht
    by_cases hv : env.Valid (env.target r)
    case pos =>
      have ⟨nested, err, _, hc, hs⟩ := hi hv
      have hm : convert env (.map nested) (.schema r) = .error (.nested err) := by
        rw [convert_map_of_valid u hv, hc]
        rfl
      have ⟨raw, err', hr, hc, hk⟩ := u.exists_configure_eq_error hd ha hr hm
      exact ⟨raw, err', hr, hc, hk ▸ hs⟩
    case neg =>
      have ⟨fault, hm⟩ := exists_convert_of_not_valid u hv []
      have ⟨raw, err, hr, hc, hk⟩ := u.exists_configure_eq_error hd ha hr hm
      exact ⟨raw, err, hr, hc, hk ▸ Error.isStructural_schema fault⟩

end Environment.NamesUnique

namespace Materializer

variable {env : Environment} {d : Descriptor}

-- No data brings out a fault of a schema once a descriptor is found to be valid.
def FoundEarly (env : Environment) (d : Descriptor) : Prop :=
  ∀ m s raw e, Reached env .standard env.Defines m → (validate env d m).1 = .ok s → raw.Ascending →
    (materialize env .standard d raw m).1 = .error e → e.kind.isStructural = false

-- Validation looks at the schemas that members return, at most one optional wrapper removed; schemas inside lists
-- are only looked at when a map for them is met.
theorem foundEarly_iff (u : env.NamesUnique) (hd : env.Defines d) :
    FoundEarly env d ↔ (env.Valid d → env.ValidThroughout d) := by
  constructor
  case mp =>
    intro h hv c hc
    by_contra hn
    have ⟨raw, e, hr, he, hs⟩ := u.exists_structural_of_contains hc hn hv
    have ⟨s, hk⟩ := (exists_validate_ok_iff u.inherits_valid Memory.keeps_fresh hd).mpr hv
    have ha := (u.answers_materialize hv hd .standard raw .fresh Memory.keeps_fresh).1
    simp [h .fresh s raw e .fresh hk hr (ha.trans he)] at hs
  case mpr =>
    intro h m s raw e hm hs _ he
    have hm := hm.keeps u.inherits_valid
    have hv := (exists_validate_ok_iff u.inherits_valid hm hd).mp ⟨s, hs⟩
    rw [(u.answers_materialize hv hd .standard raw m hm).1] at he
    exact Conversion.isStructural_of_configure u raw (h hv) he

theorem foundEarly_iff_job :
    jobs.NamesUnique ∧ jobs.Defines job
      ∧ (FoundEarly jobs job ↔ (jobs.Valid job → jobs.ValidThroughout job)) := by
  have u := namesUnique_jobs
  have hd : jobs.Defines job := List.mem_cons_self
  exact ⟨u, hd, foundEarly_iff u hd⟩

def shelf : Descriptor :=
  .schema "Shelf" [("items", .list (.schema ⟨"Item", "Item"⟩))]

-- A list of what is no schema at all.
def shelves : Environment where
  descriptors := [("Item", .concrete "Item"), ("Shelf", shelf)]

theorem not_foundEarly_shelf :
    shelves.NamesUnique ∧ shelves.Defines shelf ∧ ¬FoundEarly shelves shelf := by
  refine ⟨Environment.namesUnique_of_nodup (by decide), .tail _ (.head _), fun h => ?_⟩
  have hs : (validate shelves shelf .fresh).1 = .ok shelf.table := validate_of_within (n := 1) rfl
  have hr : Entries.Ascending [("items", Value.list [.map []])] := List.pairwise_singleton ..
  have he : (materialize shelves .standard shelf [("items", .list [.map []])] .fresh).1
      = .error (.conversion "Shelf" "items"
          (.element 0 (.nested (.schema (.violation "Item" .concrete))))) :=
    materialize_of_within (n := 4) rfl
  have hf := h .fresh _ _ _ .fresh hs hr he
  simp [Error.kind, ConversionError.nestedKind?, ErrorKind.isStructural] at hf

end Materializer
end BulletinPipeline
