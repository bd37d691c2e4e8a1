import BulletinPipeline.Proofs.Conversion.Basic
import BulletinPipeline.Proofs.Schema.Agreement
import BulletinPipeline.Proofs.Schema.Outcome
import BulletinPipeline.Proofs.ValueType

namespace BulletinPipeline

open Relation

-- The error in a nested configuration that a conversion error comes from.
def ConversionError.nested? : ConversionError → Option Error
  | .nested e         => some e
  | .element _ source => source.nested?
  | _                 => none

theorem ConversionError.nestedKind?_eq :
    ∀ source : ConversionError, source.nestedKind? = source.nested?.map Error.kind
  | .nested e         => by rw [nestedKind?, nested?, Option.map_some]
  | .element _ source => by rw [nestedKind?, nested?, nestedKind?_eq source]
  | .incompatible .. | .outOfRange .. | .unreadable .. | .noSuchParameter .. => by
    rw [nestedKind?, nested?, Option.map_none] <;> exact nofun

namespace Error

-- An option is at fault because a configuration nested in it is.
def Covers (e inner : Error) : Prop :=
  ∃ target option source, e = .conversion target option source ∧ source.nested? = some inner

abbrev Reports : Error → Error → Prop :=
  ReflTransGen Covers

theorem kind_of_nested {source : ConversionError} {e : Error} (target option : String)
    (h : source.nested? = some e) : (conversion target option source).kind = e.kind := by
  rw [kind, source.nestedKind?_eq, h]
  rfl

theorem kind_eq_of_reports {e root : Error} (h : e.Reports root) : e.kind = root.kind := by
  induction h
  case refl => rfl
  case tail hc hi =>
    obtain ⟨target, option, source, rfl, hs⟩ := hc
    rw [hi, kind_of_nested target option hs]

end Error

namespace Conversion

variable {env : Environment} {raw : Entries Value} {t : ValueType} {r : SchemaRef}

theorem bare_map (raw : Entries Value) : (Value.map raw).Bare :=
  ⟨rfl, nofun⟩

-- A map is no list, so that lists and wrappers around a schema hand it on as it is.
theorem exists_convert_eq_error {e : Error} (ht : t.schemaInside? = some r)
    (h : convert env (.map raw) (.schema r) = .error (.nested e)) :
    ∃ source, convert env (.map raw) t = .error source ∧ source.nested? = some e := by
  induction t
  case schema =>
    cases ht
    exact ⟨.nested e, h, rfl⟩
  case list t hi =>
    obtain ⟨source, hs, he⟩ := hi ht
    refine ⟨.element 0 source, ?_, he⟩
    rw [convert_single (bare_map raw) (fun _ => nofun), hs]
  case optional t hi =>
    obtain ⟨source, hs, he⟩ := hi ht
    refine ⟨source, ?_, he⟩
    rw [convert_optional (bare_map raw), hs]
    rfl
  all_goals contradiction

end Conversion

namespace Property

variable {convert : Value → Signature → Except ConversionError Value}
  {inner : SchemaRef → Entries Value → Except Error Config} {schema : String}
  {raw nested : Entries Value} {p : Property} {r : SchemaRef} {v : Value}

-- A map for a nested schema can only give what it is configured to.
theorem Yields.of_nested (h : p.Yields convert inner schema raw (.ok v))
    (hl : raw.lookup p.name = some (.map nested)) (hr : p.nested? = some r) :
    ∃ c, inner r nested = .ok c ∧ v = if p.isOptional then .present c.toValue else c.toValue := by
  cases h
  case absent hn _ => simp [hl] at hn
  case nested hl' hr' hc =>
    cases hl.symm.trans hl'
    cases hr.symm.trans hr'
    exact ⟨_, hc, rfl⟩
  case converted hl' hc _ =>
    cases hl.symm.trans hl'
    exact absurd rfl (hc r nested hr)

end Property

namespace Materializer

open Conversion

variable {env : Environment} {converter : Converter} {d : Descriptor} {m : Memory} {r : SchemaRef}
  {raw : Entries Value}

-- What building makes of a map for a nested schema that it meets inside the schemas of a path.
def buildNested (env : Environment) (converter : Converter) (r : SchemaRef) (raw : Entries Value)
    (path : List String) : Materializing Config := do
  let s ← Schema.resolve env r
  s.build env (fun _ => True) (fun v _ accessor => converter.toResult env v accessor) raw
    (fun _ _ => trivial) path

theorem buildNested_nil (hr : env.resolve? r = some d) :
    buildNested env converter r raw [] = materialize env converter d raw := by
  rw [buildNested, resolve_eq_validate hr, materialize]

theorem convert_map (hr : env.resolve? r = some d) (raw : Entries Value) :
    convert env (.map raw) (.schema r)
      = ((materialize env .standard d raw .none).1.map Config.toValue).mapError .nested := by
  rw [convert_schema, ← buildNested_nil hr, buildNested]
  simp only [Schema.build_eq_fill]
  split <;> simp [*, Except.map, Except.mapError]

-- No walk from a valid descriptor comes back to the schemas around it, and of an invalid one nothing is
-- built.
theorem buildNested_fst_eq (u : env.NamesUnique) (hr : env.resolve? r = some d)
    (hm : m.Keeps env.Defines env.Valid) {gs : List Descriptor} (hg : ∀ g ∈ gs, env.Valid g)
    (hc : (gs ++ [d]).IsChain env.Edge) :
    (buildNested env converter r raw (gs.map Descriptor.name) m).1
      = (materialize env converter d raw .none).1 := by
  have hd := Environment.defines_of_resolve? hr
  by_cases hv : env.Valid d
  case pos =>
    have hp (e : Descriptor) (he : env.Reaches d e) : e.name ∉ gs.map Descriptor.name := by
      intro hm
      obtain ⟨g, hgs, hn⟩ := List.mem_map.mp hm
      have hw : (gs ++ [d]).Pairwise (TransGen env.Edge) := (hc.imp fun _ _ => TransGen.single).pairwise
      have hw := (List.pairwise_append.mp hw).2.2 g hgs d List.mem_cons_self
      exact (hg g hgs).name_ne_of_transGen (hw.trans_left he) hn.symm
    have ht := Environment.target_of_resolve? hr
    rw [(u.answers_materialize hv hd converter raw .none Memory.keeps_none).1,
      u.configure_eq hv raw fun _ _ => rfl]
    refine ((u.answers_resolve (ht.symm ▸ hv)).bind (g := fun _ => _) fun s hs => ?_) m hm |>.1
    cases hs
    rw [Schema.build_eq_fill, ht]
    exact u.answers_fill_assemble hv raw _ hp fun _ _ => rfl
  case neg =>
    cases hs : (validate env d m).1
    case ok s => exact absurd ((exists_validate_ok_iff u.inherits_valid hm hd).mp ⟨s, hs⟩) hv
    case error e =>
      rw [← materialize_fst_eq_none u hm hd, materialize_of_validate_error hs, buildNested,
        resolve_eq_validate hr, bind_apply]
      split
      case h_1 hs' => simp [hs'] at hs
      case h_2 hs' =>
        rw [hs'] at hs
        exact congrArg _ (Except.error.inj hs)

-- A valid schema has a property for what the reference stands for, and it is given the map.
structure Encloses (env : Environment) (r : SchemaRef) (raw : Entries Value) (g : Descriptor)
    (p : Property) (outer : Entries Value) : Prop where
  valid     : env.Valid g
  defines   : env.Defines g
  property  : p ∈ g.table.properties
  nested    : p.nested? = some r
  supplied  : outer.lookup p.name = some (.map raw)
  ascending : outer.Ascending
  known     : ∀ k ∈ Entries.keys outer, k ∈ g.table.optionNames

-- All ways from a map to the configuration of a nested schema end in one answer: conversion, building inside
-- schemas that lead there, and materialization of a schema that encloses it. However many configurations an
-- error comes through, its kind is that of the error it reports.
structure Agree (env : Environment) (r : SchemaRef) (raw : Entries Value)
    (answer : Except Error Config) : Prop where
  converted : convert env (.map raw) (.schema r) = (answer.map Config.toValue).mapError .nested
  optional  : convert env (.map raw) (.optional (.schema r))
    = (answer.map fun c => .present c.toValue).mapError .nested
  inside    : ∀ gs m, (∀ g ∈ gs, env.Valid g) → (gs ++ [env.target r]).IsChain env.Edge →
    Reached env .standard env.Defines m →
    (buildNested env .standard r raw (gs.map Descriptor.name) m).1 = answer
  result    : ∀ g p outer m cfg, Encloses env r raw g p outer → Reached env .standard env.Defines m →
    (materialize env .standard g outer m).1 = .ok cfg → ∃ c, answer = .ok c
      ∧ cfg.properties.lookup p.name = some (if p.isOptional then .present c.toValue else c.toValue)
  succeeds  : ∀ g p outer m c, Encloses env r raw g p outer → Reached env .standard env.Defines m →
    answer = .ok c →
    (∀ q ∈ g.table.properties, q ≠ p → ∃ v, Yields env .standard g.name outer q (.ok v)) →
    ∃ cfg, (materialize env .standard g outer m).1 = .ok cfg
  fault     : ∀ g p outer m e, Encloses env r raw g p outer → Reached env .standard env.Defines m →
    answer = .error e →
    (∀ q ∈ g.table.properties, q.name < p.name → ∃ v, Yields env .standard g.name outer q (.ok v)) →
    (materialize env .standard g outer m).1 = .error e
  kind      : ∀ e root, answer = .error e → e.Reports root → e.kind = root.kind
    ∧ ∀ t, t.schemaInside? = some r → ∃ source, convert env (.map raw) t = .error source
        ∧ ∀ target option, (Error.conversion target option source).kind = root.kind

theorem materialize_agree (u : env.NamesUnique) (hr : env.resolve? r = some d)
    (hm : Reached env .standard env.Defines m) (raw : Entries Value) :
    Agree env r raw (materialize env .standard d raw m).1 := by
  have hd := Environment.defines_of_resolve? hr
  have ht := Environment.target_of_resolve? hr
  rw [materialize_fst_eq_none u (hm.keeps u.inherits_valid) hd]
  have hi : (materialize env .standard (env.target r) raw .fresh).1
      = (materialize env .standard d raw .none).1 := by
    rw [ht, materialize_fst_eq_none u Memory.keeps_fresh hd]
  generalize ha : (materialize env .standard d raw .none).1 = answer at hi
  have hc := ha ▸ convert_map hr raw
  refine ⟨hc, ?optional, fun gs m hg hs hm => ?inside, fun g p outer m cfg h hm ho => ?result,
    fun g p outer m c h hm ho hq => ?succeeds, fun g p outer m e h hm he hq => ?fault,
    fun e root he hr => ?kind⟩
  case optional =>
    rw [convert_optional (bare_map raw), hc]
    cases answer <;> rfl
  case inside =>
    rw [buildNested_fst_eq u hr (hm.keeps u.inherits_valid) hg (ht ▸ hs), ha]
  case result =>
    rw [materialize_fst_eq_assemble u (hm.keeps u.inherits_valid) h.valid h.defines] at ho
    obtain ⟨v, hv, hy⟩ := ((Schema.assemble_eq_ok_iff g.ascending_optionNames).mp ho).2.2.2 p h.property
    obtain ⟨c, hc, rfl⟩ := hy.of_nested h.supplied h.nested
    exact ⟨c, hi ▸ hc, hv⟩
  case succeeds =>
    rw [materialize_fst_eq_assemble u (hm.keeps u.inherits_valid) h.valid h.defines,
      Schema.exists_assemble_eq_ok_iff g.ascending_optionNames]
    refine ⟨h.known, fun q hm => ?_⟩
    by_cases he : q = p
    case pos => exact he ▸ ⟨_, .nested h.supplied h.nested (hi.trans ho)⟩
    case neg => exact hq q hm he
  case fault =>
    rw [materialize_fst_eq_assemble u (hm.keeps u.inherits_valid) h.valid h.defines]
    exact Schema.assemble_of_yields g.ascending_optionNames h.ascending h.known h.property hq
      (.faulty h.supplied h.nested (hi.trans he))
  case kind =>
    have hk := Error.kind_eq_of_reports hr
    refine ⟨hk, fun t hs => ?_⟩
    obtain ⟨source, hs, hn⟩ := exists_convert_eq_error hs (he ▸ hc)
    exact ⟨source, hs, fun target option => (Error.kind_of_nested target option hn).trans hk⟩

def badRetry : Entries Value :=
  [("attempts", .bool true)]

theorem materialize_agree_retry :
    jobs.NamesUnique ∧ jobs.resolve? ⟨"Retry", "Retry"⟩ = some (jobs.target ⟨"Retry", "Retry"⟩)
      ∧ Reached jobs .standard jobs.Defines (validate jobs job .fresh).2
      ∧ Agree jobs ⟨"Retry", "Retry"⟩ badRetry
          (materialize jobs .standard (jobs.target ⟨"Retry", "Retry"⟩) badRetry
            (validate jobs job .fresh).2).1 := by
  have u := namesUnique_jobs
  have hr : jobs.resolve? ⟨"Retry", "Retry"⟩ = some (jobs.target ⟨"Retry", "Retry"⟩) := rfl
  have hm : Reached jobs .standard jobs.Defines (validate jobs job .fresh).2 :=
    .validate .fresh List.mem_cons_self
  exact ⟨u, hr, hm, materialize_agree u hr hm badRetry⟩

end Materializer
end BulletinPipeline
