import BulletinPipeline.Proofs.Conversion.Basic
import BulletinPipeline.Proofs.Recursion.Evaluation
import BulletinPipeline.Proofs.Schema.Outcome
import BulletinPipeline.Proofs.Value.Erasure
import BulletinPipeline.Proofs.ValueType

namespace BulletinPipeline

open Value

theorem ValueType.erase_nothing (t : ValueType) : t.nothing.erase = .null := by
  cases t <;> rfl

theorem Config.eq_of_toValue_eq {c d : Config} (h : c.toValue = d.toValue) : d = c := by
  cases c
  cases d
  cases h
  rfl

theorem Value.Loaded.bare {v : Value} (h : v.Loaded) (hn : v ≠ .null) : v.Bare := by
  refine ⟨?_, hn⟩
  cases h <;> rfl

namespace Conversion

variable {env : Environment} {raw v : Value} {t : ValueType} {r : SchemaRef}

theorem toInt_long (n : Int32) : toInt (long n.toInt64) = .ok n := by
  simp only [toInt, toLong, narrow_toInt64]

-- At these types the value that is left is read as the same value.
theorem plain_erase {read : Value → Result Value} (hr : plain? t = some read) (hl : raw.Loaded)
    (hn : raw ≠ .null) (h : read raw = .ok v) (hf : v.AllFinite) :
    v.erase ≠ .null ∧ read v.erase = .ok v := by
  cases t <;> cases hr
  case any =>
    cases h
    exact hl.erase_eq.symm ▸ ⟨hn, rfl⟩
  case bool =>
    dsimp only at h
    cases hb : toBool raw <;> rw [hb] at h <;> cases h
    exact ⟨nofun, rfl⟩
  case int =>
    dsimp only at h
    cases hi : toInt raw <;> rw [hi] at h <;> cases h
    exact ⟨nofun, by simp [erase, toInt_long, Except.map]⟩
  case long =>
    dsimp only at h
    cases hi : toLong raw <;> rw [hi] at h <;> cases h
    exact ⟨nofun, rfl⟩
  case double =>
    dsimp only at h
    cases hd : toDouble raw <;> rw [hd] at h <;> cases h
    case ok d =>
      have he : (double d).erase = double d := if_pos (hf d (List.mem_singleton_self d))
      exact he.symm ▸ ⟨nofun, rfl⟩
  case string =>
    dsimp only at h
    cases ht : toText raw <;> rw [ht] at h <;> cases h
    exact ⟨nofun, rfl⟩
  case map =>
    cases hl <;> cases h
    case map he =>
      exact (Loaded.map he).erase_eq.symm ▸ ⟨nofun, rfl⟩
  case optionalInt =>
    dsimp only at h
    cases hi : toInt raw <;> rw [hi] at h <;> cases h
    exact ⟨nofun, by simp [erase, toInt_long]; rfl⟩
  case optionalLong =>
    dsimp only at h
    cases hi : toLong raw <;> rw [hi] at h <;> cases h
    exact ⟨nofun, rfl⟩
  case optionalDouble =>
    dsimp only at h
    cases hd : toDouble raw <;> rw [hd] at h <;> cases h
    case ok d =>
      have he : (optionalDouble (some d)).erase = double d := if_pos (hf d (List.mem_singleton_self d))
      exact he.symm ▸ ⟨nofun, rfl⟩
  case object => cases hl <;> cases h

-- What is left of a converted value converts to the value again, and is null for null only.
structure Survives (env : Environment) (t : ValueType) (raw v : Value) : Prop where
  convert : Conversion.convert env v.erase t = .ok v
  ne_null : raw ≠ .null → v.erase ≠ .null

def ReadsBack (env : Environment) (t : ValueType) (raw : Value) : Prop :=
  ∀ v, convert env raw t = .ok v → v.AllFinite → Survives env t raw v

theorem Survives.list {vs : List Value} (h : ∀ v ∈ vs, Conversion.convert env v.erase t = .ok v) :
    Survives env (.list t) raw (.list vs) := by
  refine ⟨?_, fun _ => nofun⟩
  rw [erase, eraseItems_eq_map, convert_list]
  have hs : convertItems env t 0 (vs.map erase) = .ok vs := by
    rw [convertItems_eq_ok_iff, List.forall₂_map_left_iff, List.forall₂_same]
    exact h
  rw [hs]
  rfl

namespace ReadsBack

theorem null (env : Environment) (t : ValueType) : ReadsBack env t .null := by
  intro v h _
  cases (convert_null t).symm.trans h
  exact ⟨by rw [ValueType.erase_nothing, convert_null], fun hn => absurd rfl hn⟩

theorem plain {read : Value → Result Value} (hr : plain? t = some read) (hl : raw.Loaded)
    (hn : raw ≠ .null) : ReadsBack env t raw := by
  intro v h hf
  rw [convert_plain (hl.bare hn) hr] at h
  have ⟨hn', hc⟩ := plain_erase hr hl hn h hf
  exact ⟨(convert_plain ⟨held?_erase v, hn'⟩ hr).trans hc, fun _ => hn'⟩

theorem list {raws : List Value} (hi : ∀ raw ∈ raws, ReadsBack env t raw) :
    ReadsBack env (.list t) (.list raws) := by
  intro v h hf
  rw [convert_list] at h
  cases hs : convertItems env t 0 raws <;> rw [hs] at h <;> cases h
  refine .list fun w hw => ?_
  have ⟨raw, hr, hc⟩ := exists_mem_of_convertItems hs hw
  exact (hi raw hr w hc (allFinite_list_iff.mp hf w hw)).convert

theorem single (hb : raw.Bare) (hl : ∀ raws, raw ≠ .list raws) (hi : ReadsBack env t raw) :
    ReadsBack env (.list t) raw := by
  intro v h hf
  rw [convert_single hb hl] at h
  cases hw : convert env raw t <;> rw [hw] at h <;> cases h
  case ok w =>
    have hs := hi w hw (allFinite_list_iff.mp hf w List.mem_cons_self)
    exact .list fun w' hw' => List.mem_singleton.mp hw' ▸ hs.convert

-- The inner value is wrapped again, since it is no null.
theorem optional (hb : raw.Bare) (hi : ReadsBack env t raw) : ReadsBack env (.optional t) raw := by
  intro v h hf
  rw [convert_optional hb] at h
  cases hw : convert env raw t <;> rw [hw] at h
  case error => contradiction
  case ok w =>
    by_cases hn : w = .null
    case pos =>
      subst hn
      have hs := hi .null hw (by simp [AllFinite, doubles])
      exact absurd rfl (hs.ne_null hb.ne_null)
    case neg =>
      cases (ValueType.wrap_optional t hn).symm.trans h
      have hs := hi w hw hf
      have he : w.erase.Bare := ⟨held?_erase w, hs.ne_null hb.ne_null⟩
      refine ⟨?_, fun _ => he.ne_null⟩
      change convert env w.erase (.optional t) = _
      rw [convert_optional he, hs.convert]
      exact ValueType.wrap_optional t hn

end ReadsBack

theorem convert_schema_of_loaded (env : Environment) (r : SchemaRef) (hl : raw.Loaded)
    (hn : raw ≠ .null) (hm : ∀ nested, raw ≠ .map nested) :
    Conversion.convert env raw (.schema r) = .error (.incompatible (.schema r) raw.kind) := by
  cases hl <;> first | contradiction | exact absurd rfl (hm _) | (rw [convert]; simp [held?])

-- The only value that is not materialized for a nested schema, but still converts to its type, is null.
theorem eq_null_of_converts {p : Property} (hl : raw.Loaded) (hc : p.Converts raw)
    (hr : p.nested? = some r) (h : convert env raw p.accessor.returns = .ok v) : raw = .null := by
  by_contra hn
  have he := convert_schema_of_loaded env r hl hn fun nested => hc r nested hr
  cases ValueType.eq_of_schemaRef? hr
  case inl ht => simp [ht, he] at h
  case inr ht =>
    rw [ht, convert_optional (hl.bare hn), he] at h
    contradiction

abbrev Yields (env : Environment) (schema : String) (raw : Entries Value) (p : Property) :
    Except Error Value → Prop :=
  p.Yields (Converter.standard.toResult env)
    (fun r => env.configure (Converter.standard.toResult env) (env.target r)) schema raw

-- A property keeps its value when the raw map holds what is left of it, also where that is reached in
-- another way than before: an absent property is supplied as null then.
theorem yields_erase (u : env.NamesUnique) {p : Property} {s : String} {raw raw' : Entries Value}
    (hl : ∀ e ∈ raw, e.2.Loaded) (hi : ∀ e ∈ raw, ∀ t, ReadsBack env t e.2)
    (hv : ∀ r, p.nested? = some r → env.Valid (env.target r)) (hy : Yields env s raw p (.ok v))
    (hf : v.AllFinite) (hr : raw'.lookup p.name = some v.erase) : Yields env s raw' p (.ok v) := by
  cases hy
  case absent hn he =>
    have hv : v = p.accessor.returns.nothing := by rw [ValueType.nothing, he]; rfl
    rw [hv, ValueType.erase_nothing] at hr
    refine .converted hr (fun _ _ _ => nofun) ?_
    exact hv ▸ convert_null _
  case nested r nested c hn hr' hc =>
    have hcf : c.toValue.AllFinite := by
      split at hf <;> exact hf
    have he : (if p.isOptional then present c.toValue else c.toValue).erase
        = .map (c.properties.mapValues erase) := by
      rw [← eraseEntries_eq_mapValues]
      split <;> rfl
    -- The converter would build the nested map in the same way.
    have hs := (convert_schema_eq_ok_iff u).mpr ⟨hv r hr', c, hc, rfl⟩
    have hb := (hi _ (Entries.mem_of_lookup hn) _ _ hs hcf).convert
    rw [Config.toValue, erase, eraseEntries_eq_mapValues, convert_schema_eq_ok_iff u] at hb
    have ⟨_, c', hc', hcc⟩ := hb
    rw [he] at hr
    exact .nested hr hr' (Config.eq_of_toValue_eq hcc ▸ hc')
  case converted w hn hc hw =>
    have hm := Entries.mem_of_lookup hn
    have hb := hi _ hm _ _ hw hf
    refine .converted hr (fun r nested hr' he => ?_) hb.convert
    have hn : w = .null := eq_null_of_converts (hl _ hm) hc hr' hw
    subst hn
    cases (convert_null _).symm.trans hw
    rw [ValueType.erase_nothing] at he
    contradiction

-- The step of the induction for configurations: what is left of the values of a configuration gives the
-- configuration again.
theorem configure_erase (u : env.NamesUnique) {d : Descriptor} (hv : env.Valid d) {raw : Entries Value}
    {c : Config} (hl : ∀ e ∈ raw, e.2.Loaded) (hi : ∀ e ∈ raw, ∀ t, ReadsBack env t e.2)
    (h : env.configure (Converter.standard.toResult env) d raw = .ok c)
    (hf : ∀ e ∈ c.properties, e.2.AllFinite) :
    env.configure (Converter.standard.toResult env) d (c.properties.mapValues erase) = .ok c := by
  have hn := d.ascending_optionNames
  rw [u.configure_eq hv _ fun _ _ => rfl, Schema.assemble_eq_ok_iff hn] at h ⊢
  obtain ⟨_, hs, hk, hp⟩ := h
  have hke : Entries.keys (c.properties.mapValues erase) = Entries.keys c.properties := by
    simp [Entries.keys, Entries.mapValues]
  refine ⟨fun k hm => hk ▸ hke ▸ hm, hs, hk, fun p hm => ?_⟩
  obtain ⟨v, hlv, hy⟩ := hp p hm
  refine ⟨v, hlv, yields_erase u hl hi (fun r hr => hv.of_edge (hv.edge_of_nested? hm hr)) hy ?_ ?_⟩
  · exact hf _ (Entries.mem_of_lookup hlv)
  · rw [Entries.mapValues, Entries.lookup_map (fun _ => erase), hlv]
    rfl

theorem ReadsBack.schema (u : env.NamesUnique) {raw : Entries Value} (hl : ∀ e ∈ raw, e.2.Loaded)
    (hi : ∀ e ∈ raw, ∀ t, ReadsBack env t e.2) : ReadsBack env (.schema r) (.map raw) := by
  intro v h hf
  have ⟨hv, c, hc, he⟩ := (convert_schema_eq_ok_iff u).mp h
  subst he
  refine ⟨?_, fun _ => nofun⟩
  rw [Config.toValue, erase, eraseEntries_eq_mapValues, convert_schema_eq_ok_iff u]
  exact ⟨hv, c, configure_erase u hv hl hi hc (allFinite_config_iff.mp hf), rfl⟩

-- For one raw value, induction on the type.
theorem readsBack_of_parts (u : env.NamesUnique) (hl : raw.Loaded)
    (hi : ∀ part, sizeOf part < sizeOf raw → part.Loaded → ∀ t, ReadsBack env t part)
    (t : ValueType) : ReadsBack env t raw := by
  by_cases hn : raw = .null
  case pos =>
    subst hn
    exact .null env t
  case neg =>
    have hb := hl.bare hn
    induction t
    case list t ht =>
      by_cases hr : ∃ raws, raw = .list raws
      case pos =>
        have ⟨raws, hr⟩ := hr
        subst hr
        cases hl
        case list hl =>
          refine .list fun part hm => hi part ?_ (hl part hm) t
          have := List.sizeOf_lt_of_mem hm
          rw [Value.list.sizeOf_spec]
          omega
      case neg => exact .single hb (not_exists.mp hr) ht
    case optional t ht => exact .optional hb ht
    case schema r =>
      by_cases hr : ∃ raws, raw = .map raws
      case pos =>
        have ⟨raws, hr⟩ := hr
        subst hr
        cases hl
        case map hl =>
          refine .schema u hl fun e hm => hi e.2 ?_ (hl e hm)
          have hlt := sizeOf_lt_of_mem_entries hm
          rw [Value.map.sizeOf_spec]
          omega
      case neg =>
        intro v h _
        have he := convert_schema_of_loaded env r hl hn (not_exists.mp hr)
        exact nomatch he.symm.trans h
    all_goals exact .plain rfl hl hn

theorem readsBack (u : env.NamesUnique) (raw : Value) (hl : raw.Loaded) (t : ValueType) :
    ReadsBack env t raw :=
  readsBack_of_parts u hl (fun part _ hl => readsBack u part hl) t
termination_by sizeOf raw

end Conversion

namespace Materializer

variable {env : Environment} {converter : Converter} {m m' : Memory} {d : Descriptor}
  {raw : Entries Value} {c : Config}

theorem exists_validate_of_materialize (h : (materialize env converter d raw m).1 = .ok c) :
    ∃ s, (validate env d m).1 = .ok s := by
  rw [materialize, bind_apply] at h
  split at h
  case h_1 s _ hs => exact ⟨s, congrArg Prod.fst hs⟩
  case h_2        => contradiction

-- A configuration that is written as plain data and read back gives itself, whatever was validated before
-- either time.
theorem materialize_readBack (u : env.NamesUnique) (hd : env.Defines d)
    (hm : Reached env .standard env.Defines m) (hm' : Reached env .standard env.Defines m')
    (hl : (Value.map raw).Loaded) (hc : (materialize env .standard d raw m).1 = .ok c)
    (hf : c.toValue.AllFinite) :
    ∃ back, Value.ofData c.toData = .map back ∧ (materialize env .standard d back m').1 = .ok c := by
  have hk := hm.keeps u.inherits_valid
  have hv : env.Valid d :=
    (exists_validate_ok_iff u.inherits_valid hk hd).mp (exists_validate_of_materialize hc)
  refine ⟨c.properties.mapValues erase, ?_, ?_⟩
  · rw [Config.toData, ofData_toData, Config.toValue, erase, eraseEntries_eq_mapValues]
  · rw [(u.answers_materialize hv hd .standard raw m hk).1] at hc
    rw [(u.answers_materialize hv hd .standard _ m' (hm'.keeps u.inherits_valid)).1]
    cases hl
    case map hl =>
      refine Conversion.configure_erase u hv hl (fun e he => ?_) hc (allFinite_config_iff.mp hf)
      exact Conversion.readsBack u e.2 (hl e he)

def jobLoaded : Entries Value :=
  [("name", .string "sync"), ("retry", .map [("attempts", .long 3)])]

def jobConfig : Config where
  schema     := "Job"
  properties := [("name", .string "sync"), ("retry", .present (.config "Retry" [("attempts", .long 3)]))]

theorem materialize_readBack_job :
    jobs.NamesUnique ∧ jobs.Defines job ∧ (Value.map jobLoaded).Loaded
      ∧ (materialize jobs .standard job jobLoaded .fresh).1 = .ok jobConfig
      ∧ jobConfig.toValue.AllFinite
      ∧ ∃ back, Value.ofData jobConfig.toData = .map back
          ∧ (materialize jobs .standard job back .fresh).1 = .ok jobConfig := by
  have u := namesUnique_jobs
  have hd : jobs.Defines job := List.mem_cons_self
  have hr : (Value.map [("attempts", .long 3)]).Loaded := .map <| List.forall_mem_singleton.mpr (.long 3)
  have hl : (Value.map jobLoaded).Loaded :=
    .map <| List.forall_mem_cons.mpr ⟨.string "sync", List.forall_mem_singleton.mpr hr⟩
  have hc : (materialize jobs .standard job jobLoaded .fresh).1 = .ok jobConfig := materialize_of_within (n := 3) rfl
  have hf : jobConfig.toValue.AllFinite := by
    unfold AllFinite
    decide
  exact ⟨u, hd, hl, hc, hf, materialize_readBack u hd .fresh .fresh hl hc hf⟩

end Materializer
end BulletinPipeline
