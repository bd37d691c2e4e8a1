import BulletinPipeline.Proofs.Conversion.Settled
import BulletinPipeline.Proofs.Recursion.Evaluation
import BulletinPipeline.Proofs.Schema.NameReuse

namespace BulletinPipeline

namespace Value.Settled

variable {env : Environment} {v : Value} {t u : ValueType}

-- References of one name make no difference to what a value is called.
theorem of_alike (h : v.Settled env t) (hn : env.NamesTargets t) (ha : t.Alike u) : v.Settled env u := by
  induction ha generalizing v
  case refl => exact h
  case list hi =>
    cases h
    case null    => exact .null rfl
    case list hv => exact .list fun v hm => hi (hv v hm) hn
  case optional hi =>
    cases h
    case null h       => contradiction
    case absent       => exact .absent _
    case present hb h => exact .present hb (hi h hn)
  case schema hs =>
    cases h
    case null         => exact .null rfl
    case config ps hr => exact .config ps (.inl ((hr.eq_name (hn _ rfl)).trans hs))

end Value.Settled

namespace Conversion

variable {env : Environment} {raw v : Value} {t : ValueType}

theorem convert_of_read {read : Value → Result Value} (hr : plain? t = some read) (hb : v.Bare)
    (h : read v = .ok v) : convert env v t = .ok v :=
  (convert_plain hb hr).trans h

theorem convert_of_settled (h : v.Settled env t) (hn : env.NamesTargets t) : convert env v t = .ok v := by
  induction h
  case null t ht =>
    rw [convert_null]
    cases t <;> first | rfl | contradiction
  case any v hv =>
    by_cases he : v = .null
    case pos => exact he ▸ convert_null .any
    case neg => exact convert_plain ⟨hv, he⟩ rfl
  case bool b   => exact convert_of_read rfl ⟨rfl, nofun⟩ rfl
  case int n    => exact convert_of_read rfl ⟨rfl, nofun⟩ (congrArg _ (toInt_int n))
  case long n   => exact convert_of_read rfl ⟨rfl, nofun⟩ rfl
  case double d => exact convert_of_read rfl ⟨rfl, nofun⟩ rfl
  case string s => exact convert_of_read rfl ⟨rfl, nofun⟩ rfl
  case list items t _ hi =>
    have hs : convertItems env t 0 items = .ok items :=
      convertItems_eq_ok_iff.mpr (List.forall₂_same.mpr fun v hv => hi v hv hn)
    rw [convert_list, hs]
    rfl
  case map es   => exact convert_of_read rfl ⟨rfl, nofun⟩ rfl
  case absent t => exact (convert_core env .absent _).symm.trans (convert_null _)
  case present v t hb _ hi =>
    -- The wrapper comes off and is put around what it holds again.
    rw [← convert_core, Value.core, convert_optional hb, convert_core, hi hn]
    exact ValueType.wrap_optional t (Value.ne_null_of_bare_core hb)
  case optionalInt n      => exact convert_of_kept rfl rfl
  case optionalLong n     => exact convert_of_kept rfl rfl
  case optionalDouble d   => exact convert_of_kept rfl rfl
  case config r name _ hr => rw [convert_config, if_pos (hr.eq_name (hn r rfl))]
  case object o           => exact convert_of_read rfl ⟨rfl, nofun⟩ (if_pos rfl)

end Conversion

namespace Environment

-- All references of the accessors go by the names of what they stand for.
def NamesKept (env : Environment) (d : Descriptor) : Prop :=
  ∀ a ∈ d.accessors, env.NamesTargets a.returns

variable {env : Environment} {d : Descriptor} {m : Memory} {path : List String} {s : Schema} {D : Descriptor → Prop}

theorem Inherits.exists_table (i : env.Inherits D Descriptor.Legal) (hd : D d) (hm : m.Keeps D Descriptor.Legal)
    (h : (BulletinPipeline.validate env d path m).1 = .ok s) : ∃ e, D e ∧ e.Legal ∧ e.same d ∧ s = e.table := by
  have ⟨e, hs, he⟩ := exists_table_of_validate hm h
  cases he
  case inl he => exact ⟨e, he ▸ hd, he ▸ (i.validate hd path hm).2 s h, he ▸ Descriptor.same_refl d, hs⟩
  case inr he =>
    have ⟨hr, he, hl⟩ := he
    exact ⟨e, he, hl, hr, hs⟩

end Environment

namespace Property

variable {env : Environment} {p : Property} {v : Value} {raw : Entries Value} {schema : String}

theorem settled_of_yields {inner : SchemaRef → Entries Value → Except Error Config}
    (hi : ∀ r nested c, inner r nested = .ok c → env.GoesBy r c.schema)
    (h : p.Yields (Converter.standard.toResult env) inner schema raw (.ok v)) : v.Settled env p.accessor.returns := by
  cases h
  case absent hn he =>
    have hv : v = p.accessor.returns.nothing := by rw [ValueType.nothing, he]; rfl
    exact hv ▸ ValueType.settled_nothing env _
  case converted hw => exact Conversion.settled_of_convert _ _ hw
  case nested r nested c hn hr hc =>
    have hs : c.toValue.Settled env (.schema r) := .config _ (hi r nested c hc)
    rw [isOptional]
    cases ValueType.eq_of_schemaRef? hr
    case inl he =>
      rw [he]
      exact hs
    case inr he =>
      rw [he]
      exact .present c.bare_toValue hs

-- Nothing is left to be built.
theorem converts_of_settled (h : v.Settled env p.accessor.returns) : p.Converts v := by
  rintro r nested hr rfl
  cases ValueType.eq_of_schemaRef? hr
  case inl he =>
    rw [he] at h
    cases h
  case inr he =>
    rw [he] at h
    cases h

end Property

-- A value that conversion would give for each property, and nothing else.
structure Config.Fits (env : Environment) (s : Schema) (c : Config) : Prop where
  schema  : c.schema = s.name
  keys    : Entries.keys c.properties = s.optionNames
  settled : ∀ p ∈ s.properties, ∃ v, c.properties.lookup p.name = some v ∧ v.Settled env p.accessor.returns

namespace Config.Fits

open Materializing

variable {env : Environment} {D : Descriptor → Prop} {d e : Descriptor} {m : Memory} {path : List String} {s : Schema}
  {raw : Entries Value} {c : Config}

theorem of_fill (i : env.Inherits D Descriptor.Legal) (hs : s.optionNames.Nodup) (hm : m.Keeps D Descriptor.Legal)
    (h : (s.fill env (Converter.standard.toResult env) raw path m).1 = .ok c) : c.Fits env s := by
  rw [Schema.fill_eq] at h
  split at h
  case isTrue => contradiction
  cases hk : s.unknown? raw <;> rw [Schema.assemble, hk] at h
  case some => contradiction
  dsimp only at h
  rw [bind_apply] at h
  split at h
  case h_2 => contradiction
  case h_1 ps _ hp =>
    cases h
    have hf := forall₂_of_mapM (fun p _ => Schema.preserves_assign fun r nested _ =>
      (i.preserves_resolve r).bind fun t => Schema.preserves_fill i.preserves_resolve t nested _) hm
      (congrArg Prod.fst hp)
    have hl := Entries.forall₂_iff_lookup (R := fun p v => v.Settled env p.accessor.returns) hs |>.mp <|
      hf.imp fun p e he => ?assigned
    case assigned =>
      obtain ⟨m, hm, ha⟩ := he
      rw [Schema.assign_apply, Property.assign_eq_ok_iff] at ha
      refine ⟨ha.1, Property.settled_of_yields (fun r nested c hc => ?_) ha.2⟩
      rw [bind_apply] at hc
      split at hc
      case h_2 => contradiction
      case h_1 t _ ht => exact Schema.name_of_fill hc ▸ Schema.goesBy_of_resolve hm (congrArg Prod.fst ht)
    exact ⟨rfl, hl.1, hl.2⟩

theorem of_materialize (i : env.Inherits D Descriptor.Legal) (hd : D d) (hm : m.Keeps D Descriptor.Legal)
    (h : (Materializer.materialize env .standard d raw m).1 = .ok c) :
    ∃ e, D e ∧ e.Legal ∧ e.same d ∧ c.Fits env e.table := by
  rw [Materializer.materialize, bind_apply] at h
  split at h
  case h_2 => contradiction
  case h_1 s m' hs =>
    obtain ⟨e, he, hl, hr, rfl⟩ := i.exists_table hd hm (Materializer.validate_ok_iff.mp (congrArg Prod.fst hs))
    have hm' : m'.Keeps D Descriptor.Legal := by simpa [hs] using i.preserves_validate hd m hm
    rw [Schema.build_eq_fill] at h
    exact ⟨e, he, hl, hr, of_fill i e.nodup_optionNames hm' h⟩

-- The values have the types of a descriptor that reads the same.
theorem of_same (h : c.Fits env d.table) (hs : d.same e) (hd : d.Legal) (he : e.Legal) (hn : env.NamesKept d) :
    c.Fits env e.table := by
  refine ⟨h.schema.trans (Descriptor.name_eq_of_same hs),
    h.keys.trans (Descriptor.optionNames_eq_of_same hs hd he), fun p hp => ?_⟩
  have ⟨hb, hpn⟩ := he.mem_properties.mp hp
  have ⟨a, ha, han, har⟩ := Descriptor.exists_accessor_of_same hs hb
  have hq : ⟨p.name, a⟩ ∈ d.table.properties := hd.mem_properties.mpr ⟨ha, hpn.trans (congrArg propertyName han.symm)⟩
  have ⟨v, hl, hv⟩ := h.settled _ hq
  exact ⟨v, hl, hv.of_alike (hn a ha) (ValueType.alike_of_same har)⟩

-- Every property is converted, to what it is.
theorem fill_eq_ok (h : c.Fits env s) (hs : s.optionNames.Pairwise (· < ·))
    (hn : ∀ p ∈ s.properties, env.NamesTargets p.accessor.returns) (m : Memory) :
    (s.fill env (Converter.standard.toResult env) c.properties [] m).1 = .ok c := by
  have ha : Answers (fun _ => True) (s.fill env (Converter.standard.toResult env) c.properties [])
      (s.assemble (Converter.standard.toResult env) (fun _ _ => .ok c) c.properties) := by
    rw [Schema.fill_eq, if_neg List.not_mem_nil]
    refine Schema.answers_assemble fun p hp r nested hr hl => ?_
    have ⟨v, hv, hf⟩ := h.settled p hp
    cases hl.symm.trans hv
    exact absurd rfl (Property.converts_of_settled hf r nested hr)
  rw [(ha m trivial).1, Schema.assemble_eq_ok_iff hs]
  refine ⟨fun k hk => h.keys ▸ hk, h.schema, h.keys, fun p hp => ?_⟩
  have ⟨v, hl, hf⟩ := h.settled p hp
  exact ⟨v, hl, .converted hl (Property.converts_of_settled hf) (Conversion.convert_of_settled hf (hn p hp))⟩

end Config.Fits

namespace Materializer

open Conversion

variable {env : Environment} {converter : Converter} {d : Descriptor} {m m' : Memory} {raw : Entries Value} {c : Config}

theorem materialize_properties (h : ∀ e, env.Defines e → env.NamesKept e) (hd : env.NamesKept d)
    (hm : Reached env converter env.NamesKept m) (hm' : Reached env converter env.NamesKept m')
    (hv : ∃ s, (validate env d m').1 = .ok s) (hc : (materialize env .standard d raw m).1 = .ok c) :
    (materialize env .standard d c.properties m').1 = .ok c := by
  have i : env.Inherits env.NamesKept Descriptor.Legal :=
    Environment.inherits_legal fun _ e he => h e (Environment.defines_of_resolve? he)
  have ⟨e, he, hl, hs, hf⟩ := Config.Fits.of_materialize i hd (hm.keeps i) hc
  rw [materialize, bind_apply]
  split
  case h_2 hx       => simp [hx] at hv
  case h_1 s _ hx =>
    obtain ⟨e', he', hl', hs', rfl⟩ := i.exists_table hd (hm'.keeps i) (validate_ok_iff.mp (congrArg Prod.fst hx))
    have hf := hf.of_same (Descriptor.same_trans hs (Descriptor.same_symm hs')) hl hl' he
    rw [Schema.build_eq_fill]
    exact hf.fill_eq_ok e'.ascending_optionNames (fun p hp => he' _ (hl'.mem_properties.mp hp).1) _

-- What has been converted is left as it is. The two memories may be those of different materializers, or of one at
-- different times; the schema counts as valid by what it refers to, or by what the second memory vouches for.
theorem conversion_idempotent (h : ∀ e, env.Defines e → env.NamesKept e) :
    (∀ raw t v, env.NamesTargets t → convert env raw t = .ok v → convert env v t = .ok v)
    ∧ ∀ d raw c m m', env.NamesKept d → Reached env .standard env.NamesKept m → Reached env .standard env.NamesKept m' →
        (env.Valid d ∨ (isValid env d m').1 = true) → (materialize env .standard d raw m).1 = .ok c →
        (materialize env .standard d c.properties m').1 = .ok c where
  left  := fun raw t _ hn hv => convert_of_settled (settled_of_convert raw t hv) hn
  right := fun d raw c m m' hd hm hm' hv hc => by
    refine materialize_properties h hd hm hm' ?_ hc
    cases hv
    case inl hv =>
      have ⟨s, hs⟩ := hv.validate [] m' (by simp)
      exact ⟨s, validate_ok_iff.mpr hs⟩
    case inr hv => exact isValid_iff.mp hv

def gaps : Value :=
  .list [.optionalLong (some 1), .optionalLong none]

def retried : Config where
  schema     := "Job"
  properties := [("name", .string "sync"), ("retry", .present (.config "Retry" [("attempts", .long 3)]))]

theorem conversion_idempotent_retried :
    (∀ e, jobs.Defines e → jobs.NamesKept e)
    ∧ convert jobs (.present (.list [.int 1, .absent])) (.list .optionalLong) = .ok gaps
    ∧ convert jobs gaps (.list .optionalLong) = .ok gaps
    ∧ (materialize jobs .standard job [("name", .string "sync"), ("retry", .map [("attempts", .int 3)])] .fresh).1
        = .ok retried
    ∧ (materialize jobs .standard job retried.properties (isValid jobs job .fresh).2).1 = .ok retried := by
  have hj : jobs.NamesKept job := by
    refine List.forall_mem_cons.mpr ⟨fun r hr => ?name, List.forall_mem_singleton.mpr fun r hr d hd => ?retry⟩
    case name => contradiction
    case retry =>
      cases hr
      cases hd
      rfl
  have hk : ∀ e, jobs.Defines e → jobs.NamesKept e := by
    refine List.forall_mem_cons.mpr ⟨hj, List.forall_mem_singleton.mpr <| List.forall_mem_singleton.mpr fun r hr => ?_⟩
    contradiction
  have ht : jobs.NamesTargets (.list .optionalLong) := by
    intro r hr
    contradiction
  have hl : convert jobs (.present (.list [.int 1, .absent])) (.list .optionalLong) = .ok gaps :=
    convert_of_within (n := 5) rfl
  have hc : (materialize jobs .standard job [("name", .string "sync"), ("retry", .map [("attempts", .int 3)])] .fresh).1
      = .ok retried := materialize_of_within (n := 3) rfl
  have ⟨_, hq⟩ : ∃ q, (isValid jobs job .fresh).2.find? job = some q :=
    exists_find?_of_isValid (isValid_iff.mpr ⟨job.table, validate_job⟩) rfl
  obtain ⟨hi, hm⟩ := conversion_idempotent hk
  exact ⟨hk, hl, hi _ _ _ ht hl, hc, hm _ _ _ _ _ hj .fresh (.isValid .fresh hj) (.inr (isValid_of_find? hq)) hc⟩

end Materializer
end BulletinPipeline
