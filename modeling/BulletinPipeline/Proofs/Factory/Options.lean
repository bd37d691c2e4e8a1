import BulletinPipeline.Factory.Config
import BulletinPipeline.Proofs.Factory.Creation
import BulletinPipeline.Proofs.Factory.Layers
import BulletinPipeline.Proofs.Schema.Outcome

namespace BulletinPipeline

open Materializer

variable {σ τ α β : Type} {raw : Entries Value} {k : String}

-- The options that a factory reports are in ascending order, by code points as by bytes, and are those that it
-- understands in a state: an option that is none of them is refused under its own name, the least first.
structure Factory.OptionsExact (F : Factory (StateM σ) α) (own : String) (s : σ) : Prop where
  name      : F.name = own
  ascending : F.optionNames.Pairwise (· < ·)
  refuses   : ∀ raw, raw.Ascending → ((∃ k, (F.create raw s).1 = .error (.unknownOption own k))
    ↔ ∃ k ∈ Entries.keys raw, k ∉ F.optionNames)
  least     : ∀ raw k, raw.Ascending → (F.create raw s).1 = .error (.unknownOption own k) →
    IsLeast {k | k ∈ Entries.keys raw ∧ k ∉ F.optionNames} k

theorem Factory.optionsExact_of_iff {F : Factory (StateM σ) α} {own : String} {s : σ} (hn : F.name = own)
    (ho : F.optionNames.Pairwise (· < ·))
    (h : ∀ raw k, raw.Ascending → ((F.create raw s).1 = .error (.unknownOption own k)
      ↔ IsLeast {k | k ∈ Entries.keys raw ∧ k ∉ F.optionNames} k)) : F.OptionsExact own s where
  name        := hn
  ascending   := ho
  refuses raw hr := by
    simp only [h raw _ hr]
    constructor
    case mp  => exact fun ⟨k, hk, _⟩ => ⟨k, hk⟩
    case mpr => exact hr.exists_isLeast
  least raw k hr := (h raw k hr).mp

-- Layers that do not rename: those that are shared, that observe, and that change what was built.
def Layers.Plain : {β : Type} → Layers τ α β → Prop
  | _, bare                => True
  | _, forwarded inside    => inside.Plain
  | _, observed _ _ inside => inside.Plain
  | _, mapped _ inside     => inside.Plain
  | _, renamed ..          => False

namespace Layers

variable {l : Layers τ α β}

theorem Plain.name? (h : l.Plain) : l.name? = none := by
  induction l
  case bare         => rfl
  case forwarded hi => exact hi h
  case observed hi  => exact hi h
  case mapped hi    => exact hi h
  case renamed      => exact h.elim

theorem Plain.reaching (h : l.Plain) (name : String) (raw : Entries Value) : l.reaching name raw = .ok raw := by
  induction l
  case bare         => rfl
  case forwarded hi => exact hi h
  case observed hi  => exact hi h
  case mapped hi    => exact hi h
  case renamed      => exact h.elim

-- Only a success is changed on the way out.
theorem Plain.create_eq_error_iff (h : l.Plain) (F : Factory (StateM σ) α) (s : σ) (t : τ) {e : Error} :
    ((l.around F).create raw (s, t)).1 = .error e ↔ (F.create raw s).1 = .error e := by
  have ⟨t', ht⟩ := create_around F l raw s t
  rw [ht, h.reaching]
  cases hx : (F.create raw s).1 <;> simp [Except.map, hx]

theorem Plain.optionsExact (h : l.Plain) {F : Factory (StateM σ) α} {own : String} {s : σ}
    (hf : F.OptionsExact own s) (t : τ) : (l.around F).OptionsExact own (s, t) where
  name      := by simp [name_around, h.name?, hf.name]
  ascending := by simpa using hf.ascending
  refuses   := by simpa [h.create_eq_error_iff] using hf.refuses
  least     := by simpa [h.create_eq_error_iff] using hf.least

end Layers

section Objects

variable {b : Blueprint (StateM σ) α} {f : ObjectFactory (StateM σ) α} {env : Environment} {s s' : σ}
  {own : String}

theorem Applies.ne_unknownOption {rest : Entries Value} {object : α} {calls : List (Call α)}
    {answer : Except Error α} (h : Applies b f env rest object s calls answer s') :
    answer ≠ .error (.unknownOption own k) := by
  induction h
  case done        => nofun
  case unconverted => nofun
  case refused     => nofun
  case set hi      => exact hi

theorem Unfilled.ne_unknownOption {slots : List Slot} {i : Nat} {e : Error}
    (h : Unfilled f env raw slots i e) : e ≠ .unknownOption own k := by
  have ⟨_, _, _, _, _, hs⟩ := h
  cases hs <;> nofun

theorem Creates.eq_unknownOption_iff {answer : Except Error α} {calls : List (Call α)}
    (h : Creates b f env raw s (answer, s', calls)) : answer = .error (.unknownOption f.name k)
      ↔ IsLeast {k | k ∈ Entries.keys raw ∧ ¬b.Understands k} k := by
  -- Only unknown options are reported so, and there are none once slots are filled.
  have hn (hk : ∀ k ∈ Entries.keys raw, b.Understands k) :
      ¬IsLeast {k | k ∈ Entries.keys raw ∧ ¬b.Understands k} k :=
    fun hl => hl.1.2 (hk k hl.1.1)
  cases h
  case unknown key hl =>
    constructor
    case mp =>
      intro he
      cases he
      exact hl
    case mpr =>
      intro hl'
      rw [hl.unique hl']
  case unfilled hk he        =>
    exact iff_of_false (fun h => he.ne_unknownOption (Except.error.inj h)) (hn hk)
  case refused hk _ _        => exact iff_of_false nofun (hn hk)
  case constructed hk _ _ ha => exact iff_of_false ha.ne_unknownOption (hn hk)

theorem Blueprint.Resolves.mem_optionNames (h : b.Resolves f) : k ∈ f.optionNames ↔ b.Understands k := by
  rw [← h.understands_iff, ObjectFactory.optionNames, mem_ascendingNames, List.mem_append,
    ObjectFactory.understands, Bool.or_eq_true, List.contains_iff_mem, Entries.lookup_isSome_iff]

theorem Blueprint.Resolves.optionsExact (h : b.Resolves f) (env : Environment) (s : σ) :
    (f.toFactory env).OptionsExact f.name s := by
  refine Factory.optionsExact_of_iff rfl (ascending_ascendingNames _) fun raw k hr => ?_
  have ⟨out, hc⟩ := Creates.exists_creates h hr env s
  have he : (f.create env raw s).1 = out.1 := by
    rw [f.erases_create env raw s [], hc.run h hr]
  rw [ObjectFactory.toFactory, he, hc.eq_unknownOption_iff]
  simp only [h.mem_optionNames]

end Objects

section Configurations

variable {env : Environment} {convert : Value → Signature → Except ConversionError Value} {d : Descriptor}
  {m m' : Memory} {converter : Converter} {F : Factory (StateM Memory) Config} {target : String}

-- Induction on the raw map: what is not an option of the schema itself is one of a schema that is built inside.
theorem Environment.NamesUnique.exists_reaches_of_unknownOption (u : env.NamesUnique) {d : Descriptor}
    (hv : env.Valid d) (raw : Entries Value)
    (h : env.configure convert d raw = .error (.unknownOption target k)) :
    ∃ e, env.Reaches d e ∧ e.name = target := by
  rw [u.configure_eq hv raw fun _ _ => rfl] at h
  rcases Schema.exists_yields_of_assemble h with ⟨_, he⟩ | ⟨p, hp, hy⟩
  · cases he
    exact ⟨d, .refl, rfl⟩
  · cases hy
    case faulty r nested hl hr he =>
      have := Schema.sizeOf_lt_of_lookup_map hl
      have hd := hv.edge_of_nested? hp hr
      have ⟨e, hr, hn⟩ := u.exists_reaches_of_unknownOption (hv.of_edge hd) nested he
      exact ⟨e, .head hd hr, hn⟩
termination_by sizeOf raw

-- A schema inside has another name, so that an unknown option is told apart from one of its own.
theorem Environment.NamesUnique.configure_eq_unknownOption_iff (u : env.NamesUnique) (hv : env.Valid d)
    (hr : raw.Ascending) : env.configure convert d raw = .error (.unknownOption d.name k)
      ↔ IsLeast {k | k ∈ Entries.keys raw ∧ k ∉ d.table.optionNames} k := by
  rw [u.configure_eq hv raw fun _ _ => rfl, Schema.assemble_eq_error_iff d.ascending_optionNames hr]
  constructor
  case mp =>
    rintro (⟨k', hl, he⟩ | ⟨_, before, p, after, hs, _, hy⟩)
    · cases he
      exact hl
    · cases hy
      case faulty r nested hl hn he =>
        have hd := hv.edge_of_nested? (by simp [hs]) hn
        have ⟨e, hr, hn⟩ := u.exists_reaches_of_unknownOption (hv.of_edge hd) nested he
        exact absurd hn (hv.name_ne hd hr)
  case mpr => exact fun hl => .inl ⟨k, hl, rfl⟩

theorem Factory.ofDescriptor_eq_ok_iff : (Factory.ofDescriptor env converter d m).1 = .ok F
    ↔ ∃ s, (Materializer.validate env d m).1 = .ok s
      ∧ F = ⟨d.name, s.optionNames, materialize env converter d⟩ := by
  rw [Factory.ofDescriptor, bind_apply]
  cases hs : Materializer.validate env d m
  case mk x m' =>
    cases x
    case error e => simp
    case ok s =>
      constructor
      case mp => exact fun h => ⟨s, rfl, (Except.ok.inj h).symm⟩
      case mpr =>
        rintro ⟨_, hs, rfl⟩
        cases hs
        rfl

theorem Environment.NamesUnique.optionsExact (u : env.NamesUnique)
    (hm : m.Keeps env.Defines env.Valid) (hd : env.Defines d)
    (hf : (Factory.ofDescriptor env converter d m).1 = .ok F) (hm' : m'.Keeps env.Defines env.Valid) :
    F.OptionsExact d.name m' := by
  obtain ⟨s, hs, rfl⟩ := Factory.ofDescriptor_eq_ok_iff.mp hf
  have hv : env.Valid d := (exists_validate_ok_iff u.inherits_valid hm hd).mp ⟨s, hs⟩
  cases u.eq_table_of_validate hm hd (validate_ok_iff.mp hs)
  refine Factory.optionsExact_of_iff rfl d.ascending_optionNames fun raw k hr => ?_
  rw [(u.answers_materialize hv hd converter raw m' hm').1]
  exact u.configure_eq_unknownOption_iff hv hr

end Configurations

namespace Factory

-- A factory under no layers, with its own name and a state that it may meet. That of configurations works where
-- a name denotes one descriptor, and in whatever memory calls have left.
inductive Bare : {σ α : Type} → Factory (StateM σ) α → String → σ → Prop
  | object {σ α : Type} {b : Blueprint (StateM σ) α} {f : ObjectFactory (StateM σ) α} (env : Environment)
      (s : σ) : b.resolve = .ok f → Bare (f.toFactory env) f.name s
  | config {env : Environment} {converter : Converter} {d : Descriptor} {m m' : Memory}
      {F : Factory (StateM Memory) Config} : env.NamesUnique → env.Defines d →
    Reached env converter env.Defines m → (ofDescriptor env converter d m).1 = .ok F →
      Reached env converter env.Defines m' → Bare F d.name m'

variable {F : Factory (StateM σ) α} {own : String} {s : σ}

theorem Bare.optionsExact (h : F.Bare own s) : F.OptionsExact own s := by
  cases h
  case object h => exact (Blueprint.resolves_of_resolve h).optionsExact _ _
  case config u hd hm hf hm' =>
    exact u.optionsExact (hm.keeps u.inherits_valid) hd hf (hm'.keeps u.inherits_valid)

theorem optionNames_exact (h : F.Bare own s) : F.OptionsExact own s
    ∧ ∀ {β τ : Type} (l : Layers τ α β) (t : τ), l.Plain → (l.around F).OptionsExact own (s, t) :=
  ⟨h.optionsExact, fun _ t hl => hl.optionsExact h.optionsExact t⟩

def jobFactory : Factory (StateM Memory) Config where
  name        := "Job"
  optionNames := ["name", "retry"]
  create      := materialize jobs .standard job

-- The schema of what is built, for callers that share the factory and count what they ask for.
def countedSchemas : Layers Nat Config String :=
  .forwarded <| .mapped Config.schema <| .observed (fun _ n => n + 1) (fun _ n => n) .bare

theorem optionNames_exact_job :
    ((ObjectFactory.gaugeFactory.toFactory .empty).Bare "Gauge" 0
      ∧ (ObjectFactory.gaugeFactory.toFactory .empty).OptionsExact "Gauge" 0)
    ∧ jobFactory.Bare "Job" (materialize jobs .standard job jobOptions .fresh).2 ∧ countedSchemas.Plain
      ∧ jobFactory.OptionsExact "Job" (materialize jobs .standard job jobOptions .fresh).2
      ∧ (countedSchemas.around jobFactory).OptionsExact "Job"
          ((materialize jobs .standard job jobOptions .fresh).2, 0) := by
  have hd : jobs.Defines job := List.mem_cons_self
  have hf : (ofDescriptor jobs .standard job .fresh).1 = .ok jobFactory :=
    ofDescriptor_eq_ok_iff.mpr ⟨job.table, validate_job, rfl⟩
  have h : jobFactory.Bare "Job" (materialize jobs .standard job jobOptions .fresh).2 :=
    .config namesUnique_jobs hd .fresh hf (.materialize jobOptions .fresh hd)
  have hg : (ObjectFactory.gaugeFactory.toFactory .empty).Bare "Gauge" 0 :=
    .object (b := ObjectFactory.gaugeBlueprint) .empty 0 rfl
  exact ⟨⟨hg, (optionNames_exact hg).1⟩, h, trivial, (optionNames_exact h).1,
    (optionNames_exact h).2 countedSchemas 0 trivial⟩

end Factory
end BulletinPipeline
