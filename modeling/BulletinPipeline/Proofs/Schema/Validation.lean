import BulletinPipeline.Proofs.Schema.Walk
import BulletinPipeline.Schema.Validation

namespace BulletinPipeline

namespace Memory

variable {m : Memory} {d e : Descriptor} {s : Schema} {r : Remembered} {D P : Descriptor → Prop}

-- What memory has of a descriptor in `D` that is legal and has a property.
structure Sound (D P : Descriptor → Prop) (r : Remembered) : Prop where
  mem    : D r.descriptor
  legal  : r.descriptor.Legal
  holds  : P r.descriptor
  schema : r.schema = r.descriptor.table

def Keeps (D P : Descriptor → Prop) (m : Memory) : Prop :=
  ∀ d r, m.find? d = some r → Sound D P r

theorem keeps_none : none.Keeps D P :=
  fun _ _ h => nomatch h

theorem keeps_fresh : fresh.Keeps D P :=
  fun _ _ h => nomatch h

theorem same_of_find? (h : m.find? d = some r) : r.descriptor.same d := by
  cases m
  case none   => nomatch h
  case some c => exact (Option.filter_eq_some_iff.mp h).2

theorem find?_remember (h : (m.remember d s).find? e = some r) :
    (r.descriptor = d ∧ r.schema = s) ∨ m.find? e = some r := by
  cases m
  case none   => nomatch h
  case some c =>
    simp only [remember, Option.map_some, find?, Entries.lookup_insert] at h ⊢
    split at h
    case isFalse => exact .inr h
    case isTrue  =>
      have hr := (Option.filter_eq_some_iff.mp h).1
      simp only [Option.some.injEq] at hr
      exact .inl <| hr ▸ ⟨rfl, rfl⟩

theorem Keeps.remember (h : m.Keeps D P) (hd : D d) (hl : d.Legal) (hP : P d) :
    (m.remember d d.table).Keeps D P := by
  intro e r hr
  cases find?_remember hr
  case inr hm => exact h e r hm
  case inl he =>
    have ⟨hr, hs⟩ := he
    exact ⟨hr ▸ hd, hr ▸ hl, hr ▸ hP, hr ▸ hs⟩

end Memory

namespace Environment

variable {env : Environment} {d : Descriptor} {m : Memory} {r : SchemaRef} {path : List String}

-- The five ways that validation takes.
theorem validate_of_find? {q : Remembered} (h : m.find? d = some q) :
    validate env d path m = (.ok q.schema, m) := by
  rw [validate, h]

theorem validate_circular (hf : m.find? d = none) (hp : d.name ∈ path) :
    validate env d path m = (.error (.circular (path ++ [d.name])), m) := by
  rw [validate]
  simp only [hf, hp, if_true]

theorem validate_illegal {e : SchemaError} (hf : m.find? d = none) (hp : d.name ∉ path)
    (he : Schema.ofDescriptor d = .error e) : validate env d path m = (.error e, m) := by
  rw [validate]
  simp only [hf, hp, he, if_false]

theorem validate_faulty {m' : Memory} {e : SchemaError} (hf : m.find? d = none)
    (hp : d.name ∉ path) (hl : d.Legal)
    (he : validateAll env d.table.references (path ++ [d.name]) m = (.error e, m')) :
    validate env d path m = (.error e, m') := by
  rw [validate]
  simp only [hf, hp, Schema.ofDescriptor_of_legal hl, he, if_false]

theorem validate_legal {m' : Memory} {a : Unit} (hf : m.find? d = none) (hp : d.name ∉ path)
    (hl : d.Legal)
    (ha : validateAll env d.table.references (path ++ [d.name]) m = (.ok a, m')) :
    validate env d path m = (.ok d.table, m'.remember d d.table) := by
  rw [validate]
  simp only [hf, hp, Schema.ofDescriptor_of_legal hl, ha, if_false]

-- What is accepted was in memory, or is afterwards.
theorem cases_of_validate_ok {s : Schema} (h : (validate env d path m).1 = .ok s) :
    (∃ q, m.find? d = some q ∧ validate env d path m = (.ok q.schema, m))
      ∨ ∃ m' : Memory, validate env d path m = (.ok d.table, m'.remember d d.table) := by
  cases hf : m.find? d
  case some q => exact .inl ⟨q, rfl, validate_of_find? hf⟩
  case none   =>
    by_cases hn : d.name ∈ path
    case pos => simp [validate_circular hf hn] at h
    case neg =>
      cases ho : Schema.ofDescriptor d
      case error e => simp [validate_illegal hf hn ho] at h
      case ok t    =>
        have hl := (Schema.legal_of_ofDescriptor ho).1
        cases ha : validateAll env d.table.references (path ++ [d.name]) m
        case mk x m' =>
          cases x
          case error e => simp [validate_faulty hf hn hl ha] at h
          case ok a    => exact .inr ⟨m', validate_legal hf hn hl ha⟩

-- The schema may be that of another descriptor, which reads the same.
theorem exists_table_of_validate {D P : Descriptor → Prop} {s : Schema} (hm : m.Keeps D P)
    (h : (validate env d path m).1 = .ok s) :
    ∃ e, s = e.table ∧ (e = d ∨ e.same d ∧ D e ∧ e.Legal) := by
  cases cases_of_validate_ok h
  case inl hq =>
    have ⟨q, hf, hv⟩ := hq
    have hk := hm d q hf
    rw [hv, hk.schema] at h
    exact ⟨q.descriptor, (Except.ok.inj h).symm, .inr ⟨Memory.same_of_find? hf, hk.mem, hk.legal⟩⟩
  case inr hr =>
    have ⟨_, hv⟩ := hr
    rw [hv] at h
    exact ⟨d, (Except.ok.inj h).symm, .inl rfl⟩

theorem validateAll_cons_none (h : env.resolve? r = none) (rs : List SchemaRef) :
    validateAll env (r :: rs) path m = (.error (.violation r.name .concrete), m) := by
  rw [validateAll]
  split <;> simp_all

theorem validateAll_cons_some (h : env.resolve? r = some d) (rs : List SchemaRef) :
    validateAll env (r :: rs) path m = match validate env d path m with
      | (.error e, m) => (.error e, m)
      | (.ok _, m)    => validateAll env rs path m := by
  rw [validateAll]
  split
  case h_1 hr   => simp [h] at hr
  case h_2 e hr => cases h.symm.trans hr; rfl

-- A memory that keeps nothing never starts to, and one that does never stops.
theorem isSome_validate (env : Environment) (d : Descriptor) (path : List String) (m : Memory) :
    (validate env d path m).2.isSome = m.isSome := by
  refine (validate.mutual_induct env
    (fun d path m => (validate env d path m).2.isSome = m.isSome)
    (fun rs path m => (validateAll env rs path m).2.isSome = m.isSome)
    ?hit ?onPath ?illegal ?inner ?validated ?nil ?unresolved ?failed ?cons).1 d path m
  case hit =>
    intro d path m q hq
    rw [validate_of_find? hq]
  case onPath =>
    intro d path m hf hn
    rw [validate_circular hf hn]
  case illegal =>
    intro d path m hf hn e he
    rw [validate_illegal hf hn he]
  case inner =>
    intro d path m hf hn s hs e m' he hi
    obtain ⟨hl, rfl⟩ := Schema.legal_of_ofDescriptor hs
    rw [he] at hi
    rw [validate_faulty hf hn hl he]
    exact hi
  case validated =>
    intro d path m hf hn s hs _ m' ha hi
    obtain ⟨hl, rfl⟩ := Schema.legal_of_ofDescriptor hs
    rw [ha] at hi
    rw [validate_legal hf hn hl ha, Memory.remember, Option.isSome_map]
    exact hi
  case nil =>
    intro path m
    rw [validateAll]
  case unresolved =>
    intro path m r rs hr
    rw [validateAll_cons_none hr]
  case failed =>
    intro path m r rs d hr e m' he hi
    simpa [validateAll_cons_some hr, he] using hi
  case cons =>
    intro path m r rs d hr s m' hs hi hj
    simp only [validateAll_cons_some hr, hs] at hi ⊢
    exact hj.trans hi

theorem Valid.validate (h : env.Valid d) (path : List String) (m : Memory)
    (hp : ∀ e, env.Reaches d e → e.name ∉ path) :
    ∃ s, (validate env d path m).1 = .ok s := by
  refine (validate.mutual_induct env
    (fun d path m => env.Valid d → (∀ e, env.Reaches d e → e.name ∉ path) →
      ∃ s, (BulletinPipeline.validate env d path m).1 = .ok s)
    (fun rs path m => (∀ r ∈ rs, ∃ e, env.resolve? r = some e ∧ env.Valid e ∧
        ∀ f, env.Reaches e f → f.name ∉ path) →
      (validateAll env rs path m).1 = .ok ())
    ?hit ?onPath ?illegal ?inner ?validated ?nil ?unresolved ?failed ?cons).1 d path m h hp
  case hit =>
    intro d path m r hr _ _
    exact ⟨r.schema, by rw [validate_of_find? hr]⟩
  case onPath =>
    intro d path m _ hm _ hp
    exact absurd hm (hp d .refl)
  case illegal =>
    intro d path m _ _ e he h _
    simp [Schema.ofDescriptor_of_legal h.self_legal] at he
  case inner =>
    intro d path m _ hn s hs e m' he hi h hp
    have hs' := (Schema.legal_of_ofDescriptor hs).2
    have hi := hi fun r hr => by
      rw [hs', h.self_legal.mem_table_references] at hr
      have ⟨c, hc, hd⟩ := h.resolve? hr
      refine ⟨c, hc, h.of_edge hd, fun f hf hm => ?_⟩
      cases List.mem_append.mp hm
      case inl hm => exact hp f (.head hd hf) hm
      case inr hm => exact h.name_ne hd hf (List.mem_singleton.mp hm)
    simp [he] at hi
  case validated =>
    intro d path m hf hn s hs _ m' ha _ _ _
    obtain ⟨hl, rfl⟩ := Schema.legal_of_ofDescriptor hs
    exact ⟨d.table, by rw [validate_legal hf hn hl ha]⟩
  case nil =>
    intro path m _
    rw [validateAll]
  case unresolved =>
    intro path m r rs hr h
    have ⟨_, he, _⟩ := h r List.mem_cons_self
    simp [hr] at he
  case failed =>
    intro path m r rs d hr e m' he hi h
    have ⟨c, hc, hv, hp⟩ := h r List.mem_cons_self
    cases hr.symm.trans hc
    have ⟨_, hs⟩ := hi hv hp
    simp [he] at hs
  case cons =>
    intro path m r rs d hr s m' hs _ hi h
    simp only [validateAll_cons_some hr, hs]
    exact hi fun r hm => h r (List.mem_cons_of_mem _ hm)

-- A property that a legal descriptor in `D` has if all that its accessors refer to has it, and that passes
-- between descriptors in `D` that read the same.
structure Inherits (env : Environment) (D P : Descriptor → Prop) : Prop where
  resolved : ∀ r e, env.resolve? r = some e → D e
  edges    : ∀ d, D d → d.Legal →
    (∀ r ∈ d.references, ∃ e, env.resolve? r = some e ∧ P e) → P d
  same     : ∀ d e, D d → D e → d.Legal → P d → d.same e → P e

-- The same for descriptors without the given names.
structure InheritsPast (env : Environment) (names : List String) (D P : Descriptor → Prop) : Prop where
  resolved : ∀ r e, env.resolve? r = some e → D e
  edges    : ∀ d, D d → d.Legal → d.name ∉ names →
    (∀ r ∈ d.references, ∃ e, env.resolve? r = some e ∧ P e) → P d
  same     : ∀ d e, D d → D e → d.Legal → P d → d.same e → P e

-- In memory are only descriptors in `D` with the property, so that a descriptor which is found there has
-- it as well, for reading the same. A walk goes on only from names that are not on its path.
theorem InheritsPast.validate_validateAll {names : List String} {D P : Descriptor → Prop}
    (i : env.InheritsPast names D P) :
    (∀ d path m, names ⊆ path → D d → m.Keeps D P → (validate env d path m).2.Keeps D P ∧
      ∀ s, (validate env d path m).1 = .ok s → P d)
    ∧ ∀ rs path m, names ⊆ path → m.Keeps D P → (validateAll env rs path m).2.Keeps D P ∧
      ((validateAll env rs path m).1 = .ok () → ∀ r ∈ rs, ∃ e, env.resolve? r = some e ∧ P e) := by
  refine validate.mutual_induct env _ _
    ?hit ?onPath ?illegal ?inner ?validated ?nil ?unresolved ?failed ?cons
  case hit =>
    intro d path m r hr _ hd hm
    have h := hm d r hr
    rw [validate_of_find? hr]
    exact ⟨hm, fun _ _ => i.same _ d h.mem hd h.legal h.holds (Memory.same_of_find? hr)⟩
  case onPath =>
    intro d path m hf hn _ _ hm
    rw [validate_circular hf hn]
    exact ⟨hm, fun _ => nofun⟩
  case illegal =>
    intro d path m hf hn e he _ _ hm
    rw [validate_illegal hf hn he]
    exact ⟨hm, fun _ => nofun⟩
  case inner =>
    intro d path m hf hn s hs e m' he hi hp _ hm
    obtain ⟨hl, rfl⟩ := Schema.legal_of_ofDescriptor hs
    rw [he] at hi
    rw [validate_faulty hf hn hl he]
    exact ⟨(hi (List.subset_append_of_subset_left _ hp) hm).1, fun _ => nofun⟩
  case validated =>
    intro d path m hf hn s hs _ m' ha hi hp hd hm
    obtain ⟨hl, rfl⟩ := Schema.legal_of_ofDescriptor hs
    have ⟨hm', hr⟩ := hi (List.subset_append_of_subset_left _ hp) hm
    simp only [ha, true_implies, hl.mem_table_references] at hm' hr
    have hP := i.edges d hd hl (fun hm => hn (hp hm)) hr
    rw [validate_legal hf hn hl ha]
    exact ⟨hm'.remember hd hl hP, fun _ _ => hP⟩
  case nil =>
    intro path m _ hm
    rw [validateAll]
    exact ⟨hm, by simp⟩
  case unresolved =>
    intro path m r rs hr _ hm
    simpa [validateAll_cons_none hr] using hm
  case failed =>
    intro path m r rs d hr e m' he hi hp hm
    simpa [validateAll_cons_some hr, he] using (hi hp (i.resolved r d hr) hm).1
  case cons =>
    intro path m r rs d hr s m' hs hi hj hp hm
    have ⟨hm', hP⟩ := hi hp (i.resolved r d hr) hm
    simp only [hs] at hm' hP
    have ⟨hm'', hPs⟩ := hj hp hm'
    simp only [validateAll_cons_some hr, hs]
    refine ⟨hm'', fun h q hq => ?_⟩
    cases List.mem_cons.mp hq
    case inl he => exact he ▸ ⟨d, hr, hP s rfl⟩
    case inr hq => exact hPs h q hq

namespace Inherits

variable {D P : Descriptor → Prop}

theorem validate (i : env.Inherits D P) (hd : D d) (path : List String) (hm : m.Keeps D P) :
    (validate env d path m).2.Keeps D P ∧ ∀ s, (validate env d path m).1 = .ok s → P d :=
  have i : env.InheritsPast [] D P := ⟨i.resolved, fun d hd hl _ => i.edges d hd hl, i.same⟩
  i.validate_validateAll.1 d path m (List.nil_subset _) hd hm

end Inherits

end Environment
end BulletinPipeline
