import BulletinPipeline.Proofs.Schema.Assembly

namespace BulletinPipeline

open Relation

namespace Environment

variable {env : Environment} {c d e : Descriptor} {m : Memory} {path : List String} {r : SchemaRef}

-- The names on the path are those of descriptors that the walk has come through.
def Trail (env : Environment) (path : List String) (d : Descriptor) : Prop :=
  ∀ n ∈ path, ∃ a, env.Defines a ∧ a.name = n ∧ TransGen env.Edge a d

theorem trail_nil (d : Descriptor) : env.Trail [] d :=
  fun _ => (nomatch ·)

theorem Trail.snoc (t : env.Trail path d) (hd : env.Defines d) (h : env.Edge d c) :
    env.Trail (path ++ [d.name]) c := by
  intro n hn
  cases List.mem_append.mp hn
  case inl hn =>
    have ⟨a, ha, he, hw⟩ := t n hn
    exact ⟨a, ha, he, hw.tail h⟩
  case inr hn => exact ⟨d, hd, (List.mem_singleton.mp hn).symm, .single h⟩

theorem Valid.name_ne_of_transGen (hv : env.Valid d) (h : TransGen env.Edge d e) :
    e.name ≠ d.name := by
  have ⟨_, hc, hr⟩ := TransGen.head'_iff.mp h
  exact hv.name_ne hc hr

theorem Valid.defines_of_reaches (hv : env.Valid d) (hd : env.Defines d) (h : env.Reaches d e) :
    env.Defines e := by
  cases ReflTransGen.cases_tail h
  case inl he => exact he ▸ hd
  case inr hb =>
    have ⟨_, _, hb⟩ := hb
    exact defines_of_edge hb (hv.legal e h)

theorem validate_none_snd (env : Environment) (d : Descriptor) (path : List String) :
    (validate env d path .none).2 = .none := by
  have h := isSome_validate env d path .none
  exact Option.isNone_iff_eq_none.mp (Option.isSome_eq_false_iff.mp h)

namespace NamesUnique

-- A descriptor on the way that is met again closes a circle, and no circle goes through a valid one.
theorem not_mem_of_trail (u : env.NamesUnique) (hv : env.Valid d) (hd : env.Defines d)
    (t : env.Trail path d) (hr : env.Reaches d e) : e.name ∉ path := by
  intro hm
  have ⟨a, ha, hn, hw⟩ := t e.name hm
  cases u a e ha (hv.defines_of_reaches hd hr) hn
  exact hv.name_ne_of_transGen (TransGen.trans_right hr hw) rfl

-- Memory only cuts walks short that end well.
theorem validate_fst_eq (u : env.NamesUnique) (hm : m.Keeps env.Defines env.Valid)
    (hd : env.Defines d) (t : env.Trail path d) :
    (validate env d path m).1 = (validate env d path .none).1 := by
  refine (validate.mutual_induct env
    (fun d path m => m.Keeps env.Defines env.Valid → env.Defines d → env.Trail path d →
      (validate env d path m).1 = (validate env d path .none).1)
    (fun rs path m => m.Keeps env.Defines env.Valid →
      (∀ r ∈ rs, ∀ c, env.resolve? r = some c → env.Trail path c) →
      (validateAll env rs path m).1 = (validateAll env rs path .none).1)
    ?hit ?onPath ?illegal ?inner ?validated ?nil ?unresolved ?failed ?cons).1 d path m hm hd t
  case hit =>
    intro d path m q hq hm hd t
    have hk := hm d q hq
    have he := u _ d hk.mem hd (Descriptor.name_eq_of_same (Memory.same_of_find? hq))
    have hv : env.Valid d := he ▸ hk.holds
    obtain ⟨s, hs⟩ := hv.validate path .none fun _ hr => u.not_mem_of_trail hv hd t hr
    rw [validate_of_find? hq, hs, u.eq_table_of_validate Memory.keeps_none hd hs, hk.schema, he]
  case onPath =>
    intro d path m hf hn _ _ _
    rw [validate_circular hf hn, validate_circular rfl hn]
  case illegal =>
    intro d path m hf hn e he _ _ _
    rw [validate_illegal hf hn he, validate_illegal rfl hn he]
  case inner =>
    intro d path m hf hn s hs e m' he hi hm hd t
    obtain ⟨hl, rfl⟩ := Schema.legal_of_ofDescriptor hs
    have hi := hi hm fun r hr c hc => t.snoc hd ⟨r, hl.mem_table_references.mp hr, target_of_resolve? hc⟩
    simp only [he] at hi
    obtain ⟨_, hn'⟩ : ∃ m, validateAll env d.table.references (path ++ [d.name]) .none = (.error e, m) :=
      ⟨_, Prod.ext hi.symm rfl⟩
    rw [validate_faulty hf hn hl he, validate_faulty rfl hn hl hn']
  case validated =>
    intro d path m hf hn s hs _ m' ha hi hm hd t
    obtain ⟨hl, rfl⟩ := Schema.legal_of_ofDescriptor hs
    have hi := hi hm fun r hr c hc => t.snoc hd ⟨r, hl.mem_table_references.mp hr, target_of_resolve? hc⟩
    simp only [ha] at hi
    obtain ⟨_, hn'⟩ : ∃ m, validateAll env d.table.references (path ++ [d.name]) .none = (.ok (), m) :=
      ⟨_, Prod.ext hi.symm rfl⟩
    rw [validate_legal hf hn hl ha, validate_legal rfl hn hl hn']
  case nil =>
    intro path m _ _
    rw [validateAll, validateAll]
  case unresolved =>
    intro path m r rs hr _ _
    rw [validateAll_cons_none hr, validateAll_cons_none hr]
  case failed =>
    intro path m r rs d hr e m' he hi hm t
    have hi := hi hm (defines_of_resolve? hr) (t r List.mem_cons_self d hr)
    have hn : validate env d path .none = (.error e, .none) := by
      refine Prod.ext ?_ (validate_none_snd env d path)
      rw [← hi, he]
    simp only [validateAll_cons_some hr, he, hn]
  case cons =>
    intro path m r rs d hr s m' hs hi hj hm t
    have hd := defines_of_resolve? hr
    have hi := hi hm hd (t r List.mem_cons_self d hr)
    have hn : validate env d path .none = (.ok s, .none) := by
      refine Prod.ext ?_ (validate_none_snd env d path)
      rw [← hi, hs]
    have hm' := (u.inherits_valid.validate hd path hm).1
    rw [hs] at hm'
    simp only [validateAll_cons_some hr, hs, hn]
    exact hj hm' fun r hr => t r (List.mem_cons_of_mem _ hr)

end NamesUnique
end Environment

namespace Materializer

variable {env : Environment} {converter : Converter} {d : Descriptor} {m : Memory} {r : SchemaRef}
  {raw : Entries Value}

theorem validate_fst_eq_none (u : env.NamesUnique) (hm : m.Keeps env.Defines env.Valid)
    (hd : env.Defines d) : (validate env d m).1 = (validate env d .none).1 := by
  rw [validate_fst, validate_fst, u.validate_fst_eq hm hd (Environment.trail_nil d)]

theorem materialize_of_validate_error {e : Error} (h : (validate env d m).1 = .error e) :
    (materialize env converter d raw m).1 = .error e := by
  rw [materialize, bind_apply]
  split
  case h_1 s _ hs => simp [hs] at h
  case h_2 e' _ he =>
    rw [he] at h
    exact congrArg _ (Except.error.inj h)

-- A run answers the same whatever calls came before it.
theorem materialize_fst_eq_none (u : env.NamesUnique) (hm : m.Keeps env.Defines env.Valid)
    (hd : env.Defines d) (converter : Converter) (raw : Entries Value) :
    (materialize env converter d raw m).1 = (materialize env converter d raw .none).1 := by
  by_cases hv : env.Valid d
  case pos =>
    rw [(u.answers_materialize hv hd converter raw m hm).1,
      (u.answers_materialize hv hd converter raw .none Memory.keeps_none).1]
  case neg =>
    have he := validate_fst_eq_none u hm hd
    cases hs : (validate env d m).1
    case ok s => exact absurd ((exists_validate_ok_iff u.inherits_valid hm hd).mp ⟨s, hs⟩) hv
    case error e =>
      rw [materialize_of_validate_error hs, materialize_of_validate_error (he ▸ hs)]

-- Resolving a reference is validating what it stands for, so that building what it stands for is
-- materialization.
theorem resolve_eq_validate (hr : env.resolve? r = some d) :
    Schema.resolve env r = validate env d := by
  funext m
  simp only [Schema.resolve, hr, validate]
  split <;> simp [*]

end Materializer
end BulletinPipeline
