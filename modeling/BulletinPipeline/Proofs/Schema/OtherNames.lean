import BulletinPipeline.Proofs.Schema.Assembly

namespace BulletinPipeline

open Relation

namespace Environment

variable {env : Environment} {name : String} {c d : Descriptor} {r : SchemaRef}

-- No walk from the descriptor comes to one that references stand for and that has the name.
def Misses (env : Environment) (name : String) (d : Descriptor) : Prop :=
  ∀ e, TransGen env.Edge d e → env.Defines e → e.name ≠ name

-- What a reference stands for has another name, and leads to no such descriptor.
def Avoids (env : Environment) (name : String) (r : SchemaRef) : Prop :=
  ∀ c, env.resolve? r = some c → c.name ≠ name ∧ env.Misses name c

theorem Misses.avoids (h : env.Misses name d) (hr : r ∈ d.references) : env.Avoids name r := by
  intro c hc
  have he : env.Edge d c := ⟨r, hr, target_of_resolve? hc⟩
  exact ⟨h c (.single he) (defines_of_resolve? hc), fun e ht => h e (.head he ht)⟩

theorem misses_of_references
    (h : ∀ r ∈ d.references, ∃ c, env.resolve? r = some c ∧ c.name ≠ name ∧ env.Misses name c) :
    env.Misses name d := by
  intro e ht hd
  have ⟨b, ⟨r, hm, hb⟩, hr⟩ := TransGen.head'_iff.mp ht
  have ⟨c, hc, hn, hs⟩ := h r hm
  cases (target_of_resolve? hc).symm.trans hb
  cases reflTransGen_iff_eq_or_transGen.mp hr
  case inl he => exact he ▸ hn
  case inr ht => exact hs e ht hd

-- Behind a name on the path, whatever is accepted has nothing to do with the name.
theorem NamesUnique.inheritsPast_misses (u : env.NamesUnique) (name : String) :
    env.InheritsPast [name] env.Defines fun c => c.name ≠ name ∧ env.Misses name c where
  resolved _ _ := defines_of_resolve?
  edges _ _ _ hn hr := ⟨List.ne_of_not_mem_cons hn, misses_of_references hr⟩
  same c d hc hd _ h hs := u c d hc hd (Descriptor.name_eq_of_same hs) ▸ h

end Environment

-- Building looks at schemas only, not at what they are the schemas of.
def Schema.Avoids (env : Environment) (name : String) (s : Schema) : Prop :=
  ∀ r ∈ s.references, env.Avoids name r

theorem Environment.Misses.table {env : Environment} {name : String} {d : Descriptor}
    (h : env.Misses name d) (hl : d.Legal) : d.table.Avoids env name :=
  fun _ hr => h.avoids (hl.mem_table_references.mp hr)

namespace Memory

variable {env : Environment} {name : String} {m m' : Memory} {d e : Descriptor} {s t : Schema}

-- The schema that memory has of a descriptor, whenever it was validated.
def known? (m : Memory) (d : Descriptor) : Option Schema :=
  (m.find? d).map Remembered.schema

theorem known?_eq_none_iff : m.known? d = Option.none ↔ m.find? d = Option.none :=
  Option.map_eq_none_iff

theorem known?_remember : (m.remember d s).known? e
    = if e.name = s.name then if m.isSome ∧ d.same e then some s else Option.none else m.known? e := by
  cases m
  case none => simp [known?, find?, remember]
  case some c =>
    simp only [known?, find?, remember, Option.map_some, Entries.lookup_insert, Option.isSome_some, true_and]
    by_cases hn : e.name = s.name
    case neg => simp [hn]
    case pos => by_cases hs : d.same e <;> simp [hn, hs, Option.filter]

structure AlikeBut (env : Environment) (name : String) (m m' : Memory) : Prop where
  kept   : m.isSome = m'.isSome
  known  : ∀ d, d.name ≠ name → m.known? d = m'.known? d
  avoids : ∀ d s, d.name ≠ name → m.known? d = some s → s.Avoids env name

namespace AlikeBut

theorem find?_eq_none (h : AlikeBut env name m m') (hn : d.name ≠ name) (hf : m.find? d = Option.none) :
    m'.find? d = Option.none := by
  rw [← known?_eq_none_iff, ← h.known d hn]
  exact known?_eq_none_iff.mpr hf

theorem fresh : AlikeBut env name fresh fresh where
  kept       := rfl
  known _ _  := rfl
  avoids _ _ _ h := nomatch h

theorem remember (h : AlikeBut env name m m') (hs : s.Avoids env name) :
    AlikeBut env name (m.remember d s) (m'.remember d s) where
  kept := by simp only [Memory.remember, Option.isSome_map, h.kept]
  known e hn := by rw [known?_remember, known?_remember, h.kept, h.known e hn]
  avoids e t hn ht := by
    rw [known?_remember] at ht
    split at ht
    case isFalse => exact h.avoids e t hn ht
    case isTrue  =>
      split at ht <;> cases ht
      exact hs

-- What is kept under the name itself makes no difference.
theorem remember_name (h : AlikeBut env name m m') (hs : s.name = name) (ht : t.name = name) :
    AlikeBut env name (m.remember d s) (m'.remember e t) where
  kept := by simp only [Memory.remember, Option.isSome_map, h.kept]
  known c hn := by rw [known?_remember, known?_remember, if_neg (hs ▸ hn), if_neg (ht ▸ hn), h.known c hn]
  avoids c u hn hu := by
    rw [known?_remember, if_neg (hs ▸ hn)] at hu
    exact h.avoids c u hn hu

end AlikeBut
end Memory

open Memory Environment

section Run

variable {ε α : Type}

-- Two runs that end alike, in memories that are alike but for a name.
inductive EndAlike (env : Environment) (name : String) (Q : α → Prop) :
    Except ε α × Memory → Except ε α × Memory → Prop
  | ok {a : α} {m m' : Memory} : Q a → AlikeBut env name m m' → EndAlike env name Q (.ok a, m) (.ok a, m')
  | error {e : ε} {m m' : Memory} : AlikeBut env name m m' → EndAlike env name Q (.error e, m) (.error e, m')

def Overlooks (env : Environment) (name : String) (Q : α → Prop) (x : Memory → Except ε α × Memory) : Prop :=
  ∀ m m', AlikeBut env name m m' → EndAlike env name Q (x m) (x m')

end Run

theorem EndAlike.fst_eq {ε α : Type} {env : Environment} {name : String} {Q : α → Prop}
    {x y : Except ε α × Memory} (h : EndAlike env name Q x y) : x.1 = y.1 := by
  cases h <;> rfl

namespace Overlooks

variable {env : Environment} {name : String} {α β : Type} {Q : α → Prop} {c : Descriptor} {r : SchemaRef}
  {rs : List SchemaRef}

theorem bind {x : Materializing α} {f : α → Materializing β} (hx : Overlooks env name Q x)
    (hf : ∀ a, Q a → Overlooks env name (fun _ => True) (f a)) :
    Overlooks env name (fun _ => True) (x >>= f) := by
  intro m m' h
  have hr := hx m m' h
  rw [bind_apply, bind_apply]
  generalize x m = o, x m' = o' at hr
  cases hr
  case ok hq hm => exact hf _ hq _ _ hm
  case error hm => exact .error hm

theorem respects (env : Environment) (name : String) :
    Respects (M := Materializing) (N := Materializing) fun _ x _ => Overlooks env name (fun _ => True) x where
  pure _ _ _ h  := .ok trivial h
  throw _ _ _ h := .error h
  bind h hf     := h.bind fun a _ => hf a

-- Memory is asked for descriptors with other names only.
theorem validate_validateAll (env : Environment) (name : String) :
    (∀ c path m, c.name ≠ name → env.Misses name c → ∀ m', AlikeBut env name m m' →
      EndAlike env name (Schema.Avoids env name) (validate env c path m) (validate env c path m'))
    ∧ ∀ rs path m, (∀ r ∈ rs, env.Avoids name r) →
      ∀ m', AlikeBut env name m m' →
        EndAlike env name (fun _ => True) (validateAll env rs path m) (validateAll env rs path m') := by
  refine validate.mutual_induct env _ _
    ?hit ?onPath ?illegal ?inner ?validated ?nil ?unresolved ?failed ?cons
  case hit =>
    intro c path m q hq hn _ m' h
    have hk : m.known? c = some q.schema := by rw [known?, hq, Option.map_some]
    obtain ⟨q', hq', hs⟩ := Option.map_eq_some_iff.mp ((h.known c hn).symm.trans hk)
    rw [validate_of_find? hq, validate_of_find? hq', hs]
    exact .ok (h.avoids c _ hn hk) h
  case onPath =>
    intro c path m hf hp hn _ m' h
    rw [validate_circular hf hp, validate_circular (h.find?_eq_none hn hf) hp]
    exact .error h
  case illegal =>
    intro c path m hf hp e he hn _ m' h
    rw [validate_illegal hf hp he, validate_illegal (h.find?_eq_none hn hf) hp he]
    exact .error h
  case inner =>
    intro c path m hf hp s hs e n he hi hn hc m' h
    obtain ⟨hl, rfl⟩ := Schema.legal_of_ofDescriptor hs
    have hr := hi (hc.table hl) m' h
    rw [he] at hr
    generalize he' : validateAll env c.table.references (path ++ [c.name]) m' = o at hr
    cases hr
    case error hm =>
      rw [validate_faulty hf hp hl he, validate_faulty (h.find?_eq_none hn hf) hp hl he']
      exact .error hm
  case validated =>
    intro c path m hf hp s hs _ n ha hi hn hc m' h
    obtain ⟨hl, rfl⟩ := Schema.legal_of_ofDescriptor hs
    have hr := hi (hc.table hl) m' h
    rw [ha] at hr
    generalize ha' : validateAll env c.table.references (path ++ [c.name]) m' = o at hr
    cases hr
    case ok _ hm =>
      rw [validate_legal hf hp hl ha, validate_legal (h.find?_eq_none hn hf) hp hl ha']
      exact .ok (hc.table hl) (hm.remember (hc.table hl))
  case nil =>
    intro path m _ m' h
    rw [validateAll, validateAll]
    exact .ok trivial h
  case unresolved =>
    intro path m r rs hr _ m' h
    rw [validateAll_cons_none hr, validateAll_cons_none hr]
    exact .error h
  case failed =>
    intro path m r rs c hr e n he hi hc m' h
    obtain ⟨hn, hm⟩ := hc r List.mem_cons_self c hr
    have hv := hi hn hm m' h
    simp only [validateAll_cons_some hr, he] at hv ⊢
    generalize validate env c path m' = o at hv
    cases hv
    case error hm => exact .error hm
  case cons =>
    intro path m r rs c hr s n hs hi hj hc m' h
    obtain ⟨hn, hm⟩ := hc r List.mem_cons_self c hr
    have hv := hi hn hm m' h
    simp only [validateAll_cons_some hr, hs] at hv ⊢
    generalize validate env c path m' = o at hv
    cases hv
    case ok _ hm => exact hj (fun r hr => hc r (List.mem_cons_of_mem _ hr)) _ hm

theorem validateAll (hr : ∀ r ∈ rs, env.Avoids name r) (path : List String) :
    Overlooks env name (fun _ => True) (BulletinPipeline.validateAll env rs path) :=
  fun m => (validate_validateAll env name).2 rs path m hr

theorem resolve (hr : env.Avoids name r) :
    Overlooks env name (Schema.Avoids env name) (Schema.resolve env r) := by
  intro m m' h
  cases hc : env.resolve? r <;> simp only [Schema.resolve, hc]
  case none => exact .error h
  case some c =>
    have ⟨hn, hm⟩ := hr c hc
    have hv := (validate_validateAll env name).1 c [] m hn hm m' h
    generalize validate env c [] m = o, validate env c [] m' = o' at hv
    cases hv
    case ok hs hm => exact .ok hs hm
    case error hm => exact .error hm

theorem fill {convert : Value → Signature → Except ConversionError Value} {s : Schema} (hs : s.Avoids env name)
    (raw : Entries Value) (path : List String) :
    Overlooks env name (fun _ => True) (s.fill env convert raw path) := by
  rw [Schema.fill_eq]
  split
  · exact (respects env name).throw _
  refine Schema.assemble_related (g := fun r nested => do
    let t ← Schema.resolve env r
    t.fill env convert nested (path ++ [s.name])) (respects env name) fun p hp r nested hr hl => ?_
  have := Schema.sizeOf_lt_of_lookup_map hl
  refine (resolve (hs r (List.mem_filterMap.mpr ⟨p, hp, hr⟩))).bind fun t ht => ?_
  exact fill ht nested _
termination_by sizeOf raw

end Overlooks

namespace Materializer

variable {env : Environment} {converter : Converter} {d e : Descriptor} {s : Schema} {m m' : Memory}
  {f : SchemaError}

theorem validate_of_flaw (h : Schema.ofDescriptor d = .error f) :
    (validate env d .fresh).1 = .error (.schema f) := by
  rw [validate_fst, validate_illegal rfl List.not_mem_nil h]
  rfl

theorem legal_of_validate_fresh (h : (validate env d .fresh).1 = .ok s) : d.Legal ∧ s = d.table := by
  cases ho : Schema.ofDescriptor d
  case error f => exact nomatch (validate_of_flaw ho).symm.trans h
  case ok =>
    cases cases_of_validate_ok (validate_ok_iff.mp h)
    case inl hq =>
      have ⟨_, hf, _⟩ := hq
      contradiction
    case inr hv =>
      have ⟨_, hv⟩ := hv
      rw [validate_ok_iff, hv] at h
      exact ⟨(Schema.legal_of_ofDescriptor ho).1, (Except.ok.inj h).symm⟩

theorem materialize_of_validate_ok (h : BulletinPipeline.validate env d [] m = (.ok s, m'))
    (raw : Entries Value) :
    materialize env converter d raw m = s.fill env (converter.toResult env) raw [] m' := by
  have hv : validate env d m = (.ok s, m') := by rw [validate, h]
  rw [materialize, bind_apply, hv]
  rfl

theorem misses_of_validate_fresh (u : env.NamesUnique) (h : (validate env d .fresh).1 = .ok s) :
    env.Misses d.name d := by
  have hl := (legal_of_validate_fresh h).1
  rcases ha : validateAll env d.table.references ([] ++ [d.name]) .fresh with ⟨x, m⟩
  cases x
  case error =>
    rw [validate_ok_iff, validate_faulty rfl List.not_mem_nil hl ha] at h
    nomatch h
  case ok =>
    have hr := ((u.inheritsPast_misses d.name).validate_validateAll.2 d.table.references ([] ++ [d.name]) .fresh
      (List.Subset.refl _) keeps_fresh).2
    rw [ha] at hr
    exact misses_of_references fun r hm => hr rfl r (hl.mem_table_references.mpr hm)

-- A name denotes one descriptor; or at least, if the descriptor is accepted at all, no walk from it comes to one of
-- its name that references stand for.
def Unrepeated (env : Environment) (d : Descriptor) : Prop :=
  env.NamesUnique ∨ ∀ s, (validate env d .fresh).1 = .ok s → env.Misses d.name d

theorem Unrepeated.misses (h : Unrepeated env d) (hs : (validate env d .fresh).1 = .ok s) :
    env.Misses d.name d := by
  cases h
  case inl u => exact misses_of_validate_fresh u hs
  case inr h => exact h s hs

-- One run of the checks behind both, so that memories differ in what is kept under their name.
theorem fresh_twins (env : Environment) (hd : d.Legal) (he : e.Legal) (hn : e.name = d.name)
    (hr : e.table.references = d.table.references) :
    (∃ f, (validate env d .fresh).1 = .error f ∧ (validate env e .fresh).1 = .error f)
    ∨ (validate env d .fresh).1 = .ok d.table ∧ (validate env e .fresh).1 = .ok e.table
      ∧ (env.Misses d.name d → ∃ m m', AlikeBut env d.name m m' ∧ ∀ converter raw,
          materialize env converter d raw .fresh = d.table.fill env (converter.toResult env) raw [] m
          ∧ materialize env converter e raw .fresh = e.table.fill env (converter.toResult env) raw [] m') := by
  rcases ha : validateAll env d.table.references ([] ++ [d.name]) .fresh with ⟨x, m⟩
  have ha' : validateAll env e.table.references ([] ++ [e.name]) .fresh = (x, m) := by rw [hr, hn, ha]
  cases x
  case error f =>
    refine .inl ⟨.schema f, ?_, ?_⟩
    · rw [validate_fst, validate_faulty rfl List.not_mem_nil hd ha, Except.mapError]
    · rw [validate_fst, validate_faulty rfl List.not_mem_nil he ha', Except.mapError]
  case ok =>
    have hv := validate_legal rfl List.not_mem_nil hd ha
    have hv' := validate_legal rfl List.not_mem_nil he ha'
    refine .inr ⟨by rw [validate_ok_iff, hv], by rw [validate_ok_iff, hv'], fun hm => ?_⟩
    have h := Overlooks.validateAll (hm.table hd) ([] ++ [d.name]) .fresh .fresh .fresh
    rw [ha] at h
    cases h
    case ok _ h =>
      exact ⟨_, _, h.remember_name rfl hn,
        fun _ raw => ⟨materialize_of_validate_ok hv raw, materialize_of_validate_ok hv' raw⟩⟩

end Materializer
end BulletinPipeline
