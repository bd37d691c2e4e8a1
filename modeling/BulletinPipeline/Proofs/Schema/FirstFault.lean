import BulletinPipeline.Proofs.Recursion.Evaluation
import BulletinPipeline.Proofs.Schema.Agreement
import BulletinPipeline.Proofs.Schema.Flaw

namespace BulletinPipeline

-- A descriptor that breaks a rule for schemas.
def Descriptor.Breaks (d : Descriptor) : SchemaFault → Prop
  | .concrete     => d.form = .concrete
  | .untagged     => d.tagged = false
  | .parameters n => ∃ a ∈ d.accessors, a.name = n ∧ a.params ≠ []

namespace Environment

-- A walk along the named properties: the descriptors that it leaves, and the one that it ends at.
inductive Follows (env : Environment) : Descriptor → List String → List Descriptor → Descriptor → Prop
  | stop (d : Descriptor) : Follows env d [] [] d
  | step {d c : Descriptor} {a : Signature} {r : SchemaRef} {ks : List String} {ws : List Descriptor} :
    a ∈ d.accessors → a.returns.schemaRef? = some r → Follows env (env.target r) ks ws c →
      Follows env d (propertyName a.name :: ks) (d :: ws) c

-- What is wrong at the end of a walk: it was there before, or what is there is no schema by itself.
inductive Fault (walk : List Descriptor) (d : Descriptor) : SchemaError → Prop
  | again : d ∈ walk → Fault walk d (.circular ((walk ++ [d]).map Descriptor.name))
  | flaw {e : SchemaError} : d ∉ walk → d.Flaw e → Fault walk d e

def FaultAt (env : Environment) (walk : List Descriptor) (d : Descriptor) (ks : List String)
    (e : SchemaError) : Prop :=
  ∃ ws c, env.Follows d ks ws c ∧ Fault (walk ++ ws) c e

def Faultless (env : Environment) (walk : List Descriptor) (d : Descriptor) : Prop :=
  ∀ ks e, ¬env.FaultAt walk d ks e

-- Depth first search that takes properties in ascending order meets faults in the order of the names on the
-- way to them: the way to one comes before its continuations.
def FirstFault (env : Environment) (walk : List Descriptor) (d : Descriptor) (e : SchemaError) : Prop :=
  ∃ ks, env.FaultAt walk d ks e ∧ ∀ ks' e', env.FaultAt walk d ks' e' → ks < ks' ∨ ks' = ks ∧ e' = e

variable {env : Environment} {walk ws : List Descriptor} {c d : Descriptor} {ks : List String} {k : String}
  {e e' : SchemaError} {r : SchemaRef} {p : Property}

theorem Fault.unique (h : Fault walk d e) (h' : Fault walk d e') : e = e' := by
  cases h <;> cases h'
  case again.again         => rfl
  case again.flaw hm hn _  => contradiction
  case flaw.again hn _ hm  => contradiction
  case flaw.flaw hf _ hf'  => exact hf.unique hf'

theorem faultAt_nil : env.FaultAt walk d [] e ↔ Fault walk d e := by
  constructor
  case mp =>
    intro ⟨ws, c, hw, hf⟩
    cases hw
    simpa using hf
  case mpr => exact fun h => ⟨[], d, .stop d, by simpa using h⟩

theorem faultAt_cons : env.FaultAt walk d (k :: ks) e ↔ ∃ a ∈ d.accessors, propertyName a.name = k
    ∧ ∃ r, a.returns.schemaRef? = some r ∧ env.FaultAt (walk ++ [d]) (env.target r) ks e := by
  constructor
  case mp =>
    intro ⟨ws, c, hw, hf⟩
    cases hw
    case step a r ws hr ha hw => exact ⟨a, ha, rfl, r, hr, ws, c, hw, by simpa using hf⟩
  case mpr =>
    intro ⟨a, ha, hk, r, hr, ws, c, hw, hf⟩
    exact ⟨d :: ws, c, hk ▸ .step ha hr hw, by simpa using hf⟩

theorem not_fault_of_legal (hl : d.Legal) (hd : d ∉ walk) : ¬Fault walk d e := by
  intro h
  cases h
  case again hm  => exact hd hm
  case flaw _ hf => exact hl.not_flaw hf

theorem firstFault_of_fault (h : Fault walk d e) : env.FirstFault walk d e := by
  refine ⟨[], faultAt_nil.mpr h, fun ks' e' h' => ?_⟩
  cases ks'
  case nil  => exact .inr ⟨rfl, (faultAt_nil.mp h').unique h⟩
  case cons => exact .inl (List.nil_lt_cons ..)

theorem faultless_of_references (hl : d.Legal) (hd : d ∉ walk)
    (h : ∀ r ∈ d.references, env.Faultless (walk ++ [d]) (env.target r)) : env.Faultless walk d := by
  intro ks e hf
  cases ks
  case nil => exact not_fault_of_legal hl hd (faultAt_nil.mp hf)
  case cons =>
    have ⟨a, ha, _, r, hr, hf⟩ := faultAt_cons.mp hf
    exact h r (Descriptor.mem_references.mpr ⟨a, ha, hr⟩) _ _ hf

-- Of the properties of a legal descriptor the first one counts that leads to a fault.
theorem firstFault_of_property {before after : List Property} (hl : d.Legal) (hd : d ∉ walk)
    (hs : d.table.properties = before ++ p :: after) (hr : p.nested? = some r)
    (hb : ∀ q ∈ before, ∀ r, q.nested? = some r → env.Faultless (walk ++ [d]) (env.target r))
    (hf : env.FirstFault (walk ++ [d]) (env.target r) e) : env.FirstFault walk d e := by
  have ⟨ks, hk, hm⟩ := hf
  have hp : p ∈ d.table.properties := hs ▸ List.mem_append_right _ List.mem_cons_self
  have ⟨ha, hn⟩ := hl.mem_properties.mp hp
  refine ⟨p.name :: ks, faultAt_cons.mpr ⟨p.accessor, ha, hn.symm, r, hr, hk⟩, fun ks' e' h' => ?_⟩
  cases ks'
  case nil => exact absurd (faultAt_nil.mp h') (not_fault_of_legal hl hd)
  case cons k' ks' =>
    have ⟨b, hb', hk', r', hr', hf'⟩ := faultAt_cons.mp h'
    have hq : ⟨k', b⟩ ∈ d.table.properties := hl.mem_properties.mpr ⟨hb', hk'.symm⟩
    have ho := d.ascending_optionNames
    rw [Schema.optionNames, hs, List.map_append, List.map_cons] at ho
    rw [hs] at hq
    rcases List.mem_append.mp hq with hq | hq
    · exact absurd hf' (hb _ hq r' hr' _ _)
    rcases List.mem_cons.mp hq with he | hq
    case inl =>
      subst he
      cases hr.symm.trans hr'
      cases hm ks' e' hf'
      case inl hlt => exact .inl (List.cons_lt_cons_iff.mpr (.inr ⟨rfl, hlt⟩))
      case inr he  => exact .inr ⟨congrArg _ he.1, he.2⟩
    case inr =>
      have hlt := List.rel_of_pairwise_cons (List.pairwise_append.mp ho).2.1 (List.mem_map_of_mem hq)
      exact .inl (List.cons_lt_cons_iff.mpr (.inl hlt))

-- What an answer says about a descriptor behind a walk, and about all that references stand for.
def Verdict {α : Type} (env : Environment) (walk : List Descriptor) (d : Descriptor) :
    Except SchemaError α → Prop
  | .ok _    => env.Faultless walk d
  | .error e => env.FirstFault walk d e

def VerdictAll (env : Environment) (walk : List Descriptor) (rs : List SchemaRef) :
    Except SchemaError Unit → Prop
  | .ok _    => ∀ r ∈ rs, env.Faultless walk (env.target r)
  | .error e => ∃ before r after, rs = before ++ r :: after
    ∧ (∀ q ∈ before, env.Faultless walk (env.target q)) ∧ env.FirstFault walk (env.target r) e

-- The walk comes through legal descriptors, so that a name on the path is that of a descriptor on the walk.
theorem NamesUnique.verdict_validate (u : env.NamesUnique) (hd : env.Defines d)
    (hw : ∀ w ∈ walk, env.Defines w ∧ w.Legal) :
    env.Verdict walk d (validate env d (walk.map Descriptor.name) .none).1 := by
  refine (validate.mutual_induct env
    (fun d path m => m = .none → env.Defines d → ∀ walk, path = walk.map Descriptor.name →
      (∀ w ∈ walk, env.Defines w ∧ w.Legal) → env.Verdict walk d (validate env d path m).1)
    (fun rs path m => m = .none → ∀ walk, path = walk.map Descriptor.name →
      (∀ w ∈ walk, env.Defines w ∧ w.Legal) → env.VerdictAll walk rs (validateAll env rs path m).1)
    ?hit ?onPath ?illegal ?inner ?validated ?nil ?unresolved ?failed ?cons).1 d _ .none rfl hd walk rfl hw
  case hit =>
    intro d path m q hq hm
    subst hm
    contradiction
  case onPath =>
    intro d path m hf hn _ hd walk hp hw
    subst hp
    obtain ⟨w, hm, hn'⟩ := List.mem_map.mp hn
    cases u w d (hw w hm).1 hd hn'
    have h : env.FirstFault walk d _ := firstFault_of_fault (.again hm)
    rw [validate_circular hf hn]
    simpa [Verdict] using h
  case illegal =>
    intro d path m hf hn e he _ _ walk hp _
    have hd : d ∉ walk := fun hm => hn (hp ▸ List.mem_map_of_mem hm)
    rw [validate_illegal hf hn he]
    exact firstFault_of_fault (.flaw hd (Schema.flaw_of_ofDescriptor he))
  case inner =>
    intro d path m hf hn s hs e m' he hi hm hd walk hp hw
    obtain ⟨hl, rfl⟩ := Schema.legal_of_ofDescriptor hs
    have hd' : d ∉ walk := fun hm => hn (hp ▸ List.mem_map_of_mem hm)
    have hw := List.forall_mem_append.mpr ⟨hw, List.forall_mem_singleton.mpr ⟨hd, hl⟩⟩
    have hi := hi hm (walk ++ [d]) (by simp [hp]) hw
    rw [he] at hi
    obtain ⟨before, r, after, hr, hb, hf'⟩ := hi
    obtain ⟨ps, qs, hps, hbs, hqs⟩ := List.filterMap_eq_append_iff.mp hr
    obtain ⟨skipped, p, rest, hq, hsk, hpr, _⟩ := List.filterMap_eq_cons_iff.mp hqs
    rw [validate_faulty hf hn hl he]
    have hs' : d.table.properties = (ps ++ skipped) ++ p :: rest := by rw [hps, hq, List.append_assoc]
    refine firstFault_of_property hl hd' hs' hpr (fun q hqm t ht => ?_) hf'
    cases List.mem_append.mp hqm
    case inl hq => exact hb t (hbs ▸ List.mem_filterMap.mpr ⟨q, hq, ht⟩)
    case inr hq => cases (hsk q hq).symm.trans ht
  case validated =>
    intro d path m hf hn s hs _ m' ha hi hm hd walk hp hw
    obtain ⟨hl, rfl⟩ := Schema.legal_of_ofDescriptor hs
    have hd' : d ∉ walk := fun hm => hn (hp ▸ List.mem_map_of_mem hm)
    have hw := List.forall_mem_append.mpr ⟨hw, List.forall_mem_singleton.mpr ⟨hd, hl⟩⟩
    have hi := hi hm (walk ++ [d]) (by simp [hp]) hw
    rw [ha] at hi
    rw [validate_legal hf hn hl ha]
    exact faultless_of_references hl hd' fun r hr => hi r (hl.mem_table_references.mpr hr)
  case nil =>
    intro path m _ walk _ _
    rw [validateAll]
    exact List.forall_mem_nil _
  case unresolved =>
    intro path m r rs hr _ walk _ hw
    rw [validateAll_cons_none hr]
    have ht : env.target r = .concrete r.name := by simp [target, hr]
    have hn : .concrete r.name ∉ walk := fun hm => not_legal_concrete r.name (hw _ hm).2
    refine ⟨[], r, rs, rfl, List.forall_mem_nil _, ht ▸ firstFault_of_fault (.flaw hn ?_)⟩
    exact .concrete (d := Descriptor.concrete r.name) rfl
  case failed =>
    intro path m r rs d hr e m' he hi hm walk hp hw
    have hi := hi hm (defines_of_resolve? hr) walk hp hw
    rw [he] at hi
    simp only [validateAll_cons_some hr, he]
    exact ⟨[], r, rs, rfl, List.forall_mem_nil _, target_of_resolve? hr ▸ hi⟩
  case cons =>
    intro path m r rs d hr s m' hs hi hj hm walk hp hw
    have hi := hi hm (defines_of_resolve? hr) walk hp hw
    have hm' : m' = .none := by
      have h := validate_none_snd env d path
      rw [← hm, hs] at h
      exact h.trans hm
    have hj := hj hm' walk hp hw
    rw [hs] at hi
    simp only [validateAll_cons_some hr, hs]
    have hr : env.Faultless walk (env.target r) := target_of_resolve? hr ▸ hi
    cases ha : (validateAll env rs path m').1 <;> rw [ha] at hj
    case ok      => exact List.forall_mem_cons.mpr ⟨hr, hj⟩
    case error e =>
      obtain ⟨before, t, after, hs, hb, ht⟩ := hj
      exact ⟨r :: before, t, after, congrArg _ hs, List.forall_mem_cons.mpr ⟨hr, hb⟩, ht⟩

namespace Follows

theorem isChain (h : env.Follows d ks ws c) :
    (ws ++ [c]).IsChain env.Edge ∧ (ws ++ [c]).head? = some d := by
  induction h
  case stop => exact ⟨List.isChain_singleton _, rfl⟩
  case step d c a r ks ws ha hr _ hi =>
    refine ⟨List.isChain_cons.mpr ⟨fun e he => ?_, hi.1⟩, rfl⟩
    cases hi.2.symm.trans he
    exact ⟨r, Descriptor.mem_references.mpr ⟨a, ha, hr⟩, rfl⟩

theorem reaches (h : env.Follows d ks ws c) : env.Reaches d c := by
  induction h
  case stop => exact .refl
  case step ha hr _ hi => exact .head ⟨_, Descriptor.mem_references.mpr ⟨_, ha, hr⟩, rfl⟩ hi

-- The way to a descriptor that a walk leaves is shorter.
theorem exists_before {before after : List Descriptor} {w : Descriptor}
    (h : env.Follows d ks (before ++ w :: after) c) : ∃ ks', env.Follows d ks' before w ∧ ks' < ks := by
  induction before generalizing d ks
  case nil =>
    cases h
    exact ⟨[], .stop _, List.nil_lt_cons ..⟩
  case cons b before hi =>
    cases h
    case step hr ha hw =>
      have ⟨ks', hw', hlt⟩ := hi hw
      exact ⟨_, .step ha hr hw', List.cons_lt_cons_iff.mpr (.inr ⟨rfl, hlt⟩)⟩

end Follows

-- On the way to the first fault there is none.
theorem FirstFault.exists_walk (h : env.FirstFault [] d e) : ∃ ks ws c, env.Follows d ks ws c
    ∧ Fault ws c e ∧ ∀ before w after, ws = before ++ w :: after → ∀ e', ¬Fault before w e' := by
  have ⟨ks, ⟨ws, c, hw, hf⟩, hm⟩ := h
  refine ⟨ks, ws, c, hw, hf, fun before w after hs e' hf' => ?_⟩
  have ⟨ks', hw', hlt⟩ := (hs ▸ hw).exists_before
  cases hm ks' e' ⟨before, w, hw', hf'⟩
  case inl hlt' => exact absurd hlt (List.lt_asymm hlt')
  case inr he   => exact List.lt_irrefl _ (he.1 ▸ hlt)

-- What an error says about a descriptor can be seen by a walk from it.
structure Witnessed (env : Environment) (d : Descriptor) (e : SchemaError) : Prop where
  circular  : ∀ path, e = .circular path → ∃ walk c, path = (walk ++ [c]).map Descriptor.name
    ∧ (walk ++ [c]).head? = some d ∧ (walk ++ [c]).IsChain env.Edge
    ∧ (walk.map Descriptor.name).Nodup ∧ c ∈ walk
  violation : ∀ name fault, e = .violation name fault →
    ∃ c, env.Reaches d c ∧ c.name = name ∧ c.Breaks fault
  ambiguous : ∀ name groups, e = .ambiguousNames name groups →
    ∃ c, env.Reaches d c ∧ c.name = name ∧ c.Ambiguities groups ∧ groups ≠ []

theorem nodup_map_of_forall {α β : Type} {f : α → β} {as : List α}
    (h : ∀ before a after, as = before ++ a :: after → f a ∉ before.map f) : (as.map f).Nodup := by
  induction as using List.reverseRecOn
  case nil => exact List.nodup_nil
  case append_singleton as a hi =>
    have hs := hi fun before b after he => h before b (after ++ [a]) (by simp [he])
    have hn := hs.concat (h as a [] rfl)
    rwa [List.concat_eq_append, ← List.map_singleton, ← List.map_append] at hn

namespace NamesUnique

theorem nodup_of_follows (u : env.NamesUnique) (hd : env.Defines d) (h : env.Follows d ks ws c)
    (hn : ∀ before w after, ws = before ++ w :: after → ∀ e, ¬Fault before w e) :
    (ws.map Descriptor.name).Nodup := by
  have legal {before after : List Descriptor} {w : Descriptor} (hs : ws = before ++ w :: after) (hm : w ∉ before) :
      w.Legal := by
    cases ho : Schema.ofDescriptor w
    case ok      => exact (Schema.legal_of_ofDescriptor ho).1
    case error e => exact absurd (.flaw hm (Schema.flaw_of_ofDescriptor ho)) (hn _ w _ hs e)
  have defined {w : Descriptor} (hw : w ∈ ws) : env.Defines w := by
    have ⟨before, after, hs⟩ := List.append_of_mem hw
    have hm : w ∉ before := fun hm => hn _ w _ hs _ (.again hm)
    have ⟨ks', hf, _⟩ := (hs ▸ h).exists_before
    cases Relation.ReflTransGen.cases_tail hf.reaches
    case inl he => exact he ▸ hd
    case inr he =>
      have ⟨_, _, he⟩ := he
      exact defines_of_edge he (legal hs hm)
  refine nodup_map_of_forall fun before w after hs hm => ?_
  have ⟨b, hb, he⟩ := List.mem_map.mp hm
  cases u b w (defined (by simp [hs, hb])) (defined (by simp [hs])) he
  exact hn before w after hs _ (.again hb)

theorem witnessed (u : env.NamesUnique) (hd : env.Defines d) (h : env.FirstFault [] d e) :
    env.Witnessed d e := by
  have ⟨ks, ws, c, hw, hf, hn⟩ := h.exists_walk
  have hr : env.Reaches d c := hw.reaches
  constructor
  case circular =>
    intro path he
    subst he
    cases hf
    case again hc  => exact ⟨ws, c, rfl, hw.isChain.2, hw.isChain.1, u.nodup_of_follows hd hw hn, hc⟩
    case flaw _ hc => cases hc
  case violation =>
    intro name fault he
    subst he
    cases hf
    case flaw hc =>
      cases hc
      case concrete hf              => exact ⟨c, hr, rfl, hf⟩
      case untagged ht              => exact ⟨c, hr, rfl, ht⟩
      case parameters a _ _ hs _ ha => exact ⟨c, hr, rfl, a, by simp [hs], rfl, ha⟩
  case ambiguous =>
    intro name groups he
    subst he
    cases hf
    case flaw hc =>
      cases hc
      case ambiguous hg hn => exact ⟨c, hr, rfl, hg, hn⟩

end NamesUnique
end Environment

namespace Materializer

open Environment

variable {env : Environment} {converter : Converter} {m : Memory} {d : Descriptor} {e : Error}

theorem validate_error_exact (u : env.NamesUnique) (hm : Reached env converter env.Defines m)
    (hd : env.Defines d) (h : (validate env d m).1 = .error e) :
    (validate env d .fresh).1 = .error e
      ∧ ∃ f, e = .schema f ∧ env.Witnessed d f ∧ env.FirstFault [] d f := by
  have hn := validate_fst_eq_none u (hm.keeps u.inherits_valid) hd
  have hf := validate_fst_eq_none u Memory.keeps_fresh hd
  have hv : env.Verdict [] d (BulletinPipeline.validate env d [] .none).1 := u.verdict_validate hd (by simp)
  rw [hn, validate_fst] at h
  cases hr : (BulletinPipeline.validate env d [] .none).1
  case ok s    => simp [hr, Except.mapError] at h
  case error f =>
    rw [hr] at h hv
    cases h
    refine ⟨?_, f, rfl, u.witnessed hd hv, hv⟩
    rw [hf, validate_fst, hr, Except.mapError]

-- The hub is met again behind the spoke, and the leaf before it is none the worse for it.
theorem validate_error_exact_hub :
    wheel.NamesUnique ∧ wheel.Defines hub
      ∧ Reached wheel .standard wheel.Defines (validate wheel hub .fresh).2
      ∧ (validate wheel hub (validate wheel hub .fresh).2).1
          = .error (.schema (.circular ["Hub", "Spoke", "Hub"]))
      ∧ wheel.Witnessed hub (.circular ["Hub", "Spoke", "Hub"])
      ∧ wheel.FirstFault [] hub (.circular ["Hub", "Spoke", "Hub"]) := by
  have u := namesUnique_wheel
  have hd : wheel.Defines hub := List.mem_cons_self
  have hm : Reached wheel .standard wheel.Defines (validate wheel hub .fresh).2 := .validate .fresh hd
  have he : (validate wheel hub (validate wheel hub .fresh).2).1
      = .error (.schema (.circular ["Hub", "Spoke", "Hub"])) := by
    rw [validate_fst_eq_none u (hm.keeps u.inherits_valid) hd]
    exact validate_of_within (n := 3) rfl
  obtain ⟨_, f, hf, hw, hv⟩ := validate_error_exact u hm hd he
  cases hf
  exact ⟨u, hd, hm, he, hw, hv⟩

end Materializer
end BulletinPipeline
