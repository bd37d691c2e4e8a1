import BulletinPipeline.Proofs.Recursion.Evaluation
import BulletinPipeline.Proofs.Schema.History
import BulletinPipeline.Proofs.Schema.Retarget

-- Memory finds a descriptor by how it reads, while a reference reads the same whatever it stands for, and what is
-- found is not held against the path.
namespace BulletinPipeline

namespace Memory

variable {m : Memory} {d e : Descriptor} {s : Schema} {r : Remembered}

theorem find?_of_same (h : m.find? d = some r) (hs : d.same e) : m.find? e = some r := by
  cases m
  case none   => nomatch h
  case some c =>
    have ⟨hl, hr⟩ := Option.filter_eq_some_iff.mp h
    refine Option.filter_eq_some_iff.mpr ⟨?_, Descriptor.same_trans hr hs⟩
    exact Descriptor.name_eq_of_same hs ▸ hl

theorem exists_find?_remember (hm : m.isSome) (hs : s.name = d.name) :
    ∃ r, (m.remember d s).find? d = some r := by
  have ⟨c, hc⟩ := Option.isSome_iff_exists.mp hm
  subst hc
  refine ⟨⟨d, s, c.stamps⟩, Option.filter_eq_some_iff.mpr ⟨?_, Descriptor.same_refl d⟩⟩
  rw [Entries.lookup_insert, if_pos hs.symm]

end Memory

namespace Environment

variable {env : Environment} {d e t : Descriptor} {m : Memory} {path : List String}

theorem validateAll_of_find? {rs : List SchemaRef}
    (h : ∀ r ∈ rs, ∃ e q, env.resolve? r = some e ∧ m.find? e = some q) :
    validateAll env rs path m = (.ok (), m) := by
  induction rs
  case nil => rw [validateAll]
  case cons r rs hi =>
    obtain ⟨e, q, hr, hq⟩ := h r List.mem_cons_self
    simp only [validateAll_cons_some hr, validate_of_find? hq]
    exact hi fun r hr => h r (List.mem_cons_of_mem _ hr)

theorem exists_find?_of_validate {s : Schema} (h : (validate env d path m).1 = .ok s)
    (hm : m.isSome) : ∃ q, (validate env d path m).2.find? d = some q := by
  have hs := isSome_validate env d path m
  cases cases_of_validate_ok h
  case inl hq =>
    have ⟨q, hf, hv⟩ := hq
    exact ⟨q, by rw [hv, hf]⟩
  case inr hr =>
    have ⟨m', hv⟩ := hr
    rw [hv, Memory.remember, Option.isSome_map, hm] at hs
    rw [hv]
    exact Memory.exists_find?_remember hs rfl

theorem Valid.of_references_eq_nil (hl : d.Legal) (hr : d.references = []) : env.Valid d := by
  refine valid_iff.mpr ⟨hl, fun c hc => ?_⟩
  have ⟨r, hm, _⟩ := hc
  simp [hr] at hm

theorem inherits_legal {D : Descriptor → Prop} (h : ∀ r e, env.resolve? r = some e → D e) :
    env.Inherits D Descriptor.Legal where
  resolved           := h
  edges _ _ hl _     := hl
  same _ _ _ _ hl _ hs := Descriptor.legal_of_same hs hl

-- No reference that resolves to a valid schema: then only descriptors without references are valid.
def NoTarget (env : Environment) : Prop :=
  ∀ r t, env.resolve? r = some t → ¬env.Valid t

namespace NoTarget

theorem references_eq_nil (n : env.NoTarget) (h : env.Valid d) : d.references = [] := by
  refine List.eq_nil_iff_forall_not_mem.mpr fun r hr => ?_
  have ⟨t, ht, he⟩ := h.resolve? hr
  exact n r t ht (h.of_edge he)

theorem inherits_valid (n : env.NoTarget) : env.Inherits (fun _ => True) env.Valid where
  resolved _ _ _ := trivial
  edges d _ hl hs := by
    refine .of_references_eq_nil hl <| List.eq_nil_iff_forall_not_mem.mpr fun r hr => ?_
    have ⟨t, ht, hv⟩ := hs r hr
    exact n r t ht hv
  same _ _ _ _ hl hv hs :=
    .of_references_eq_nil (Descriptor.legal_of_same hs hl) <|
      Descriptor.references_eq_nil_of_same hs (n.references_eq_nil hv)

end NoTarget
end Environment

namespace Materializer

open Environment

variable {env : Environment} {converter : Converter} {m : Memory} {d t : Descriptor}
  {r : SchemaRef}

theorem isValid_of_valid (h : env.Valid d) (m : Memory) : (isValid env d m).1 = true :=
  have ⟨s, hs⟩ := h.validate [] m (by simp)
  isValid_iff.mpr ⟨s, validate_ok_iff.mpr hs⟩

theorem legal_of_isValid (hm : Reached env converter (fun _ => True) m)
    (h : (isValid env d m).1 = true) : d.Legal :=
  have ⟨s, hs⟩ := isValid_iff.mp h
  have i : env.Inherits (fun _ => True) Descriptor.Legal := inherits_legal fun _ _ _ => trivial
  (i.validate trivial [] (hm.keeps i)).2 s (validate_ok_iff.mp hs)

theorem isValid_of_find? {q : Remembered} (h : m.find? d = some q) : (isValid env d m).1 = true := by
  refine isValid_iff.mpr ⟨q.schema, ?_⟩
  rw [validate_ok_iff, validate_of_find? h]

theorem exists_find?_of_isValid (h : (isValid env d m).1 = true) (hm : m.isSome) :
    ∃ q, (isValid env d m).2.find? d = some q := by
  have ⟨s, hs⟩ := isValid_iff.mp h
  have ⟨q, hq⟩ := exists_find?_of_validate (validate_ok_iff.mp hs) hm
  refine ⟨q, ?_⟩
  change (validate env d m).2.find? d = some q
  unfold validate
  split <;> simpa [*] using hq

theorem isSome_isValid (env : Environment) (d : Descriptor) (m : Memory) :
    (isValid env d m).2.isSome = m.isSome := by
  have hs := isSome_validate env d [] m
  change (validate env d m).2.isSome = _
  unfold validate
  split <;> simpa [*] using hs

-- Calls about a valid schema that a reference resolves to, and about a descriptor that reads the same but
-- refers to nothing else, make memory vouch for any legal descriptor.
theorem exists_reached_isValid (converter : Converter) (hl : d.Legal) (hr : env.resolve? r = some t)
    (hv : env.Valid t) :
    ∃ m, Reached env converter (fun _ => True) m ∧ (isValid env d m).1 = true := by
  let e := d.retarget r.target
  let m₁ := (isValid env t .fresh).2
  let m₂ := (isValid env e m₁).2
  have hm₁ : m₁.isSome := isSome_isValid env t .fresh
  -- The first call leaves the valid schema in memory.
  have ⟨q, hq⟩ : ∃ q, m₁.find? t = some q :=
    exists_find?_of_isValid (isValid_of_valid hv .fresh) rfl
  -- The second one finds it for every reference, and so leaves a descriptor that reads like the given one.
  have he : (isValid env e m₁).1 = true := by
    cases hf : m₁.find? e
    case some => exact isValid_of_find? hf
    case none =>
      have hle : e.Legal := (Descriptor.legal_retarget _).mpr hl
      have ha : validateAll env e.table.references ([] ++ [e.name]) m₁ = (.ok (), m₁) := by
        refine validateAll_of_find? fun r' hr' => ⟨t, q, ?_, hq⟩
        rw [hle.mem_table_references, Descriptor.references_retarget] at hr'
        have ⟨_, _, hr'⟩ := List.mem_map.mp hr'
        exact hr' ▸ hr
      refine isValid_iff.mpr ⟨e.table, ?_⟩
      rw [validate_ok_iff, validate_legal hf List.not_mem_nil hle ha]
  have ⟨q', hq'⟩ := exists_find?_of_isValid he hm₁
  have hd : m₂.find? d = some q' := Memory.find?_of_same hq' (Descriptor.retarget_same _ d)
  exact ⟨m₂, (Reached.fresh.isValid trivial).isValid trivial, isValid_of_find? hd⟩

-- A descriptor with the name of the schema that it refers to.
def namesake (t : Descriptor) (r : SchemaRef) : Descriptor :=
  .schema t.name [("inner", .schema r)]

theorem legal_namesake (t : Descriptor) (r : SchemaRef) : (namesake t r).Legal :=
  ⟨rfl, rfl, by simp [namesake, Descriptor.schema, Descriptor.accessors], List.nodup_singleton _⟩

-- In a fresh memory the name is met twice.
theorem isValid_namesake (hr : env.resolve? r = some t) :
    (isValid env (namesake t r) .fresh).1 = false := by
  have ht : BulletinPipeline.validate env t [t.name] .fresh
      = (.error (.circular [t.name, t.name]), .fresh) := by
    exact validate_circular rfl (List.mem_singleton_self t.name)
  refine Bool.eq_false_iff.mpr fun h => ?_
  have ⟨s, hs⟩ := isValid_iff.mp h
  have hr' : validateAll env (namesake t r).table.references ([] ++ [(namesake t r).name])
      .fresh = (.error (.circular [t.name, t.name]), .fresh) := by
    have hl : (namesake t r).table.references = [r] := rfl
    have hn : [] ++ [(namesake t r).name] = [t.name] := rfl
    rw [hl, hn, validateAll_cons_some hr, ht]
  rw [validate_ok_iff, validate_faulty rfl List.not_mem_nil (legal_namesake t r) hr'] at hs
  contradiction

-- In any memory that calls about descriptors in `D` leave, those are as valid as in a fresh memory.
def HistoryFree (env : Environment) (converter : Converter) (D : Descriptor → Prop) : Prop :=
  ∀ m, Reached env converter D m → ∀ d, D d → (isValid env d m).1 = (isValid env d .fresh).1

theorem historyFree_of_inherits {D : Descriptor → Prop} (i : env.Inherits D env.Valid) :
    HistoryFree env converter D := by
  intro m hm d hd
  refine Bool.eq_iff_iff.mpr ?_
  simp only [isValid_iff]
  rw [exists_validate_ok_iff i (hm.keeps i) hd, exists_validate_ok_iff i Memory.keeps_fresh hd]

-- Some memory accepts the namesake of a valid schema, but a fresh one does not.
theorem noTarget_of_historyFree (h : HistoryFree env converter fun _ => True) : env.NoTarget := by
  intro r t hr hv
  have ⟨m, hm, ha⟩ := exists_reached_isValid converter (legal_namesake t r) hr hv
  rw [h m hm _ trivial, isValid_namesake hr] at ha
  contradiction

theorem isValid_iff_valid (h : env.Valid d ∨ ¬d.Legal ∨ env.NoTarget)
    (hm : Reached env converter (fun _ => True) m) : (isValid env d m).1 = true ↔ env.Valid d := by
  rcases h with hv | hl | hn
  · exact iff_of_true (isValid_of_valid hv m) hv
  · exact iff_of_false (fun h => hl (legal_of_isValid hm h)) fun hv => hl hv.self_legal
  · rw [isValid_iff, exists_validate_ok_iff hn.inherits_valid (hm.keeps hn.inherits_valid) trivial]

theorem valid_or_of_isValid_iff
    (h : ∀ m, Reached env converter (fun _ => True) m → ((isValid env d m).1 = true ↔ env.Valid d)) :
    env.Valid d ∨ ¬d.Legal ∨ env.NoTarget := by
  by_contra hn
  simp only [not_or, not_not, NoTarget, not_forall] at hn
  have ⟨hv, hl, r, t, hr, ht⟩ := hn
  have ⟨m, hm, ha⟩ := exists_reached_isValid converter hl hr ht
  exact hv ((h m hm).mp ha)

-- Calls about any descriptor leave no trace only where no reference stands for a valid schema. Elsewhere
-- a legal descriptor is judged by what it refers to in every memory only if it is valid.
theorem isValid_history_free (env : Environment) (converter : Converter) :
    (∀ D, env.Inherits D env.Valid → HistoryFree env converter D)
    ∧ (HistoryFree env converter (fun _ => True) ↔ env.NoTarget)
    ∧ ∀ d, (∀ m, Reached env converter (fun _ => True) m →
          ((isValid env d m).1 = true ↔ env.Valid d))
        ↔ env.Valid d ∨ ¬d.Legal ∨ env.NoTarget where
  left        := fun _ => historyFree_of_inherits
  right.left  := ⟨noTarget_of_historyFree, fun n => historyFree_of_inherits n.inherits_valid⟩
  right.right := fun _ => ⟨valid_or_of_isValid_iff, fun h _ => isValid_iff_valid h⟩

theorem historyFree_wheel : HistoryFree wheel .standard wheel.Defines :=
  (isValid_history_free wheel .standard).1 _ namesUnique_wheel.inherits_valid

-- Two types named alike, of which one is no schema.
def parts : Environment where
  descriptors := [("Bad", .concrete "Part"), ("Good", .schema "Part" [("size", .int)])]

-- It reads the same for either of them.
def holder (key : String) : Descriptor :=
  .schema "Holder" [("part", .schema ⟨"Part", key⟩)]

theorem not_historyFree_parts :
    (isValid parts (holder "Bad") .fresh).1 = false
      ∧ (isValid parts (holder "Bad") (isValid parts (holder "Good") .fresh).2).1 = true
      ∧ ¬HistoryFree parts .standard (fun _ => True) := by
  have hf : (isValid parts (holder "Bad") .fresh).1 = false :=
    congrArg Except.isOk (validate_of_within (n := 2) (x := .error (.schema (.violation "Part" .concrete))) rfl)
  have hg : (isValid parts (holder "Good") .fresh).1 = true :=
    isValid_iff.mpr ⟨(holder "Good").table, validate_of_within (n := 2) rfl⟩
  have ⟨q, hq⟩ := exists_find?_of_isValid hg rfl
  have hm : (isValid parts (holder "Bad") (isValid parts (holder "Good") .fresh).2).1 = true :=
    isValid_of_find? <| Memory.find?_of_same hq rfl
  refine ⟨hf, hm, fun h => ?_⟩
  rw [h _ (.isValid .fresh trivial) _ trivial, hf] at hm
  contradiction

end Materializer
end BulletinPipeline
