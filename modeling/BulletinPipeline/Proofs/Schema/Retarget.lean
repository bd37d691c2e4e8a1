import BulletinPipeline.Proofs.Schema.Legality
import Mathlib.Data.List.Sort

namespace BulletinPipeline

def ValueType.retarget (key : String) : ValueType → ValueType
  | list t     => list (t.retarget key)
  | optional t => optional (t.retarget key)
  | schema r   => schema ⟨r.name, key⟩
  | t          => t

def Signature.retarget (key : String) (s : Signature) : Signature :=
  { s with params := s.params.map (ValueType.retarget key), returns := s.returns.retarget key }

def Member.retarget (key : String) (m : Member) : Member :=
  { m with signature := m.signature.retarget key }

def Descriptor.retarget (key : String) (d : Descriptor) : Descriptor :=
  { d with members := d.members.map (Member.retarget key) }

-- Comparing two lists position by position with `same` is comparing their images.
theorem map_eq_map_iff_zip {α β : Type} {f : α → β} {same : α → α → Bool}
    (h : ∀ a b, same a b ↔ f a = f b) (as bs : List α) :
    (as.length = bs.length ∧ (as.zip bs).all fun p => same p.1 p.2) ↔ as.map f = bs.map f := by
  induction as generalizing bs <;> cases bs
  case nil.nil                => simp
  case nil.cons               => simp
  case cons.nil               => simp
  case cons.cons a as hi b bs =>
    simp only [List.length_cons, Nat.add_right_cancel_iff, List.zip_cons_cons, List.all_cons,
      Bool.and_eq_true, h, List.map_cons, List.cons.injEq, ← hi]
    exact and_left_comm

variable (key : String)

namespace ValueType

theorem same_iff (t u : ValueType) : t.same u ↔ t.retarget key = u.retarget key := by
  induction t generalizing u <;> cases u <;> simp [same, retarget, *]

theorem retarget_retarget (key' : String) (t : ValueType) :
    (t.retarget key').retarget key = t.retarget key := by
  induction t <;> simp [retarget, *]

theorem schemaRef?_retarget (t : ValueType) :
    (t.retarget key).schemaRef? = t.schemaRef?.map fun r => ⟨r.name, key⟩ := by
  cases t
  case optional t => cases t <;> rfl
  all_goals rfl

end ValueType

namespace Signature

theorem same_iff (s t : Signature) : s.same t ↔ s.retarget key = t.retarget key := by
  have hp := map_eq_map_iff_zip (ValueType.same_iff key) s.params t.params
  simp only [same, Bool.and_eq_true, decide_eq_true_eq, and_assoc, ValueType.same_iff key] at hp ⊢
  rw [← and_assoc (a := s.params.length = _), hp]
  simp [retarget]

theorem retarget_retarget (key' : String) (s : Signature) :
    (s.retarget key').retarget key = s.retarget key := by
  simp [retarget, ValueType.retarget_retarget]

end Signature

namespace Descriptor

variable {d e : Descriptor}

theorem same_iff : d.same e ↔ d.retarget key = e.retarget key := by
  have hm (m n : Member) : (decide (m.body = n.body) && m.signature.same n.signature)
      ↔ m.retarget key = n.retarget key := by
    simp only [Bool.and_eq_true, decide_eq_true_eq, Signature.same_iff key]
    simp [Member.retarget, and_comm]
  have hp := map_eq_map_iff_zip hm d.members e.members
  simp only [same, Bool.and_eq_true, decide_eq_true_eq, and_assoc] at hp ⊢
  rw [hp]
  simp [retarget]

theorem same_refl (d : Descriptor) : d.same d :=
  (same_iff "").mpr rfl

theorem same_symm (h : d.same e) : e.same d :=
  (same_iff "").mpr ((same_iff "").mp h).symm

theorem same_trans {f : Descriptor} (h : d.same e) (h' : e.same f) : d.same f :=
  (same_iff "").mpr <| ((same_iff "").mp h).trans ((same_iff "").mp h')

theorem retarget_same (d : Descriptor) : (d.retarget key).same d := by
  refine (same_iff key).mpr ?_
  simp [retarget, Member.retarget, Function.comp_def, Signature.retarget_retarget]

theorem accessors_retarget :
    (d.retarget key).accessors = d.accessors.map (Signature.retarget key) := by
  simp [accessors, retarget, List.filter_map, Function.comp_def, Member.retarget]
  rfl

theorem references_retarget :
    (d.retarget key).references = d.references.map fun r => ⟨r.name, key⟩ := by
  simp [references, accessors_retarget, List.filterMap_map, List.map_filterMap, Function.comp_def,
    Signature.retarget, ValueType.schemaRef?_retarget]

theorem legal_retarget : (d.retarget key).Legal ↔ d.Legal := by
  have hn : (d.retarget key).accessors.map (propertyName ·.name)
      = d.accessors.map (propertyName ·.name) := by
    simp [accessors_retarget, Function.comp_def, Signature.retarget]
  have hp : (∀ a ∈ (d.retarget key).accessors, a.params = []) ↔ ∀ a ∈ d.accessors, a.params = [] := by
    simp [accessors_retarget, Signature.retarget]
  constructor
  · exact fun h => ⟨h.contract, h.tagged, hp.mp h.noParams, hn ▸ h.distinct⟩
  · exact fun h => ⟨h.contract, h.tagged, hp.mpr h.noParams, hn ▸ h.distinct⟩

-- Nothing that is said of a descriptor alone tells those that read the same from each other.
theorem legal_of_same (h : d.same e) (hl : d.Legal) : e.Legal :=
  (legal_retarget "").mp <| (same_iff "").mp h ▸ (legal_retarget "").mpr hl

theorem references_eq_nil_of_same (h : d.same e) (hr : d.references = []) : e.references = [] := by
  have he := congrArg references ((same_iff "").mp h)
  rw [references_retarget, references_retarget, hr] at he
  exact List.map_eq_nil_iff.mp he.symm

theorem exists_accessor_of_same (h : d.same e) {b : Signature} (hb : b ∈ e.accessors) :
    ∃ a ∈ d.accessors, a.name = b.name ∧ a.returns.same b.returns := by
  have hm : b.retarget "" ∈ (d.retarget "").accessors := by
    rw [(same_iff "").mp h, accessors_retarget]
    exact List.mem_map_of_mem hb
  rw [accessors_retarget] at hm
  obtain ⟨a, ha, he⟩ := List.mem_map.mp hm
  have hn : (a.retarget "").name = (b.retarget "").name := congrArg Signature.name he
  exact ⟨a, ha, hn, (ValueType.same_iff "" _ _).mpr (congrArg Signature.returns he)⟩

theorem optionNames_eq_of_same (h : d.same e) (hd : d.Legal) (he : e.Legal) :
    d.table.optionNames = e.table.optionNames := by
  refine List.Pairwise.eq_of_mem_iff d.ascending_optionNames e.ascending_optionNames fun k => ?_
  rw [hd.mem_optionNames, he.mem_optionNames]
  constructor
  case mp =>
    rintro ⟨b, hb, rfl⟩
    obtain ⟨a, ha, hn, _⟩ := exists_accessor_of_same (same_symm h) hb
    exact ⟨a, ha, congrArg propertyName hn⟩
  case mpr =>
    rintro ⟨b, hb, rfl⟩
    obtain ⟨a, ha, hn, _⟩ := exists_accessor_of_same h hb
    exact ⟨a, ha, congrArg propertyName hn⟩

end Descriptor
end BulletinPipeline
