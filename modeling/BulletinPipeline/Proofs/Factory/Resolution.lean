import BulletinPipeline.Factory.Object
import BulletinPipeline.Proofs.Entries
import Mathlib.Data.List.Forall2

namespace BulletinPipeline

theorem firstRepeated?_eq_none_iff {seen names : List String} :
    firstRepeated? seen names = none ↔ names.Nodup ∧ ∀ n ∈ names, n ∉ seen := by
  induction names generalizing seen
  case nil => simp [firstRepeated?]
  case cons n names hi =>
    by_cases hn : n ∈ seen
    case pos => simp [firstRepeated?, hn]
    case neg =>
      rw [firstRepeated?, if_neg hn, hi, List.nodup_cons, List.forall_mem_cons]
      simp only [List.mem_cons, not_or]
      constructor
      case mp  => exact fun ⟨hd, hs⟩ => ⟨⟨fun hm => (hs n hm).1 rfl, hd⟩, hn, fun k hk => (hs k hk).2⟩
      case mpr => exact fun ⟨⟨hm, hd⟩, _, hs⟩ => ⟨hd, fun k hk => ⟨fun he => hm (he ▸ hk), hs k hk⟩⟩

theorem head?_eq_some_of_mem {α : Type} {a : α} {as : List α} (h : as.length ≤ 1) (hm : a ∈ as) :
    as.head? = some a := by
  have ⟨b, hb⟩ := List.length_eq_one_iff.mp (h.antisymm (List.length_pos_of_mem hm))
  subst hb
  rw [List.mem_singleton.mp hm, List.head?_singleton]

-- A public constructor has a parameter for each of the types, and it is assignable from that type.
def Constructor.Matches {m : Type → Type} {α : Type} (c : Constructor m α) (declared : List ValueType) :
    Prop :=
  c.isPublic ∧ List.Forall₂ (fun t u => t.assignableFrom u) c.params declared

theorem Constructor.accepts_iff {m : Type → Type} {α : Type} {c : Constructor m α}
    {declared : List ValueType} : c.accepts declared ↔ c.Matches declared := by
  simp [accepts, Matches, List.forall₂_iff_zip, and_assoc]

namespace Blueprint

variable {m : Type → Type} {α : Type} {b : Blueprint m α} {f : ObjectFactory m α}

-- A public mutator sets the property.
def Sets (b : Blueprint m α) (property : String) (x : Mutator m α) : Prop :=
  x ∈ b.target.mutators ∧ x.isPublic ∧ propertyName x.name = property

-- An option is for a slot or for a public mutator.
def Understands (b : Blueprint m α) (key : String) : Prop :=
  key ∈ b.optionSlots ∨ ∃ x, b.Sets key x

structure Resolves (b : Blueprint m α) (f : ObjectFactory m α) : Prop where
  name        : f.name = b.name.getD b.target.name
  type        : f.type = b.target.name
  converter   : f.converter = b.converter
  slots       : f.slots = b.slots
  distinct    : b.optionSlots.Nodup
  constructor : f.constructor ∈ b.target.constructors
  accepts     : f.constructor.accepts b.slotTypes
  mutators    : ∀ k x, f.mutators.lookup k = some x ↔ b.Sets k x

-- A group that is not ambiguous has its mutator at its head.
theorem lookup_heads_iff (h : b.mutatorGroups.find? (1 < ·.2.length) = none) (k : String)
    (x : Mutator m α) :
    List.lookup k (b.mutatorGroups.filterMap fun g => g.2.head?.map (g.1, ·)) = some x ↔ b.Sets k x := by
  have ha : b.mutatorGroups.Ascending := Entries.ascending_groupBy ..
  rw [ha.lookup_filterMap, Option.bind_eq_some_iff]
  constructor
  case mp =>
    intro ⟨group, hg, hx⟩
    cases Entries.lookup_groupBy_of_some hg
    have ⟨hm, hk⟩ := List.mem_filter.mp (List.mem_of_mem_head? hx)
    have ⟨hx, hp⟩ := List.mem_filter.mp hm
    exact ⟨hx, hp, of_decide_eq_true hk⟩
  case mpr =>
    intro ⟨hx, hp, hk⟩
    have hm : x ∈ b.target.mutators.filter (·.isPublic) := List.mem_filter.mpr ⟨hx, hp⟩
    have hg := Entries.lookup_groupBy (k := k) (propertyName ·.name) (b.target.mutators.filter (·.isPublic))
    rw [if_pos (hk ▸ List.mem_map_of_mem hm)] at hg
    have hs := List.find?_eq_none.mp h _ (Entries.mem_of_lookup hg)
    rw [decide_eq_true_eq, not_lt] at hs
    exact ⟨_, hg, head?_eq_some_of_mem hs (List.mem_filter.mpr ⟨hm, decide_eq_true hk⟩)⟩

theorem resolves_of_resolve (h : b.resolve = .ok f) : b.Resolves f := by
  unfold resolve at h
  split at h
  case h_1 => contradiction
  case h_2 hd =>
    split at h
    case h_1 => contradiction
    case h_3 => contradiction
    case h_2 c hc =>
      split at h
      case h_1 => contradiction
      case h_2 hg =>
        cases h
        have hc : c ∈ b.target.constructors.filter (·.accepts b.slotTypes) := hc ▸ List.mem_cons_self
        exact {
          name        := rfl
          type        := rfl
          converter   := rfl
          slots       := rfl
          distinct    := (firstRepeated?_eq_none_iff.mp hd).1
          constructor := (List.mem_filter.mp hc).1
          accepts     := (List.mem_filter.mp hc).2
          mutators    := lookup_heads_iff hg
        }

namespace Resolves

theorem optionSlots (h : b.Resolves f) : f.optionSlots = b.optionSlots := by
  rw [ObjectFactory.optionSlots, h.slots, Blueprint.optionSlots]

theorem understands_iff (h : b.Resolves f) {key : String} : f.understands key ↔ b.Understands key := by
  rw [ObjectFactory.understands, Bool.or_eq_true, List.contains_iff_mem, h.optionSlots,
    Option.isSome_iff_exists, Understands]
  simp only [h.mutators]

end Resolves
end Blueprint
end BulletinPipeline
