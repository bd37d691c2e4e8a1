import BulletinPipeline.Proofs.Entries
import BulletinPipeline.Schema.Basic

namespace BulletinPipeline

namespace Descriptor

-- A descriptor that describes configuration, as far as can be said without looking at the schemas
-- that its accessors refer to.
structure Legal (d : Descriptor) : Prop where
  contract : d.form = .contract
  tagged   : d.tagged = true
  noParams : ∀ a ∈ d.accessors, a.params = []
  distinct : (d.accessors.map (propertyName ·.name)).Nodup

def references (d : Descriptor) : List SchemaRef :=
  d.accessors.filterMap (·.returns.schemaRef?)

-- The properties of a legal descriptor, one for each accessor.
def table (d : Descriptor) : Schema where
  name       := d.name
  properties := (Entries.groupBy (propertyName ·.name) d.accessors).filterMap fun g =>
    g.2.head?.map (Property.mk g.1)

end Descriptor

namespace Schema

theorem collisions_eq_nil_iff {groups : Entries (List Signature)} :
    collisions groups = [] ↔ ∀ g ∈ groups, g.2.length ≤ 1 := by
  simp [collisions, List.filter_eq_nil_iff]

theorem collisions_groupBy_eq_nil_iff {name : Signature → String} {as : List Signature} :
    collisions (Entries.groupBy name as) = [] ↔ (as.map name).Nodup := by
  rw [collisions_eq_nil_iff, Entries.forall_length_groupBy_le_one_iff]

theorem ofDescriptor_of_legal {d : Descriptor} (h : d.Legal) : ofDescriptor d = .ok d.table := by
  have hp : d.accessors.find? (!·.params.isEmpty) = none := by
    simpa [List.find?_eq_none] using h.noParams
  have hc := collisions_groupBy_eq_nil_iff.mpr h.distinct
  simp [ofDescriptor, h.contract, h.tagged, hp, hc, Descriptor.table]

theorem legal_of_ofDescriptor {d : Descriptor} {s : Schema} (h : ofDescriptor d = .ok s) :
    d.Legal ∧ s = d.table := by
  unfold ofDescriptor at h
  split at h
  · contradiction
  split at h
  · contradiction
  split at h
  · contradiction
  case h_2 hf ht _ hp =>
    dsimp only at h
    split at h <;> cases h
    case isTrue hc =>
      refine ⟨⟨?contract, ?tagged, ?noParams, collisions_groupBy_eq_nil_iff.mp hc⟩, rfl⟩
      case contract =>
        cases hd : d.form
        case contract => rfl
        case concrete => contradiction
      case tagged   => simpa using ht
      case noParams => simpa [List.find?_eq_none] using hp

end Schema

namespace Descriptor

variable {d : Descriptor}

theorem name_eq_of_same {e : Descriptor} (h : d.same e) : d.name = e.name := by
  simp only [same, Bool.and_eq_true, decide_eq_true_eq] at h
  exact h.1.1.1.1

theorem mem_references {r : SchemaRef} :
    r ∈ d.references ↔ ∃ a ∈ d.accessors, a.returns.schemaRef? = some r :=
  List.mem_filterMap

namespace Legal

theorem accessor_unique (h : d.Legal) {a b : Signature} (ha : a ∈ d.accessors)
    (hb : b ∈ d.accessors) (hn : propertyName a.name = propertyName b.name) : a = b :=
  List.inj_on_of_nodup_map h.distinct ha hb hn

-- The accessors that speak of a property are the one accessor that has it.
theorem filter_accessors (h : d.Legal) {a : Signature} (ha : a ∈ d.accessors) :
    d.accessors.filter (propertyName ·.name = propertyName a.name) = [a] := by
  have hn : d.accessors.Nodup := h.distinct.of_map
  have he : d.accessors.filter (propertyName ·.name = propertyName a.name)
      = d.accessors.filter (· = a) := by
    refine List.filter_congr fun b hb => decide_eq_decide.mpr ⟨h.accessor_unique hb ha, ?_⟩
    exact fun he => he ▸ rfl
  rw [he, List.filter_eq, List.count_eq_one_of_mem hn ha, List.replicate_one]

theorem mem_properties (h : d.Legal) {p : Property} :
    p ∈ d.table.properties ↔ p.accessor ∈ d.accessors ∧ p.name = propertyName p.accessor.name := by
  simp only [table, List.mem_filterMap, Option.map_eq_some_iff]
  constructor
  case mp =>
    intro ⟨⟨k, group⟩, hg, a, ha, hp⟩
    have hl := (Entries.ascending_groupBy ..).lookup_eq_some_iff.mpr hg
    rw [Entries.lookup_groupBy] at hl
    split at hl <;> cases hl
    have hm := List.mem_filter.mp (List.mem_of_mem_head? ha)
    simp only [decide_eq_true_eq] at hm
    exact hp ▸ ⟨hm.1, hm.2.symm⟩
  case mpr =>
    intro ⟨ha, hn⟩
    have hl := Entries.lookup_groupBy (k := p.name) (propertyName ·.name) d.accessors
    rw [if_pos (hn ▸ List.mem_map_of_mem ha), hn, h.filter_accessors ha, ← hn] at hl
    exact ⟨_, Entries.mem_of_lookup hl, p.accessor, rfl, rfl⟩

end Legal

theorem ascending_optionNames (d : Descriptor) : d.table.optionNames.Pairwise (· < ·) := by
  have h := Entries.ascending_groupBy (propertyName ·.name) d.accessors
  simp only [Entries.Ascending, Entries.keys, List.pairwise_map] at h
  simp only [Schema.optionNames, table, List.pairwise_map, List.pairwise_filterMap,
    Option.map_eq_some_iff]
  refine h.imp fun hlt => ?_
  rintro _ ⟨_, _, rfl⟩ _ ⟨_, _, rfl⟩
  exact hlt

theorem nodup_optionNames (d : Descriptor) : d.table.optionNames.Nodup :=
  d.ascending_optionNames.imp ne_of_lt

theorem Legal.mem_optionNames (h : d.Legal) {k : String} :
    k ∈ d.table.optionNames ↔ ∃ a ∈ d.accessors, propertyName a.name = k := by
  simp only [Schema.optionNames, List.mem_map]
  constructor
  case mp =>
    intro ⟨p, hp, hk⟩
    have ⟨ha, hn⟩ := h.mem_properties.mp hp
    exact ⟨p.accessor, ha, hn ▸ hk⟩
  case mpr =>
    intro ⟨a, ha, hk⟩
    exact ⟨⟨k, a⟩, h.mem_properties.mpr ⟨ha, hk.symm⟩, rfl⟩

theorem Legal.mem_table_references (h : d.Legal) {r : SchemaRef} :
    r ∈ d.table.references ↔ r ∈ d.references := by
  simp only [Schema.references, List.mem_filterMap, mem_references]
  constructor
  case mp =>
    intro ⟨p, hp, hr⟩
    exact ⟨p.accessor, (h.mem_properties.mp hp).1, hr⟩
  case mpr =>
    intro ⟨a, ha, hr⟩
    exact ⟨⟨propertyName a.name, a⟩, h.mem_properties.mpr ⟨ha, rfl⟩, hr⟩

end Descriptor
end BulletinPipeline
