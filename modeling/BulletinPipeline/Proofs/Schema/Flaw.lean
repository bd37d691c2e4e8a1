import BulletinPipeline.Proofs.Schema.Legality

namespace BulletinPipeline

namespace Descriptor

def accessorsOf (d : Descriptor) (property : String) : List Signature :=
  d.accessors.filter (propertyName ·.name = property)

-- The properties that several accessors speak of, and all the names of these, both in ascending order.
structure Ambiguities (d : Descriptor) (groups : Entries (List String)) : Prop where
  ascending : groups.Ascending
  listed    : ∀ k names, (k, names) ∈ groups ↔ 1 < (d.accessorsOf k).length
    ∧ names.Perm ((d.accessorsOf k).map Signature.name) ∧ names.Pairwise (· ≤ ·)

-- Of several faults the one that comes first here is reported.
inductive Flaw (d : Descriptor) : SchemaError → Prop
  | concrete : d.form = .concrete → Flaw d (.violation d.name .concrete)
  | untagged : d.form = .contract → d.tagged = false → Flaw d (.violation d.name .untagged)
  | parameters {before after : List Signature} {a : Signature} :
    d.form = .contract → d.tagged = true → d.accessors = before ++ a :: after →
      (∀ b ∈ before, b.params = []) → a.params ≠ [] → Flaw d (.violation d.name (.parameters a.name))
  | ambiguous {groups : Entries (List String)} :
    d.form = .contract → d.tagged = true → (∀ a ∈ d.accessors, a.params = []) →
      d.Ambiguities groups → groups ≠ [] → Flaw d (.ambiguousNames d.name groups)

theorem Ambiguities.unique {d : Descriptor} {gs hs : Entries (List String)} (h : d.Ambiguities gs)
    (h' : d.Ambiguities hs) : gs = hs :=
  h.ascending.eq_of_mem_iff h'.ascending fun _ => (h.listed ..).trans (h'.listed ..).symm

end Descriptor

theorem mergeSort_eq_iff {ns ms : List String} :
    ms = ns.mergeSort (fun a b => decide (a ≤ b)) ↔ ms.Perm ns ∧ ms.Pairwise (· ≤ ·) := by
  have hs : (ns.mergeSort fun a b => decide (a ≤ b)).Pairwise (· ≤ ·) := by
    have h : (ns.mergeSort fun a b => decide (a ≤ b)).Pairwise fun a b => decide (a ≤ b) :=
      List.pairwise_mergeSort (fun _ _ _ => by simpa using le_trans) (fun a b => by simpa using le_total a b) ns
    simpa using h
  have hp := ns.mergeSort_perm fun a b => decide (a ≤ b)
  constructor
  case mp  => exact fun h => h ▸ ⟨hp, hs⟩
  case mpr => exact fun ⟨h, h'⟩ => (h.trans hp.symm).eq_of_pairwise' h' hs

namespace Schema

variable {d : Descriptor} {e : SchemaError}

theorem mem_collisions_iff {as : List Signature} {k : String} {names : List String} :
    (k, names) ∈ collisions (Entries.groupBy (propertyName ·.name) as)
      ↔ 1 < (as.filter (propertyName ·.name = k)).length
        ∧ names.Perm ((as.filter (propertyName ·.name = k)).map Signature.name)
        ∧ names.Pairwise (· ≤ ·) := by
  rw [← mergeSort_eq_iff]
  simp only [collisions, List.mem_map, List.mem_filter, decide_eq_true_eq, Prod.mk.injEq]
  constructor
  case mp =>
    rintro ⟨g, ⟨hg, hl⟩, hk, hn⟩
    have hf := (Entries.ascending_groupBy ..).lookup_eq_some_iff.mpr hg
    rw [Entries.lookup_groupBy_of_some hf, hk] at hl hn
    exact ⟨hl, hn.symm⟩
  case mpr =>
    rintro ⟨hl, hn⟩
    -- A group with two elements has one, so that its name occurs.
    obtain ⟨a, ha⟩ := List.exists_mem_of_length_pos (Nat.zero_lt_of_lt hl)
    obtain ⟨hm, hk⟩ := List.mem_filter.mp ha
    have hf := Entries.lookup_groupBy (k := k) (propertyName ·.name) as
    rw [if_pos (of_decide_eq_true hk ▸ List.mem_map_of_mem hm)] at hf
    exact ⟨_, ⟨Entries.mem_of_lookup hf, hl⟩, rfl, hn.symm⟩

theorem ascending_collisions {groups : Entries (List Signature)} (h : groups.Ascending) :
    (collisions groups).Ascending := by
  refine List.Pairwise.sublist ?_ h
  simp only [Entries.keys, collisions, List.map_map, Function.comp_def]
  exact List.filter_sublist.map Prod.fst

theorem ambiguities_collisions (d : Descriptor) :
    d.Ambiguities (collisions (Entries.groupBy (propertyName ·.name) d.accessors)) where
  ascending  := ascending_collisions (Entries.ascending_groupBy ..)
  listed _ _ := mem_collisions_iff

theorem flaw_of_ofDescriptor (h : ofDescriptor d = .error e) : d.Flaw e := by
  have hf (hn : d.form ≠ .concrete) : d.form = .contract := by
    cases hd : d.form
    case contract => rfl
    case concrete => contradiction
  unfold ofDescriptor at h
  split at h
  case isTrue hc => exact Except.error.inj h ▸ .concrete hc
  split at h
  case isTrue hc ht => exact Except.error.inj h ▸ .untagged (hf hc) ht
  case isFalse hc ht =>
    have ht : d.tagged = true := by simpa using ht
    split at h
    case h_1 a ha =>
      have ⟨hp, before, after, hs, hb⟩ := List.find?_eq_some_iff_append.mp ha
      exact Except.error.inj h ▸ .parameters (hf hc) ht hs (by simpa using hb) (by simpa using hp)
    case h_2 ha =>
      dsimp only at h
      split at h <;> cases h
      case isFalse hg =>
        exact .ambiguous (hf hc) ht (by simpa using ha) (ambiguities_collisions d) hg

theorem ofDescriptor_of_flaw (h : d.Flaw e) : ofDescriptor d = .error e := by
  cases h
  case concrete hf    => simp [ofDescriptor, hf]
  case untagged hf ht => simp [ofDescriptor, hf, ht]
  case parameters before after a hf ht hs hb ha =>
    have hp : d.accessors.find? (!·.params.isEmpty) = some a := by
      refine List.find?_eq_some_iff_append.mpr ⟨by simpa using ha, before, after, hs, ?_⟩
      simpa using hb
    simp [ofDescriptor, hf, ht, hp]
  case ambiguous groups hf ht hp hg hn =>
    have hp : d.accessors.find? (!·.params.isEmpty) = none := by
      simpa [List.find?_eq_none] using hp
    have hc := hg.unique (ambiguities_collisions d)
    simp [ofDescriptor, hf, ht, hp, ← hc, hn]

end Schema

namespace Descriptor

variable {d : Descriptor} {e e' : SchemaError}

theorem Flaw.unique (h : d.Flaw e) (h' : d.Flaw e') : e = e' :=
  Except.error.inj ((Schema.ofDescriptor_of_flaw h).symm.trans (Schema.ofDescriptor_of_flaw h'))

theorem Legal.not_flaw (h : d.Legal) : ¬d.Flaw e :=
  fun h' => nomatch (Schema.ofDescriptor_of_legal h).symm.trans (Schema.ofDescriptor_of_flaw h')

end Descriptor
end BulletinPipeline
