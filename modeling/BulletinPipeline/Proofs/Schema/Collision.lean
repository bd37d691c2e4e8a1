import BulletinPipeline.Proofs.PropertyName
import BulletinPipeline.Proofs.Schema.Flaw

namespace BulletinPipeline

open PropertyName

namespace Descriptor

-- Both accessors are listed as spellings of one property.
def Collide (d : Descriptor) (a b : Signature) : Prop :=
  ∃ groups k names, Schema.ofDescriptor d = .error (.ambiguousNames d.name groups)
    ∧ (k, names) ∈ groups ∧ [a.name, b.name].Subperm names

variable {d : Descriptor} {a b : Signature} {k : String} {groups : Entries (List String)}

theorem Ambiguities.propertyName_eq {names : List String} (h : d.Ambiguities groups)
    (hk : (k, names) ∈ groups) {n : String} (hn : n ∈ names) : propertyName n = k := by
  have ⟨_, hp, _⟩ := (h.listed k names).mp hk
  have ⟨c, hc, he⟩ := List.mem_map.mp (hp.mem_iff.mp hn)
  exact he ▸ of_decide_eq_true (List.mem_filter.mp hc).2

theorem sublist_accessorsOf (h : [a, b].Sublist d.accessors) (ha : propertyName a.name = k)
    (hb : propertyName b.name = k) : [a, b].Sublist (d.accessorsOf k) := by
  have hs := h.filter (propertyName ·.name = k)
  simpa [accessorsOf, ha, hb] using hs

theorem collide_iff (hf : d.form = .contract) (ht : d.tagged = true)
    (hp : ∀ a ∈ d.accessors, a.params = []) (h : [a, b].Sublist d.accessors) :
    d.Collide a b ↔ propertyName a.name = propertyName b.name := by
  constructor
  case mp =>
    intro ⟨groups, k, names, he, hk, hs⟩
    cases Schema.flaw_of_ofDescriptor he
    case ambiguous hg _ =>
      have ha := hg.propertyName_eq hk (hs.subset List.mem_cons_self)
      have hb := hg.propertyName_eq hk (hs.subset (List.mem_cons_of_mem _ List.mem_cons_self))
      exact ha.trans hb.symm
  case mpr =>
    intro hn
    let groups := Schema.collisions (Entries.groupBy (propertyName ·.name) d.accessors)
    let names := ((d.accessorsOf (propertyName b.name)).map Signature.name).mergeSort
      fun a b => decide (a ≤ b)
    have hg : d.Ambiguities groups := Schema.ambiguities_collisions d
    have hs := sublist_accessorsOf h hn rfl
    have ⟨hm, ho⟩ := mergeSort_eq_iff.mp (rfl : names = _)
    have hk : (propertyName b.name, names) ∈ groups := (hg.listed ..).mpr ⟨hs.length_le, hm, ho⟩
    have he := Schema.ofDescriptor_of_flaw (.ambiguous hf ht hp hg (List.ne_nil_of_mem hk))
    exact ⟨groups, _, names, he, hk, (hs.map Signature.name).subperm.trans hm.symm.subperm⟩

end Descriptor

namespace PropertyName

-- What has to hold of a name and a property, and of the names of accessors.
structure Spelling (n p : String) : Prop where
  property  : propertyName n = p ↔ Spells p n
  oneVerb   : ∀ v w : Verb, v.leads n → w.leads n → v = w
  strip?    : ∀ v : Verb, v.strip? (v.attach p) = some p ↔ Canonical p.toList
  strip     : ∀ v : Verb, v.strip (v.attach p) = p ↔ Canonical p.toList
  anyVerb   : ∀ v : Verb, propertyName (v.attach p) = p ↔ Canonical p.toList
  attach    : ∀ v : Verb, v.leads n → v.attach (v.strip n) = n
  ambiguous : ∀ d : Descriptor, d.form = .contract → d.tagged = true →
    (∀ a ∈ d.accessors, a.params = [] ∧ IsAscii a.name) → ∀ a b, [a, b].Sublist d.accessors →
      (d.Collide a b ↔ ∃ q, Spells q a.name ∧ Spells q b.name)

theorem spelling_of_isAscii {n p : String} (hn : IsAscii n) (hp : IsAscii p) : Spelling n p where
  property      := propertyName_eq_iff hn
  oneVerb _ _   := leads_unique
  strip? _      := strip?_attach_iff hp
  strip _       := strip_attach_iff hp
  anyVerb _     := propertyName_attach_iff hp
  attach _      := attach_strip hn
  ambiguous d hf ht hd a b h := by
    have ha := (hd a (h.subset List.mem_cons_self)).2
    have hb := (hd b (h.subset (List.mem_cons_of_mem _ List.mem_cons_self))).2
    rw [Descriptor.collide_iff hf ht (fun a ha => (hd a ha).1) h]
    constructor
    case mp =>
      intro hn
      exact ⟨_, (propertyName_eq_iff ha).mp rfl, (propertyName_eq_iff hb).mp hn.symm⟩
    case mpr =>
      intro ⟨q, hqa, hqb⟩
      rw [(propertyName_eq_iff ha).mpr hqa, (propertyName_eq_iff hb).mpr hqb]

-- An acronym, once with a verb and once by itself.
def feed : Descriptor :=
  .schema "Feed" [("getURL", .string), ("URL", .string)]

theorem spelling_getURL :
    IsAscii "getURL" ∧ IsAscii "URL" ∧ Spelling "getURL" "URL"
      ∧ feed.Collide ⟨"Feed", "getURL", [], .string⟩ ⟨"Feed", "URL", [], .string⟩ := by
  have hn : IsAscii "getURL" := by simp [IsAscii]
  have hp : IsAscii "URL" := by simp [IsAscii]
  have hs : Spelling "getURL" "URL" := spelling_of_isAscii hn hp
  have hd : ∀ a ∈ feed.accessors, a.params = [] ∧ IsAscii a.name := by
    simp [feed, Descriptor.schema, Descriptor.accessors, hn, hp]
  have hl : ∀ v : Verb, v.leads "URL" = false := by intro v; cases v <;> decide
  refine ⟨hn, hp, hs, (hs.ambiguous feed rfl rfl hd _ _ (.refl _)).mpr ⟨"URL", ?_, .bare hl⟩⟩
  exact .attached .get (.acronym rfl rfl)

end PropertyName
end BulletinPipeline
