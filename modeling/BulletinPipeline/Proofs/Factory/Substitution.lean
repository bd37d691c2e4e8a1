import BulletinPipeline.Proofs.Factory.Renaming

namespace BulletinPipeline

namespace Entries

variable {α : Type} {es before after : Entries α} {k j : String} {a : α}

theorem keys_append (before after : Entries α) : keys (before ++ after) = keys before ++ keys after :=
  List.map_append

-- The names before an entry are those that are less.
theorem Ascending.mem_before_iff (h : Ascending (before ++ (k, a) :: after)) :
    j ∈ keys before ↔ j ∈ keys (before ++ (k, a) :: after) ∧ j < k := by
  rw [Ascending, keys_append, keys_cons, List.pairwise_append] at h
  obtain ⟨_, hk, hb⟩ := h
  simp only [keys_append, keys_cons, List.mem_append, List.mem_cons]
  constructor
  case mp  => exact fun hj => ⟨.inl hj, hb j hj k List.mem_cons_self⟩
  case mpr =>
    rintro ⟨hj | rfl | hj, hl⟩
    · exact hj
    · exact absurd hl (lt_irrefl _)
    · exact absurd hl (List.rel_of_pairwise_cons hk hj).not_gt

-- The last binding of a name comes first from behind.
theorem lookup_reverse_eq_some_iff : es.reverse.lookup k = some a
    ↔ ∃ before after, es = before ++ (k, a) :: after ∧ k ∉ keys after := by
  simp only [List.lookup_eq_some_iff, List.reverse_eq_iff]
  constructor
  case mp =>
    rintro ⟨after, before, rfl, hn⟩
    refine ⟨before.reverse, after.reverse, by simp, fun hk => ?_⟩
    obtain ⟨e, he, rfl⟩ := List.mem_map.mp hk
    simpa using hn e (List.mem_reverse.mp he)
  case mpr =>
    rintro ⟨before, after, rfl, hn⟩
    refine ⟨after.reverse, before.reverse, by simp, fun e he => ?_⟩
    have hm : e.1 ∈ keys after := List.mem_map_of_mem (List.mem_reverse.mp he)
    simpa using fun h : k = e.1 => hn (h ▸ hm)

end Entries

namespace Renaming

variable {rename : Renaming} {raw : Entries Value} {aliases : List (String × String)}
  {factory k j first second first' second' : String}

-- Two names become one: of the names with the new name of a lesser one `second` is the least, and `first` is the only
-- lesser one.
structure Collides (rename : Renaming) (raw : Entries Value) (first second : String) : Prop where
  least : IsLeast {k | k ∈ Entries.keys raw ∧ ∃ j ∈ Entries.keys raw, j < k ∧ rename j = rename k} second
  only  : ∀ j, (j ∈ Entries.keys raw ∧ j < second ∧ rename j = rename second) ↔ j = first

namespace Collides

theorem unique (h : rename.Collides raw first second) (h' : rename.Collides raw first' second') :
    first = first' ∧ second = second' := by
  cases h.least.unique h'.least
  exact ⟨(h'.only first).mp ((h.only first).mpr rfl), rfl⟩

theorem not_separates (h : rename.Collides raw first second) : ¬rename.Separates raw := by
  obtain ⟨hf, hl, he⟩ := (h.only first).mpr rfl
  exact fun hs => hl.ne (hs hf h.least.1.1 he)

-- The scan has got to an entry, and the names before it stay apart.
theorem of_append {before after : Entries Value} {v : Value} (hr : Entries.Ascending (before ++ (k, v) :: after))
    (hs : rename.Separates before) (hf : first ∈ Entries.keys before) (he : rename first = rename k) :
    rename.Collides (before ++ (k, v) :: after) first k := by
  refine ⟨⟨⟨?member, first, ?earlier⟩, ?least⟩, fun j => ⟨?unique, ?first⟩⟩
  case member  => exact Entries.mem_keys_of_mem (List.mem_append_right _ List.mem_cons_self)
  case earlier =>
    have ⟨hm, hl⟩ := hr.mem_before_iff.mp hf
    exact ⟨hm, hl, he⟩
  case least   =>
    rintro second ⟨hk, j, hj, hl, hq⟩
    by_contra hn
    have hn := not_le.mp hn
    exact hl.ne (hs (hr.mem_before_iff.mpr ⟨hj, hl.trans hn⟩) (hr.mem_before_iff.mpr ⟨hk, hn⟩) hq)
  case unique  => exact fun ⟨hj, hl, hq⟩ => hs (hr.mem_before_iff.mpr ⟨hj, hl⟩) hf (hq.trans he.symm)
  case first   =>
    rintro rfl
    have ⟨hm, hl⟩ := hr.mem_before_iff.mp hf
    exact ⟨hm, hl, he⟩

end Collides

theorem apply_eq_error_iff (hr : raw.Ascending) {e : Error} : rename.apply factory raw = .error e
    ↔ ∃ first second, rename.Collides raw first second
      ∧ e = .duplicateRenamedKey factory (rename second) first second := by
  have hc {e : Error} (h : rename.apply factory raw = .error e) : ∃ first second, rename.Collides raw first second
      ∧ e = .duplicateRenamedKey factory (rename second) first second := by
    obtain ⟨before, k, v, after, first, rfl, hn, _, hf, he⟩ := of_renameFrom_eq_error h
    have hb : before.Ascending := by
      rw [Entries.Ascending, Entries.keys_append] at hr
      exact (List.pairwise_append.mp hr).1
    obtain ⟨hf, hq⟩ := hf.resolve_left List.not_mem_nil
    exact ⟨first, k, .of_append hr ((separates_iff hb).mpr hn) hf hq, he⟩
  refine ⟨hc, fun ⟨first, second, h, he⟩ => ?_⟩
  obtain ⟨e', ha, _⟩ := exists_error hr h.not_separates factory
  obtain ⟨_, _, h', rfl⟩ := hc ha
  obtain ⟨rfl, rfl⟩ := h.unique h'
  rw [ha, he]

theorem ofAliases_eq_iff : ofAliases aliases k = j
    ↔ (∃ before after, aliases = before ++ (k, j) :: after ∧ k ∉ Entries.keys after)
      ∨ k ∉ Entries.keys aliases ∧ j = k := by
  rw [← Entries.lookup_reverse_eq_some_iff, ofAliases]
  have hk : k ∈ Entries.keys aliases ↔ (aliases.reverse.lookup k).isSome := by
    rw [Entries.lookup_isSome_iff, Entries.keys, Entries.keys, List.map_reverse, List.mem_reverse]
  rw [hk]
  cases aliases.reverse.lookup k <;> simp [eq_comm]

-- What renaming a map has to answer: the bindings under their new names, each renamed once, or the names that become
-- one and what they become.
structure Substitutes (rename : Renaming) (factory : String) (raw : Entries Value)
    (answer : Except Error (Entries Value)) : Prop where
  succeeds : (∃ raw', answer = .ok raw') ↔ rename.Separates raw
  result   : ∀ raw', answer = .ok raw' → rename.Renames raw raw'
  fails    : ∀ e, answer = .error e ↔ ∃ first second, rename.Collides raw first second
    ∧ e = .duplicateRenamedKey factory (rename second) first second

theorem apply_exact (hr : raw.Ascending) (rename : Renaming) (factory : String) :
    rename.Substitutes factory raw (rename.apply factory raw)
      ∧ ∀ aliases k j, ofAliases aliases k = j
        ↔ (∃ before after, aliases = before ++ (k, j) :: after ∧ k ∉ Entries.keys after)
          ∨ k ∉ Entries.keys aliases ∧ j = k := by
  refine ⟨⟨?succeeds, fun raw' ha => ?result, fun _ => apply_eq_error_iff hr⟩, fun _ _ _ => ofAliases_eq_iff⟩
  case succeeds => simp [apply_eq_ok_iff hr]
  case result   =>
    obtain ⟨_, ha', hn⟩ := exists_renames hr ((apply_eq_ok_iff hr).mp ha).1 factory
    cases ha.symm.trans ha'
    exact hn

-- Two names that change places, and a name that becomes the first of them; the first alias of `cap` does not count.
def exchange : Renaming :=
  ofAliases [("bound", "limit"), ("limit", "bound"), ("cap", "unit"), ("cap", "bound")]

theorem apply_exact_exchange :
    (Entries.Ascending [("bound", Value.long 5), ("limit", .long 7)]
      ∧ exchange.Substitutes "Gauge" [("bound", .long 5), ("limit", .long 7)]
          (.ok [("bound", .long 7), ("limit", .long 5)]))
    ∧ Entries.Ascending [("bound", Value.long 5), ("cap", .long 6), ("limit", .long 7)]
      ∧ exchange.Substitutes "Gauge" [("bound", .long 5), ("cap", .long 6), ("limit", .long 7)]
          (.error (.duplicateRenamedKey "Gauge" "bound" "cap" "limit")) := by
  have ho : Entries.Ascending [("bound", Value.long 5), ("limit", .long 7)] := by
    unfold Entries.Ascending
    decide
  have hm : Entries.Ascending [("bound", Value.long 5), ("cap", .long 6), ("limit", .long 7)] := by
    unfold Entries.Ascending
    decide
  exact ⟨⟨ho, (apply_exact ho exchange "Gauge").1⟩, hm, (apply_exact hm exchange "Gauge").1⟩

end Renaming
end BulletinPipeline
