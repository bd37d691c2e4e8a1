import BulletinPipeline.Entries
import Mathlib.Data.String.Basic
import Mathlib.Data.List.Induction
import Mathlib.Data.List.Nodup
import Mathlib.Data.List.Sort
import Mathlib.Order.Bounds.Basic

namespace BulletinPipeline

namespace Entries

variable {α β : Type} {es : Entries α} {k j : String} {a b : α}

@[simp]
theorem keys_cons (e : String × α) (es : Entries α) : keys (e :: es) = e.1 :: keys es :=
  rfl

theorem lookup_cons_eq (e : String × α) (es : Entries α) (j : String) :
    (e :: es).lookup j = if j = e.1 then some e.2 else es.lookup j := by
  rw [List.lookup_cons]
  by_cases h : j = e.1
  case pos => simp [h]
  case neg => simp [h, beq_false_of_ne h]

theorem lookup_isSome_iff : (es.lookup k).isSome ↔ k ∈ keys es := by
  induction es
  case nil => simp [keys]
  case cons e _ hi =>
    rw [lookup_cons_eq, keys_cons, List.mem_cons, ← hi]
    split <;> simp_all

theorem lookup_eq_none_iff : es.lookup k = none ↔ k ∉ keys es := by
  rw [← lookup_isSome_iff, Option.not_isSome_iff_eq_none]

theorem mem_of_lookup (h : es.lookup k = some a) : (k, a) ∈ es := by
  have ⟨_, _, he, _⟩ := List.lookup_eq_some_iff.mp h
  simp [he]

theorem mem_keys_of_mem (h : (k, a) ∈ es) : k ∈ keys es :=
  List.mem_map_of_mem (f := Prod.fst) h

theorem mem_keys_of_lookup (h : es.lookup k = some a) : k ∈ keys es :=
  mem_keys_of_mem (mem_of_lookup h)

theorem lookup_map (f : String → α → β) (es : Entries α) (k : String) :
    List.lookup k (es.map fun e => (e.1, f e.1 e.2)) = (es.lookup k).map (f k) := by
  induction es
  case nil => rfl
  case cons e _ hi =>
    rw [List.map_cons, lookup_cons_eq, lookup_cons_eq, hi]
    split
    case isTrue h => simp [h]
    case isFalse  => rfl

theorem Ascending.tail {e : String × α} (h : Ascending (e :: es)) : Ascending es :=
  List.Pairwise.tail h

-- Names are unique in ascending entries, so that membership and look-up are the same.
theorem Ascending.lookup_eq_some_iff (h : Ascending es) : es.lookup k = some a ↔ (k, a) ∈ es := by
  refine ⟨mem_of_lookup, fun hm => ?_⟩
  induction es
  case nil => contradiction
  case cons e _ hi =>
    rw [lookup_cons_eq]
    cases List.mem_cons.mp hm
    case inl he => simp [← he]
    case inr ht =>
      have hlt := List.rel_of_pairwise_cons h (List.mem_map_of_mem ht)
      rw [if_neg (ne_of_gt hlt), hi h.tail ht]

theorem eq_of_mem_iff_of_ascending {f : β → String} {as bs : List β} (ha : (as.map f).Pairwise (· < ·))
    (hb : (bs.map f).Pairwise (· < ·)) (h : ∀ a, a ∈ as ↔ a ∈ bs) : as = bs := by
  have : Std.Antisymm fun a b : β => f a < f b := ⟨fun _ _ h h' => absurd h h'.not_gt⟩
  have : Std.Irrefl fun a b : β => f a < f b := ⟨fun _ => lt_irrefl _⟩
  exact List.Pairwise.eq_of_mem_iff (List.pairwise_map.mp ha) (List.pairwise_map.mp hb) h

theorem Ascending.eq_of_mem_iff {fs : Entries α} (he : Ascending es) (hf : Ascending fs)
    (h : ∀ e, e ∈ es ↔ e ∈ fs) : es = fs :=
  eq_of_mem_iff_of_ascending he hf h

-- One name picks one entry.
theorem Ascending.filterMap_eq (h : Ascending es) (f : α → β) :
    es.filterMap (fun e => if e.1 = k then some (f e.2) else none) = (es.lookup k).toList.map f := by
  induction es
  case nil => rfl
  case cons e es hi =>
    rw [List.filterMap_cons, lookup_cons_eq, hi h.tail]
    by_cases hk : e.1 = k
    case neg => rw [if_neg hk, if_neg (Ne.symm hk)]
    case pos =>
      have hn : es.lookup k = none := by
        rw [lookup_eq_none_iff]
        intro hm
        exact absurd hk (List.rel_of_pairwise_cons h hm).ne
      rw [if_pos hk, if_pos hk.symm, hn]
      rfl

theorem mem_keys_alter (f : Option α → α) : j ∈ keys (alter k f es) ↔ j = k ∨ j ∈ keys es := by
  induction es <;> simp only [alter]
  case nil => simp [keys]
  case cons e _ hi =>
    split
    · simp
    split
    case isTrue h => simp [h]
    case isFalse  => simp only [keys_cons, List.mem_cons, hi, or_left_comm]

theorem Ascending.alter (f : Option α → α) (h : Ascending es) : Ascending (alter k f es) := by
  induction es <;> simp only [Entries.alter]
  case nil => exact List.pairwise_singleton ..
  case cons e es hi =>
    split
    case isTrue hk =>
      refine List.pairwise_cons.mpr ⟨fun j hj => ?_, h⟩
      cases List.mem_cons.mp hj
      case inl he => exact he ▸ hk
      case inr ht => exact hk.trans <| List.rel_of_pairwise_cons h ht
    split
    case isTrue hk => exact hk ▸ h
    case isFalse hn hk =>
      refine List.pairwise_cons.mpr ⟨fun j hj => ?_, hi h.tail⟩
      cases (mem_keys_alter f).mp hj
      case inl he => exact he ▸ lt_of_le_of_ne (not_lt.mp hn) (Ne.symm hk)
      case inr ht => exact List.rel_of_pairwise_cons h ht

theorem Ascending.lookup_alter (f : Option α → α) (h : Ascending es) :
    (Entries.alter k f es).lookup j = if j = k then some (f (es.lookup k)) else es.lookup j := by
  induction es <;> simp only [Entries.alter]
  case nil => simp [lookup_cons_eq]
  case cons e es hi =>
    split
    case isTrue hk =>
      -- `k` comes before all the names, so there was no binding of it.
      have : (e :: es).lookup k = none := by
        refine lookup_eq_none_iff.mpr fun hm => ?_
        cases List.mem_cons.mp hm
        case inl he => exact absurd hk (he ▸ lt_irrefl _)
        case inr ht => exact absurd (hk.trans <| List.rel_of_pairwise_cons h ht) (lt_irrefl _)
      rw [lookup_cons_eq, this]
    split
    case isTrue hk =>
      subst hk
      simp only [lookup_cons_eq, if_true]
      split <;> rfl
    case isFalse hk =>
      simp only [lookup_cons_eq, hi h.tail, hk, if_false]
      split
      case isTrue he => simp [he, Ne.symm hk]
      case isFalse   => rfl

-- Needs no order: the new binding always stands before an old one.
theorem lookup_insert (es : Entries α) :
    (insert k a es).lookup j = if j = k then some a else es.lookup j := by
  induction es <;> simp only [insert, alter]
  case nil => simp [lookup_cons_eq]
  case cons e es hi =>
    split
    · exact lookup_cons_eq ..
    split
    case isTrue hk =>
      subst hk
      simp only [lookup_cons_eq]
      split <;> rfl
    case isFalse hk =>
      simp only [insert] at hi
      simp only [lookup_cons_eq, hi]
      split
      case isTrue he => simp [he, Ne.symm hk]
      case isFalse   => rfl

-- A new binding goes where its name belongs.
theorem insert_append {before after : Entries α} (hb : ∀ j ∈ keys before, j < k)
    (ha : ∀ j ∈ keys after, k < j) : insert k a (before ++ after) = before ++ (k, a) :: after := by
  induction before
  case nil =>
    cases after
    case nil        => rfl
    case cons e es => exact if_pos (ha e.1 List.mem_cons_self)
  case cons e es hi =>
    have he := hb e.1 List.mem_cons_self
    have hi := hi fun j hj => hb j (List.mem_cons_of_mem _ hj)
    simp only [insert] at hi
    simp only [insert, List.cons_append, alter, if_neg he.not_gt, if_neg he.ne', hi]

theorem ascending_ofList (es : List (String × α)) : Ascending (ofList es) := by
  induction es using List.reverseRecOn
  case nil => exact List.Pairwise.nil
  case append_singleton es e hi =>
    rw [ofList, List.foldl_append]
    exact hi.alter _

theorem mem_ofList_iff {es : List (String × α)} (hn : (keys es).Nodup) :
    (k, a) ∈ ofList es ↔ (k, a) ∈ es := by
  induction es using List.reverseRecOn generalizing k a
  case nil => simp [ofList]
  case append_singleton es e hi =>
    simp only [keys, List.map_append, List.map_cons, List.map_nil, List.nodup_append] at hn
    have hl : (ofList (es ++ [e])).lookup k = if k = e.1 then some e.2 else (ofList es).lookup k := by
      rw [ofList, List.foldl_append]
      exact lookup_insert ..
    rw [← (ascending_ofList _).lookup_eq_some_iff, hl, List.mem_append, List.mem_singleton]
    split
    case isTrue hk =>
      subst hk
      have hm : (e.1, a) ∉ es := fun hm => hn.2.2 e.1 (mem_keys_of_mem hm) e.1 (by simp) rfl
      simp [hm, Prod.ext_iff, eq_comm]
    case isFalse hk =>
      rw [(ascending_ofList es).lookup_eq_some_iff, hi hn.1]
      simp [Prod.ext_iff, hk]

theorem ascending_groupBy (name : α → String) (as : List α) : Ascending (groupBy name as) := by
  induction as
  case nil => exact List.Pairwise.nil
  case cons hi => exact hi.alter _

theorem lookup_groupBy (name : α → String) (as : List α) :
    (groupBy name as).lookup k
      = if k ∈ as.map name then some (as.filter (name · = k)) else none := by
  induction as
  case nil => simp [groupBy]
  case cons a as hi =>
    simp only [groupBy, (ascending_groupBy name as).lookup_alter, List.map_cons, List.mem_cons]
    by_cases hk : k = name a
    case neg => simp [hk, Ne.symm hk, hi]
    case pos =>
      subst hk
      by_cases hm : name a ∈ as.map name
      case pos => simp [hi, hm]
      case neg =>
        have : as.filter (name · = name a) = [] := by
          simp only [List.filter_eq_nil_iff, decide_eq_true_eq]
          exact fun b hb he => hm (he ▸ List.mem_map_of_mem hb)
        simp [hi, hm, this]

theorem lookup_groupBy_of_some {name : α → String} {as group : List α}
    (h : (groupBy name as).lookup k = some group) : group = as.filter (name · = k) := by
  rw [lookup_groupBy] at h
  split at h <;> cases h
  rfl

-- The group of a name holds all that has the name, so that none has two elements if no name occurs twice.
theorem forall_length_groupBy_le_one_iff {name : α → String} {as : List α} :
    (∀ g ∈ groupBy name as, g.2.length ≤ 1) ↔ (as.map name).Nodup := by
  have length_eq (k : String) : (as.filter (name · = k)).length = (as.map name).count k := by
    simp only [List.count_eq_countP, List.countP_map, ← List.countP_eq_length_filter]
    rfl
  rw [List.nodup_iff_count_le_one]
  constructor
  case mp =>
    intro h k
    by_cases hk : k ∈ as.map name
    case neg => simp [List.count_eq_zero_of_not_mem hk]
    case pos =>
      have hg := lookup_groupBy (k := k) name as
      rw [if_pos hk] at hg
      exact length_eq k ▸ h _ (mem_of_lookup hg)
  case mpr =>
    intro h ⟨k, group⟩ hg
    have hl := (ascending_groupBy name as).lookup_eq_some_iff.mpr hg
    cases lookup_groupBy_of_some hl
    exact length_eq k ▸ h k

-- Where names ascend, the first that is found is the least.
theorem isLeast_map_of_find? {f : α → String} {as : List α} {p : α → Bool}
    (h : (as.map f).Pairwise (· < ·)) (ha : as.find? p = some a) :
    IsLeast {n | ∃ b ∈ as, p b ∧ f b = n} (f a) := by
  have ⟨hp, before, after, hs, hb⟩ := List.find?_eq_some_iff_append.mp ha
  refine ⟨⟨a, List.mem_of_find?_eq_some ha, hp, rfl⟩, ?_⟩
  rintro _ ⟨b, hm, hpb, rfl⟩
  rw [hs, List.mem_append, List.mem_cons] at hm
  rcases hm with hm | he | hm
  · have hn := hb b hm
    simp [hpb] at hn
  · exact he ▸ le_rfl
  · rw [hs, List.map_append, List.map_cons] at h
    exact (List.rel_of_pairwise_cons (List.pairwise_append.mp h).2.1 (List.mem_map_of_mem hm)).le

theorem isLeast_of_find? {names : List String} {p : String → Bool} (h : names.Pairwise (· < ·))
    (hk : names.find? p = some k) : IsLeast {n | n ∈ names ∧ p n} k := by
  have hl := isLeast_map_of_find? (f := id) (by simpa using h) hk
  simpa using hl

theorem Ascending.exists_isLeast {names : List String} (h : Ascending es)
    (hk : ∃ k ∈ keys es, k ∉ names) : ∃ k, IsLeast {k | k ∈ keys es ∧ k ∉ names} k := by
  cases hf : (keys es).find? (· ∉ names)
  case some k => exact ⟨k, by simpa using isLeast_of_find? h hf⟩
  case none   =>
    have ⟨k, hm, hn⟩ := hk
    simp only [List.find?_eq_none, decide_eq_true_eq, not_not] at hf
    exact absurd (hf k hm) hn

-- Names are unique, so that nothing stands behind an entry that is dropped.
theorem Ascending.lookup_filterMap (f : α → Option β) (h : Ascending es) :
    List.lookup k (es.filterMap fun e => (f e.2).map (e.1, ·)) = (es.lookup k).bind f := by
  induction es
  case nil => rfl
  case cons e es hi =>
    rw [List.filterMap_cons, lookup_cons_eq]
    by_cases hk : k = e.1
    case pos =>
      subst hk
      have hn : es.lookup e.1 = none :=
        lookup_eq_none_iff.mpr fun hm => lt_irrefl _ (List.rel_of_pairwise_cons h hm)
      cases hf : f e.2
      case none   => simp only [Option.map_none, hi h.tail, hn, Option.bind_none, if_true, Option.bind_some, hf]
      case some b => simp [hf]
    case neg => cases hf : f e.2 <;> simp [hk, hi h.tail, lookup_cons_eq]

-- Entries that have been made for elements with different names, one for each in their order.
theorem forall₂_iff_lookup {name : β → String} {R : β → α → Prop} {bs : List β}
    (hn : (bs.map name).Nodup) : List.Forall₂ (fun b e => e.1 = name b ∧ R b e.2) bs es
      ↔ keys es = bs.map name ∧ ∀ b ∈ bs, ∃ a, es.lookup (name b) = some a ∧ R b a := by
  induction bs generalizing es
  case nil => cases es <;> simp [keys]
  case cons b bs hi =>
    have ⟨hb, hn⟩ := List.nodup_cons.mp hn
    cases es
    case nil => simp [keys]
    case cons e es =>
      have hl (c : β) (hc : c ∈ bs) (he : e.1 = name b) :
          (e :: es).lookup (name c) = es.lookup (name c) := by
        have hne : name c ≠ e.1 := fun h => hb (he ▸ h ▸ List.mem_map_of_mem hc)
        rw [lookup_cons_eq, if_neg hne]
      rw [List.forall₂_cons, hi hn, keys_cons, List.map_cons, List.cons.injEq, List.forall_mem_cons,
        lookup_cons_eq]
      constructor
      case mp =>
        intro ⟨⟨he, hr⟩, hk, hs⟩
        refine ⟨⟨he, hk⟩, ⟨e.2, if_pos he.symm, hr⟩, fun c hc => ?_⟩
        rw [hl c hc he]
        exact hs c hc
      case mpr =>
        intro ⟨⟨he, hk⟩, ⟨a, ha, hr⟩, hs⟩
        rw [if_pos he.symm, Option.some.injEq] at ha
        refine ⟨⟨he, ha ▸ hr⟩, hk, fun c hc => ?_⟩
        rw [← hl c hc he]
        exact hs c hc

end Entries

variable {names : List String} {k : String}

theorem ascending_ascendingNames (names : List String) : (ascendingNames names).Pairwise (· < ·) :=
  Entries.ascending_groupBy id names

theorem mem_ascendingNames : k ∈ ascendingNames names ↔ k ∈ names := by
  rw [ascendingNames, ← Entries.lookup_isSome_iff, Entries.lookup_groupBy, List.map_id]
  split <;> simp_all

end BulletinPipeline
