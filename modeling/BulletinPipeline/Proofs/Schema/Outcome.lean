import BulletinPipeline.Proofs.Recursion.Evaluation
import BulletinPipeline.Proofs.Schema.Assembly

namespace BulletinPipeline

section Traversal

variable {α β ε : Type} {f : α → Except ε β} {e : ε}

theorem mapM_eq_ok_iff {as : List α} {bs : List β} :
    as.mapM f = .ok bs ↔ List.Forall₂ (fun a b => f a = .ok b) as bs := by
  induction as generalizing bs
  case nil => exact ⟨fun h => by cases h; exact .nil, fun h => by cases h; rfl⟩
  case cons a as hi =>
    rw [List.mapM_cons]
    constructor
    case mp =>
      intro h
      cases ha : f a <;> rw [ha] at h
      case error => contradiction
      cases has : as.mapM f <;> rw [has] at h
      case error => contradiction
      cases h
      exact .cons ha (hi.mp has)
    case mpr =>
      intro h
      cases h
      case cons ha has =>
        rw [ha, hi.mpr has]
        rfl

-- The first fault ends a traversal.
theorem mapM_eq_error_iff {as : List α} :
    as.mapM f = .error e ↔ ∃ before a after, as = before ++ a :: after
      ∧ (∀ b ∈ before, ∃ c, f b = .ok c) ∧ f a = .error e := by
  induction as
  case nil => simp [pure, Except.pure]
  case cons a as hi =>
    rw [List.mapM_cons]
    constructor
    case mp =>
      intro h
      cases ha : f a <;> rw [ha] at h
      case error => exact ⟨[], a, as, rfl, by simp, ha.trans (congrArg _ (Except.error.inj h))⟩
      case ok c =>
        cases has : as.mapM f <;> rw [has] at h <;> cases h
        have ⟨before, b, after, hs, hb, he⟩ := hi.mp has
        exact ⟨a :: before, b, after, by simp [hs], List.forall_mem_cons.mpr ⟨⟨c, ha⟩, hb⟩, he⟩
    case mpr =>
      intro ⟨before, b, after, hs, hb, he⟩
      cases before
      case nil =>
        cases hs
        rw [he]
        rfl
      case cons =>
        cases hs
        have ⟨c, hc⟩ := hb a List.mem_cons_self
        rw [hc, hi.mpr ⟨_, b, after, rfl, fun b hm => hb b (List.mem_cons_of_mem _ hm), he⟩]
        rfl

end Traversal

namespace Schema

variable {s : Schema} {ps : List Property} {raw : Entries Value} {k : String}

theorem name_of_halves {n : Nat} (hs : (ps.map Property.name).Pairwise (· < ·)) (hn : n < ps.length) :
    (∀ p ∈ ps.take n, p.name < ps[n].name) ∧ ∀ p ∈ ps.drop n, ps[n].name ≤ p.name := by
  have hd := List.drop_eq_getElem_cons hn
  have hp : ((ps.take n ++ ps[n] :: ps.drop (n + 1)).map Property.name).Pairwise (· < ·) := by
    rwa [← hd, List.take_append_drop]
  rw [List.map_append, List.map_cons, List.pairwise_append] at hp
  obtain ⟨_, hu, hb⟩ := hp
  refine ⟨fun p hp => hb _ (List.mem_map_of_mem hp) _ List.mem_cons_self, fun p hp => ?_⟩
  rw [hd] at hp
  cases List.mem_cons.mp hp
  case inl hp => exact hp ▸ le_rfl
  case inr hp => exact (List.rel_of_pairwise_cons hu (List.mem_map_of_mem hp)).le

-- The half that is left out does not have the name.
theorem search?_eq_find? {n : Nat} (hs : (ps.map Property.name).Pairwise (· < ·)) (hn : ps.length ≤ n) :
    search? k n ps = ps.find? (·.name = k) := by
  fun_induction search? k n ps
  case case1 ps => rw [List.length_eq_zero_iff.mp (Nat.le_zero.mp hn), List.find?_nil]
  case case2 ps hl =>
    match ps, hl with
    | [],  _ => rfl
    | [p], _ => by_cases hp : p.name = k <;> simp [hp]
  case case3 n ps hl hk hi =>
    have hb := (name_of_halves hs (by omega : ps.length / 2 < ps.length)).2
    have hd : (ps.drop (ps.length / 2)).find? (·.name = k) = none := by
      simpa using fun p hp => (hk.trans_le (hb p hp)).ne'
    rw [hi (hs.sublist ((List.take_sublist ..).map _)) (by simp only [List.length_take]; omega)]
    conv_rhs => rw [← List.take_append_drop (ps.length / 2) ps, List.find?_append, hd, Option.or_none]
  case case4 n ps hl hk hi =>
    have hb := (name_of_halves hs (by omega : ps.length / 2 < ps.length)).1
    have ht : (ps.take (ps.length / 2)).find? (·.name = k) = none := by
      simpa using fun p hp => ((hb p hp).trans_le (not_lt.mp hk)).ne
    rw [hi (hs.sublist ((List.drop_sublist ..).map _)) (by simp only [List.length_drop]; omega)]
    conv_rhs => rw [← List.take_append_drop (ps.length / 2) ps, List.find?_append, ht, Option.none_or]

theorem isNone_property?_iff (hs : s.optionNames.Pairwise (· < ·)) : (s.property? k).isNone ↔ k ∉ s.optionNames := by
  rw [property?, search?_eq_find? hs le_rfl]
  simp [optionNames]

theorem unknown?_eq_none_iff (hs : s.optionNames.Pairwise (· < ·)) :
    s.unknown? raw = none ↔ ∀ k ∈ Entries.keys raw, k ∈ s.optionNames := by
  simp only [unknown?, List.find?_eq_none, isNone_property?_iff hs, not_not]

theorem isLeast_of_unknown? (hs : s.optionNames.Pairwise (· < ·)) (hr : raw.Ascending)
    (hk : s.unknown? raw = some k) : IsLeast {k | k ∈ Entries.keys raw ∧ k ∉ s.optionNames} k := by
  simpa only [isNone_property?_iff hs] using Entries.isLeast_of_find? hr hk

end Schema

namespace Property

-- A map for a nested schema is materialized, any other value is converted.
def Converts (p : Property) (v : Value) : Prop :=
  ∀ r nested, p.nested? = some r → v ≠ .map nested

-- What a raw map gives for a property, where `inner` are the configurations of nested schemas.
inductive Yields (convert : Value → Signature → Except ConversionError Value)
    (inner : SchemaRef → Entries Value → Except Error Config) (schema : String) (raw : Entries Value)
    (p : Property) : Except Error Value → Prop
  | absent {v : Value} :
    raw.lookup p.name = none → p.accessor.returns.empty? = some v →
      Yields convert inner schema raw p (.ok v)
  | missing :
    raw.lookup p.name = none → p.isOptional = false →
      Yields convert inner schema raw p (.error (.missingRequiredOption schema p.name))
  | nested {r : SchemaRef} {nested : Entries Value} {c : Config} :
    raw.lookup p.name = some (.map nested) → p.nested? = some r → inner r nested = .ok c →
      Yields convert inner schema raw p (.ok (if p.isOptional then .present c.toValue else c.toValue))
  | faulty {r : SchemaRef} {nested : Entries Value} {e : Error} :
    raw.lookup p.name = some (.map nested) → p.nested? = some r → inner r nested = .error e →
      Yields convert inner schema raw p (.error e)
  | converted {v w : Value} :
    raw.lookup p.name = some v → p.Converts v → convert v p.accessor = .ok w →
      Yields convert inner schema raw p (.ok w)
  | refused {v : Value} {e : ConversionError} :
    raw.lookup p.name = some v → p.Converts v → convert v p.accessor = .error e →
      Yields convert inner schema raw p (.error (.conversion schema p.name e))

variable {convert : Value → Signature → Except ConversionError Value}
  {inner : SchemaRef → Entries Value → Except Error Config} {s : Schema} {raw : Entries Value}
  {p : Property} {v : Value} {x : Except Error Value}

theorem isOptional_eq_isSome_empty? : p.isOptional = p.accessor.returns.empty?.isSome := by
  unfold isOptional ValueType.isOptional
  cases p.accessor.returns <;> rfl

theorem assign_of_converts (hv : raw.lookup p.name = some v) (hc : p.Converts v) :
    (s.assign convert inner raw p : Except Error _) = match convert v p.accessor with
      | .ok w    => .ok (p.name, w)
      | .error e => .error (.conversion s.name p.name e) := by
  simp only [Schema.assign, hv]
  split
  case h_1 nested r hr => exact absurd rfl (hc r nested hr)
  case h_2 => rfl

theorem Yields.assign_eq (h : p.Yields convert inner s.name raw x) :
    s.assign convert inner raw p = x.map (p.name, ·) := by
  cases h
  case absent hl hv          => simp only [Schema.assign, hl, hv]; rfl
  case missing hl ho         =>
    have hv : p.accessor.returns.empty? = none := by
      simpa [isOptional_eq_isSome_empty?] using ho
    simp only [Schema.assign, hl, hv]; rfl
  case nested hl hr hc       => simp only [Schema.assign, hl, hr, hc]; rfl
  case faulty hl hr he       => simp only [Schema.assign, hl, hr, he]; rfl
  case converted hl hc hw => simp only [assign_of_converts hl hc, hw]; rfl
  case refused hl hc he    => simp only [assign_of_converts hl hc, he]; rfl

theorem exists_yields (p : Property) : ∃ x, p.Yields convert inner s.name raw x := by
  cases hl : raw.lookup p.name
  case none =>
    cases he : p.accessor.returns.empty?
    case none   => exact ⟨_, .missing hl (by simp [isOptional_eq_isSome_empty?, he])⟩
    case some v => exact ⟨_, .absent hl he⟩
  case some v =>
    by_cases hc : p.Converts v
    case pos =>
      cases hw : convert v p.accessor
      case error e => exact ⟨_, .refused hl hc hw⟩
      case ok w    => exact ⟨_, .converted hl hc hw⟩
    case neg =>
      simp only [Converts, not_forall, not_not] at hc
      have ⟨r, nested, hr, hv⟩ := hc
      subst hv
      cases hi : inner r nested
      case error e => exact ⟨_, .faulty hl hr hi⟩
      case ok c    => exact ⟨_, .nested hl hr hi⟩

theorem assign_eq_ok_iff {e : String × Value} :
    s.assign convert inner raw p = .ok e
      ↔ e.1 = p.name ∧ p.Yields convert inner s.name raw (.ok e.2) where
  mp h := by
    have ⟨x, hx⟩ : ∃ x, p.Yields convert inner s.name raw x := exists_yields p
    have ha := hx.assign_eq.symm.trans h
    cases x <;> cases ha
    exact ⟨rfl, hx⟩
  mpr := fun ⟨hn, h⟩ => by rw [h.assign_eq, Except.map, ← hn]

theorem assign_eq_error_iff {e : Error} :
    s.assign convert inner raw p = .error e ↔ p.Yields convert inner s.name raw (.error e) where
  mp h := by
    have ⟨x, hx⟩ : ∃ x, p.Yields convert inner s.name raw x := exists_yields p
    have ha := hx.assign_eq.symm.trans h
    cases x <;> cases ha
    exact hx
  mpr h := h.assign_eq

end Property

namespace Schema

open Property

variable {convert : Value → Signature → Except ConversionError Value}
  {inner : SchemaRef → Entries Value → Except Error Config} {s : Schema} {raw : Entries Value}
  {c : Config} {e : Error}

theorem bind_config_eq_ok_iff {x : Except Error (Entries Value)} {name : String} :
    (x >>= fun ps => pure ⟨name, ps⟩) = .ok c ↔ c.schema = name ∧ x = .ok c.properties := by
  cases x
  case error => exact ⟨(nomatch ·), fun ⟨_, h⟩ => nomatch h⟩
  case ok ps =>
    constructor
    case mp  => intro h; cases h; exact ⟨rfl, rfl⟩
    case mpr => intro ⟨hn, hp⟩; cases hp; exact hn ▸ rfl

theorem bind_config_eq_error_iff {x : Except Error (Entries Value)} {name : String} :
    (x >>= fun ps => pure ⟨name, ps⟩ : Except Error Config) = .error e ↔ x = .error e := by
  cases x
  case error => exact ⟨fun h => congrArg _ (Except.error.inj h), fun h => congrArg _ (Except.error.inj h)⟩
  case ok    => exact ⟨(nomatch ·), (nomatch ·)⟩

theorem assemble_eq_ok_iff (hs : s.optionNames.Pairwise (· < ·)) : s.assemble convert inner raw = .ok c
    ↔ (∀ k ∈ Entries.keys raw, k ∈ s.optionNames) ∧ c.schema = s.name
      ∧ Entries.keys c.properties = s.optionNames
      ∧ ∀ p ∈ s.properties, ∃ v, c.properties.lookup p.name = some v
          ∧ p.Yields convert inner s.name raw (.ok v) := by
  have hl := @Entries.forall₂_iff_lookup _ _ c.properties Property.name
    (fun p v => p.Yields convert inner s.name raw (.ok v)) s.properties (hs.imp ne_of_lt)
  rw [← unknown?_eq_none_iff hs, assemble]
  cases s.unknown? raw
  case some =>
    constructor
    case mp  => intro h; cases h
    case mpr => exact fun h => absurd h.1 (Option.some_ne_none _)
  case none =>
    dsimp only
    rw [bind_config_eq_ok_iff, mapM_eq_ok_iff]
    simp only [assign_eq_ok_iff, hl, true_and]
    rfl

theorem assemble_eq_error_iff (hs : s.optionNames.Pairwise (· < ·)) (hr : raw.Ascending) :
    s.assemble convert inner raw = .error e
      ↔ (∃ k, IsLeast {k | k ∈ Entries.keys raw ∧ k ∉ s.optionNames} k ∧ e = .unknownOption s.name k)
      ∨ (∀ k ∈ Entries.keys raw, k ∈ s.optionNames) ∧ ∃ before p after,
        s.properties = before ++ p :: after
          ∧ (∀ q ∈ before, ∃ v, q.Yields convert inner s.name raw (.ok v))
          ∧ p.Yields convert inner s.name raw (.error e) := by
  rw [assemble]
  cases hk : s.unknown? raw
  case some k =>
    have hl := isLeast_of_unknown? hs hr hk
    constructor
    case mp =>
      intro h
      cases h
      exact .inl ⟨k, hl, rfl⟩
    case mpr =>
      rintro (⟨k', hl', rfl⟩ | ⟨ha, _⟩)
      · exact hl.unique hl' ▸ rfl
      · exact absurd (ha k hl.1.1) hl.1.2
  case none =>
    have ha := (unknown?_eq_none_iff hs).mp hk
    dsimp only
    rw [bind_config_eq_error_iff, mapM_eq_error_iff]
    simp only [assign_eq_error_iff, assign_eq_ok_iff]
    constructor
    case mp =>
      rintro ⟨before, p, after, hp, hb, he⟩
      refine .inr ⟨ha, before, p, after, hp, fun q hq => ?_, he⟩
      obtain ⟨_, _, hv⟩ := hb q hq
      exact ⟨_, hv⟩
    case mpr =>
      rintro (⟨k, hl, _⟩ | ⟨_, before, p, after, hp, hb, he⟩)
      · exact absurd (ha k hl.1.1) hl.1.2
      · refine ⟨before, p, after, hp, fun q hq => ?_, he⟩
        obtain ⟨v, hv⟩ := hb q hq
        exact ⟨(q.name, v), rfl, hv⟩

-- The fault of a property is what is reported, if no property before it has one.
theorem assemble_of_yields {p : Property} (hs : s.optionNames.Pairwise (· < ·)) (hr : raw.Ascending)
    (hk : ∀ k ∈ Entries.keys raw, k ∈ s.optionNames) (hp : p ∈ s.properties)
    (hb : ∀ q ∈ s.properties, q.name < p.name → ∃ v, q.Yields convert inner s.name raw (.ok v))
    (he : p.Yields convert inner s.name raw (.error e)) : s.assemble convert inner raw = .error e := by
  obtain ⟨before, after, hq⟩ := List.append_of_mem hp
  refine (assemble_eq_error_iff hs hr).mpr (.inr ⟨hk, before, p, after, hq, fun q hm => ?_, he⟩)
  refine hb q (by simp [hq, hm]) ?_
  rw [optionNames, hq, List.map_append, List.map_cons] at hs
  exact (List.pairwise_append.mp hs).2.2 q.name (List.mem_map_of_mem hm) p.name List.mem_cons_self

theorem exists_yields_of_assemble (h : s.assemble convert inner raw = .error e) :
    (∃ k, e = .unknownOption s.name k)
      ∨ ∃ p ∈ s.properties, p.Yields convert inner s.name raw (.error e) := by
  rw [assemble] at h
  cases hk : s.unknown? raw <;> rw [hk] at h
  case some k => exact .inl ⟨k, (Except.error.inj h).symm⟩
  case none =>
    dsimp only at h
    rw [bind_config_eq_error_iff, mapM_eq_error_iff] at h
    obtain ⟨before, p, after, hs, _, hp⟩ := h
    exact .inr ⟨p, by simp [hs], assign_eq_error_iff.mp hp⟩

theorem exists_assemble_eq_ok_iff (hs : s.optionNames.Pairwise (· < ·)) :
    (∃ c, s.assemble convert inner raw = .ok c)
      ↔ (∀ k ∈ Entries.keys raw, k ∈ s.optionNames)
        ∧ ∀ p ∈ s.properties, ∃ v, p.Yields convert inner s.name raw (.ok v) := by
  constructor
  case mp =>
    rintro ⟨c, hc⟩
    obtain ⟨hk, _, _, hp⟩ := (assemble_eq_ok_iff hs).mp hc
    exact ⟨hk, fun p hm => (hp p hm).imp fun _ h => h.2⟩
  case mpr =>
    rintro ⟨hk, hp⟩
    rw [assemble, (unknown?_eq_none_iff hs).mpr hk]
    cases hm : s.properties.mapM (s.assign convert inner raw)
    case ok ps => exact ⟨⟨s.name, ps⟩, rfl⟩
    case error e =>
      obtain ⟨before, p, after, hq, _, he⟩ := mapM_eq_error_iff.mp hm
      obtain ⟨v, hv⟩ := hp p (by simp [hq])
      cases he.symm.trans hv.assign_eq

end Schema

namespace Materializer

variable {env : Environment} {converter : Converter} {d : Descriptor} {s : Schema} {m : Memory}
  {raw : Entries Value}

-- What a raw map gives for a property, where a nested schema is materialized by itself.
abbrev Yields (env : Environment) (converter : Converter) (schema : String) (raw : Entries Value) :
    Property → Except Error Value → Prop :=
  Property.Yields (converter.toResult env)
    (fun r nested => (materialize env converter (env.target r) nested .fresh).1) schema raw

-- The answer is assembled from those that a fresh materializer gives for nested maps, since for schemas that
-- are reached no memory makes a difference.
theorem materialize_fst_eq_assemble (u : env.NamesUnique) (hm : m.Keeps env.Defines env.Valid)
    (hv : env.Valid d) (hd : env.Defines d) (converter : Converter) (raw : Entries Value) :
    (materialize env converter d raw m).1 = d.table.assemble (converter.toResult env)
      (fun r nested => (materialize env converter (env.target r) nested .fresh).1) raw := by
  refine (u.answers_materialize hv hd converter raw m hm).1.trans (u.configure_eq hv raw fun r he => ?_)
  have hv := hv.of_edge he
  have hd := Environment.defines_of_edge he hv.self_legal
  exact funext fun nested =>
    (u.answers_materialize hv hd converter nested .fresh Memory.keeps_fresh).1

def job : Descriptor :=
  .schema "Job" [("getName", .string), ("getRetry", .optional (.schema ⟨"Retry", "Retry"⟩))]

def jobs : Environment where
  descriptors := [("Job", job), ("Retry", .schema "Retry" [("getAttempts", .long)])]

def jobOptions : Entries Value :=
  [("name", .string "sync"), ("retry", .map [("attempts", .string "3")])]

theorem namesUnique_jobs : jobs.NamesUnique :=
  Environment.namesUnique_of_nodup (by decide)

theorem validate_job : (validate jobs job .fresh).1 = .ok job.table :=
  validate_of_within (n := 1) rfl

end Materializer
end BulletinPipeline
