import BulletinPipeline.Proofs.Factory.Options

namespace BulletinPipeline

variable {σ τ α β : Type} {F : Factory (StateM σ) α} {own : String} {s : σ} {raw : Entries Value} {k n : String}

theorem Factory.OptionsExact.eq_unknownOption_iff (h : F.OptionsExact own s) (hr : raw.Ascending) :
    (F.create raw s).1 = .error (.unknownOption own k)
      ↔ IsLeast {k | k ∈ Entries.keys raw ∧ k ∉ F.optionNames} k := by
  refine ⟨h.least raw k hr, fun hk => ?_⟩
  obtain ⟨j, hj⟩ := (h.refuses raw hr).mpr ⟨k, hk.1⟩
  rw [hj, (h.least raw j hr hj).unique hk]

namespace Layers

-- Of the new names that are not reported, the least is refused. Names that become one are refused before that.
theorem create_eq_unknownOption_iff (l : Layers τ α β) (h : F.OptionsExact own s) (hr : raw.Ascending) (t : τ) :
    ((l.around F).create raw (s, t)).1 = .error (.unknownOption own k) ↔ l.rename.Separates raw
      ∧ IsLeast {k | (∃ j ∈ Entries.keys raw, l.rename j = k) ∧ k ∉ F.optionNames} k := by
  obtain ⟨t', ht⟩ := create_around F l raw s t
  by_cases hs : l.rename.Separates raw
  case neg =>
    obtain ⟨e, hl, hk⟩ := l.exists_reaching_error hr hs F.name
    have he : e ≠ .unknownOption own k := by
      rintro rfl
      contradiction
    rw [ht, hl]
    exact iff_of_false (fun h => he (Except.error.inj h)) fun h => hs h.1
  case pos =>
    obtain ⟨raw', hl, hn⟩ := l.exists_reaching hr hs F.name
    have hm : ((F.create raw' s).1.map l.output = .error (.unknownOption own k))
        ↔ (F.create raw' s).1 = .error (.unknownOption own k) := by
      cases (F.create raw' s).1 <;> simp [Except.map]
    rw [ht, hl, hm, h.eq_unknownOption_iff hn.ascending]
    simp only [hn.mem_keys_iff, hs, true_and]

-- Through the layers, no map with the name is refused for what they make of the name.
def Understands (l : Layers τ α β) (F : Factory (StateM σ) α) (own : String) (s : σ) (t : τ) (n : String) : Prop :=
  ∀ raw, raw.Ascending → n ∈ Entries.keys raw →
    ((l.around F).create raw (s, t)).1 ≠ .error (.unknownOption own (l.rename n))

-- The map with only this name tells the one direction.
theorem understands_iff (l : Layers τ α β) (h : F.OptionsExact own s) (t : τ) :
    l.Understands F own s t n ↔ l.rename n ∈ F.optionNames := by
  constructor
  case mp =>
    intro hu
    by_contra hn
    have hr : Entries.Ascending [(n, Value.null)] := List.pairwise_singleton ..
    refine hu _ hr List.mem_cons_self ((l.create_eq_unknownOption_iff h hr t).mpr ⟨?_, ⟨⟨n, ?_, rfl⟩, hn⟩, ?_⟩)
    · simp [Renaming.Separates, Entries.keys]
    · exact List.mem_cons_self
    · rintro _ ⟨⟨j, hj, rfl⟩, _⟩
      rw [List.mem_singleton.mp hj]
  case mpr =>
    intro hn raw hr _ he
    exact ((l.create_eq_unknownOption_iff h hr t).mp he).2.1.2 hn

-- All that is reported is understood.
def ReportsUnderstood (l : Layers τ α β) (F : Factory (StateM σ) α) (own : String) (s : σ) (t : τ) : Prop :=
  ∀ n ∈ (l.around F).optionNames, l.Understands F own s t n

-- Names are reported as the factory inside has them, and are understood behind the layers.
theorem reportsUnderstood_iff (h : F.Bare own s) (l : Layers τ α β) (t : τ) :
    (l.ReportsUnderstood F own s t ↔ ∀ n ∈ F.optionNames, l.rename n ∈ F.optionNames)
      ∧ (∀ n, l.Understands F own s t n ↔ l.rename n ∈ F.optionNames)
      ∧ ∀ raw k, raw.Ascending → (((l.around F).create raw (s, t)).1 = .error (.unknownOption own k)
        ↔ l.rename.Separates raw
          ∧ IsLeast {k | (∃ j ∈ Entries.keys raw, l.rename j = k) ∧ k ∉ F.optionNames} k) := by
  have hu (n : String) : l.Understands F own s t n ↔ l.rename n ∈ F.optionNames := l.understands_iff h.optionsExact t
  refine ⟨?_, hu, fun raw k hr => l.create_eq_unknownOption_iff h.optionsExact hr t⟩
  simp only [ReportsUnderstood, optionNames_around, hu]

-- A legacy name that stays alive next to the current one.
def legacy : Layers Nat (List Value) Nat :=
  .observed (fun _ n => n + 1) (fun _ n => n) <| .mapped List.length <|
    .renamed (.ofAliases [("cap", "limit")]) (some "Capped") .bare

theorem reportsUnderstood_legacy : (ObjectFactory.gaugeFactory.toFactory .empty).Bare "Gauge" 0
    ∧ legacy.ReportsUnderstood (ObjectFactory.gaugeFactory.toFactory .empty) "Gauge" 0 0 := by
  have hg : (ObjectFactory.gaugeFactory.toFactory .empty).Bare "Gauge" 0 :=
    .object (b := ObjectFactory.gaugeBlueprint) .empty 0 rfl
  exact ⟨hg, (reportsUnderstood_iff hg legacy 0).1.mpr (by decide)⟩

-- The current name itself is renamed, and still reported.
def misnamed : Layers Nat (List Value) (List Value) :=
  .renamed (.ofAliases [("limit", "bound")]) none .bare

theorem not_reportsUnderstood_misnamed : (ObjectFactory.gaugeFactory.toFactory .empty).Bare "Gauge" 0
    ∧ ¬misnamed.ReportsUnderstood (ObjectFactory.gaugeFactory.toFactory .empty) "Gauge" 0 0 := by
  have hg : (ObjectFactory.gaugeFactory.toFactory .empty).Bare "Gauge" 0 :=
    .object (b := ObjectFactory.gaugeBlueprint) .empty 0 rfl
  refine ⟨hg, fun h => h "limit" (by decide) [("limit", .long 5)] ?_ List.mem_cons_self rfl⟩
  exact List.pairwise_singleton ..

end Layers
end BulletinPipeline
