import BulletinPipeline.Pipeline.Basic
import BulletinPipeline.Proofs.Settings

namespace BulletinPipeline

theorem Condition.holds_of_text (c : Condition) (b : Bulletin) (text : String) :
    c.holds { b with text } = c.holds b := by
  cases c <;> rfl

namespace Pipeline

variable {p : Pipeline} {stages fired : List (Stage TextEdit)} {c : Bulletin}

-- A bulletin goes through stages. Those fire whose condition, if they have one, holds for the bulletin as it comes to
-- them.
inductive Passes : List (Stage TextEdit) → Bulletin → List (Stage TextEdit) → Bulletin → Prop
  | done {b : Bulletin} : Passes [] b [] b
  | fires {s : Stage TextEdit} {stages fired : List (Stage TextEdit)} {b c : Bulletin} :
    s.condition.all (·.holds b) → Passes stages (s.component.transform b) fired c →
      Passes (s :: stages) b (s :: fired) c
  | rests {s : Stage TextEdit} {stages fired : List (Stage TextEdit)} {b c : Bulletin} :
    ¬s.condition.all (·.holds b) → Passes stages b fired c → Passes (s :: stages) b fired c

-- The rewrites of stages one after the other.
def rewrite (stages : List (Stage TextEdit)) (text : String) : String :=
  stages.foldl (fun text s => s.component.apply text) text

-- Conditions do not look at the text, which is all that a stage before may have changed.
theorem Passes.eq (h : Passes stages b fired c) :
    (fired = stages.filter fun s => s.condition.all (·.holds b)) ∧ c = { b with text := rewrite fired b.text } := by
  induction h
  case done => exact ⟨rfl, rfl⟩
  case fires hs _ hi =>
    obtain ⟨hf, hc⟩ := hi
    simp only [TextEdit.transform, Condition.holds_of_text] at hf
    refine ⟨?_, hc⟩
    rw [List.filter_cons, if_pos hs, ← hf]
  case rests hs _ hi =>
    rw [List.filter_cons, if_neg hs]
    exact hi

theorem exists_passes_transform (p : Pipeline) (b : Bulletin) :
    ∃ fired, Passes p.transformers b fired (p.transform b) := by
  rw [transform]
  generalize p.transformers = stages
  induction stages generalizing b
  case nil => exact ⟨[], .done⟩
  case cons s stages hi =>
    rw [List.foldl_cons, Stage.isActive]
    by_cases hs : s.condition.all (·.holds b)
    case pos =>
      have ⟨fired, h⟩ := hi (s.component.transform b)
      exact ⟨s :: fired, .fires hs (if_pos hs ▸ h)⟩
    case neg =>
      have ⟨fired, h⟩ := hi b
      exact ⟨fired, .rests hs (if_neg hs ▸ h)⟩

-- Transformers do not move a bulletin, and no stage can tell it from the original.
structure Unmoved (p : Pipeline) (b : Bulletin) : Prop where
  kind    : (p.transform b).kind = b.kind
  station : (p.transform b).station = b.station
  issued  : (p.transform b).issued = b.issued
  source  : (p.transform b).source = b.source
  fires   : ∀ fired c, Passes p.transformers b fired c
    ↔ (fired = p.transformers.filter fun s => s.condition.all (·.holds b)) ∧ c = p.transform b
  text    : (p.transform b).text = rewrite (p.transformers.filter fun s => s.condition.all (·.holds b)) b.text
  actions : p.activeActions (p.transform b) = p.actions.filter fun s => s.condition.all (·.holds b)

theorem transform_unmoved (p : Pipeline) (b : Bulletin) : p.Unmoved b := by
  obtain ⟨fired, h⟩ := exists_passes_transform p b
  obtain ⟨rfl, ht⟩ := h.eq
  refine ⟨by rw [ht], by rw [ht], by rw [ht], by rw [ht], fun fired c => ⟨?only, ?passes⟩, by rw [ht], ?actions⟩
  case only =>
    intro h
    obtain ⟨rfl, hc⟩ := h.eq
    exact ⟨rfl, hc.trans ht.symm⟩
  case passes =>
    rintro ⟨rfl, rfl⟩
    exact h
  case actions =>
    simp only [activeActions, Stage.isActive, ht, Condition.holds_of_text]

-- Behind the first stage the text does not say any more what the bulletin is.
def relabelling : Pipeline where
  name           := "relabelling"
  config         := PipelineSettings.ofDirectories "in" "out"
  settings       := ⟨"in", "out", none, none, none⟩
  inputDirectory := "in"
  transformers   :=
    [⟨"relabel", .replace ⟨("METAR".toList.map fun c => .take (.span c.toNat c.toNat)).toArray, []⟩ "SPECI" 1, none⟩,
      ⟨"spaces", .trim true, some (.kind ["metar"])⟩, ⟨"special", .uppercase, some (.kind ["speci"])⟩]
  actions        :=
    [⟨"observations", ⟨"out/metar", "txt"⟩, some (.kind ["metar"])⟩,
      ⟨"special", ⟨"out/speci", "txt"⟩, some (.kind ["speci"])⟩]

def spaced : Bulletin :=
  ⟨"METAR", "EFHK", "041020Z", "METAR EFHK  041020Z q=", "in.txt"⟩

theorem transform_unmoved_relabelling :
    (relabelling.transform spaced).kind = "METAR" ∧ (relabelling.transform spaced).text = "SPECI EFHK 041020Z q="
    ∧ (∀ fired c, Passes relabelling.transformers spaced fired c → fired.map (·.name) = ["relabel", "spaces"])
    ∧ (relabelling.activeActions (relabelling.transform spaced)).map (·.name) = ["observations"] := by
  have h := transform_unmoved relabelling spaced
  refine ⟨h.kind, ?_, fun fired c hp => ?_, ?_⟩
  · rw [h.text]
    decide +kernel
  · rw [((h.fires fired c).mp hp).1]
    decide
  · rw [h.actions]
    decide

end Pipeline
end BulletinPipeline
