import BulletinPipeline.Pipeline.Basic
import BulletinPipeline.Proofs.Component.TextEdit
import BulletinPipeline.Proofs.Settings

namespace BulletinPipeline
namespace Pipeline

open Bulletin (amendment amendmentText)

variable {p : Pipeline} {b : Bulletin}

-- What every transformer keeps stays through all of them, whichever are active.
theorem transform_induction {P : Bulletin → Prop} (hp : ∀ s ∈ p.transformers, ∀ b, P b → P (s.component.transform b))
    (h : P b) : P (p.transform b) := by
  unfold transform
  generalize p.transformers = stages at hp
  induction stages generalizing b
  case nil => exact h
  case cons s stages hi =>
    obtain ⟨hs, hp⟩ := List.forall_mem_cons.mp hp
    rw [List.foldl_cons]
    refine hi ?_ hp
    split
    · exact hs b h
    · exact h

theorem transform_eq (p : Pipeline) (b : Bulletin) : p.transform b = { b with text := (p.transform b).text } :=
  transform_induction (P := fun c => c = { b with text := c.text })
    (fun s _ c h => by rw [h, TextEdit.transform]) rfl

theorem genuine_transform (hp : ∀ s ∈ p.transformers, s.component.Normalises) (h : b.Genuine) :
    (p.transform b).Genuine :=
  transform_induction (fun s hs _ => TextEdit.genuine_transform (hp s hs)) h

theorem readAll_transform {text source : String} (hp : ∀ s ∈ p.transformers, s.component.Normalises)
    (hb : b ∈ Bulletin.readAll text source) (name : String) :
    Bulletin.readAll (p.transform b).text name = [⟨b.kind, b.station, b.issued, (p.transform b).text, name⟩] := by
  have h := (genuine_transform hp (Bulletin.genuine_of_readAll hb)).readAll_text name
  rw [h, transform_eq p b]

-- The gate of the second stage looks at what the first one leaves.
def normalising : Pipeline where
  name           := "normalising"
  config         := PipelineSettings.ofDirectories "in" "out"
  settings       := ⟨"in", "out", none, none, none⟩
  inputDirectory := "in"
  transformers   := [⟨"uppercase", .uppercase, none⟩, ⟨"trim", .trim true, some (.kind ["taf"])⟩]
  actions        := []

theorem readAll_transform_amendment : (∀ s ∈ normalising.transformers, s.component.Normalises)
    ∧ amendment ∈ Bulletin.readAll amendmentText "in.txt"
    ∧ (normalising.transform amendment).text = "TAF AMD ESSA 041100Z RMK="
    ∧ Bulletin.readAll (normalising.transform amendment).text "out.txt"
      = [⟨"TAF", "ESSA", "041100Z", (normalising.transform amendment).text, "out.txt"⟩] := by
  have hn : ∀ s ∈ normalising.transformers, s.component.Normalises := by simp [normalising, TextEdit.Normalises]
  have hb : amendment ∈ Bulletin.readAll amendmentText "in.txt" := by decide
  exact ⟨hn, hb, by decide +kernel, readAll_transform hn hb "out.txt"⟩

end Pipeline
end BulletinPipeline
