import BulletinPipeline.Component.TextEdit
import BulletinPipeline.Proofs.Bulletin.RoundTrip
import BulletinPipeline.Proofs.Text.Case

namespace BulletinPipeline

open Text (Bare Tight isBlank isAsciiUpper upperChars collapseChars)

namespace Bulletin

theorem Gap.flatMap_upperChars (g : Gap) : g.chars.flatMap upperChars = g.chars :=
  Text.flatMap_upperChars fun c hc => Text.upperChars_of_isBlank (g.blank c hc)

-- One space.
def Gap.space : Gap :=
  ⟨[' '], List.cons_ne_nil _ _, List.forall_mem_singleton.mpr rfl⟩

namespace Place

def upper (p : Place) : Place :=
  { p with rest := p.rest.flatMap upperChars }

theorem chars_upper (p : Place) : p.chars.flatMap upperChars = p.upper.chars := by
  have hs := Text.flatMap_upperChars fun c hc => Text.upperChars_of_isAsciiUpper (p.isAsciiUpper c hc)
  have hd := Text.flatMap_upperChars fun c hc => Text.upperChars_of_isDecimalDigit (p.isDecimalDigit c hc)
  have hz : upperChars 'Z' = ['Z'] := Text.upperChars_of_isAsciiUpper rfl
  simp [chars, hs, hd, hz, p.gap.flatMap_upperChars, upper]

theorem exists_not_isBlank (p : Place) : ∃ c ∈ p.chars, isBlank c = false :=
  ⟨'Z', by simp [chars], by decide⟩

theorem exists_collapsed (p : Place) :
    ∃ q : Place, q.station = p.station ∧ q.issued = p.issued ∧ q.chars = collapseChars p.chars := by
  have hs : ∀ c ∈ p.station, isBlank c = false := fun c hc => Text.isBlank_of_isAsciiUpper (p.isAsciiUpper c hc)
  have hi : ∀ c ∈ p.issued, isBlank c = false := by
    refine List.forall_mem_append.mpr ⟨fun c hc => ?_, List.forall_mem_singleton.mpr rfl⟩
    exact Text.isBlank_of_isDecimalDigit (p.isDecimalDigit c hc)
  have hn : p.station ≠ [] := List.ne_nil_of_length_eq_add_one p.station_length
  have hz : ∃ c ∈ p.issued ++ p.rest, isBlank c = false := ⟨'Z', by simp [issued], by decide⟩
  obtain ⟨ds, hd⟩ := Text.exists_collapseChars_append hi p.rest
  refine ⟨{ p with gap := .space, rest := ds }, rfl, rfl, ?_⟩
  have he : p.chars = p.station ++ (p.gap.chars ++ (p.issued ++ p.rest)) := by simp [chars, issued]
  rw [he, Text.collapseChars_word hs hn p.gap.blank p.gap.ne hz, hd]
  simp [chars, issued, Gap.space]

end Place

namespace Correction

theorem chars_upper (c : Correction) : c.chars.flatMap upperChars = c.chars := by
  have hm : ∀ m ∈ Header.corrections, m.all isAsciiUpper := by decide
  have hu := Text.flatMap_upperChars fun d hd => Text.upperChars_of_isAsciiUpper (List.all_eq_true.mp (hm _ c.mem) d hd)
  rw [chars, List.flatMap_append, hu, c.gap.flatMap_upperChars]

end Correction

namespace Layout

theorem kind_ne (l : Layout) : l.kind ≠ [] := by
  have hk : ∀ k ∈ Header.kinds, k ≠ [] := by decide
  exact hk _ l.mem

theorem chars_ne (l : Layout) : l.chars ≠ [] :=
  List.append_ne_nil_of_left_ne_nil l.kind_ne _

theorem isAsciiUpper_kind (l : Layout) : ∀ c ∈ l.kind, isAsciiUpper c := by
  have hk : ∀ k ∈ Header.kinds, k.all isAsciiUpper := by decide
  exact List.all_eq_true.mp (hk _ l.mem)

theorem isBlank_kind (l : Layout) : ∀ c ∈ l.kind, isBlank c = false :=
  fun c hc => Text.isBlank_of_isAsciiUpper (l.isAsciiUpper_kind c hc)

theorem bare_chars (l : Layout) : Bare l.chars :=
  (Text.bare_of_forall l.isBlank_kind).append l.kind_ne _

theorem tight_text {l : Layout} (ht : Tight l.chars) : Tight (l.chars ++ ['=']) := by
  have hs : isBlank '=' = false := by decide
  exact ⟨ht.bare.append l.chars_ne _, by simp [hs]⟩

theorem exists_upper (l : Layout) : ∃ m : Layout, m.header = l.header ∧ m.chars = l.chars.flatMap upperChars := by
  refine ⟨{ l with place := l.place.upper }, rfl, ?_⟩
  have hk := Text.flatMap_upperChars fun c hc => Text.upperChars_of_isAsciiUpper (l.isAsciiUpper_kind c hc)
  have hm : l.marked.flatMap upperChars = l.marked := by
    cases hc : l.correction <;> simp [marked, hc, Correction.chars_upper]
  simp only [chars, placed, List.flatMap_append, hk, l.gap.flatMap_upperChars, hm, Place.chars_upper]
  rfl

theorem exists_collapsed_placed (l : Layout) : ∃ m : Layout, m.place.station = l.place.station
    ∧ m.place.issued = l.place.issued ∧ m.placed = collapseChars l.placed := by
  obtain ⟨q, hs, hi, hq⟩ := l.place.exists_collapsed
  cases hc : l.correction
  case none =>
    refine ⟨{ l with place := q, correction := none }, hs, hi, ?_⟩
    simp [placed, marked, hc, hq]
  case some c =>
    refine ⟨{ l with place := q, correction := some { c with gap := .space } }, hs, hi, ?_⟩
    have hn : c.mark ≠ [] := List.ne_nil_of_length_eq_add_one c.mark_length
    have hw := Text.collapseChars_word c.isBlank_mark hn c.gap.blank c.gap.ne l.place.exists_not_isBlank
    simp [placed, marked, hc, hq, Correction.chars, hw, Gap.space]

theorem exists_collapsed (l : Layout) : ∃ m : Layout, m.header = l.header ∧ m.chars = collapseChars l.chars := by
  obtain ⟨m, hs, hi, hp⟩ := l.exists_collapsed_placed
  refine ⟨{ l with gap := .space, correction := m.correction, place := m.place }, ?_, ?_⟩
  · rw [header, header, hs, hi]
  · have hz : ∃ c ∈ l.placed, isBlank c = false := by
      obtain ⟨c, hc, hn⟩ := l.place.exists_not_isBlank
      exact ⟨c, List.mem_append_right _ hc, hn⟩
    rw [chars, chars, Text.collapseChars_word l.isBlank_kind l.kind_ne l.gap.blank l.gap.ne hz, ← hp]
    rfl

end Layout

end Bulletin

namespace TextEdit

open Bulletin

variable {e : TextEdit} {b : Bulletin}

-- The edit leaves all words but for the case of their letters.
def Normalises : TextEdit → Prop
  | trim _        => True
  | uppercase     => True
  | replace _ _ _ => False

theorem exists_layout (he : e.Normalises) {l : Bulletin.Layout} (ht : Tight l.chars) (hf : '=' ∉ l.chars) :
    ∃ m : Bulletin.Layout, m.header = l.header ∧ Tight m.chars ∧ '=' ∉ m.chars
      ∧ e.apply (String.ofList (l.chars ++ ['='])) = String.ofList (m.chars ++ ['=']) := by
  have hs : isBlank '=' = false := by decide
  cases e
  case replace => contradiction
  case uppercase =>
    obtain ⟨m, hm, hc⟩ := l.exists_upper
    have hu : upperChars '=' = ['='] := by decide
    refine ⟨m, hm, ⟨m.bare_chars, hc ▸ Text.last_flatMap_upperChars ht.last⟩, ?_, ?_⟩
    · intro hq
      rw [hc] at hq
      obtain ⟨c, hm, hq⟩ := List.mem_flatMap.mp hq
      exact hf (Text.eq_of_equals_mem_upperChars hq ▸ hm)
    · rw [apply, Text.upper, String.toList_ofList, List.flatMap_append, List.flatMap_singleton, hu, hc]
  case trim collapse =>
    cases collapse
    case false =>
      refine ⟨l, rfl, ht, hf, ?_⟩
      rw [apply, if_neg Bool.false_ne_true, Text.trim, String.toList_ofList, (Layout.tight_text ht).trimChars_eq]
    case true =>
      obtain ⟨m, hm, hc⟩ := l.exists_collapsed
      refine ⟨m, hm, ⟨m.bare_chars, hc ▸ Text.last_collapseChars l.chars⟩, ?_, ?_⟩
      · intro hq
        rw [hc] at hq
        cases Text.mem_collapseChars hq
        case inl hq => exact hf hq
        case inr hq => contradiction
      · rw [apply, if_pos rfl, Text.collapse_eq, String.toList_ofList, Text.collapseChars_snoc ht.last hs, hc]

theorem genuine_transform (he : e.Normalises) (h : b.Genuine) : (e.transform b).Genuine := by
  obtain ⟨l, source, ht, hf, rfl⟩ := h
  obtain ⟨m, hm, ht, hf, ha⟩ := exists_layout he ht hf
  refine ⟨m, source, ht, hf, ?_⟩
  obtain ⟨hk, hs, hi⟩ := Header.mk.inj hm
  simp only [transform, Bulletin.Layout.bulletin, ha, hk, hs, hi]

end TextEdit
end BulletinPipeline
