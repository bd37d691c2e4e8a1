import BulletinPipeline.Bulletin.Reader
import BulletinPipeline.Proofs.Text.Blank
import BulletinPipeline.Proofs.Text.CharClass
import Mathlib.Tactic.FinCases

namespace BulletinPipeline.Bulletin

open Text (Bare isBlank isAsciiUpper isDecimalDigit)

variable {cs ds rest word station time : List Char} {words : List (List Char)} {n : Nat} {isMember : Char → Bool}

-- White space between two words.
structure Gap where
  chars : List Char
  ne    : chars ≠ []
  blank : ∀ c ∈ chars, isBlank c

namespace Gap

variable {g h : Gap}

theorem exists_cons (g : Gap) : ∃ c cs, g.chars = c :: cs ∧ isBlank c := by
  obtain ⟨c, cs, hc⟩ := List.exists_cons_of_ne_nil g.ne
  exact ⟨c, cs, hc, g.blank c (hc ▸ List.mem_cons_self)⟩

-- White space ends where a word begins.
theorem unique (hc : Bare cs) (hd : Bare ds) (he : g.chars ++ cs = h.chars ++ ds) : g = h ∧ cs = ds := by
  have hs := congrArg Text.trimLeft he
  rw [Text.trimLeft_append g.blank hc, Text.trimLeft_append h.blank hd] at hs
  subst hs
  have hg := List.append_cancel_right he
  cases g
  cases h
  cases hg
  exact ⟨rfl, rfl⟩

end Gap

-- Station and time of issue, and all that follows them.
structure Place where
  station : List Char
  gap     : Gap
  digits  : List Char
  rest    : List Char
  station_length : station.length = 4
  isAsciiUpper   : ∀ c ∈ station, isAsciiUpper c
  digits_length  : digits.length = 6
  isDecimalDigit : ∀ c ∈ digits, isDecimalDigit c

-- A mark of correction.
structure Correction where
  mark : List Char
  gap  : Gap
  mem  : mark ∈ [['C', 'O', 'R'], ['A', 'M', 'D']]

-- A text that begins with a header.
structure Layout where
  kind       : List Char
  gap        : Gap
  correction : Option Correction
  place      : Place
  mem        : kind ∈ [['M', 'E', 'T', 'A', 'R'], ['S', 'P', 'E', 'C', 'I'], ['T', 'A', 'F']]

namespace Place

def chars (p : Place) : List Char :=
  p.station ++ (p.gap.chars ++ (p.digits ++ 'Z' :: p.rest))

def issued (p : Place) : List Char :=
  p.digits ++ ['Z']

theorem bare_digits (p : Place) (cs : List Char) : Bare (p.digits ++ cs) := by
  have hn : p.digits ≠ [] := List.ne_nil_of_length_eq_add_one p.digits_length
  exact (Text.bare_of_forall fun c hc => Text.isBlank_of_isDecimalDigit (p.isDecimalDigit c hc)).append hn cs

theorem bare_chars (p : Place) : Bare p.chars := by
  have hn : p.station ≠ [] := List.ne_nil_of_length_eq_add_one p.station_length
  exact (Text.bare_of_forall fun c hc => Text.isBlank_of_isAsciiUpper (p.isAsciiUpper c hc)).append hn _

theorem chars_injective : Function.Injective chars := by
  intro p q h
  obtain ⟨hs, h⟩ := List.append_inj h (p.station_length.trans q.station_length.symm)
  obtain ⟨hg, h⟩ := Gap.unique (p.bare_digits _) (q.bare_digits _) h
  obtain ⟨hd, h⟩ := List.append_inj h (p.digits_length.trans q.digits_length.symm)
  cases p
  cases q
  cases hs
  cases hg
  cases hd
  cases h
  rfl

end Place

namespace Correction

variable {c d : Correction}

def chars (c : Correction) : List Char :=
  c.mark ++ c.gap.chars

theorem mark_length (c : Correction) : c.mark.length = 3 := by
  have hl : ∀ m ∈ Header.corrections, m.length = 3 := by decide
  exact hl _ c.mem

theorem isBlank_mark (c : Correction) : ∀ d ∈ c.mark, isBlank d = false := by
  have hb : ∀ m ∈ Header.corrections, m.all (! isBlank ·) := by decide
  simpa using hb _ c.mem

theorem bare_chars (c : Correction) (cs : List Char) : Bare (c.chars ++ cs) := by
  have hn : c.mark ≠ [] := List.ne_nil_of_length_eq_add_one c.mark_length
  rw [chars, List.append_assoc]
  exact (Text.bare_of_forall c.isBlank_mark).append hn _

theorem unique (hc : Bare cs) (hd : Bare ds) (h : c.chars ++ cs = d.chars ++ ds) : c = d ∧ cs = ds := by
  rw [chars, chars, List.append_assoc, List.append_assoc] at h
  obtain ⟨hm, h⟩ := List.append_inj h (c.mark_length.trans d.mark_length.symm)
  obtain ⟨hg, hs⟩ := Gap.unique hc hd h
  refine ⟨?_, hs⟩
  cases c
  cases d
  cases hm
  cases hg
  rfl

-- A mark has three letters and a station has four, so that white space is where the last one should be.
theorem ne_place (c : Correction) (cs : List Char) (p : Place) : c.chars ++ cs ≠ p.chars := by
  intro h
  obtain ⟨b, bs, hb, hb'⟩ := c.gap.exists_cons
  have hc : (c.chars ++ cs)[3]? = some b := by
    rw [chars, hb, List.append_assoc, List.getElem?_append_right (by simp [mark_length])]
    simp [mark_length]
  rw [h, Place.chars, List.getElem?_append_left (by simp [p.station_length])] at hc
  have hu := Text.isBlank_of_isAsciiUpper (p.isAsciiUpper b (List.mem_of_getElem? hc))
  simp [hb'] at hu

end Correction

namespace Layout

def marked (l : Layout) : List Char :=
  (l.correction.map Correction.chars).getD []

-- What stands behind the kind.
def placed (l : Layout) : List Char :=
  l.marked ++ l.place.chars

def chars (l : Layout) : List Char :=
  l.kind ++ (l.gap.chars ++ l.placed)

def header (l : Layout) : Header :=
  ⟨l.kind, l.place.station, l.place.issued⟩

end Layout

namespace Header

theorem of_word? (h : word? words cs = some (word, rest)) : word ∈ words ∧ cs = word ++ rest := by
  obtain ⟨w, hw, he⟩ := Option.map_eq_some_iff.mp h
  cases he
  have hp : word.isPrefixOf cs := List.find?_some (p := (List.isPrefixOf · cs)) hw
  obtain ⟨rest, rfl⟩ := List.isPrefixOf_iff_prefix.mp hp
  exact ⟨List.mem_of_find?_eq_some hw, by rw [List.drop_left]⟩

-- No kind begins another one, and no mark of correction does.
theorem word?_kind (h : word ∈ kinds) (rest : List Char) : word? kinds (word ++ rest) = some (word, rest) := by
  fin_cases h <;> rfl

theorem word?_correction (h : word ∈ corrections) (rest : List Char) :
    word? corrections (word ++ rest) = some (word, rest) := by
  fin_cases h <;> rfl

theorem of_afterBlanks? (h : afterBlanks? cs = some rest) : ∃ g : Gap, cs = g.chars ++ rest := by
  cases cs
  case nil => contradiction
  case cons c cs =>
    obtain ⟨hc, he⟩ := Option.ite_none_right_eq_some.mp h
    cases he
    refine ⟨⟨c :: cs.takeWhile isBlank, List.cons_ne_nil _ _, ?_⟩, ?_⟩
    · exact List.forall_mem_cons.mpr ⟨hc, fun d hd => List.mem_takeWhile_imp hd⟩
    · rw [List.cons_append, Text.trimLeft, List.takeWhile_append_dropWhile]

theorem afterBlanks?_append (g : Gap) (hr : Bare rest) : afterBlanks? (g.chars ++ rest) = some rest := by
  obtain ⟨c, bs, hg, hc⟩ := g.exists_cons
  have hb : ∀ b ∈ bs, isBlank b := fun b hb => g.blank b (hg ▸ List.mem_cons_of_mem c hb)
  rw [hg, List.cons_append, afterBlanks?, if_pos hc, Text.trimLeft_append hb hr]

theorem of_run? (h : run? isMember n cs = some (word, rest)) :
    cs = word ++ rest ∧ word.length = n ∧ ∀ c ∈ word, isMember c := by
  obtain ⟨⟨hl, hm⟩, he⟩ := Option.ite_none_right_eq_some.mp h
  cases he
  exact ⟨(List.take_append_drop n cs).symm, hl, List.all_eq_true.mp hm⟩

theorem run?_append (hm : ∀ c ∈ word, isMember c) (rest : List Char) :
    run? isMember word.length (word ++ rest) = some (word, rest) := by
  simpa [run?] using hm

theorem place?_eq_some_iff :
    place? cs = some (station, time) ↔ ∃ p : Place, p.chars = cs ∧ p.station = station ∧ p.issued = time := by
  constructor
  case mp =>
    intro h
    simp only [place?, Option.bind_eq_bind, Option.bind_eq_some_iff] at h
    obtain ⟨⟨s, _⟩, hs, _, hg, ⟨d, r⟩, hd, h⟩ := h
    obtain ⟨rfl, hl, hu⟩ := of_run? hs
    obtain ⟨g, rfl⟩ := of_afterBlanks? hg
    obtain ⟨rfl, hn, hm⟩ := of_run? hd
    obtain ⟨hz, he⟩ := Option.ite_none_right_eq_some.mp h
    cases he
    obtain ⟨r, rfl⟩ := List.head?_eq_some_iff.mp hz
    exact ⟨⟨s, g, d, r, hl, hu, hn, hm⟩, rfl, rfl, rfl⟩
  case mpr =>
    rintro ⟨p, rfl, rfl, rfl⟩
    have hs := run?_append p.isAsciiUpper (p.gap.chars ++ (p.digits ++ 'Z' :: p.rest))
    have hg := afterBlanks?_append p.gap (p.bare_digits ('Z' :: p.rest))
    have hd := run?_append p.isDecimalDigit ('Z' :: p.rest)
    rw [p.station_length] at hs
    rw [p.digits_length] at hd
    simp [place?, Place.chars, hs, hg, hd, Place.issued]

theorem correctedPlace?_eq_some_iff : correctedPlace? cs = some (station, time)
    ↔ ∃ (c : Correction) (p : Place), c.chars ++ p.chars = cs ∧ p.station = station ∧ p.issued = time := by
  simp only [correctedPlace?, Option.bind_eq_bind, Option.bind_eq_some_iff]
  constructor
  case mp =>
    rintro ⟨⟨m, _⟩, hm, _, hg, hp⟩
    obtain ⟨hc, rfl⟩ := of_word? hm
    obtain ⟨g, rfl⟩ := of_afterBlanks? hg
    obtain ⟨p, rfl, hs, hi⟩ := place?_eq_some_iff.mp hp
    exact ⟨⟨m, g, hc⟩, p, List.append_assoc .., hs, hi⟩
  case mpr =>
    rintro ⟨c, p, rfl, hs, hi⟩
    rw [Correction.chars, List.append_assoc]
    have hp := place?_eq_some_iff.mpr ⟨p, rfl, hs, hi⟩
    exact ⟨_, word?_correction c.mem _, _, afterBlanks?_append c.gap p.bare_chars, hp⟩

-- The mark of correction decides which of the two is read.
theorem correctedPlace?_or_place? {l : Layout} :
    (correctedPlace? l.placed).or (place? l.placed) = some (l.place.station, l.place.issued) := by
  cases hc : l.correction
  case some c =>
    have h := correctedPlace?_eq_some_iff.mpr ⟨c, l.place, rfl, rfl, rfl⟩
    simp [Layout.placed, Layout.marked, hc, h]
  case none =>
    have hp := place?_eq_some_iff.mpr ⟨l.place, rfl, rfl, rfl⟩
    have hn : correctedPlace? l.place.chars = none := by
      refine Option.eq_none_iff_forall_ne_some.mpr fun ⟨_, _⟩ h => ?_
      obtain ⟨c, p, h, _⟩ := correctedPlace?_eq_some_iff.mp h
      exact c.ne_place _ _ h
    simp [Layout.placed, Layout.marked, hc, hn, hp]

end Header

namespace Layout

variable {l m : Layout} {h : Header}

theorem bare_placed (l : Layout) : Bare l.placed := by
  cases hc : l.correction
  case none => simpa [placed, marked, hc] using l.place.bare_chars
  case some c =>
    simpa [placed, marked, hc] using c.bare_chars l.place.chars

theorem ofChars?_eq_some_iff : Header.ofChars? cs = some h ↔ ∃ l : Layout, l.chars = cs ∧ l.header = h := by
  simp only [Header.ofChars?, Option.bind_eq_bind, Option.bind_eq_some_iff]
  constructor
  case mp =>
    rintro ⟨⟨k, _⟩, hk, _, hg, ⟨s, i⟩, hp, he⟩
    cases he
    obtain ⟨hm, rfl⟩ := Header.of_word? hk
    obtain ⟨g, rfl⟩ := Header.of_afterBlanks? hg
    cases Option.or_eq_some_iff.mp hp
    case inl hp =>
      obtain ⟨c, p, rfl, rfl, rfl⟩ := Header.correctedPlace?_eq_some_iff.mp hp
      exact ⟨⟨k, g, some c, p, hm⟩, rfl, rfl⟩
    case inr hp =>
      obtain ⟨p, rfl, rfl, rfl⟩ := Header.place?_eq_some_iff.mp hp.2
      exact ⟨⟨k, g, none, p, hm⟩, rfl, rfl⟩
  case mpr =>
    rintro ⟨l, rfl, rfl⟩
    exact ⟨_, Header.word?_kind l.mem _, _, Header.afterBlanks?_append l.gap l.bare_placed, _,
      Header.correctedPlace?_or_place?, rfl⟩

theorem placed_unique (hp : l.placed = m.placed) : l.correction = m.correction ∧ l.place = m.place := by
  rw [placed, placed, marked, marked] at hp
  cases hl : l.correction <;> cases hm : m.correction <;> simp only [hl, hm, Option.map_none, Option.map_some,
    Option.getD_none, Option.getD_some, List.nil_append] at hp
  case none.none     => exact ⟨rfl, Place.chars_injective hp⟩
  case none.some c   => exact absurd hp.symm (c.ne_place _ _)
  case some.none c   => exact absurd hp (c.ne_place _ _)
  case some.some c d =>
    obtain ⟨hc, hs⟩ := Correction.unique l.place.bare_chars m.place.bare_chars hp
    exact ⟨congrArg some hc, Place.chars_injective hs⟩

theorem chars_injective : Function.Injective chars := by
  intro l m h
  have hk := Header.word?_kind m.mem (m.gap.chars ++ m.placed)
  rw [← chars, ← h, chars, Header.word?_kind l.mem] at hk
  obtain ⟨hk, h⟩ := Prod.mk.inj (Option.some.inj hk)
  obtain ⟨hg, h⟩ := Gap.unique l.bare_placed m.bare_placed h
  obtain ⟨hc, hp⟩ := placed_unique h
  cases l
  cases m
  cases hk
  cases hg
  cases hc
  cases hp
  rfl

end Layout

end BulletinPipeline.Bulletin
