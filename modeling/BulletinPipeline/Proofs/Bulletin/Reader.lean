import BulletinPipeline.Proofs.Bulletin.Layout
import Mathlib.Data.Set.Subsingleton

namespace BulletinPipeline
namespace Bulletin

open Text (Tight Trimmed isBlank)

-- The parts of a text between its equals signs.
structure Parted (cs : List Char) (parts : List (List Char)) : Prop where
  ne     : parts ≠ []
  joined : ['='].intercalate parts = cs
  free   : ∀ part ∈ parts, '=' ∉ part

-- The bulletin that a message is read as.
def Layout.bulletin (l : Layout) (source : String) : Bulletin where
  kind    := String.ofList l.kind
  station := String.ofList l.place.station
  issued  := String.ofList l.place.issued
  text    := String.ofList (l.chars ++ ['='])
  source  := source

-- The bulletins that the parts of a text hold, in order: one for each part that is laid out as a message once the
-- white space around it is left out, and none for any other part.
inductive Reads (source : String) : List (List Char) → List Bulletin → Prop
  | nil : Reads source [] []
  | message {part parts bs} (l : Layout) (trimmed : Trimmed part l.chars) (rest : Reads source parts bs) :
    Reads source (part :: parts) (l.bulletin source :: bs)
  | other {part parts bs} (none : ∀ l : Layout, ¬Trimmed part l.chars) (rest : Reads source parts bs) :
    Reads source (part :: parts) bs

variable {cs part : List Char} {parts : List (List Char)} {bs : List Bulletin} {text source : String} {b : Bulletin}

theorem chunks_eq_splitOn (cs : List Char) : chunks cs = cs.splitOn '=' := by
  induction cs
  case nil => rfl
  case cons c cs hi =>
    rw [List.splitOn_cons_eq_if_modifyHead, ← hi, chunks]
    by_cases hc : c = '='
    case pos => simp [hc]
    case neg =>
      obtain ⟨p, ps, hp⟩ := List.exists_cons_of_ne_nil (hi ▸ List.splitOn_ne_nil '=' cs)
      simp [hc, hp]

theorem not_mem_of_mem_chunks (h : part ∈ chunks cs) : '=' ∉ part := by
  induction cs generalizing part
  case nil => simp_all [chunks]
  case cons c cs hi =>
    rw [chunks] at h
    split at h
    case isTrue =>
      cases h
      case head   => simp
      case tail h => exact hi h
    case isFalse hc =>
      split at h
      case h_1 =>
        obtain rfl := List.mem_singleton.mp h
        simpa using Ne.symm hc
      case h_2 p ps hp =>
        rw [hp] at hi
        cases h
        case head   => simpa [Ne.symm hc] using hi List.mem_cons_self
        case tail h => exact hi (List.mem_cons_of_mem p h)

theorem chunks_append (cs ds : List Char) : chunks (cs ++ '=' :: ds) = chunks cs ++ chunks ds := by
  simp only [chunks_eq_splitOn, List.splitOn]
  exact List.splitOnP_append_cons cs ds (beq_self_eq_true '=')

theorem chunks_eq_singleton (h : '=' ∉ cs) : chunks cs = [cs] := by
  rw [chunks_eq_splitOn, List.splitOn_eq_singleton h]

theorem chunks_eq_iff : chunks cs = parts ↔ Parted cs parts := by
  constructor
  case mp =>
    rintro rfl
    refine ⟨?_, ?_, fun _ => not_mem_of_mem_chunks⟩
    · exact chunks_eq_splitOn cs ▸ List.splitOn_ne_nil '=' cs
    · exact chunks_eq_splitOn cs ▸ List.intercalate_splitOn '='
  case mpr =>
    rintro ⟨hn, rfl, hf⟩
    rw [chunks_eq_splitOn, List.splitOn_intercalate '=' hf hn]

theorem ofChunk?_eq_some_iff :
    ofChunk? source part = some b ↔ ∃ l : Layout, Trimmed part l.chars ∧ l.bulletin source = b := by
  constructor
  case mp =>
    intro h
    obtain ⟨_, hh, rfl⟩ := Option.map_eq_some_iff.mp h
    obtain ⟨l, hl, rfl⟩ := Layout.ofChars?_eq_some_iff.mp hh
    exact ⟨l, hl ▸ Text.trimmed_trimChars part, by simp [Layout.bulletin, Layout.header, hl]⟩
  case mpr =>
    rintro ⟨l, ht, rfl⟩
    have hh := Layout.ofChars?_eq_some_iff.mpr ⟨l, rfl, rfl⟩
    simp [ofChunk?, ht.eq, hh, Layout.bulletin, Layout.header]

theorem subsingleton_layout (part : List Char) : {l : Layout | Trimmed part l.chars}.Subsingleton :=
  fun _ hl _ hm => Layout.chars_injective (hl.eq.symm.trans hm.eq)

theorem reads_filterMap (source : String) (parts : List (List Char)) :
    Reads source parts (parts.filterMap (ofChunk? source)) := by
  induction parts
  case nil => exact .nil
  case cons part parts hi =>
    cases h : ofChunk? source part
    case none =>
      rw [List.filterMap_cons_none h]
      exact .other (fun l hl => nomatch h.symm.trans (ofChunk?_eq_some_iff.mpr ⟨l, hl, rfl⟩)) hi
    case some b =>
      rw [List.filterMap_cons_some h]
      obtain ⟨l, hl, rfl⟩ := ofChunk?_eq_some_iff.mp h
      exact .message l hl hi

theorem Reads.eq (h : Reads source parts bs) : parts.filterMap (ofChunk? source) = bs := by
  induction h
  case nil => rfl
  case message l hl _ hi =>
    rw [List.filterMap_cons_some (ofChunk?_eq_some_iff.mpr ⟨l, hl, rfl⟩), hi]
  case other hn _ hi =>
    refine (List.filterMap_cons_none (Option.eq_none_iff_forall_ne_some.mpr fun b hb => ?_)).trans hi
    obtain ⟨l, hl, _⟩ := ofChunk?_eq_some_iff.mp hb
    exact hn l hl

theorem readAll_eq_iff : readAll text source = bs ↔ ∃ parts, Parted text.toList parts ∧ Reads source parts bs := by
  constructor
  case mp =>
    rintro rfl
    exact ⟨_, chunks_eq_iff.mp rfl, reads_filterMap source _⟩
  case mpr =>
    rintro ⟨parts, hp, hr⟩
    rw [readAll, chunks_eq_iff.mpr hp, hr.eq]

-- A part of a text between the equals signs gives a bulletin exactly if what is left of it without the white space
-- around it is laid out as a message, which it is in one way at most.
theorem readAll_exact (text source : String) :
    (∀ bs, readAll text source = bs ↔ ∃ parts, Parted text.toList parts ∧ Reads source parts bs)
      ∧ ∀ part, {l : Layout | Trimmed part l.chars}.Subsingleton :=
  ⟨fun _ => readAll_eq_iff, subsingleton_layout⟩

-- A station may look like a mark of correction, and is told from it by what follows.
example :
    (readAll "TAF CORK 041100Z= TAF COR\nAMDO 041100Z=TAF COR 041100Z=" "in.txt").map station = ["CORK", "AMDO"] := by
  decide

-- A bulletin of a known kind, from a station with a proper name.
structure Proper (b : Bulletin) : Prop where
  kind    : b.kind ∈ ["METAR", "SPECI", "TAF"]
  length  : b.station.toList.length = 4
  station : b.station.toList.all Text.isAsciiUpper

theorem proper_of_readAll (h : b ∈ readAll text source) : b.Proper := by
  obtain ⟨part, _, h⟩ := List.mem_filterMap.mp h
  obtain ⟨l, _, rfl⟩ := ofChunk?_eq_some_iff.mp h
  have hk : String.ofList l.kind ∈ ["METAR", "SPECI", "TAF"] := List.mem_map_of_mem (f := String.ofList) l.mem
  exact ⟨hk, by simpa [Layout.bulletin] using l.place.station_length,
    by simpa [Layout.bulletin] using l.place.isAsciiUpper⟩

end Bulletin
end BulletinPipeline
