import BulletinPipeline.Proofs.Bulletin.Reader
import BulletinPipeline.Proofs.Component.Filing

namespace BulletinPipeline

namespace Bulletin

open Text (Tight isBlank)

variable {cs gap : List Char} {bs : List Bulletin} {source : String} {b : Bulletin}

theorem readAll_append (a b source : String) :
    readAll (a ++ "=" ++ b) source = readAll a source ++ readAll b source := by
  have h : (a ++ "=" ++ b).toList = a.toList ++ '=' :: b.toList := by simp
  rw [readAll, h, chunks_append, List.filterMap_append, readAll, readAll]

-- The bulletin is what its text is read as.
def Genuine (b : Bulletin) : Prop :=
  ∃ (l : Layout) (source : String), Tight l.chars ∧ '=' ∉ l.chars ∧ l.bulletin source = b

theorem genuine_of_readAll {text : String} (h : b ∈ readAll text source) : b.Genuine := by
  obtain ⟨part, hp, h⟩ := List.mem_filterMap.mp h
  obtain ⟨l, ht, rfl⟩ := ofChunk?_eq_some_iff.mp h
  refine ⟨l, source, ht.tight, fun hm => not_mem_of_mem_chunks hp ?_, rfl⟩
  obtain ⟨_, _, rfl, _⟩ := ht.around
  simp [hm]

theorem readAll_of_not_mem (h : '=' ∉ cs) (source : String) :
    readAll (String.ofList cs) source = (ofChunk? source cs).toList := by
  rw [readAll, String.toList_ofList, chunks_eq_singleton h]
  cases hc : ofChunk? source cs <;> simp [hc]

theorem equals_not_mem (hg : ∀ c ∈ gap, isBlank c) : '=' ∉ gap := fun h => by
  have hb := hg _ h
  contradiction

theorem Layout.letter_mem (l : Layout) : 'Z' ∈ l.chars := by
  simp [chars, placed, Place.chars]

theorem readAll_blank (hg : ∀ c ∈ gap, isBlank c) (source : String) : readAll (String.ofList gap) source = [] := by
  rw [readAll_of_not_mem (equals_not_mem hg), Option.toList_eq_nil_iff]
  refine Option.eq_none_iff_forall_ne_some.mpr fun b hb => ?_
  obtain ⟨l, ht, _⟩ := ofChunk?_eq_some_iff.mp hb
  obtain ⟨before, behind, rfl, _⟩ := ht.around
  have hb := hg 'Z' (by simp [l.letter_mem])
  contradiction

theorem readAll_message {l : Layout} (hg : ∀ c ∈ gap, isBlank c) (ht : Tight l.chars) (hf : '=' ∉ l.chars)
    (source : String) : readAll (String.ofList (gap ++ l.chars)) source = [l.bulletin source] := by
  have hn : '=' ∉ gap ++ l.chars := by simp [hf, equals_not_mem hg]
  have hc : ofChunk? source (gap ++ l.chars) = some (l.bulletin source) :=
    ofChunk?_eq_some_iff.mpr ⟨l, ⟨⟨gap, [], by simp, hg, List.forall_mem_nil _⟩, ht⟩, rfl⟩
  rw [readAll_of_not_mem hn, hc, Option.toList_some]

-- The line end of one message is white space before the next one, so that any may stand in front.
theorem readAll_lines (hb : ∀ b ∈ bs, b.Genuine) (hg : ∀ c ∈ gap, isBlank c) (source : String) :
    readAll (String.ofList gap ++ String.join (bs.map Archive.line)) source = bs.map fun b => { b with source } := by
  induction bs generalizing gap
  case nil => simpa using readAll_blank hg source
  case cons b bs hi =>
    obtain ⟨⟨l, s, ht, hf, rfl⟩, hs⟩ := List.forall_mem_cons.mp hb
    have he : String.ofList gap ++ String.join ((l.bulletin s :: bs).map Archive.line)
        = String.ofList (gap ++ l.chars) ++ "=" ++ (String.ofList ['\n'] ++ String.join (bs.map Archive.line)) := by
      simp [← String.toList_inj, Archive.line, Layout.bulletin]
    rw [he, readAll_append, readAll_message hg ht hf, hi hs (List.forall_mem_singleton.mpr rfl)]
    rfl

theorem Genuine.readAll_text (h : b.Genuine) (source : String) : readAll b.text source = [{ b with source }] := by
  obtain ⟨l, s, ht, hf, rfl⟩ := h
  have he : (l.bulletin s).text = String.ofList ([] ++ l.chars) ++ "=" ++ String.ofList [] := by
    simp [Layout.bulletin]
  conv_lhs => rw [he]
  rw [readAll_append, readAll_message (List.forall_mem_nil _) ht hf, readAll_blank (List.forall_mem_nil _)]
  rfl

end Bulletin

-- A storage that takes everything, and remembers what was written to which file.
structure Journal where
  entries : List (Path × String)

namespace Journal

instance : Storage (StateM Journal) where
  readText? _         := pure none
  isDirectory _       := pure true
  filesBelow _        := pure []
  createDirectories _ := pure true
  append p text       := fun j => (true, ⟨j.entries ++ [(p, text)]⟩)
  pause _             := pure ()

-- The journal of archives that write a bulletin each, one after the other.
def ofFilings (filings : List Filing) : Journal :=
  ((filings.mapM fun f => f.archive.apply f.bulletin : StateM Journal _).run ⟨[]⟩).2

-- All that was written, in order.
def text (j : Journal) : String :=
  String.join (j.entries.map Prod.snd)

theorem run_mapM_apply (filings : List Filing) (j : Journal) :
    (filings.mapM fun f => f.archive.apply f.bulletin : StateM Journal _).run j
      = (filings.map fun _ => .ok (), ⟨j.entries ++ filings.map fun f => (f.path, f.line)⟩) := by
  induction filings generalizing j
  case nil => simp; rfl
  case cons f filings hi =>
    have ha : (f.archive.apply f.bulletin : StateM Journal _).run j = (.ok (), ⟨j.entries ++ [(f.path, f.line)]⟩) :=
      rfl
    rw [List.mapM_cons, run_state_bind, ha, run_state_bind, hi, List.append_assoc]
    rfl

theorem text_ofFilings (filings : List Filing) : (ofFilings filings).text = String.join (filings.map Filing.line) := by
  rw [ofFilings, run_mapM_apply, text, List.nil_append, List.map_map]
  rfl

end Journal

namespace Bulletin

theorem readAll_written {filings : List Filing}
    (h : ∀ f ∈ filings, ∃ text source, f.bulletin ∈ readAll text source) :
    (∀ a b source, readAll (a ++ "=" ++ b) source = readAll a source ++ readAll b source)
      ∧ ∀ source,
        readAll (Journal.ofFilings filings).text source = filings.map fun f => { f.bulletin with source } := by
  have hb : ∀ b ∈ filings.map Filing.bulletin, b.Genuine := by
    intro b hb
    obtain ⟨f, hf, rfl⟩ := List.mem_map.mp hb
    obtain ⟨text, source, hr⟩ := h f hf
    exact genuine_of_readAll hr
  refine ⟨readAll_append, fun source => ?_⟩
  have hr := readAll_lines hb (List.forall_mem_nil _) source
  rw [String.ofList_nil, String.empty_append, List.map_map, List.map_map] at hr
  rw [Journal.text_ofFilings]
  exact hr

def amendmentText : String :=
  "TAF  AMD\nESSA 041100Z  rmk="

-- A message on two lines.
def amendment : Bulletin where
  kind    := "TAF"
  station := "ESSA"
  issued  := "041100Z"
  text    := amendmentText
  source  := "in.txt"

theorem readAll_written_amendment : amendment ∈ readAll amendmentText "in.txt"
    ∧ (Journal.ofFilings [⟨⟨"out/taf", "txt"⟩, amendment⟩, ⟨⟨"out", "txt"⟩, amendment⟩]).text
      = "TAF  AMD\nESSA 041100Z  rmk=\nTAF  AMD\nESSA 041100Z  rmk=\n"
    ∧ readAll (Journal.ofFilings [⟨⟨"out/taf", "txt"⟩, amendment⟩, ⟨⟨"out", "txt"⟩, amendment⟩]).text "again.txt"
      = [{ amendment with source := "again.txt" }, { amendment with source := "again.txt" }] := by
  have ha : amendment ∈ readAll amendmentText "in.txt" := by decide
  have hf : ∀ f ∈ [Filing.mk ⟨"out/taf", "txt"⟩ amendment, ⟨⟨"out", "txt"⟩, amendment⟩],
      ∃ text source, f.bulletin ∈ readAll text source := by
    simp only [List.forall_mem_cons]
    exact ⟨⟨_, _, ha⟩, ⟨_, _, ha⟩, List.forall_mem_nil _⟩
  exact ⟨ha, by decide, (readAll_written hf).2 "again.txt"⟩

end Bulletin
end BulletinPipeline
