import BulletinPipeline.Proofs.Component.Filing
import BulletinPipeline.Proofs.Pipeline.Gates
import BulletinPipeline.Proofs.Pipeline.Transform
import BulletinPipeline.Proofs.Text.Lines

namespace BulletinPipeline

open Text (OneLine Tight linesOf)

namespace TextEdit

variable {e : TextEdit} {edits : List TextEdit} {s : String}

-- Edits one after the other.
def applyAll (edits : List TextEdit) (s : String) : String :=
  edits.foldl (fun s e => e.apply s) s

-- White space is made spaces, and no pattern is replaced behind that.
def Flattens (edits : List TextEdit) : Prop :=
  ∃ before after, edits = before ++ trim true :: after ∧ ∀ e ∈ after, e.Normalises

theorem toList_trim (s : String) : ((trim false).apply s).toList = Text.trimChars s.toList :=
  String.toList_ofList

theorem toList_collapse (s : String) : ((trim true).apply s).toList = Text.collapseChars s.toList :=
  String.toList_ofList

theorem toList_uppercase (s : String) : (uppercase.apply s).toList = s.toList.flatMap Text.upperChars :=
  String.toList_ofList

theorem oneLine_apply (he : e.Normalises) (h : OneLine s.toList) : OneLine (e.apply s).toList := by
  cases e
  case replace   => contradiction
  case uppercase => exact toList_uppercase s ▸ h.flatMap_upperChars
  case trim collapse =>
    cases collapse
    case false => exact toList_trim s ▸ h.trimChars
    case true  => exact toList_collapse s ▸ Text.oneLine_collapseChars _

theorem oneLine_applyAll (he : ∀ e ∈ edits, e.Normalises) (h : OneLine s.toList) : OneLine (applyAll edits s).toList :=
  List.foldlRecOn edits _ (motive := fun s : String => OneLine s.toList) h fun _ h e hm => oneLine_apply (he e hm) h

theorem Flattens.oneLine (h : Flattens edits) (s : String) : OneLine (applyAll edits s).toList := by
  obtain ⟨before, after, rfl, hn⟩ := h
  rw [applyAll, List.foldl_append, List.foldl_cons]
  exact oneLine_applyAll hn (toList_collapse _ ▸ Text.oneLine_collapseChars _)

-- A text that has a line end inside, where trimming does not reach it.
structure Folded (s : String) : Prop where
  tight : Tight s.toList
  feed  : '\n' ∈ s.toList

theorem Folded.apply (h : Folded s) (he : e.Normalises) (hn : e ≠ trim true) : Folded (e.apply s) := by
  cases e
  case replace => contradiction
  case uppercase =>
    constructor
    · exact toList_uppercase s ▸ Text.tight_flatMap_upperChars h.tight
    · exact toList_uppercase s ▸ Text.feed_mem_flatMap_upperChars_iff.mpr h.feed
  case trim collapse =>
    cases collapse
    case true  => contradiction
    case false =>
      have hs : (trim false).apply s = s := by
        rw [← String.toList_inj, toList_trim, h.tight.trimChars_eq]
      exact hs.symm ▸ h

theorem Folded.applyAll (h : Folded s) (he : ∀ e ∈ edits, e.Normalises) (hn : trim true ∉ edits) :
    Folded (applyAll edits s) :=
  List.foldlRecOn edits _ h fun _ h e hm => h.apply (he e hm) fun ht => hn (ht ▸ hm)

theorem oneLine_applyAll_iff (he : ∀ e ∈ edits, e.Normalises) (ht : Tight s.toList) :
    OneLine (applyAll edits s).toList ↔ '\n' ∉ s.toList ∨ trim true ∈ edits := by
  constructor
  case mp =>
    intro h
    by_contra hn
    obtain ⟨hf, hn⟩ := not_or.mp hn
    have hf : Folded s := ⟨ht, by simpa using hf⟩
    exact h.noFeed (hf.applyAll he hn).feed
  case mpr =>
    rintro (hf | hm)
    · exact oneLine_applyAll he (Text.oneLine_of_last hf ht.last)
    · obtain ⟨before, after, rfl⟩ := List.append_of_mem hm
      have hf : Flattens (before ++ trim true :: after) :=
        ⟨before, after, rfl, fun e hm => he e (List.mem_append_right _ (.tail _ hm))⟩
      exact hf.oneLine s

end TextEdit

theorem Bulletin.Genuine.tight {b : Bulletin} (h : b.Genuine) : Tight b.text.toList := by
  obtain ⟨l, source, ht, _, rfl⟩ := h
  rw [Layout.bulletin, String.toList_ofList]
  exact Layout.tight_text ht

namespace Pipeline

-- The edits that a bulletin goes through.
def edits (p : Pipeline) (b : Bulletin) : List TextEdit :=
  (p.transformers.filter fun s => s.condition.all (·.holds b)).map (·.component)

theorem text_transform (p : Pipeline) (b : Bulletin) : (p.transform b).text = TextEdit.applyAll (p.edits b) b.text := by
  obtain ⟨fired, h⟩ := exists_passes_transform p b
  obtain ⟨rfl, ht⟩ := h.eq
  rw [ht, TextEdit.applyAll, edits, List.foldl_map, rewrite]

end Pipeline

namespace Filing

variable {t t' : FileTree} {l : Location} {filings : List Filing}

-- The archives are called one after the other, whatever comes of each call.
def writeAll {m : Type → Type} [Monad m] [Storage m] (filings : List Filing) : m (List (Except ActionError Unit)) :=
  filings.mapM fun f => f.archive.apply f.bulletin

-- The texts that go to a location, in order.
def textsAt (t : FileTree) (l : Location) (filings : List Filing) : List String :=
  (filings.filter fun f => t.location f.path = l).map fun f => f.bulletin.text

-- The lines of a file are the texts that went there, one for each bulletin and in order.
def WholeLines (t t' : FileTree) (filings : List Filing) (p : Path) : Prop :=
  ∃ s, t'.readText? p = some s ∧ linesOf s = textsAt t (t.location p) filings

theorem linesAt_eq (t : FileTree) (l : Location) (filings : List Filing) :
    linesAt t l filings = (textsAt t l filings).map (· ++ "\n") := by
  rw [linesAt, textsAt, List.map_map]
  rfl

theorem forall_mem_textsAt_iff {P : String → Prop} :
    (∀ s ∈ textsAt t l filings, P s) ↔ ∀ f ∈ filings, t.location f.path = l → P f.bulletin.text := by
  rw [textsAt, List.forall_mem_map]
  simp

end Filing

namespace FileTree

open Filing

variable {t t' : FileTree} {f : Filing} {filings : List Filing}

theorem allFiled?_of_run_writeAll (h : ∀ r ∈ ((writeAll filings : StateM FileTree _).run t).1, r = .ok ()) :
    t.allFiled? filings = some ((writeAll filings : StateM FileTree _).run t).2 := by
  induction filings generalizing t
  case nil => rfl
  case cons f filings hi =>
    rw [writeAll, List.mapM_cons, run_state_bind, run_state_bind] at h ⊢
    obtain ⟨first, others⟩ := List.forall_mem_cons.mp h
    exact allFiled?_cons.mpr ⟨_, filed?_of_run_apply first, hi others⟩

theorem wholeLines_of_allFiled?_iff (h : t.allFiled? filings = some t') (hf : f ∈ filings)
    (ha : t.text? (t.location f.path) = none) : WholeLines t t' filings f.path
      ↔ ∀ g ∈ filings, t.location g.path = t.location f.path → OneLine g.bulletin.text.toList := by
  have hs : t'.readText? f.path = some (String.join ((textsAt t (t.location f.path) filings).map (· ++ "\n"))) := by
    rw [readText?_path h hf, ha, linesAt_eq, Option.getD_none, String.empty_append]
  rw [← forall_mem_textsAt_iff (P := fun s => OneLine s.toList), ← Text.linesOf_join_iff]
  constructor
  case mp =>
    rintro ⟨s, hr, hl⟩
    obtain rfl := Option.some.inj (hs.symm.trans hr)
    exact hl
  case mpr => exact fun hl => ⟨_, hs, hl⟩

end FileTree

-- A bulletin as it was read, the pipeline that it goes through, and the archive that is called for it then.
structure Posting where
  archive  : Archive
  pipeline : Pipeline
  bulletin : Bulletin

namespace Posting

open Bulletin (readAll amendment amendmentText)

def filing (c : Posting) : Filing :=
  ⟨c.archive, c.pipeline.transform c.bulletin⟩

def edits (c : Posting) : List TextEdit :=
  c.pipeline.edits c.bulletin

-- What is archived of the bulletin is one line.
def Straight (c : Posting) : Prop :=
  OneLine c.filing.bulletin.text.toList

variable {postings : List Posting} {t t' : FileTree} {results : List (Except ActionError Unit)}

-- No file is there before the first call, and all calls succeed. What patterns are replaced by may hold anything, so
-- that only the text itself tells whether it is one line, unless white space is made spaces behind the replacements.
theorem wholeLines_iff (hb : ∀ c ∈ postings, ∃ text source, c.bulletin ∈ readAll text source)
    (ha : ∀ c ∈ postings, t.text? (t.location c.filing.path) = none)
    (hr : (Filing.writeAll (postings.map filing) : StateM FileTree _).run t = (results, t'))
    (hs : ∀ r ∈ results, r = .ok ()) :
    ∀ c ∈ postings,
      (Filing.WholeLines t t' (postings.map filing) c.filing.path
          ↔ ∀ d ∈ postings, t.location d.filing.path = t.location c.filing.path → d.Straight)
        ∧ (TextEdit.Flattens c.edits → c.Straight)
        ∧ ((∀ e ∈ c.edits, e.Normalises)
          → (c.Straight ↔ '\n' ∉ c.bulletin.text.toList ∨ TextEdit.trim true ∈ c.edits)) := by
  have hx : ∀ c : Posting, c.filing.bulletin.text = TextEdit.applyAll c.edits c.bulletin.text :=
    fun c => Pipeline.text_transform ..
  have ho : ∀ r ∈ ((Filing.writeAll (postings.map filing) : StateM FileTree _).run t).1, r = .ok () := hr.symm ▸ hs
  have hf := FileTree.allFiled?_of_run_writeAll ho
  rw [hr] at hf
  intro c hc
  refine ⟨?lines, ?flat, ?normal⟩
  case lines =>
    have hl := FileTree.wholeLines_of_allFiled?_iff hf (List.mem_map_of_mem hc) (ha c hc)
    exact hl.trans List.forall_mem_map
  case flat =>
    intro h
    rw [Straight, hx]
    exact h.oneLine _
  case normal =>
    intro he
    obtain ⟨text, source, hm⟩ := hb c hc
    rw [Straight, hx]
    exact TextEdit.oneLine_applyAll_iff he (Bulletin.genuine_of_readAll hm).tight

-- Nothing is done to the texts.
def unedited : Pipeline :=
  { Pipeline.normalising with transformers := [] }

def cavokText : String :=
  "TAF ESSA 041700Z CAVOK="

def cavok : Bulletin where
  kind    := "TAF"
  station := "ESSA"
  issued  := "041700Z"
  text    := cavokText
  source  := "in.txt"

-- A message on two lines, of which one is made, and one that stands on one line. Both go to one file.
def forecasts : List Posting :=
  [⟨⟨"out", "txt"⟩, Pipeline.normalising, amendment⟩, ⟨⟨"out", "txt"⟩, unedited, cavok⟩]

def home : FileTree :=
  .empty ["w"]

theorem wholeLines_iff_forecasts : (∀ c ∈ forecasts, ∃ text source, c.bulletin ∈ readAll text source)
    ∧ (∀ c ∈ forecasts, home.text? (home.location c.filing.path) = none)
    ∧ (∀ r ∈ ((Filing.writeAll (forecasts.map filing) : StateM FileTree _).run home).1, r = .ok ())
    ∧ (∀ c ∈ forecasts, c.Straight)
    ∧ ∀ c ∈ forecasts, Filing.WholeLines home ((Filing.writeAll (forecasts.map filing) : StateM FileTree _).run home).2
        (forecasts.map filing) c.filing.path := by
  have hb : ∀ c ∈ forecasts, ∃ text source, c.bulletin ∈ readAll text source := by
    simp only [forecasts, List.forall_mem_cons]
    exact ⟨⟨amendmentText, "in.txt", by decide⟩, ⟨cavokText, "in.txt", by decide⟩, List.forall_mem_nil _⟩
  have ha : ∀ c ∈ forecasts, home.text? (home.location c.filing.path) = none := by
    simp only [forecasts, List.forall_mem_cons]
    exact ⟨by decide +kernel, by decide +kernel, List.forall_mem_nil _⟩
  have hs : ∀ r ∈ ((Filing.writeAll (forecasts.map filing) : StateM FileTree _).run home).1, r = .ok () := by
    decide +kernel
  have hw := wholeLines_iff hb ha Prod.mk.eta.symm hs
  have ho : ∀ c ∈ forecasts, c.Straight := by
    have he := hw
    simp only [forecasts, List.forall_mem_cons] at he ⊢
    obtain ⟨⟨_, flat, _⟩, ⟨_, _, normal⟩, _⟩ := he
    refine ⟨flat ⟨[.uppercase], [], rfl, List.forall_mem_nil _⟩, (normal ?_).mpr (.inl ?_), List.forall_mem_nil _⟩
    · exact List.forall_mem_nil _
    · decide
  exact ⟨hb, ha, hs, ho, fun c hc => (hw c hc).1.mpr fun d hd _ => ho d hd⟩

-- Nothing makes one line of the two.
def twoLines : Posting :=
  ⟨⟨"out", "txt"⟩, unedited, amendment⟩

theorem not_wholeLines_amendment : twoLines.bulletin ∈ readAll amendmentText "in.txt"
    ∧ home.text? (home.location twoLines.filing.path) = none
    ∧ ((Filing.writeAll [twoLines.filing] : StateM FileTree _).run home).1 = [.ok ()]
    ∧ ¬Filing.WholeLines home ((Filing.writeAll [twoLines.filing] : StateM FileTree _).run home).2 [twoLines.filing]
        twoLines.filing.path := by
  refine ⟨by decide, by decide +kernel, by decide +kernel, ?_⟩
  rintro ⟨s, hr, hl⟩
  have hw : ((Filing.writeAll [twoLines.filing] : StateM FileTree _).run home).2.readText? twoLines.filing.path
      = some "TAF  AMD\nESSA 041100Z  rmk=\n" := by decide +kernel
  obtain rfl := Option.some.inj (hw.symm.trans hr)
  have hn : linesOf "TAF  AMD\nESSA 041100Z  rmk=\n" = ["TAF  AMD", "ESSA 041100Z  rmk="] := by decide
  have ht : Filing.textsAt home (home.location twoLines.filing.path) [twoLines.filing]
      = ["TAF  AMD\nESSA 041100Z  rmk="] := by decide +kernel
  rw [hn, ht] at hl
  exact absurd hl (by decide)

end Posting
end BulletinPipeline
