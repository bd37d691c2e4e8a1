import BulletinPipeline.Pipeline.Run
import BulletinPipeline.Proofs.Component.Filing
import BulletinPipeline.Proofs.Settings

namespace BulletinPipeline

-- The bulletins of files, each of which is given with its text.
def Bulletin.readFiles (inputs : List (Path × String)) : List Bulletin :=
  inputs.flatMap fun i => readAll i.2 (i.1.fileName?.getD "")

theorem Bulletin.readFiles_cons (i : Path × String) (inputs : List (Path × String)) :
    readFiles (i :: inputs) = readFiles [i] ++ readFiles inputs := by
  rw [readFiles, readFiles, readFiles, ← List.flatMap_append, List.singleton_append]

-- What is counted for some files, with their bulletins and the filings of these.
def Totals.of (files : Nat) (bulletins : List Bulletin) (filings : List Filing) : Totals :=
  ⟨files, bulletins.length, filings.length, 0⟩

theorem Totals.of_add_of (m n : Nat) (bs cs : List Bulletin) (fs gs : List Filing) :
    (of m bs fs).add (of n cs gs) = of (m + n) (bs ++ cs) (fs ++ gs) := by
  simp [of, add]

namespace Pipeline

open Bulletin (readAll readFiles readFiles_cons)

variable {p : Pipeline} {t t' : FileTree} {b : Bulletin} {bulletins : List Bulletin} {inputs : List (Path × String)}
  {path : Path} {text source : String}

-- What is to be written for a bulletin. Conditions and archives look at what comes out of the transformers.
def filingsOf (p : Pipeline) (b : Bulletin) : List Filing :=
  (p.actions.filter fun s => s.condition.all (·.holds (p.transform b))).map fun s => ⟨s.component, p.transform b⟩

-- What is to be written for files, in the order of the files, of the bulletins in them, and of the actions.
def filings (p : Pipeline) (inputs : List (Path × String)) : List Filing :=
  (readFiles inputs).flatMap p.filingsOf

theorem filings_cons (p : Pipeline) (i : Path × String) (inputs : List (Path × String)) :
    p.filings (i :: inputs) = p.filings [i] ++ p.filings inputs := by
  rw [filings, readFiles_cons, List.flatMap_append, filings, filings]

-- What is to be written to a path.
def linesTo (p : Pipeline) (inputs : List (Path × String)) (path : Path) : List String :=
  ((p.filings inputs).filter fun f => f.path = path).map Filing.line

-- Where no other path stands for the same file, that is what is written to the file.
theorem linesAt_location (hd : ∀ f ∈ p.filings inputs, t.location f.path = t.location path → f.path = path) :
    Filing.linesAt t (t.location path) (p.filings inputs) = p.linesTo inputs path := by
  have hq : ∀ f ∈ p.filings inputs, decide (t.location f.path = t.location path) = decide (f.path = path) :=
    fun f hf => decide_eq_decide.mpr ⟨hd f hf, congrArg t.location⟩
  rw [Filing.linesAt, linesTo, List.filter_congr hq]

-- The paths that are read and those that are written.
def paths (p : Pipeline) (inputs : List (Path × String)) : List Path :=
  inputs.map Prod.fst ++ (p.filings inputs).map Filing.path

-- There is no further attempt behind one that succeeds.
theorem run_tryAgain {σ ε : Type} {s s' : σ} {pause : StateM σ Unit} {call : StateM σ (Except ε Unit)}
    (h : call.run s = (.ok (), s')) (n : Nat) : (tryAgain pause call n).run s = (.ok (), s') := by
  cases n
  case zero => exact h
  case succ n =>
    rw [tryAgain, run_state_bind, h]
    rfl

-- Each of the stages that are left counts once.
theorem run_foldlM_count {stages : List (Stage Archive)}
    (h : t.allFiled? (stages.map fun s => ⟨s.component, b⟩) = some t') (pause : StateM FileTree Unit) (n : Nat)
    (d : Delivery) :
    (stages.foldlM (fun d s => d.count <$> tryAgain pause (s.component.apply b) n) d : StateM FileTree _).run t
      = (⟨d.applied + stages.length, d.failed⟩, t') := by
  induction stages generalizing t d
  case nil =>
    cases h
    rfl
  case cons s stages hi =>
    obtain ⟨t₁, first, others⟩ := FileTree.allFiled?_cons.mp h
    rw [List.foldlM_cons, run_state_bind, run_state_map, run_tryAgain (FileTree.run_apply first), hi others,
      Delivery.count, List.length_cons, Nat.add_assoc, Nat.add_comm 1]

theorem run_deliver (h : t.allFiled? ((p.activeActions b).map fun s => ⟨s.component, b⟩) = some t') :
    (p.deliver b : StateM FileTree _).run t = (⟨(p.activeActions b).length, 0⟩, t') := by
  rw [deliver, deliverBy, run_foldlM_count h, Delivery.none, Nat.zero_add]

theorem run_foldlM_deliver (h : t.allFiled? (bulletins.flatMap p.filingsOf) = some t') (totals : Totals) :
    (bulletins.foldlM (fun totals b => totals.count <$> p.deliver (p.transform b)) totals : StateM FileTree _).run t
      = (totals.add (.of 0 bulletins (bulletins.flatMap p.filingsOf)), t') := by
  induction bulletins generalizing t totals
  case nil =>
    cases h
    rfl
  case cons b bulletins hi =>
    rw [List.flatMap_cons] at h ⊢
    obtain ⟨t₁, first, others⟩ := FileTree.allFiled?_append.mp h
    rw [List.foldlM_cons, run_state_bind, run_state_map, run_deliver first, hi others]
    simp [Totals.count, Totals.add, Totals.of, filingsOf, activeActions, Stage.isActive, Nat.add_assoc, Nat.add_comm 1]

theorem run_runFile (hr : t.readText? path = some text) (h : t.allFiled? (p.filings [(path, text)]) = some t') :
    (p.runFile path : StateM FileTree _).run t
      = (.ok (.of 1 (readFiles [(path, text)]) (p.filings [(path, text)])), t') := by
  have hf : readFiles [(path, text)] = readAll text (path.fileName?.getD "") := List.flatMap_singleton ..
  rw [filings, hf] at h ⊢
  rw [runFile, run_state_bind, FileTree.run_readText?, hr, run_state_map, runText, run_foldlM_deliver h]
  simp [Totals.add, Totals.of]

-- What is written for the first file leaves the others as they were.
theorem run_runFiles (hr : ∀ i ∈ inputs, t.readText? i.1 = some i.2)
    (ha : ∀ i ∈ inputs, ∀ f ∈ p.filings inputs, t.location f.path ≠ t.location i.1)
    (h : t.allFiled? (p.filings inputs) = some t') : (p.runFiles (inputs.map Prod.fst) : StateM FileTree _).run t
      = (.ok (.of inputs.length (readFiles inputs) (p.filings inputs)), t') := by
  induction inputs generalizing t
  case nil =>
    cases h
    rfl
  case cons i inputs hi =>
    rw [readFiles_cons, filings_cons] at *
    obtain ⟨t₁, first, others⟩ := FileTree.allFiled?_append.mp h
    obtain ⟨hr, hs⟩ := List.forall_mem_cons.mp hr
    have hs : ∀ j ∈ inputs, t₁.readText? j.1 = some j.2 := fun j hj =>
      FileTree.readText?_of_forall_ne first (fun f hf => ha j (.tail _ hj) f (List.mem_append_left _ hf)) (hs j hj)
    have hg : FileTree.Grows t t₁ := FileTree.grows_of_allFiled? first
    have ha : ∀ j ∈ inputs, ∀ f ∈ p.filings inputs, t₁.location f.path ≠ t₁.location j.1 := fun j hj f hf => by
      rw [hg.location, hg.location]
      exact ha j (.tail _ hj) f (List.mem_append_right _ hf)
    rw [List.map_cons, runFiles, run_state_bind, run_runFile hr first, run_state_bind, hi hs ha others]
    change (Except.ok (Totals.add _ _), t') = _
    rw [Totals.of_add_of, List.length_cons, Nat.add_comm]

-- The files can be read and are no archives, paths that differ stand for different files, and all that is to be written
-- can be written.
theorem runFiles_exact (hr : ∀ i ∈ inputs, t.readText? i.1 = some i.2)
    (ha : ∀ i ∈ inputs, ∀ f ∈ p.filings inputs, i.1 ≠ f.path)
    (hd : ∀ q ∈ p.paths inputs, ∀ r ∈ p.paths inputs, t.location q = t.location r → q = r)
    (h : (t.allFiled? (p.filings inputs)).isSome) :
    ∃ t', (p.runFiles (inputs.map Prod.fst) : StateM FileTree _).run t
        = (.ok ⟨inputs.length, (readFiles inputs).length, (p.filings inputs).length, 0⟩, t')
      ∧ (∀ q ∈ (p.filings inputs).map Filing.path,
          t'.readText? q = some ((t.text? (t.location q)).getD "" ++ String.join (p.linesTo inputs q)))
      ∧ ∀ l, (∀ q ∈ (p.filings inputs).map Filing.path, t.location q ≠ l) → t'.text? l = t.text? l := by
  obtain ⟨t', h⟩ := Option.isSome_iff_exists.mp h
  have hi : ∀ i ∈ inputs, i.1 ∈ p.paths inputs := fun i hi => List.mem_append_left _ (List.mem_map_of_mem hi)
  have hf : ∀ f ∈ p.filings inputs, f.path ∈ p.paths inputs := fun f hf =>
    List.mem_append_right _ (List.mem_map_of_mem hf)
  refine ⟨t', run_runFiles hr ?apart h, ?written, ?kept⟩
  case apart   => exact fun i hm f hn he => ha i hm f hn (hd _ (hf f hn) _ (hi i hm) he).symm
  case written =>
    refine List.forall_mem_map.mpr fun f hm => ?_
    rw [FileTree.readText?_path h hm, linesAt_location fun g hg => hd _ (hf g hg) _ (hf f hm)]
  case kept => exact fun l hl => FileTree.text?_of_forall_ne h fun f hm => hl _ (List.mem_map_of_mem hm)

def weekTree : FileTree where
  entries :=
    [(["w"], .directory), (["w", "in"], .directory), (["w", "out"], .directory),
      (["w", "in", "a.txt"], .file "METAR EFHK 041020Z  A=\nTAF ESSA 041100Z B="),
      (["w", "in", "b.txt"], .file "METAR EFHK 041050Z C="),
      (["w", "out", "METAR_EFHK.txt"], .file "old\n")]
  home := ["w"]

def weekInputs : List (Path × String) :=
  [("in/a.txt", "METAR EFHK 041020Z  A=\nTAF ESSA 041100Z B="), ("in/b.txt", "METAR EFHK 041050Z C=")]

-- The first two archives share their files.
def week : Pipeline where
  name           := "week"
  config         := PipelineSettings.ofDirectories "in" "out"
  settings       := ⟨"in", "out", none, none, none⟩
  inputDirectory := "in"
  transformers   := [⟨"trim", .trim true, none⟩]
  actions        :=
    [⟨"all", ⟨"out", "txt"⟩, none⟩, ⟨"finnish", ⟨"out", "txt"⟩, some (.station ["EFHK"] false)⟩,
      ⟨"forecasts", ⟨"out/taf", "txt"⟩, some (.kind ["taf"])⟩]

def weekFilings : List Filing :=
  let a : Bulletin := ⟨"METAR", "EFHK", "041020Z", "METAR EFHK 041020Z A=", "a.txt"⟩
  let b : Bulletin := ⟨"TAF", "ESSA", "041100Z", "TAF ESSA 041100Z B=", "a.txt"⟩
  let c : Bulletin := ⟨"METAR", "EFHK", "041050Z", "METAR EFHK 041050Z C=", "b.txt"⟩
  [⟨⟨"out", "txt"⟩, a⟩, ⟨⟨"out", "txt"⟩, a⟩, ⟨⟨"out", "txt"⟩, b⟩, ⟨⟨"out/taf", "txt"⟩, b⟩, ⟨⟨"out", "txt"⟩, c⟩,
    ⟨⟨"out", "txt"⟩, c⟩]

theorem runFiles_exact_week : (∀ i ∈ weekInputs, weekTree.readText? i.1 = some i.2)
    ∧ (∀ i ∈ weekInputs, ∀ f ∈ week.filings weekInputs, i.1 ≠ f.path)
    ∧ (∀ q ∈ week.paths weekInputs, ∀ r ∈ week.paths weekInputs, weekTree.location q = weekTree.location r → q = r)
    ∧ (weekTree.allFiled? (week.filings weekInputs)).isSome
    ∧ ∃ t', (week.runFiles ["in/a.txt", "in/b.txt"] : StateM FileTree _).run weekTree = (.ok ⟨2, 3, 6, 0⟩, t')
    ∧ t'.readText? "out/METAR_EFHK.txt" = some ("old\n" ++ "METAR EFHK 041020Z A=\nMETAR EFHK 041020Z A=\n"
      ++ "METAR EFHK 041050Z C=\nMETAR EFHK 041050Z C=\n")
    ∧ t'.readText? "out/taf/TAF_ESSA.txt" = some "TAF ESSA 041100Z B=\n"
    ∧ t'.text? ["w", "in", "a.txt"] = some "METAR EFHK 041020Z  A=\nTAF ESSA 041100Z B=" := by
  have hf : week.filings weekInputs = weekFilings := by decide
  have hb : (readFiles weekInputs).length = 3 := by decide
  have hr : ∀ i ∈ weekInputs, weekTree.readText? i.1 = some i.2 := by decide
  have ha : ∀ i ∈ weekInputs, ∀ f ∈ week.filings weekInputs, i.1 ≠ f.path := by
    rw [hf]
    decide
  have hd : ∀ q ∈ week.paths weekInputs, ∀ r ∈ week.paths weekInputs,
      weekTree.location q = weekTree.location r → q = r := by
    rw [paths, hf]
    decide +kernel
  have hw : (weekTree.allFiled? (week.filings weekInputs)).isSome := by
    rw [hf]
    decide +kernel
  obtain ⟨t', ht, hq, hl⟩ := runFiles_exact hr ha hd hw
  rw [hf] at ht hq hl
  refine ⟨hr, ha, hd, hw, t', ?_, ?_, ?_, ?_⟩
  · rw [hb] at ht
    exact ht
  · rw [hq "out/METAR_EFHK.txt" (by decide), linesTo, hf]
    decide
  · rw [hq "out/taf/TAF_ESSA.txt" (by decide), linesTo, hf]
    decide
  · rw [hl ["w", "in", "a.txt"] (by decide)]
    decide

end Pipeline
end BulletinPipeline
