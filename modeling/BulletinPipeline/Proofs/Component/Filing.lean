import BulletinPipeline.Component.Archive
import BulletinPipeline.Proofs.Effect
import BulletinPipeline.Proofs.Storage.FileTree

namespace BulletinPipeline

-- A bulletin, and the archive that writes it.
structure Filing where
  archive  : Archive
  bulletin : Bulletin
  deriving DecidableEq

namespace Filing

variable {t : FileTree} {l : Location} {f : Filing} {filings : List Filing}

-- The file that the bulletin goes to.
def path (f : Filing) : Path :=
  f.archive.pathFor f.bulletin

def line (f : Filing) : String :=
  Archive.line f.bulletin

-- What is written to a location, in order.
def linesAt (t : FileTree) (l : Location) (filings : List Filing) : List String :=
  (filings.filter fun f => t.location f.path = l).map line

theorem linesAt_cons_of_eq (h : l = t.location f.path) (filings : List Filing) :
    linesAt t l (f :: filings) = f.line :: linesAt t l filings := by
  simp [linesAt, h]

theorem linesAt_cons_of_ne (h : l ≠ t.location f.path) (filings : List Filing) :
    linesAt t l (f :: filings) = linesAt t l filings := by
  simp [linesAt, Ne.symm h]

theorem linesAt_eq_nil_iff : linesAt t l filings = [] ↔ ∀ f ∈ filings, t.location f.path ≠ l := by
  simp [linesAt]

end Filing

namespace FileTree

open Filing (linesAt linesAt_cons_of_eq linesAt_cons_of_ne linesAt_eq_nil_iff)

variable {t t' t'' : FileTree} {p : Path} {l : Location} {s : String} {f : Filing} {filings others : List Filing}

-- The tree with a bulletin written, unless a directory cannot be made or the file not be written.
def filed? (t : FileTree) (f : Filing) : Option FileTree :=
  match t.createDirectories f.archive.directory with
  | (true, t)  => t.append f.path f.line
  | (false, _) => none

-- The bulletins are written one after the other, and nothing may fail.
def allFiled? (t : FileTree) (filings : List Filing) : Option FileTree :=
  filings.foldlM filed? t

theorem filed?_eq_some_iff : t.filed? f = some t''
    ↔ ∃ t', t.createDirectories f.archive.directory = (true, t') ∧ t'.append f.path f.line = some t'' := by
  rw [filed?]
  split
  case h_1 t' hd => simp [hd]
  case h_2 hd    => simp [hd]

theorem allFiled?_cons :
    t.allFiled? (f :: filings) = some t'' ↔ ∃ t', t.filed? f = some t' ∧ t'.allFiled? filings = some t'' := by
  rw [allFiled?, List.foldlM_cons, Option.bind_eq_bind, Option.bind_eq_some_iff]
  rfl

theorem allFiled?_append :
    t.allFiled? (filings ++ others) = some t''
      ↔ ∃ t', t.allFiled? filings = some t' ∧ t'.allFiled? others = some t'' := by
  rw [allFiled?, List.foldlM_append, Option.bind_eq_bind, Option.bind_eq_some_iff]
  rfl

theorem run_apply (h : t.filed? f = some t'') :
    (f.archive.apply f.bulletin : StateM FileTree _).run t = (.ok (), t'') := by
  obtain ⟨t', hd, ha⟩ := filed?_eq_some_iff.mp h
  have ha : (Storage.append (f.archive.pathFor f.bulletin) (Archive.line f.bulletin) : StateM FileTree _).run t'
      = (true, t'') := run_append ha
  rw [Archive.apply, run_state_bind, run_createDirectories, hd, if_pos rfl, run_state_bind, ha]
  rfl

theorem run_apply_of_eq_none (h : t.filed? f = none) :
    ((f.archive.apply f.bulletin : StateM FileTree _).run t).1 = .error .storage := by
  rw [Archive.apply, run_state_bind, run_createDirectories]
  rw [filed?] at h
  split at h
  case h_1 t' hd =>
    have ha : (Storage.append (f.archive.pathFor f.bulletin) (Archive.line f.bulletin) : StateM FileTree _).run t'
        = (false, t') := run_append_of_eq_none h
    rw [hd, if_pos rfl, run_state_bind, ha]
    rfl
  case h_2 hd =>
    rw [hd]
    rfl

theorem filed?_of_run_apply (h : ((f.archive.apply f.bulletin : StateM FileTree _).run t).1 = .ok ()) :
    t.filed? f = some ((f.archive.apply f.bulletin : StateM FileTree _).run t).2 := by
  cases hf : t.filed? f
  case some t'' => rw [run_apply hf]
  case none =>
    rw [run_apply_of_eq_none hf] at h
    contradiction

theorem extended_of_filed? (h : t.filed? f = some t'') : Extended t t'' f.path f.line := by
  obtain ⟨t', hd, ha⟩ := filed?_eq_some_iff.mp h
  have hf : Furnished t t' := by simpa [hd] using Furnished.createDirectories t f.archive.directory
  exact .of_furnished hf (.append ha)

theorem grows_of_allFiled? (h : t.allFiled? filings = some t') : Grows t t' := by
  induction filings generalizing t
  case nil =>
    cases h
    exact .refl _
  case cons f filings hi =>
    obtain ⟨t₁, first, others⟩ := allFiled?_cons.mp h
    exact (extended_of_filed? first).grows.trans (hi others)

theorem locate_of_allFiled? (h : t.allFiled? filings = some t') (hf : f ∈ filings) :
    t'.locate f.path = some (t.location f.path) := by
  induction filings generalizing t
  case nil => contradiction
  case cons _ filings hi =>
    obtain ⟨t₁, first, others⟩ := allFiled?_cons.mp h
    have he := extended_of_filed? first
    cases hf
    case head    => exact (grows_of_allFiled? others).locate he.located
    case tail hf => rw [hi others hf, he.grows.location]

-- The first text is behind what was there before, and the others are behind the first.
theorem text?_of_allFiled? (h : t.allFiled? filings = some t') (l : Location) :
    t'.text? l = if linesAt t l filings = [] then t.text? l
      else some ((t.text? l).getD "" ++ String.join (linesAt t l filings)) := by
  induction filings generalizing t
  case nil =>
    cases h
    rfl
  case cons f filings hi =>
    obtain ⟨t₁, first, others⟩ := allFiled?_cons.mp h
    have he := extended_of_filed? first
    have hl : linesAt t₁ l filings = linesAt t l filings := by simp [linesAt, he.grows.location]
    rw [hi others, hl, he.texts]
    by_cases hf : l = t.location f.path
    case neg => rw [if_neg hf, linesAt_cons_of_ne hf]
    case pos =>
      rw [if_pos hf, linesAt_cons_of_eq hf, if_neg (List.cons_ne_nil _ _), Option.getD_some, String.append_assoc,
        String.join_cons]
      split
      case isTrue hn => rw [hn, String.join_nil, String.append_empty]
      case isFalse   => rfl

theorem text?_of_forall_ne (h : t.allFiled? filings = some t') (hl : ∀ f ∈ filings, t.location f.path ≠ l) :
    t'.text? l = t.text? l := by
  rw [text?_of_allFiled? h, if_pos (linesAt_eq_nil_iff.mpr hl)]

theorem readText?_of_forall_ne (h : t.allFiled? filings = some t')
    (hl : ∀ f ∈ filings, t.location f.path ≠ t.location p) (hr : t.readText? p = some s) : t'.readText? p = some s := by
  obtain ⟨hp, hs⟩ := readText?_eq_some_iff.mp hr
  rw [readText?_of_locate ((grows_of_allFiled? h).locate hp), text?_of_forall_ne h hl, hs]

theorem readText?_path (h : t.allFiled? filings = some t') (hf : f ∈ filings) : t'.readText? f.path
    = some ((t.text? (t.location f.path)).getD "" ++ String.join (linesAt t (t.location f.path) filings)) := by
  have hn : linesAt t (t.location f.path) filings ≠ [] := fun h => linesAt_eq_nil_iff.mp h f hf rfl
  rw [readText?_of_locate (locate_of_allFiled? h hf), text?_of_allFiled? h, if_neg hn]

end FileTree
end BulletinPipeline
