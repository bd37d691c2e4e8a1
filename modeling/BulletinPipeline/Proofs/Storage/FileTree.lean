import BulletinPipeline.Storage.FileTree
import Mathlib.Tactic.Basic

namespace BulletinPipeline
namespace FileTree

variable {t t' t'' : FileTree} {p : Path} {l k : Location} {s text : String} {ss : List String}

-- Goes on by one part of a path.
def step (l : Location) (s : String) : Location :=
  if s = "." then l else if s = ".." then l.dropLast else l ++ [s]

-- What a path stands for, also if there is no way to it yet.
def location (t : FileTree) (p : Path) : Location :=
  (steps p).foldl step (if p.isAbsolute then [] else t.home)

def Entry.text? : Entry → Option String
  | file s    => some s
  | directory => none

-- The text of the file at a location, if there is one.
def text? (t : FileTree) (l : Location) : Option String :=
  (t.entry? l).bind Entry.text?

theorem walk_eq_some (h : t.walk l ss = some k) : ss.foldl step l = k := by
  induction ss generalizing l
  case nil => simpa [walk] using h
  case cons s ss hi =>
    rw [walk] at h
    split at h
    · exact hi h
    · contradiction

theorem locate_eq_some (h : t.locate p = some l) : t.location p = l := by
  rw [locate] at h
  split at h
  · contradiction
  · exact walk_eq_some h

theorem locate_of_place? (h : t.place? p = some l) : t.locate p = some l := by
  rw [place?] at h
  split at h
  case h_1 hl _ =>
    split at h
    · contradiction
    · rw [hl, h]
  case h_2 => contradiction

theorem readText?_of_locate (h : t.locate p = some l) : t.readText? p = t.text? l := by
  rw [readText?, h, text?, Option.bind_some]
  cases t.entry? l
  case none   => rfl
  case some e => cases e <;> rfl

theorem readText?_eq_some_iff : t.readText? p = some s
    ↔ t.locate p = some (t.location p) ∧ t.text? (t.location p) = some s := by
  constructor
  case mp =>
    intro h
    cases hl : t.locate p
    case none => simp [readText?, hl] at h
    case some l =>
      rw [readText?_of_locate hl] at h
      rw [locate_eq_some hl]
      exact ⟨rfl, h⟩
  case mpr => exact fun ⟨hl, h⟩ => (readText?_of_locate hl).trans h

-- The root is a directory.
theorem ne_nil_of_no_directory (h : t.entry? l ≠ some .directory) : l ≠ [] := by
  rintro rfl
  exact h (if_pos rfl)

theorem lookup_filter_ne (h : k ≠ l) (es : List (Location × Entry)) :
    (es.filter (·.1 ≠ l)).lookup k = es.lookup k := by
  induction es
  case nil => rfl
  case cons e es hi =>
    by_cases he : e.1 = l
    case pos =>
      have hk : (k == e.1) = false := beq_false_of_ne (he ▸ h)
      rw [List.filter_cons_of_neg (by simp [he]), hi, List.lookup_cons, hk]
    case neg =>
      rw [List.filter_cons_of_pos (by simp [he]), List.lookup_cons, List.lookup_cons, hi]

theorem entry?_put (h : l ≠ []) (t : FileTree) (e : Entry) (k : Location) :
    entry? (t.put l e) k = if k = l then some e else t.entry? k := by
  by_cases hk : k = l
  case pos => simp [put, entry?, hk, h]
  case neg => simp only [put, entry?, if_neg hk, List.lookup_cons, beq_false_of_ne hk, lookup_filter_ne hk]

theorem text?_put (h : l ≠ []) (t : FileTree) (e : Entry) (k : Location) :
    (t.put l e).text? k = if k = l then e.text? else t.text? k := by
  rw [text?, entry?_put h]
  split <;> rfl

-- Directories stay where they are, so that the ways through them stay open.
structure Grows (t t' : FileTree) : Prop where
  home        : t'.home = t.home
  directories : ∀ l, t.entry? l = some .directory → t'.entry? l = some .directory

namespace Grows

theorem refl (t : FileTree) : Grows t t :=
  ⟨rfl, fun _ h => h⟩

theorem trans (h : Grows t t') (h' : Grows t' t'') : Grows t t'' :=
  ⟨h'.home.trans h.home, fun l hl => h'.directories l (h.directories l hl)⟩

theorem of_put (h : t.entry? l ≠ some .directory) (e : Entry) : Grows t (t.put l e) := by
  refine ⟨rfl, fun k hk => ?_⟩
  have hn : k ≠ l := fun he => h (he ▸ hk)
  rw [entry?_put (ne_nil_of_no_directory h), if_neg hn, hk]

theorem location (h : Grows t t') (p : Path) : t'.location p = t.location p := by
  rw [FileTree.location, h.home, FileTree.location]

theorem walk (h : Grows t t') (hw : t.walk l ss = some k) : t'.walk l ss = some k := by
  induction ss generalizing l
  case nil => exact hw
  case cons s ss hi =>
    rw [FileTree.walk] at hw ⊢
    split at hw
    case isTrue hl  => rw [if_pos (h.directories l hl), hi hw]
    case isFalse hl => contradiction

theorem locate (h : Grows t t') (hl : t.locate p = some l) : t'.locate p = some l := by
  rw [FileTree.locate] at hl ⊢
  split at hl
  case isTrue  => contradiction
  case isFalse he => rw [if_neg he, h.home, h.walk hl]

end Grows

-- Directories are all that was made.
structure Furnished (t t' : FileTree) : Prop where
  grows : Grows t t'
  texts : ∀ l, t'.text? l = t.text? l

namespace Furnished

theorem refl (t : FileTree) : Furnished t t :=
  ⟨.refl t, fun _ => rfl⟩

theorem trans (h : Furnished t t') (h' : Furnished t' t'') : Furnished t t'' :=
  ⟨h.grows.trans h'.grows, fun l => (h'.texts l).trans (h.texts l)⟩

theorem of_put (h : t.entry? l = none) : Furnished t (t.put l .directory) := by
  have hn : t.entry? l ≠ some .directory := by simp [h]
  refine ⟨.of_put hn _, fun k => ?_⟩
  rw [text?_put (ne_nil_of_no_directory hn)]
  split
  case isTrue hk => rw [hk, text?, h, Option.bind_none, Entry.text?]
  case isFalse   => rfl

theorem createDirectory (h : t.createDirectory p = some t') : Furnished t t' := by
  rw [FileTree.createDirectory] at h
  split at h
  case isTrue =>
    cases h
    exact .refl t
  case isFalse =>
    obtain ⟨l, _, h⟩ := Option.bind_eq_some_iff.mp h
    split at h
    case isTrue hl =>
      cases h
      exact .of_put (Option.isNone_iff_eq_none.mp hl)
    case isFalse => contradiction

-- The directories that were made before one fails are there as well.
theorem createDirectories (t : FileTree) (p : Path) : Furnished t (t.createDirectories p).2 := by
  rw [FileTree.createDirectories]
  split
  case isTrue => exact .refl t
  case isFalse =>
    refine List.foldlRecOn (motive := fun s : Bool × FileTree => Furnished t s.2) _ _ (.refl t) ?_
    rintro ⟨ok, t'⟩ h q -
    cases ok
    case false => exact h
    case true =>
      cases hq : t'.createDirectory q
      case none   => simpa [hq] using h
      case some t => simpa [hq] using h.trans (createDirectory hq)

end Furnished

-- A text was put behind what a path stands for, and no other file is changed.
structure Extended (t t' : FileTree) (p : Path) (text : String) : Prop where
  grows   : Grows t t'
  located : t'.locate p = some (t.location p)
  texts   : ∀ l, t'.text? l = if l = t.location p then some ((t.text? l).getD "" ++ text) else t.text? l

namespace Extended

theorem of_put (hp : t.locate p = some l) (hl : t.entry? l ≠ some .directory)
    (hs : s = (t.text? l).getD "" ++ text) : Extended t (t.put l (.file s)) p text := by
  have hg : Grows t (t.put l (.file s)) := .of_put hl _
  refine ⟨hg, locate_eq_some hp ▸ hg.locate hp, fun k => ?_⟩
  rw [locate_eq_some hp, text?_put (ne_nil_of_no_directory hl), Entry.text?, hs]
  split
  case isTrue hk => rw [hk]
  case isFalse   => rfl

theorem append (h : t.append p text = some t') : Extended t t' p text := by
  obtain ⟨l, hp, h⟩ := Option.bind_eq_some_iff.mp h
  have hp : t.locate p = some l := locate_of_place? hp
  split at h
  case h_1 s hl =>
    cases h
    exact .of_put hp (by simp [hl]) (by simp [text?, Entry.text?, hl])
  case h_2 => contradiction
  case h_3 hl =>
    cases h
    exact .of_put hp (by simp [hl]) (by simp [text?, hl])

theorem of_furnished (h : Furnished t t') (h' : Extended t' t'' p text) : Extended t t'' p text := by
  refine ⟨h.grows.trans h'.grows, h.grows.location p ▸ h'.located, fun l => ?_⟩
  rw [h'.texts, h.texts, h.grows.location]

end Extended

theorem run_readText? (t : FileTree) (p : Path) :
    (Storage.readText? p : StateM FileTree _).run t = (t.readText? p, t) :=
  rfl

theorem run_createDirectories (t : FileTree) (p : Path) :
    (Storage.createDirectories p : StateM FileTree _).run t = t.createDirectories p :=
  rfl

theorem run_append (h : t.append p text = some t') :
    (Storage.append p text : StateM FileTree _).run t = (true, t') := by
  simp only [Storage.append, StateT.run, h]

theorem run_append_of_eq_none (h : t.append p text = none) :
    (Storage.append p text : StateM FileTree _).run t = (false, t) := by
  simp only [Storage.append, StateT.run, h]

end FileTree
end BulletinPipeline
