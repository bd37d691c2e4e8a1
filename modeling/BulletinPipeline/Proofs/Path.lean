import BulletinPipeline.Path
import Mathlib.Algebra.Order.BigOperators.Group.List
import Mathlib.Algebra.Order.Group.Nat

namespace BulletinPipeline
namespace Path

variable {cs ds : List Char} {p q root : Path} {absolute : Bool} {ps qs before below : List String} {n m : Nat}
  {part name : String}

theorem splitSlashes_ne_nil (cs : List Char) : splitSlashes cs ≠ [] := by
  cases cs
  case nil => simp [splitSlashes]
  case cons c cs =>
    rw [splitSlashes]
    split
    · simp
    · split <;> simp

theorem splitSlashes_cons {c : Char} (hc : c ≠ '/') {w : List Char} {ws : List (List Char)}
    (h : splitSlashes cs = w :: ws) : splitSlashes (c :: cs) = (c :: w) :: ws := by
  rw [splitSlashes, if_neg hc, h]

-- A slash sets apart what stands before it.
theorem splitSlashes_slash (cs ds : List Char) :
    splitSlashes (cs ++ '/' :: ds) = splitSlashes cs ++ splitSlashes ds := by
  induction cs
  case nil => simp [splitSlashes]
  case cons c cs hi =>
    by_cases hc : c = '/'
    case pos => simp [splitSlashes, hc, hi]
    case neg =>
      obtain ⟨w, ws, h⟩ := List.exists_cons_of_ne_nil (splitSlashes_ne_nil cs)
      rw [h] at hi
      rw [List.cons_append, splitSlashes_cons hc hi, splitSlashes_cons hc h]
      rfl

-- What has no slash belongs to the first part.
theorem splitSlashes_append (h : '/' ∉ cs) {w : List Char} {ws : List (List Char)} (hd : splitSlashes ds = w :: ws) :
    splitSlashes (cs ++ ds) = (cs ++ w) :: ws := by
  induction cs
  case nil => exact hd
  case cons c cs hi =>
    obtain ⟨hc, hs⟩ := not_or.mp (List.mem_cons.not.mp h)
    exact splitSlashes_cons (Ne.symm hc) (hi hs)

-- The names among what stands between slashes.
def names (ws : List (List Char)) : List String :=
  ws.filterMap fun w => if w.isEmpty then none else some (String.ofList w)

theorem parts_eq (p : Path) : p.parts = names (splitSlashes p.toList) :=
  rfl

theorem names_append (vs ws : List (List Char)) : names (vs ++ ws) = names vs ++ names ws :=
  List.filterMap_append

-- The parts behind the first slash.
def deeper (s : String) : List String :=
  names (splitSlashes s.toList).tail

theorem isAbsolute_append (hp : p ≠ "") (hs : '/' ∉ p.toList) (s : String) : isAbsolute (p ++ s) = false := by
  obtain ⟨c, cs, h⟩ := List.exists_cons_of_ne_nil (mt String.toList_eq_nil_iff.mp hp)
  rw [h, List.mem_cons, not_or] at hs
  simp [isAbsolute, h, Ne.symm hs.1]

-- A text without slashes before another one begins its first part.
theorem exists_parts_append (hp : p ≠ "") (hs : '/' ∉ p.toList) (s : String) :
    ∃ first : String, (p ++ s).parts = (p ++ first) :: deeper s := by
  obtain ⟨w, ws, h⟩ := List.exists_cons_of_ne_nil (splitSlashes_ne_nil s.toList)
  refine ⟨String.ofList w, ?_⟩
  have hn : (p.toList ++ w).isEmpty = false := by simp [hp]
  rw [parts_eq, String.toList_append, splitSlashes_append hs h, deeper, h, names, List.filterMap_cons, hn]
  simp [names]

theorem parts_of_no_slash (hp : p ≠ "") (hs : '/' ∉ p.toList) : p.parts = [p] := by
  have hw : splitSlashes (p.toList ++ []) = [p.toList ++ []] := splitSlashes_append hs rfl
  rw [List.append_nil] at hw
  simp [parts_eq, hw, names, hp]

theorem isAbsolute_join (h : q.isAbsolute = false) : (p.join q).isAbsolute = p.isAbsolute := by
  rw [join, if_neg (by simp [h])]
  cases hp : p.toList
  case nil =>
    have : p = "" := String.toList_eq_nil_iff.mp hp
    subst this
    simpa [isAbsolute] using h
  case cons c cs =>
    split <;> simp [isAbsolute, hp]

theorem parts_join (h : q.isAbsolute = false) : (p.join q).parts = p.parts ++ q.parts := by
  have hs (cs : List Char) : names (splitSlashes (cs ++ '/' :: q.toList)) = names (splitSlashes cs) ++ q.parts := by
    rw [splitSlashes_slash, names_append, parts_eq]
  rw [join, if_neg (by simp [h])]
  split
  case isFalse =>
    simpa [parts_eq] using hs p.toList
  case isTrue hp =>
    cases hp
    case inl hp =>
      have : p = "" := by simpa using hp
      subst this
      simp [parts_eq, splitSlashes, names]
    case inr hp =>
      obtain ⟨cs, hc⟩ := List.getLast?_eq_some_iff.mp hp
      have hn : names (splitSlashes (cs ++ ['/'])) = names (splitSlashes cs) := by
        rw [splitSlashes_slash, names_append]
        simp [splitSlashes, names]
      simpa [parts_eq, hc, hn] using hs cs

theorem join_of_isAbsolute (h : q.isAbsolute) : p.join q = q := by
  simp [join, h]

-- One part more, behind the parts before it, which are given backwards. There is nothing above the root of an
-- absolute path.
def push (absolute : Bool) (before : List String) (part : String) : List String :=
  if part = "." then before
  else if part = ".." then
    match before with
    | []             => if absolute then [] else [".."]
    | name :: before => if name = ".." then ".." :: name :: before else before
  else part :: before

theorem eq_dot_or (part : String) : part = "." ∨ part = ".." ∨ part ≠ "." ∧ part ≠ ".." := by
  tauto

theorem push_dot : push absolute before "." = before :=
  rfl

theorem push_back (h : name ≠ "..") : push absolute (name :: before) ".." = before := by
  simp [push, h]

theorem push_name (h : part ≠ "." ∧ part ≠ "..") : push absolute before part = part :: before := by
  simp [push, h]

-- The parts that are left of a path once dots are resolved. A relative path may begin with double dots.
def resolved (p : Path) : List String :=
  (p.parts.foldl (push p.isAbsolute) []).reverse

-- The path lies below the root, and is not the root itself.
structure Inside (root p : Path) : Prop where
  isAbsolute : p.isAbsolute = root.isAbsolute
  below      : ∃ names, names ≠ [] ∧ ".." ∉ names ∧ p.resolved = root.resolved ++ names

-- How far below its start a walk along parts ends, if it never goes above it.
def depth? : Nat → List String → Option Nat
  | n, []      => some n
  | n, p :: ps =>
    if p = "." then depth? n ps
    else if p = ".." then
      if n = 0 then none else depth? (n - 1) ps
    else depth? (n + 1) ps

theorem depth?_name (h : part ≠ "." ∧ part ≠ "..") : depth? n (part :: ps) = depth? (n + 1) ps := by
  simp [depth?, h]

theorem depth?_append : depth? n (ps ++ qs) = (depth? n ps).bind (depth? · qs) := by
  induction ps generalizing n
  case nil => rfl
  case cons p ps hi =>
    simp only [List.cons_append, depth?]
    split
    · exact hi
    · split
      · split
        · rfl
        · exact hi
      · exact hi

-- Nothing of what was there before the walk is touched.
theorem exists_foldl_push (absolute : Bool) (below before : List String) (h : depth? below.length ps = some n)
    (hb : ".." ∉ below) :
    ∃ names, names.length = n ∧ ".." ∉ names ∧ ps.foldl (push absolute) (below ++ before) = names ++ before := by
  induction ps generalizing below
  case nil => exact ⟨below, by simpa [depth?] using h, hb, rfl⟩
  case cons p ps hi =>
    rw [List.foldl_cons]
    rcases eq_dot_or p with rfl | rfl | hp
    · rw [push_dot]
      exact hi below h hb
    · cases below
      case nil => contradiction
      case cons name below =>
        obtain ⟨hn, hb⟩ := not_or.mp (List.mem_cons.not.mp hb)
        rw [List.cons_append, push_back (Ne.symm hn)]
        exact hi below h hb
    · rw [push_name hp]
      rw [depth?_name hp] at h
      exact hi (p :: below) h (by simp [hb, hp.2.symm])

-- A name that is not on the way does not come up.
theorem not_mem_foldl_push (hn : name ≠ "..") (hb : name ∉ before) (hp : name ∉ ps) :
    name ∉ ps.foldl (push absolute) before := by
  induction ps generalizing before
  case nil => exact hb
  case cons p ps hi =>
    obtain ⟨hp, hs⟩ := not_or.mp (List.mem_cons.not.mp hp)
    refine hi ?_ hs
    unfold push
    split
    · exact hb
    · split
      · cases before
        case nil => cases absolute <;> simp [hn]
        case cons b before =>
          obtain ⟨hb, hs⟩ := not_or.mp (List.mem_cons.not.mp hb)
          dsimp only
          split <;> simp [*]
      · simp [*]

-- A walk that goes above its start loses what it started from.
theorem not_mem_of_depth?_eq_none (absolute : Bool) (below : List String) (h : depth? below.length ps = none)
    (hb : ".." ∉ below) (hn : name ≠ "..") (hm : name ∉ below) (hp : name ∉ ps) :
    name ∉ ps.foldl (push absolute) (below ++ [name]) := by
  induction ps generalizing below
  case nil => contradiction
  case cons p ps hi =>
    obtain ⟨hq, hs⟩ := not_or.mp (List.mem_cons.not.mp hp)
    rw [List.foldl_cons]
    rcases eq_dot_or p with rfl | rfl | hp
    · rw [push_dot]
      exact hi below h hb hm hs
    · cases below
      case nil =>
        rw [List.nil_append, push_back hn]
        exact not_mem_foldl_push hn (by simp) hs
      case cons b below =>
        obtain ⟨hd, hb⟩ := not_or.mp (List.mem_cons.not.mp hb)
        obtain ⟨_, hm⟩ := not_or.mp (List.mem_cons.not.mp hm)
        rw [List.cons_append, push_back (Ne.symm hd)]
        exact hi below h hb hm hs
    · rw [push_name hp]
      rw [depth?_name hp] at h
      exact hi (p :: below) h (by simp [hb, hp.2.symm]) (by simp [hm, hq]) hs

theorem inside_of_depth? (ha : p.isAbsolute = root.isAbsolute) (hp : p.parts = root.parts ++ ps)
    (h : depth? 0 ps = some (n + 1)) : Inside root p := by
  obtain ⟨names, hl, hn, hf⟩ :=
    exists_foldl_push root.isAbsolute [] (root.parts.foldl (push root.isAbsolute) []) h (by simp)
  refine ⟨ha, names.reverse, by simp [← List.length_eq_zero_iff, hl], by simpa using hn, ?_⟩
  rw [resolved, resolved, ha, hp, List.foldl_append, ← List.reverse_append, ← hf, List.nil_append]

-- Some directory is not on the way.
theorem exists_root (ps : List String) : ∃ root : Path, root.parts = [root]
    ∧ (root ≠ "." ∧ root ≠ "..") ∧ root ∉ ps := by
  let n := (ps.map String.length).sum
  have ht (s : String) (h : s.toList.head? ≠ some 'r') : String.ofList (List.replicate (n + 1) 'r') ≠ s := by
    rintro rfl
    simp [List.replicate_succ] at h
  refine ⟨String.ofList (List.replicate (n + 1) 'r'), parts_of_no_slash (ht _ ?_) ?_, ⟨ht _ ?_, ht _ ?_⟩,
    fun hm => ?_⟩
  · simp
  · simp
  · decide
  · decide
  · have := List.le_sum_of_mem (List.mem_map_of_mem (f := String.length) hm)
    simp [n] at this

theorem exists_depth?_of_inside (hr : root.parts = [root]) (hd : root ≠ "." ∧ root ≠ "..") (hm : root ∉ ps)
    (hp : p.parts = root.parts ++ ps) (h : Inside root p) : ∃ n, depth? 0 ps = some (n + 1) := by
  obtain ⟨ha, names, hn, _, he⟩ := h
  rw [resolved, resolved, ha, hp, hr, List.foldl_append, List.foldl_cons, List.foldl_nil, push_name hd,
    List.reverse_eq_iff, List.reverse_append, List.reverse_reverse] at he
  cases hw : depth? 0 ps
  case none =>
    have hl := not_mem_of_depth?_eq_none root.isAbsolute [] hw (by simp) hd.2 (by simp) hm
    rw [List.nil_append, he] at hl
    simp at hl
  case some n =>
    obtain ⟨below, hl, _, hf⟩ := exists_foldl_push root.isAbsolute [] [root] hw (by simp)
    cases n
    case succ n => exact ⟨n, rfl⟩
    case zero   =>
      rw [List.length_eq_zero_iff.mp hl, List.nil_append, he] at hf
      simp [hn] at hf

end Path
end BulletinPipeline
