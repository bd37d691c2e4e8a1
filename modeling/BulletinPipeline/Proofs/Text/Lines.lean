import BulletinPipeline.Proofs.Text.Blank
import BulletinPipeline.Proofs.Text.Case

namespace BulletinPipeline.Text

variable {c : Char} {cs ds l : List Char} {ts : List (List Char)}

-- The lines of a text. A line ends at a line feed, or at a carriage return and a line feed, and the last one may end
-- with the text.
def lines : List Char → List (List Char)
  | []      => []
  | c :: cs =>
    if c = '\n' then [] :: lines cs
    else if c = '\r' ∧ cs.head? = some '\n' then lines cs
    else match lines cs with
      | []      => [[c]]
      | l :: ls => (c :: l) :: ls

def linesOf (s : String) : List String :=
  (lines s.toList).map String.ofList

-- The text can stand on a line, and nothing of it is taken for the end of the line.
structure OneLine (cs : List Char) : Prop where
  noFeed   : '\n' ∉ cs
  noReturn : cs.getLast? ≠ some '\r'

-- What is left of a line if a line feed follows it.
def unreturned (cs : List Char) : List Char :=
  if cs.getLast? = some '\r' then cs.dropLast else cs

theorem unreturned_eq_self_iff : unreturned cs = cs ↔ cs.getLast? ≠ some '\r' := by
  unfold unreturned
  split
  case isFalse h => simp [h]
  case isTrue h =>
    obtain ⟨bs, rfl⟩ := List.getLast?_eq_some_iff.mp h
    simp

theorem unreturned_cons (h : ¬(c = '\r' ∧ cs = [])) : unreturned (c :: cs) = c :: unreturned cs := by
  cases cs
  case nil       => simpa [unreturned] using h
  case cons d cs =>
    simp only [unreturned, List.getLast?_cons_cons, List.dropLast_cons_cons]
    split <;> rfl

theorem lines_append_feed (h : '\n' ∉ cs) (ds : List Char) : lines (cs ++ '\n' :: ds) = unreturned cs :: lines ds := by
  induction cs
  case nil => simp [lines, unreturned]
  case cons c cs hi =>
    obtain ⟨hc, hs⟩ := List.ne_and_not_mem_of_not_mem_cons h
    have hn : (cs ++ '\n' :: ds).head? = some '\n' ↔ cs = [] := by
      cases cs
      case nil       => simp
      case cons d cs => simpa using (List.ne_of_not_mem_cons hs).symm
    rw [List.cons_append, lines, if_neg hc.symm, hi hs]
    simp only [hn]
    split
    case isTrue hr  => simp [hr, unreturned]
    case isFalse hr => rw [unreturned_cons hr]

theorem feed_not_mem_of_mem_lines (h : l ∈ lines cs) : '\n' ∉ l := by
  induction cs generalizing l
  case nil => contradiction
  case cons c cs hi =>
    rw [lines] at h
    split at h
    case isTrue =>
      cases h
      case head   => simp
      case tail h => exact hi h
    case isFalse hc =>
      split at h
      case isTrue  => exact hi h
      case isFalse =>
        split at h
        case h_1 => simpa [List.mem_singleton.mp h] using Ne.symm hc
        case h_2 k ks hk =>
          rw [hk] at hi
          cases h
          case head   => simpa [Ne.symm hc] using hi List.mem_cons_self
          case tail h => exact hi (.tail k h)

-- A feed inside of one of the texts would be in one of the lines.
theorem lines_flatMap_feed_iff : lines (ts.flatMap (· ++ ['\n'])) = ts ↔ ∀ t ∈ ts, OneLine t := by
  constructor
  case mp =>
    intro h
    have hf : ∀ t ∈ ts, '\n' ∉ t := fun t ht => feed_not_mem_of_mem_lines (h.symm ▸ ht)
    induction ts
    case nil => exact List.forall_mem_nil _
    case cons t ts hi =>
      obtain ⟨ht, hs⟩ := List.forall_mem_cons.mp hf
      rw [List.flatMap_cons, List.append_assoc, List.singleton_append, lines_append_feed ht] at h
      obtain ⟨hr, h⟩ := List.cons_eq_cons.mp h
      exact List.forall_mem_cons.mpr ⟨⟨ht, unreturned_eq_self_iff.mp hr⟩, hi h hs⟩
  case mpr =>
    intro h
    induction ts
    case nil => rfl
    case cons t ts hi =>
      obtain ⟨⟨hf, hr⟩, hs⟩ := List.forall_mem_cons.mp h
      rw [List.flatMap_cons, List.append_assoc, List.singleton_append, lines_append_feed hf,
        unreturned_eq_self_iff.mpr hr, hi hs]

theorem map_toList_linesOf (s : String) : (linesOf s).map String.toList = lines s.toList := by
  simp [linesOf, Function.comp_def]

theorem linesOf_join_iff {ss : List String} :
    linesOf (String.join (ss.map (· ++ "\n"))) = ss ↔ ∀ s ∈ ss, OneLine s.toList := by
  have hi : Function.Injective (List.map String.toList) :=
    List.map_injective_iff.mpr fun _ _ => String.toList_inj.mp
  have hj : (String.join (ss.map (· ++ "\n"))).toList = (ss.map String.toList).flatMap (· ++ ['\n']) := by
    simp [String.toList_join, List.flatMap_map]
  rw [← hi.eq_iff, map_toList_linesOf, hj, lines_flatMap_feed_iff, List.forall_mem_map]

-- One carriage return goes with the feed, and no more.
example : linesOf "a\r\r\n\nb\rc" = ["a\r", "", "b\rc"] := by decide

theorem oneLine_of_last (hf : '\n' ∉ cs) (hl : ∀ c ∈ cs.getLast?, isBlank c = false) : OneLine cs := by
  refine ⟨hf, fun hr => ?_⟩
  have hb := hl _ hr
  contradiction

theorem OneLine.trimChars (h : OneLine cs) : OneLine (trimChars cs) := by
  have ht := trimmed_trimChars cs
  obtain ⟨before, behind, he, _⟩ := ht.around
  refine oneLine_of_last (fun hm => h.noFeed ?_) ht.tight.last
  rw [he]
  simp [hm]

-- Spaces are all the white space that is left.
theorem eq_space_of_mem_collapseChars (h : c ∈ collapseChars cs) (hc : isBlank c) : c = ' ' := by
  induction cs
  case nil => contradiction
  case cons d cs hi =>
    rcases cases_collapseChars d cs with ⟨_, he⟩ | ⟨hd, he | ⟨_, he⟩⟩ <;> rw [he] at h
    · exact hi h
    · cases h
      case head   => simp [hd] at hc
      case tail h => exact hi h
    · cases h
      case head   => simp [hd] at hc
      case tail h =>
        cases h
        case head   => rfl
        case tail h => exact hi h

theorem oneLine_collapseChars (cs : List Char) : OneLine (collapseChars cs) := by
  refine oneLine_of_last (fun hm => ?_) (last_collapseChars cs)
  have hs := eq_space_of_mem_collapseChars hm (by decide)
  contradiction

-- White space is its own capital form, and the capital form of nothing else.
theorem eq_of_mem_upperChars_of_isBlank {d : Char} (h : d ∈ upperChars c) (hd : isBlank d) : d = c := by
  rw [upperChars_of_isBlank (isBlank_of_mem_upperChars h hd)] at h
  exact List.mem_singleton.mp h

theorem feed_mem_flatMap_upperChars_iff : '\n' ∈ cs.flatMap upperChars ↔ '\n' ∈ cs := by
  rw [List.mem_flatMap]
  constructor
  case mp =>
    rintro ⟨c, hc, hm⟩
    exact eq_of_mem_upperChars_of_isBlank hm (by decide) ▸ hc
  case mpr => exact fun hm => ⟨'\n', hm, by decide⟩

theorem OneLine.flatMap_upperChars (h : OneLine cs) : OneLine (cs.flatMap upperChars) := by
  refine ⟨fun hm => h.noFeed (feed_mem_flatMap_upperChars_iff.mp hm), fun hr => h.noReturn ?_⟩
  cases hc : cs.getLast?
  case none => simp [List.getLast?_eq_none_iff.mp hc] at hr
  case some c =>
    obtain ⟨bs, rfl⟩ := List.getLast?_eq_some_iff.mp hc
    rw [List.flatMap_append, List.flatMap_singleton, List.getLast?_append_of_ne_nil _ (upperChars_ne_nil c)] at hr
    rw [eq_of_mem_upperChars_of_isBlank (List.mem_of_getLast? hr) (by decide)]

theorem tight_flatMap_upperChars (h : Tight cs) : Tight (cs.flatMap upperChars) := by
  refine ⟨fun d hd => ?_, last_flatMap_upperChars h.last⟩
  cases cs
  case nil => contradiction
  case cons c cs =>
    rw [List.flatMap_cons, List.head?_append_of_ne_nil _ (upperChars_ne_nil c)] at hd
    refine Bool.eq_false_iff.mpr fun hb => ?_
    have hs := isBlank_of_mem_upperChars (List.mem_of_mem_head? hd) hb
    simp [bare_cons.mp h.bare] at hs

end BulletinPipeline.Text
