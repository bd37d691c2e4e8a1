import BulletinPipeline.Text.Blank
import Mathlib.Data.List.TakeWhile

namespace BulletinPipeline.Text

variable {c d : Char} {cs body gap w : List Char}

-- The text does not begin in white space.
def Bare (cs : List Char) : Prop :=
  ∀ c ∈ cs.head?, isBlank c = false

theorem bare_cons : Bare (c :: cs) ↔ isBlank c = false := by
  simp [Bare]

theorem Bare.append (h : Bare cs) (hn : cs ≠ []) (ds : List Char) : Bare (cs ++ ds) := by
  cases cs
  case nil       => contradiction
  case cons c cs => exact h

theorem bare_trimLeft (cs : List Char) : Bare (trimLeft cs) := by
  intro c hc
  have h := List.head?_dropWhile_not isBlank cs
  rw [trimLeft] at hc
  rwa [Option.mem_def.mp hc] at h

theorem trimLeft_append (hg : ∀ c ∈ gap, isBlank c) (hc : Bare cs) : trimLeft (gap ++ cs) = cs := by
  rw [trimLeft, List.dropWhile_append_of_pos hg]
  cases cs
  case nil       => rfl
  case cons c cs => simp [bare_cons.mp hc]

-- The text has no white space around it.
structure Tight (cs : List Char) : Prop where
  bare : Bare cs
  last : ∀ c ∈ cs.getLast?, isBlank c = false

-- What is left of a text without the white space around it.
structure Trimmed (cs body : List Char) : Prop where
  around : ∃ before behind, cs = before ++ body ++ behind ∧ (∀ c ∈ before, isBlank c) ∧ ∀ c ∈ behind, isBlank c
  tight  : Tight body

theorem trimRight_append (hg : ∀ c ∈ gap, isBlank c) (hc : Tight cs) : trimRight (cs ++ gap) = cs := by
  have hr : Bare cs.reverse := by
    intro c h
    exact hc.last c (by simpa using h)
  have hb : trimLeft (gap.reverse ++ cs.reverse) = cs.reverse := trimLeft_append (by simpa using hg) hr
  rw [trimRight, List.reverse_append, ← trimLeft, hb, List.reverse_reverse]

theorem trimmed_trimChars (cs : List Char) : Trimmed cs (trimChars cs) := by
  have hl : cs.takeWhile isBlank ++ trimLeft cs = cs := List.takeWhile_append_dropWhile
  have hr : trimChars cs ++ ((trimLeft cs).reverse.takeWhile isBlank).reverse = trimLeft cs := by
    rw [trimChars, trimRight, ← List.reverse_append, List.takeWhile_append_dropWhile, List.reverse_reverse]
  refine ⟨⟨_, _, ((List.append_assoc ..).trans (hr.symm ▸ hl)).symm, ?_, ?_⟩, ?_, ?_⟩
  · exact fun c hc => List.mem_takeWhile_imp hc
  · exact fun c hc => List.mem_takeWhile_imp (List.mem_reverse.mp hc)
  · intro c hc
    refine bare_trimLeft cs c ?_
    rw [← hr, List.head?_append, Option.mem_def.mp hc]
    rfl
  · intro c hc
    refine bare_trimLeft (trimLeft cs).reverse c ?_
    rw [trimChars, trimRight, List.getLast?_reverse] at hc
    exact hc

theorem Trimmed.eq (h : Trimmed cs body) : trimChars cs = body := by
  obtain ⟨⟨before, behind, rfl, hb, ha⟩, ht⟩ := h
  by_cases hn : body = []
  case pos =>
    subst hn
    have hl : trimLeft (before ++ behind ++ []) = [] := trimLeft_append (List.forall_mem_append.mpr ⟨hb, ha⟩) nofun
    rw [List.append_nil] at hl ⊢
    rw [trimChars, hl]
    rfl
  case neg =>
    rw [trimChars, List.append_assoc, trimLeft_append hb (ht.bare.append hn behind), trimRight_append ha ht]

theorem Tight.trimChars_eq (h : Tight cs) : trimChars cs = cs :=
  Trimmed.eq ⟨⟨[], [], by simp, by simp, by simp⟩, h⟩

theorem words_blank (hc : isBlank c) (cs : List Char) : words (c :: cs) = words cs := by
  simp [words, hc]

theorem words_append (hg : ∀ c ∈ gap, isBlank c) (cs : List Char) : words (gap ++ cs) = words cs := by
  induction gap
  case nil => rfl
  case cons c gap hi =>
    obtain ⟨hc, hg⟩ := List.forall_mem_cons.mp hg
    rw [List.cons_append, words_blank hc, hi hg]

-- A character starts a word of its own if white space or nothing follows it.
theorem words_cons (hc : isBlank c = false) (hn : Bare cs → cs = []) : words (c :: cs) = [c] :: words cs := by
  cases cs
  case nil => simp [words, hc]
  case cons d cs =>
    have hd : isBlank d := by
      by_contra hd
      exact List.cons_ne_nil d cs (hn (bare_cons.mpr (by simpa using hd)))
    cases hw : words (d :: cs) <;> simp [words.eq_def (c :: d :: cs), hc, hd, hw]

-- Otherwise it goes to the front of the first word.
theorem words_cons_bare (hc : isBlank c = false) (hb : Bare cs) (hn : cs ≠ []) :
    ∃ w ws, words cs = w :: ws ∧ words (c :: cs) = (c :: w) :: ws := by
  cases cs
  case nil => contradiction
  case cons d cs =>
    have hd := bare_cons.mp hb
    obtain ⟨w, ws, hw⟩ : ∃ w ws, words (d :: cs) = w :: ws := by
      rw [words.eq_def]
      dsimp only
      rw [if_neg (by simp [hd])]
      split
      · split <;> exact ⟨_, _, rfl⟩
      · exact ⟨_, _, rfl⟩
    exact ⟨w, ws, hw, by simp [words.eq_def (c :: d :: cs), hc, hd, hw]⟩

theorem words_eq_nil_iff : words cs = [] ↔ ∀ c ∈ cs, isBlank c := by
  induction cs
  case nil => simp [words]
  case cons c cs hi =>
    cases hc : isBlank c
    case true => rw [words_blank hc, hi, List.forall_mem_cons, hc, eq_self_iff_true, true_and]
    case false =>
      refine iff_of_false ?_ fun h => by simp [hc] at h
      by_cases hn : Bare cs → cs = []
      case pos => simp [words_cons hc hn]
      case neg =>
        obtain ⟨hb, hn⟩ := Classical.not_imp.mp hn
        obtain ⟨w, ws, _, hw⟩ := words_cons_bare hc hb hn
        simp [hw]

-- A text with one space for every run of white space inside, and none around it.
def collapseChars (cs : List Char) : List Char :=
  [' '].intercalate (words cs)

theorem collapse_eq (s : String) : collapse s = String.ofList (collapseChars s.toList) :=
  rfl

theorem collapseChars_blank (hc : isBlank c) (cs : List Char) : collapseChars (c :: cs) = collapseChars cs := by
  rw [collapseChars, words_blank hc, collapseChars]

theorem collapseChars_append (hg : ∀ c ∈ gap, isBlank c) (cs : List Char) :
    collapseChars (gap ++ cs) = collapseChars cs := by
  rw [collapseChars, words_append hg, collapseChars]

theorem collapseChars_cons (hc : isBlank c = false) (h : Bare cs ∨ ∀ d ∈ cs, isBlank d) :
    collapseChars (c :: cs) = c :: collapseChars cs := by
  by_cases hn : Bare cs → cs = []
  case pos =>
    have hw : words cs = [] := by
      refine words_eq_nil_iff.mpr ?_
      cases h
      case inl hb => simp [hn hb]
      case inr h  => exact h
    rw [collapseChars, collapseChars, words_cons hc hn, hw]
    rfl
  case neg =>
    obtain ⟨hb, hn⟩ := Classical.not_imp.mp hn
    obtain ⟨w, ws, hw, hv⟩ := words_cons_bare hc hb hn
    rw [collapseChars, collapseChars, hw, hv]
    cases ws <;> simp [List.intercalate_cons_cons]

theorem collapseChars_single (hc : isBlank c = false) : collapseChars [c] = [c] :=
  collapseChars_cons hc (.inr (List.forall_mem_nil _))

theorem collapseChars_cons_gap (hc : isBlank c = false) (hb : ¬Bare cs) (hn : ∃ d ∈ cs, isBlank d = false) :
    collapseChars (c :: cs) = c :: ' ' :: collapseChars cs := by
  have hw : words cs ≠ [] := by simpa [words_eq_nil_iff] using hn
  obtain ⟨w, ws, hw⟩ := List.exists_cons_of_ne_nil hw
  rw [collapseChars, collapseChars, words_cons hc fun h => absurd h hb, hw, List.intercalate_cons_cons]
  rfl

-- Every character is kept, perhaps with a space behind it, or is white space and left out.
theorem cases_collapseChars (c : Char) (cs : List Char) : isBlank c ∧ collapseChars (c :: cs) = collapseChars cs
    ∨ isBlank c = false ∧ (collapseChars (c :: cs) = c :: collapseChars cs
      ∨ (∃ d ∈ cs, isBlank d = false) ∧ collapseChars (c :: cs) = c :: ' ' :: collapseChars cs) := by
  cases hc : isBlank c
  case true => exact .inl ⟨rfl, collapseChars_blank hc cs⟩
  case false =>
    refine .inr ⟨rfl, ?_⟩
    by_cases h : Bare cs ∨ ∀ d ∈ cs, isBlank d
    case pos => exact .inl (collapseChars_cons hc h)
    case neg =>
      obtain ⟨hb, hn⟩ := not_or.mp h
      have hn : ∃ d ∈ cs, isBlank d = false := by simpa using hn
      exact .inr ⟨hn, collapseChars_cons_gap hc hb hn⟩

theorem mem_collapseChars (h : d ∈ collapseChars cs) : d ∈ cs ∨ d = ' ' := by
  induction cs
  case nil => exact .inl h
  case cons c cs hi =>
    rcases cases_collapseChars c cs with ⟨_, hc⟩ | ⟨_, hc | ⟨_, hc⟩⟩ <;> rw [hc] at h
    · exact (hi h).imp_left (List.mem_cons_of_mem c)
    · cases h
      case head   => exact .inl List.mem_cons_self
      case tail h => exact (hi h).imp_left (List.mem_cons_of_mem c)
    · cases h
      case head   => exact .inl List.mem_cons_self
      case tail h =>
        cases h
        case head   => exact .inr rfl
        case tail h => exact (hi h).imp_left (List.mem_cons_of_mem c)

theorem collapseChars_ne_nil (h : ∃ c ∈ cs, isBlank c = false) : collapseChars cs ≠ [] := by
  induction cs
  case nil => simp at h
  case cons c cs hi =>
    rcases cases_collapseChars c cs with ⟨hb, hc⟩ | ⟨_, hc | ⟨_, hc⟩⟩ <;> rw [hc]
    · refine hi ?_
      simpa [hb] using h
    · exact List.cons_ne_nil _ _
    · exact List.cons_ne_nil _ _

theorem last_collapseChars (cs : List Char) : ∀ c ∈ (collapseChars cs).getLast?, isBlank c = false := by
  induction cs
  case nil => nofun
  case cons c cs hi =>
    rcases cases_collapseChars c cs with ⟨_, hc⟩ | ⟨hb, hc | ⟨hn, hc⟩⟩ <;> rw [hc]
    · exact hi
    · by_cases hn : collapseChars cs = []
      case pos => simp [hn, hb]
      case neg => rwa [List.getLast?_cons_of_ne_nil hn]
    · rwa [List.getLast?_cons_of_ne_nil (List.cons_ne_nil _ _), List.getLast?_cons_of_ne_nil (collapseChars_ne_nil hn)]

theorem bare_of_forall (h : ∀ c ∈ cs, isBlank c = false) : Bare cs :=
  fun c hc => h c (List.mem_of_mem_head? hc)

theorem tight_of_forall (h : ∀ c ∈ cs, isBlank c = false) : Tight cs :=
  ⟨bare_of_forall h, fun c hc => h c (List.mem_of_getLast? hc)⟩

-- What has no white space stays as it is in front.
theorem exists_collapseChars_append (hw : ∀ c ∈ w, isBlank c = false) (cs : List Char) :
    ∃ ds, collapseChars (w ++ cs) = w ++ ds := by
  induction w
  case nil => exact ⟨_, rfl⟩
  case cons c w hi =>
    obtain ⟨hc, hw⟩ := List.forall_mem_cons.mp hw
    by_cases hn : w = []
    case pos =>
      subst hn
      rcases cases_collapseChars c cs with ⟨hb, _⟩ | ⟨_, h | ⟨_, h⟩⟩
      · simp [hc] at hb
      · exact ⟨_, h⟩
      · exact ⟨_, h⟩
    case neg =>
      obtain ⟨ds, hd⟩ := hi hw
      have hb := (bare_of_forall hw).append hn cs
      exact ⟨ds, by rw [List.cons_append, collapseChars_cons hc (.inl hb), hd, List.cons_append]⟩

-- A word, and what follows it behind one space.
theorem collapseChars_word (hw : ∀ c ∈ w, isBlank c = false) (hn : w ≠ []) (hg : ∀ c ∈ gap, isBlank c) (hs : gap ≠ [])
    (hc : ∃ c ∈ cs, isBlank c = false) : collapseChars (w ++ (gap ++ cs)) = w ++ ' ' :: collapseChars cs := by
  induction w
  case nil => exact absurd rfl hn
  case cons c w hi =>
    obtain ⟨hc', hw⟩ := List.forall_mem_cons.mp hw
    by_cases hn : w = []
    case pos =>
      subst hn
      obtain ⟨b, gap, rfl⟩ := List.exists_cons_of_ne_nil hs
      have hb : ¬Bare (b :: gap ++ cs) := by simp [Bare, (List.forall_mem_cons.mp hg).1]
      obtain ⟨d, hd, hn⟩ := hc
      rw [List.cons_append, List.nil_append, collapseChars_cons_gap hc' hb ⟨d, List.mem_append_right _ hd, hn⟩,
        collapseChars_append hg]
      rfl
    case neg =>
      have hb := (bare_of_forall hw).append hn (gap ++ cs)
      rw [List.cons_append, collapseChars_cons hc' (.inl hb), hi hw hn, List.cons_append]

-- A character behind a text that ends in a word belongs to that word.
theorem collapseChars_snoc (hl : ∀ d ∈ cs.getLast?, isBlank d = false) (hc : isBlank c = false) :
    collapseChars (cs ++ [c]) = collapseChars cs ++ [c] := by
  induction cs
  case nil => exact collapseChars_single hc
  case cons d cs hi =>
    by_cases hn : cs = []
    case pos =>
      subst hn
      have hd : isBlank d = false := hl d (by simp)
      have hb : Bare [c] := bare_cons.mpr hc
      rw [collapseChars_single hd, List.cons_append, List.nil_append, collapseChars_cons hd (.inl hb),
        collapseChars_single hc]
    case neg =>
      rw [List.getLast?_cons_of_ne_nil hn] at hl
      have hi := hi hl
      have hm : ∃ e ∈ cs, isBlank e = false := ⟨_, List.getLast_mem hn, hl _ (List.getLast?_eq_some_getLast hn)⟩
      have hm' : ∃ e ∈ cs ++ [c], isBlank e = false := ⟨c, by simp, hc⟩
      cases hd : isBlank d
      case true => rw [List.cons_append, collapseChars_blank hd, collapseChars_blank hd, hi]
      case false =>
        by_cases hb : Bare cs
        case pos =>
          rw [List.cons_append, collapseChars_cons hd (.inl hb), collapseChars_cons hd (.inl (hb.append hn [c])), hi,
            List.cons_append]
        case neg =>
          have hb' : ¬Bare (cs ++ [c]) := fun h =>
            hb fun e he => h e (by simp [List.head?_append, Option.mem_def.mp he])
          rw [List.cons_append, collapseChars_cons_gap hd hb hm, collapseChars_cons_gap hd hb' hm', hi,
            List.cons_append, List.cons_append]

end BulletinPipeline.Text
