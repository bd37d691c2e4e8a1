import BulletinPipeline.Proofs.Text.CharClass
import BulletinPipeline.Text.Case
import Mathlib.Data.List.Basic

namespace BulletinPipeline.Text

namespace Shift

variable {s : Shift} {ss : List Shift} {n m : Nat}

-- The code points that are mapped.
def domain (s : Shift) : Span :=
  ⟨s.first, s.last, s.step⟩

-- A run with all the images, and perhaps more.
def range (s : Shift) : Span :=
  ⟨s.image, s.image + (s.last - s.first), 1⟩

theorem of_imageOf? (h : s.imageOf? n = some m) : s.domain.contains n ∧ s.range.contains m := by
  rw [imageOf?] at h
  split at h
  case isFalse => contradiction
  case isTrue hn =>
    have hb := Span.bounds_of_contains (s := s.domain) hn
    cases h
    have hi : n - s.first + s.image ≤ s.image + (s.last - s.first) := by
      simp only [domain] at hb
      omega
    exact ⟨hn, by simp [range, Span.contains, Nat.mod_one, hi]⟩

theorem of_lookup (h : lookup ss n = some m) :
    Span.covers (ss.map domain) n ∧ Span.covers (ss.map range) m := by
  obtain ⟨s, hs, hm⟩ := List.exists_of_findSome?_eq_some h
  obtain ⟨hd, hr⟩ := of_imageOf? hm
  exact ⟨List.any_eq_true.mpr ⟨_, List.mem_map_of_mem hs, hd⟩, List.any_eq_true.mpr ⟨_, List.mem_map_of_mem hs, hr⟩⟩

end Shift

namespace Span

def single (n : Nat) : Span :=
  ⟨n, n, 1⟩

variable {n : Nat} {ns : List Nat}

theorem covers_single (h : n ∈ ns) : covers (ns.map single) n :=
  List.any_eq_true.mpr ⟨single n, List.mem_map_of_mem h, by simp [contains, single]⟩

theorem covers_append {ss ts : List Span} : covers (ss ++ ts) n = (covers ss n || covers ts n) :=
  List.any_append

end Span

-- The characters with a capital form other than themselves.
def smallSpans : List Span :=
  (Case.upperExpansions.map Prod.fst).map Span.single ++ Case.upperRuns.map Shift.domain

-- What the capital forms of these consist of; zero stands for a code point that is no character.
def grownSpans : List Span :=
  (0 :: Case.upperExpansions.flatMap Prod.snd).map Span.single ++ Case.upperRuns.map Shift.range

variable {c d : Char} {cs : List Char} {spans : List Span}

theorem upperChars_eq_self (h : Span.areApart spans smallSpans) (hc : Span.covers spans c.toNat) :
    upperChars c = [c] := by
  have hn := Span.covers_eq_false h hc
  rw [smallSpans, Span.covers_append, Bool.or_eq_false_iff] at hn
  have he : Case.upperExpansions.lookup c.toNat = none := by
    refine List.lookup_eq_none_iff.mpr fun e he => bne_iff_ne.mpr fun hc => ?_
    exact Bool.false_ne_true (hn.1.symm.trans (Span.covers_single (hc ▸ List.mem_map_of_mem he)))
  have hs : Shift.lookup Case.upperRuns c.toNat = none := by
    refine Option.eq_none_iff_forall_ne_some.mpr fun m hm => ?_
    exact Bool.false_ne_true (hn.2.symm.trans (Shift.of_lookup hm).1)
  simp only [upperChars, he, hs, Option.map_none, Option.getD_none]

theorem covers_ofNat {n : Nat} (h : Span.covers grownSpans n) : Span.covers grownSpans (Char.ofNat n).toNat := by
  by_cases hn : n.isValidChar
  case pos => rwa [Char.ofNat, dif_pos hn]
  case neg =>
    rw [Char.ofNat, dif_neg hn]
    decide

theorem mem_upperExpansions {n : Nat} {ns : List Nat} (h : Case.upperExpansions.lookup n = some ns) :
    (n, ns) ∈ Case.upperExpansions := by
  obtain ⟨_, _, he, _⟩ := List.lookup_eq_some_iff.mp h
  simp [he]

theorem mem_upperChars (h : d ∈ upperChars c) : d = c ∨ Span.covers grownSpans d.toNat := by
  unfold upperChars at h
  split at h
  case h_1 ns he =>
    obtain ⟨n, hn, rfl⟩ := List.mem_map.mp h
    have hm : n ∈ Case.upperExpansions.flatMap Prod.snd :=
      List.mem_flatMap_of_mem (mem_upperExpansions he) hn
    refine .inr (covers_ofNat ?_)
    rw [grownSpans, Span.covers_append, Span.covers_single (List.mem_cons_of_mem 0 hm), Bool.true_or]
  case h_2 =>
    rw [List.mem_singleton] at h
    cases hs : Shift.lookup Case.upperRuns c.toNat
    case none   => exact .inl (by simpa [hs] using h)
    case some m =>
      rw [hs] at h
      subst h
      refine .inr (covers_ofNat ?_)
      rw [grownSpans, Span.covers_append, (Shift.of_lookup hs).2, Bool.or_true]

theorem upperChars_ne_nil (c : Char) : upperChars c ≠ [] := by
  unfold upperChars
  split
  case h_1 ns he =>
    have hn : ∀ e ∈ Case.upperExpansions, e.2 ≠ [] := by decide
    simpa using hn _ (mem_upperExpansions he)
  case h_2 => simp

-- No run of capital forms reaches into these.
theorem eq_of_mem_upperChars (hs : Span.areApart spans grownSpans) (h : d ∈ upperChars c)
    (hd : Span.covers spans d.toNat) : d = c := by
  cases mem_upperChars h
  case inl h => exact h
  case inr h => exact absurd h (Bool.eq_false_iff.mp (Span.covers_eq_false hs hd))

-- Capital letters, digits and white space have no other capital form.
theorem areApart_smallSpans :
    Span.areApart (asciiUpperSpans ++ (Category.decimalNumbers ++ blankSpans)) smallSpans := by
  decide +kernel

theorem upperChars_of_isAsciiUpper (h : isAsciiUpper c) : upperChars c = [c] := by
  refine upperChars_eq_self areApart_smallSpans ?_
  rw [Span.covers_append, covers_asciiUpper h, Bool.true_or]

-- The letters of ASCII come in pairs, each the other form of the other one.
theorem exists_small_of_isAsciiUpper (h : isAsciiUpper c) :
    ∃ l, isAsciiLower l ∧ lowerChars c = [l] ∧ upperChars l = [c] := by
  have hp : ∀ n < 26, isAsciiLower (Char.ofNat (0x61 + n))
      ∧ lowerChars (Char.ofNat (0x41 + n)) = [Char.ofNat (0x61 + n)]
      ∧ upperChars (Char.ofNat (0x61 + n)) = [Char.ofNat (0x41 + n)] := by decide +kernel
  simp only [isAsciiUpper, Bool.and_eq_true, decide_eq_true_eq] at h
  have hl := hp (c.toNat - 0x41) (by omega)
  rw [Nat.add_sub_of_le h.1, Char.ofNat_toNat] at hl
  exact ⟨_, hl⟩

theorem exists_capital_of_isAsciiLower (h : isAsciiLower c) :
    ∃ u, isAsciiUpper u ∧ upperChars c = [u] ∧ lowerChars u = [c] := by
  have hp : ∀ n < 26, isAsciiUpper (Char.ofNat (0x41 + n))
      ∧ upperChars (Char.ofNat (0x61 + n)) = [Char.ofNat (0x41 + n)]
      ∧ lowerChars (Char.ofNat (0x41 + n)) = [Char.ofNat (0x61 + n)] := by decide +kernel
  simp only [isAsciiLower, Bool.and_eq_true, decide_eq_true_eq] at h
  have hl := hp (c.toNat - 0x61) (by omega)
  rw [Nat.add_sub_of_le h.1, Char.ofNat_toNat] at hl
  exact ⟨_, hl⟩

theorem exists_capital_of_lt (h : c.toNat < 0x80) : ∃ u, upperChars c = [u] ∧ u.toNat < 0x80 := by
  by_cases hl : isAsciiLower c
  case pos =>
    have ⟨u, hu, hc, _⟩ := exists_capital_of_isAsciiLower hl
    simp only [isAsciiUpper, Bool.and_eq_true, decide_eq_true_eq] at hu
    exact ⟨u, hc, by omega⟩
  case neg =>
    have ha : Span.areApart [⟨0x00, 0x60, 1⟩, ⟨0x7B, 0x7F, 1⟩] smallSpans := by decide +kernel
    refine ⟨c, upperChars_eq_self ha ?_, h⟩
    simp [isAsciiLower] at hl
    simp [Span.covers, Span.contains, Nat.mod_one]
    omega

theorem upperChars_of_isDecimalDigit (h : isDecimalDigit c) : upperChars c = [c] := by
  refine upperChars_eq_self areApart_smallSpans ?_
  rw [Span.covers_append, Span.covers_append, covers_decimalDigit h, Bool.true_or, Bool.or_true]

theorem upperChars_of_isBlank (h : isBlank c) : upperChars c = [c] := by
  refine upperChars_eq_self areApart_smallSpans ?_
  rw [Span.covers_append, Span.covers_append, ← isBlank, h, Bool.or_true, Bool.or_true]

-- No capital form is an equals sign or white space.
theorem areApart_grownSpans : Span.areApart ([.single 0x3D] ++ blankSpans) grownSpans := by
  decide +kernel

theorem isBlank_of_mem_upperChars (h : d ∈ upperChars c) (hd : isBlank d) : isBlank c := by
  have hc : Span.covers ([.single 0x3D] ++ blankSpans) d.toNat := by
    rw [Span.covers_append, ← isBlank, hd, Bool.or_true]
  exact eq_of_mem_upperChars areApart_grownSpans h hc ▸ hd

theorem eq_of_equals_mem_upperChars (h : '=' ∈ upperChars c) : c = '=' :=
  (eq_of_mem_upperChars areApart_grownSpans h rfl).symm

theorem flatMap_upperChars (h : ∀ c ∈ cs, upperChars c = [c]) : cs.flatMap upperChars = cs := by
  induction cs
  case nil => rfl
  case cons c cs hi =>
    obtain ⟨hc, hs⟩ := List.forall_mem_cons.mp h
    rw [List.flatMap_cons, hc, hi hs, List.cons_append, List.nil_append]

theorem last_flatMap_upperChars (h : ∀ c ∈ cs.getLast?, isBlank c = false) :
    ∀ d ∈ (cs.flatMap upperChars).getLast?, isBlank d = false := by
  intro d hd
  cases hc : cs.getLast?
  case none => simp [List.getLast?_eq_none_iff.mp hc] at hd
  case some c =>
    obtain ⟨bs, rfl⟩ := List.getLast?_eq_some_iff.mp hc
    rw [List.flatMap_append, List.flatMap_singleton, List.getLast?_append_of_ne_nil _ (upperChars_ne_nil c)] at hd
    refine Bool.eq_false_iff.mpr fun hb => ?_
    have hs := isBlank_of_mem_upperChars (List.mem_of_getLast? hd) hb
    simp [h c hc] at hs

end BulletinPipeline.Text
