import BulletinPipeline.Text.CharClass

namespace BulletinPipeline.Text

namespace Span

variable {s t : Span} {ss ts : List Span} {n : Nat}

-- One run ends before the other one begins.
def isApart (s t : Span) : Bool :=
  s.last.blt t.first || t.last.blt s.first

theorem bounds_of_contains (h : s.contains n) : s.first ≤ n ∧ n ≤ s.last := by
  simp only [contains, Bool.and_eq_true, decide_eq_true_eq] at h
  exact h.1

theorem contains_of_isApart (h : s.isApart t) (hs : s.contains n) : t.contains n = false := by
  simp only [isApart, Bool.or_eq_true, Nat.blt_eq] at h
  have hs := bounds_of_contains hs
  refine Bool.eq_false_iff.mpr fun ht => ?_
  have ht := bounds_of_contains ht
  omega

-- No run of one table meets a run of the other.
def areApart (ss ts : List Span) : Bool :=
  ss.all fun s => ts.all s.isApart

theorem covers_eq_false (h : areApart ss ts) (hs : covers ss n) : covers ts n = false := by
  obtain ⟨s, hm, hs⟩ := List.any_eq_true.mp hs
  refine List.any_eq_false.mpr fun t ht => ?_
  have ha := List.all_eq_true.mp (List.all_eq_true.mp h s hm) t ht
  simp [contains_of_isApart ha hs]

end Span

variable {c : Char}

-- The capital letters of ASCII as a run.
def asciiUpperSpans : List Span :=
  [⟨0x41, 0x5A, 1⟩]

theorem covers_asciiUpper (h : isAsciiUpper c) : Span.covers asciiUpperSpans c.toNat := by
  simpa [Span.covers, Span.contains, asciiUpperSpans, isAsciiUpper, Nat.mod_one] using h

theorem covers_decimalDigit (h : isDecimalDigit c) : Span.covers Category.decimalNumbers c.toNat :=
  h

theorem isBlank_of_isAsciiUpper (h : isAsciiUpper c) : isBlank c = false :=
  Span.covers_eq_false (by decide) (covers_asciiUpper h)

theorem isBlank_of_isDecimalDigit (h : isDecimalDigit c) : isBlank c = false :=
  Span.covers_eq_false (by decide +kernel) (covers_decimalDigit h)

-- A visible character of ASCII.
def isGraphic (c : Char) : Bool :=
  Span.covers [⟨0x21, 0x7E, 1⟩] c.toNat

theorem isBlank_of_isGraphic (h : isGraphic c) : isBlank c = false :=
  Span.covers_eq_false (by decide) h

theorem isGraphic_of_isAsciiDigit (h : isAsciiDigit c) : isGraphic c := by
  simp only [isAsciiDigit, Bool.and_eq_true, decide_eq_true_eq] at h
  simp [isGraphic, Span.covers, Span.contains, Nat.mod_one]
  omega

end BulletinPipeline.Text
