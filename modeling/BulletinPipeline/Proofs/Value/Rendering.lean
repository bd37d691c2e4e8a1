import BulletinPipeline.Proofs.Text.Quoted
import BulletinPipeline.Value.Text
import Mathlib.Data.List.Forall2

-- Values that are told apart by how they are shown, whatever follows them. What follows a value is the end, a comma
-- or a closing bracket, and none of these occurs outside quotes and brackets.
namespace BulletinPipeline.Value

variable {as bs cs r s : List Char} {v w : Value} {c : Char}

def closing : List Char :=
  [',', ']', '\x7d']

-- What may follow a value.
def Closed (cs : List Char) : Prop :=
  ∀ c, cs.head? = some c → c ∈ closing

-- What is no end of a value.
def Open (cs : List Char) : Prop :=
  ∀ c ∈ cs, c ∉ closing

theorem closed_nil : Closed [] :=
  nofun

theorem closed_cons (h : c ∈ closing) : Closed (c :: cs) := by
  simpa [Closed] using h

-- An open text before anything begins what stands in front of a closed one.
theorem Open.isPrefix (ha : Open as) (hs : Closed s) (h : as ++ r = bs ++ s) : as <+: bs := by
  rcases List.append_eq_append_iff.mp h with ⟨cs, rfl, _⟩ | ⟨cs, rfl, rfl⟩
  · exact List.prefix_append as cs
  · cases cs
    case nil       => simp
    case cons c cs => exact absurd (hs c rfl) (ha c (by simp))

theorem Open.unique (ha : Open as) (hb : Open bs) (hr : Closed r) (hs : Closed s) (h : as ++ r = bs ++ s) :
    as = bs ∧ r = s := by
  have he := (ha.isPrefix hs h).eq_of_length_le (hb.isPrefix hr h.symm).length_le
  subst he
  exact ⟨rfl, List.append_cancel_left h⟩

-- Two values with what follows are written alike only if they are the same.
def Legible (v w : Value) : Prop :=
  ∀ r s, Closed r → Closed s → v.text.toList ++ r = w.text.toList ++ s → v = w ∧ r = s

theorem Legible.symm (h : Legible v w) : Legible w v := by
  intro r s hr hs he
  obtain ⟨hv, hc⟩ := h s r hs hr he.symm
  exact ⟨hv.symm, hc.symm⟩

theorem Legible.eq (h : Legible v w) (ht : v.text = w.text) : v = w :=
  (h [] [] closed_nil closed_nil (by rw [ht])).1

theorem legible_self (v : Value) : Legible v v :=
  fun _ _ _ _ h => ⟨rfl, List.append_cancel_left h⟩

-- Values that are written without brackets and quotes.
theorem legible_of_open (hv : Open v.text.toList) (hw : Open w.text.toList) (hi : v.text = w.text → v = w) :
    Legible v w := by
  intro r s hr hs h
  obtain ⟨ht, hc⟩ := hv.unique hw hr hs h
  exact ⟨hi (String.toList_inj.mp ht), hc⟩

-- The value is written with something in front that the other one is not written with.
theorem legible_of_isPrefix (as : List Char) (ha : Open as) (hv : as <+: v.text.toList)
    (hw : ¬as <+: w.text.toList) : Legible v w := by
  obtain ⟨cs, hv⟩ := hv
  intro r s _ hs h
  rw [← hv, List.append_assoc] at h
  exact absurd (ha.isPrefix hs h) hw

theorem legible_string (a b : String) : Legible (.string a) (.string b) := by
  intro r s _ _ h
  obtain ⟨rfl, hr⟩ := Text.quote_unique h
  exact ⟨rfl, hr⟩

-- Both values are written as one within brackets, behind the same word.
theorem legible_bracketed {a b : Value} (word : String) (hv : v.text = word ++ a.text ++ "]")
    (hw : w.text = word ++ b.text ++ "]") (h : Legible a b) (hi : a = b → v = w) : Legible v w := by
  intro r s hr hs he
  simp only [hv, hw, String.toList_append, List.append_assoc, List.append_cancel_left_eq] at he
  obtain ⟨ha, ht⟩ := h _ _ (closed_cons (by decide)) (closed_cons (by decide)) he
  exact ⟨hi ha, by simpa using ht⟩

-- Values behind commas, each with what is written before it.
def series (es : List (List Char × Value)) : List Char :=
  es.flatMap fun e => ',' :: ' ' :: (e.1 ++ e.2.text.toList)

theorem series_cons (e : List Char × Value) (es : List (List Char × Value)) :
    series (e :: es) = ',' :: ' ' :: (e.1 ++ (e.2.text.toList ++ series es)) := by
  simp [series]

variable {es fs : List (List Char × Value)}

theorem closed_series (hc : c ∈ closing) : Closed (series es ++ c :: r) := by
  cases es
  case nil  => exact closed_cons hc
  case cons => exact closed_cons (by decide)

-- Induction on the values. Each is followed by the next one or by the end.
theorem series_unique (hc : c ∈ closing) (hn : c ≠ ',')
    (hl : ∀ p ∈ es.zip fs, p.1.1 = p.2.1 ∧ Legible p.1.2 p.2.2)
    (h : series es ++ c :: r = series fs ++ c :: s) : es = fs ∧ r = s := by
  induction es generalizing fs
  case nil =>
    cases fs
    case nil       => simpa [series] using h
    case cons f fs => exact absurd (List.cons.inj h).1 hn
  case cons e es hi =>
    cases fs
    case nil       => exact absurd (List.cons.inj h).1 (Ne.symm hn)
    case cons f fs =>
      obtain ⟨k, v⟩ := e
      obtain ⟨j, w⟩ := f
      obtain ⟨⟨hk, hv⟩, ht⟩ := List.forall_mem_cons.mp hl
      cases hk
      simp only [series_cons, List.cons_append, List.append_assoc, List.cons.injEq, true_and,
        List.append_cancel_left_eq] at h
      obtain ⟨hv, h⟩ := hv _ _ (closed_series hc) (closed_series hc) h
      obtain ⟨hs, hr⟩ := hi ht h
      exact ⟨congrArg₂ (fun v es => (k, v) :: es) hv hs, hr⟩

-- The first value stands without a comma.
theorem bracketed_unique (hc : c ∈ closing) (hn : c ≠ ',') (hz : es = [] ↔ fs = [])
    (hl : ∀ p ∈ es.zip fs, p.1.1 = p.2.1 ∧ Legible p.1.2 p.2.2)
    (h : (series es).drop 2 ++ c :: r = (series fs).drop 2 ++ c :: s) : es = fs ∧ r = s := by
  refine series_unique hc hn hl ?_
  cases es
  case nil =>
    cases hz.mp rfl
    exact h
  case cons e es =>
    cases fs
    case nil       => exact absurd (hz.mpr rfl) (by simp)
    case cons f fs =>
      simp only [series_cons] at h ⊢
      simpa using h

theorem joined_toList (ts : List String) :
    (joined ts).toList = (ts.flatMap fun t => ',' :: ' ' :: t.toList).drop 2 := by
  induction ts
  case nil => rfl
  case cons t ts hi =>
    cases ts
    case nil => simp [joined]
    case cons u us =>
      rw [joined, String.intercalate_cons_cons, ← joined, String.toList_append, hi]
      simp

theorem itemTexts_eq_map (vs : List Value) : itemTexts vs = vs.map text := by
  induction vs
  case nil          => rfl
  case cons v vs hi => exact congrArg (v.text :: ·) hi

theorem entryTexts_eq_map (es : Entries Value) : entryTexts es = es.map fun e => e.1 ++ "=" ++ e.2.text := by
  induction es
  case nil          => rfl
  case cons e es hi => exact congrArg ((e.1 ++ "=" ++ e.2.text) :: ·) hi

@[simp]
theorem text_null : null.text = "null" :=
  rfl

@[simp]
theorem text_bool (b : Bool) : (bool b).text = boolText b :=
  rfl

@[simp]
theorem text_string (s : String) : (string s).text = Text.quote s :=
  rfl

@[simp]
theorem text_absent : absent.text = "Optional.empty" :=
  rfl

@[simp]
theorem text_present (v : Value) : (present v).text = "Optional[" ++ v.text ++ "]" :=
  rfl

@[simp]
theorem text_optionalInt_none : (optionalInt none).text = "OptionalInt.empty" :=
  rfl

@[simp]
theorem text_optionalInt_some (n : Int32) : (optionalInt (some n)).text = "OptionalInt[" ++ (int n).text ++ "]" :=
  rfl

@[simp]
theorem text_optionalLong_none : (optionalLong none).text = "OptionalLong.empty" :=
  rfl

@[simp]
theorem text_optionalLong_some (n : Int64) : (optionalLong (some n)).text = "OptionalLong[" ++ (long n).text ++ "]" :=
  rfl

def unlabelled (vs : List Value) : List (List Char × Value) :=
  vs.map fun v => ([], v)

def labelled (ps : Entries Value) : List (List Char × Value) :=
  ps.map fun e => (e.1.toList ++ ['='], e.2)

theorem text_list (vs : List Value) :
    (list vs).text.toList = '[' :: ((series (unlabelled vs)).drop 2 ++ [']']) := by
  have ht : (list vs).text = "[" ++ joined (itemTexts vs) ++ "]" := rfl
  simp [ht, joined_toList, itemTexts_eq_map, series, unlabelled, List.flatMap_map]

theorem text_config (name : String) (ps : Entries Value) :
    (config name ps).text.toList = name.toList ++ ['\x7b']
      ++ ((series (labelled ps)).drop 2 ++ ['\x7d']) := by
  have ht : (config name ps).text = name ++ "\x7b" ++ joined (entryTexts ps) ++ "\x7d" := rfl
  simp [ht, joined_toList, entryTexts_eq_map, series, labelled, List.flatMap_map]

-- The value does not begin like an end.
def Opens (v : Value) : Prop :=
  ∃ as, as ≠ [] ∧ Open as ∧ as <+: v.text.toList

theorem Opens.ne (h : v.Opens) (hc : c ∈ closing) (r s : List Char) : v.text.toList ++ s ≠ c :: r := by
  obtain ⟨as, hn, ha, cs, hv⟩ := h
  obtain ⟨a, as, rfl⟩ := List.exists_cons_of_ne_nil hn
  intro h
  rw [← hv] at h
  exact ha a (by simp) ((List.cons.inj h).1 ▸ hc)

theorem legible_list {vs ws : List Value} (hv : ∀ v ∈ vs, v.Opens) (hw : ∀ w ∈ ws, w.Opens)
    (hl : ∀ v ∈ vs, ∀ w ∈ ws, Legible v w) : Legible (.list vs) (.list ws) := by
  intro r s _ _ h
  rw [text_list, text_list] at h
  simp only [List.cons_append, List.append_assoc, List.nil_append, List.cons.injEq, true_and] at h
  have hz : vs = [] ↔ ws = [] := by
    cases vs <;> cases ws
    case nil.nil             => simp
    case nil.cons w ws       =>
      exact absurd (by simpa [series, unlabelled] using h.symm) ((hw w (by simp)).ne (by decide) r _)
    case cons.nil v vs       =>
      exact absurd (by simpa [series, unlabelled] using h) ((hv v (by simp)).ne (by decide) s _)
    case cons.cons v vs w ws => simp
  have hs : ∀ p ∈ (unlabelled vs).zip (unlabelled ws), p.1.1 = p.2.1 ∧ Legible p.1.2 p.2.2 := by
    intro p hp
    rw [unlabelled, unlabelled, List.zip_map, List.mem_map] at hp
    obtain ⟨⟨v, w⟩, hm, rfl⟩ := hp
    exact ⟨rfl, hl v (List.of_mem_zip hm).1 w (List.of_mem_zip hm).2⟩
  obtain ⟨he, hr⟩ := bracketed_unique (c := ']') (by decide) (by decide) (by simpa [unlabelled] using hz) hs h
  exact ⟨congrArg list (List.map_injective_iff.mpr (fun _ _ h => (Prod.mk.inj h).2) he), hr⟩

theorem legible_config (name : String) {ps qs : Entries Value}
    (hl : List.Forall₂ (fun e f => f.1 = e.1 ∧ Legible e.2 f.2) ps qs) :
    Legible (.config name ps) (.config name qs) := by
  intro r s _ _ h
  rw [text_config, text_config] at h
  simp only [List.append_assoc, List.nil_append, List.append_cancel_left_eq, List.cons_append, List.cons.injEq,
    true_and] at h
  obtain ⟨hn, hl⟩ := List.forall₂_iff_zip.mp hl
  have hz : ps = [] ↔ qs = [] := by rw [← List.length_eq_zero_iff, hn, List.length_eq_zero_iff]
  have hs : ∀ p ∈ (labelled ps).zip (labelled qs), p.1.1 = p.2.1 ∧ Legible p.1.2 p.2.2 := by
    intro p hp
    rw [labelled, labelled, List.zip_map, List.mem_map] at hp
    obtain ⟨⟨e, f⟩, hm, rfl⟩ := hp
    obtain ⟨hk, hv⟩ := hl hm
    exact ⟨by simp [hk], hv⟩
  obtain ⟨he, hr⟩ := bracketed_unique (c := '\x7d') (by decide) (by decide) (by simpa [labelled] using hz) hs h
  refine ⟨congrArg (config name) (List.map_injective_iff.mpr (fun e f h => ?_) he), hr⟩
  obtain ⟨hk, hv⟩ := Prod.mk.inj h
  exact Prod.ext (String.toList_inj.mp (List.append_cancel_right hk)) hv

end BulletinPipeline.Value
