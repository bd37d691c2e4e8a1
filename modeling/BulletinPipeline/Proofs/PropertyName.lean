import BulletinPipeline.Proofs.Text.Case
import BulletinPipeline.PropertyName
import Mathlib.Data.String.Basic

namespace BulletinPipeline

open Text

namespace PropertyName

def IsAscii (name : String) : Prop :=
  ∀ c ∈ name.toList, c.toNat < 0x80

-- The spelling of properties: a small letter in front with no capital letter behind it, or two capitals.
inductive Canonical : List Char → Prop
  | letter {c : Char} : isAsciiLower c → Canonical [c]
  | word {c d : Char} {cs : List Char} :
    isAsciiLower c → isAsciiUpper d = false → Canonical (c :: d :: cs)
  | acronym {c d : Char} {cs : List Char} : isAsciiUpper c → isAsciiUpper d → Canonical (c :: d :: cs)

-- The names that are spellings of a property.
inductive Spells (property : String) : String → Prop
  | bare : (∀ v : Verb, v.leads property = false) → Spells property property
  | attached (v : Verb) : Canonical property.toList → Spells property (v.attach property)

variable {c : Char} {cs ps : List Char} {n p : String} {v w : Verb}

theorem isCapital_of_lt (h : c.toNat < 0x80) : isCapital c = isAsciiUpper c :=
  if_pos h

theorem lt_of_isAsciiUpper (h : isAsciiUpper c) : c.toNat < 0x80 := by
  simp only [isAsciiUpper, Bool.and_eq_true, decide_eq_true_eq] at h
  omega

theorem lt_of_isAsciiLower (h : isAsciiLower c) : c.toNat < 0x80 := by
  simp only [isAsciiLower, Bool.and_eq_true, decide_eq_true_eq] at h
  omega

theorem Canonical.head_lt (h : Canonical ps) : ∃ c ∈ ps.head?, c.toNat < 0x80 := by
  cases h
  case letter hc    => exact ⟨_, rfl, lt_of_isAsciiLower hc⟩
  case word hc _    => exact ⟨_, rfl, lt_of_isAsciiLower hc⟩
  case acronym hc _ => exact ⟨_, rfl, lt_of_isAsciiUpper hc⟩

theorem after?_eq_some_iff {word name : List Char} :
    after? word name = some cs ↔ name = word ++ cs ∧ ∃ c ∈ cs.head?, isCapital c := by
  unfold after?
  constructor
  case mp =>
    intro h
    split at h
    case h_2 => contradiction
    case h_1 c ds hd =>
      split at h <;> cases h
      case isTrue hc =>
        simp only [Bool.and_eq_true, List.isPrefixOf_iff_prefix] at hc
        have ⟨⟨ds, hs⟩, hc⟩ := hc
        rw [← hs, List.drop_left] at hd
        exact ⟨hd ▸ hs.symm, c, rfl, hc⟩
  case mpr =>
    intro ⟨hn, c, hc, hu⟩
    have ⟨ds, hs⟩ := List.head?_eq_some_iff.mp hc
    have hd : name.drop word.length = c :: ds := by rw [hn, List.drop_left, hs]
    have hp : word.isPrefixOf name := List.isPrefixOf_iff_prefix.mpr ⟨cs, hn.symm⟩
    simp only [hd, hp, hu, Bool.and_self, if_true, hs]

-- Behind a verb stands a capital letter; made small, it is in front of a property, unless the next letter
-- makes it an acronym.
theorem canonical_decapitalize (hc : isAsciiUpper c) (hs : ∀ d ∈ cs, d.toNat < 0x80) :
    Canonical (decapitalize (c :: cs)) ∧ capitalize (decapitalize (c :: cs)) = c :: cs := by
  have ⟨l, hl, hcl, hlc⟩ := exists_small_of_isAsciiUpper hc
  cases cs
  case nil =>
    rw [decapitalize, hcl, capitalize, hlc]
    exact ⟨.letter hl, rfl⟩
  case cons d cs =>
    rw [decapitalize, isCapital_of_lt (hs d List.mem_cons_self)]
    by_cases hu : isAsciiUpper d
    case pos =>
      rw [if_pos hu, capitalize, upperChars_of_isAsciiUpper hc]
      exact ⟨.acronym hc hu, rfl⟩
    case neg =>
      rw [if_neg hu, hcl, List.singleton_append, capitalize, hlc]
      exact ⟨.word hl (Bool.eq_false_iff.mpr hu), rfl⟩

theorem decapitalize_capitalize (h : Canonical ps) (hs : ∀ d ∈ ps, d.toNat < 0x80) :
    decapitalize (capitalize ps) = ps ∧ ∃ c ∈ (capitalize ps).head?, isCapital c := by
  have hu {c : Char} (h : isAsciiUpper c) : isCapital c := isCapital_of_lt (lt_of_isAsciiUpper h) ▸ h
  cases h
  case letter c hc =>
    have ⟨u, hu', hcu, huc⟩ := exists_capital_of_isAsciiLower hc
    simp [capitalize, hcu, decapitalize, huc, hu hu']
  case word c d cs hc hd =>
    have ⟨u, hu', hcu, huc⟩ := exists_capital_of_isAsciiLower hc
    have hd : isCapital d = false := isCapital_of_lt (hs d (by simp)) ▸ hd
    simp [capitalize, hcu, decapitalize, huc, hu hu', hd]
  case acronym c d cs hc hd =>
    simp [capitalize, upperChars_of_isAsciiUpper hc, decapitalize, hu hc, hu hd]

theorem toList_attach (v : Verb) (p : String) :
    (v.attach p).toList = v.word ++ capitalize p.toList :=
  String.toList_ofList

theorem attach_ne (v : Verb) (p : String) : v.attach p ≠ p := by
  intro h
  have hl := congrArg (fun s : String => s.toList.length) h
  have hw : 0 < v.word.length := by cases v <;> decide
  simp only [toList_attach, List.length_append] at hl
  cases hp : p.toList <;> rw [hp] at hl
  case nil =>
    simp only [capitalize, List.length_nil] at hl
    omega
  case cons c cs =>
    have hc := List.length_pos_iff.mpr (upperChars_ne_nil c)
    simp only [capitalize, List.length_append, List.length_cons] at hl
    omega

theorem isAscii_attach (hp : IsAscii p) (v : Verb) : IsAscii (v.attach p) := by
  intro c hc
  rw [toList_attach] at hc
  cases List.mem_append.mp hc
  case inl hw =>
    have : ∀ c ∈ v.word, c.toNat < 0x80 := by cases v <;> simp [Verb.word]
    exact this c hw
  case inr hm =>
    unfold IsAscii at hp
    cases hs : p.toList <;> rw [hs] at hp hm
    case nil => simp [capitalize] at hm
    case cons d ds =>
      have ⟨u, hu, hlt⟩ := exists_capital_of_lt (hp d List.mem_cons_self)
      rw [capitalize, hu] at hm
      cases List.mem_cons.mp hm
      case inl he => exact he ▸ hlt
      case inr ht => exact hp c (List.mem_cons_of_mem _ ht)

-- All but the first character of a property stand in the name as well.
theorem isAscii_of_attach (h : Canonical p.toList) (hn : IsAscii (v.attach p)) : IsAscii p := by
  have ⟨c, hc, hlt⟩ := h.head_lt
  have ⟨cs, hs⟩ := List.head?_eq_some_iff.mp hc
  intro d hd
  rw [hs] at hd
  cases List.mem_cons.mp hd
  case inl he => exact he ▸ hlt
  case inr ht => exact hn d (by simp [toList_attach, hs, capitalize, ht])

theorem strip?_eq_some_iff (hn : IsAscii n) :
    v.strip? n = some p ↔ Canonical p.toList ∧ n = v.attach p := by
  simp only [Verb.strip?, Option.map_eq_some_iff, after?_eq_some_iff]
  constructor
  case mp =>
    intro ⟨cs, ⟨hs, c, hc, hu⟩, hp⟩
    have ⟨ds, hd⟩ := List.head?_eq_some_iff.mp hc
    subst hd hp
    have hlt : ∀ d ∈ c :: ds, d.toNat < 0x80 := fun d hd => hn d (by simp [hs, List.mem_cons.mp hd])
    have hu : isAsciiUpper c := isCapital_of_lt (hlt c List.mem_cons_self) ▸ hu
    have ⟨hk, ha⟩ := canonical_decapitalize hu fun d hd => hlt d (List.mem_cons_of_mem _ hd)
    rw [Verb.attach, String.toList_ofList, ha, ← hs, String.ofList_toList]
    exact ⟨hk, rfl⟩
  case mpr =>
    intro ⟨hk, he⟩
    subst he
    have ⟨hd, hu⟩ := decapitalize_capitalize hk (isAscii_of_attach hk hn)
    exact ⟨_, ⟨toList_attach v p, hu⟩, by rw [hd, String.ofList_toList]⟩

theorem leads_iff : v.leads n ↔ ∃ p, v.strip? n = some p := by
  rw [Verb.leads, Verb.strip?, Option.isSome_iff_exists]
  simp

theorem leads_unique (hv : v.leads n) (hw : w.leads n) : v = w := by
  simp only [Verb.leads, Option.isSome_iff_exists, after?_eq_some_iff] at hv hw
  have ⟨cs, hc, _⟩ := hv
  have ⟨ds, hd, _⟩ := hw
  -- No two verbs start alike.
  have hh := congrArg List.head? (hc.symm.trans hd)
  cases v <;> cases w <;> simp [Verb.word] at hh ⊢

theorem propertyName_of_strip? (h : v.strip? n = some p) : propertyName n = p := by
  have hn (w : Verb) (hw : w ≠ v) : w.strip? n = none := by
    refine Option.eq_none_iff_forall_ne_some.mpr fun q hq => hw ?_
    exact leads_unique (leads_iff.mpr ⟨q, hq⟩) (leads_iff.mpr ⟨p, h⟩)
  unfold propertyName Verb.all
  cases v
  case get => simp [h]
  case is  => simp [h, hn .get (by simp)]
  case set => simp [h, hn .get (by simp), hn .is (by simp)]

theorem propertyName_of_not_leads (h : ∀ v : Verb, v.leads n = false) : propertyName n = n := by
  have hn (v : Verb) : v.strip? n = none := by
    refine Option.eq_none_iff_forall_ne_some.mpr fun q hq => ?_
    exact Bool.eq_false_iff.mp (h v) (leads_iff.mpr ⟨q, hq⟩)
  simp [propertyName, Verb.all, hn]

theorem propertyName_eq_iff (hn : IsAscii n) : propertyName n = p ↔ Spells p n := by
  constructor
  case mp =>
    intro h
    by_cases hl : ∃ v : Verb, v.leads n
    case pos =>
      have ⟨v, hv⟩ := hl
      have ⟨q, hq⟩ := leads_iff.mp hv
      have ⟨hk, he⟩ := (strip?_eq_some_iff hn).mp hq
      cases (propertyName_of_strip? hq).symm.trans h
      exact he ▸ .attached v hk
    case neg =>
      have hl : ∀ v : Verb, v.leads n = false := by simpa using hl
      cases (propertyName_of_not_leads hl).symm.trans h
      exact .bare hl
  case mpr =>
    intro h
    cases h
    case bare hl       => exact propertyName_of_not_leads hl
    case attached v hk => exact propertyName_of_strip? ((strip?_eq_some_iff hn).mpr ⟨hk, rfl⟩)

theorem strip?_attach_iff (hp : IsAscii p) : v.strip? (v.attach p) = some p ↔ Canonical p.toList := by
  rw [strip?_eq_some_iff (isAscii_attach hp v)]
  exact and_iff_left rfl

theorem strip_attach_iff (hp : IsAscii p) : v.strip (v.attach p) = p ↔ Canonical p.toList := by
  rw [← strip?_attach_iff hp (v := v), Verb.strip, Option.getD_eq_iff]
  exact or_iff_left fun h => attach_ne v p h.2

theorem propertyName_attach_iff (hp : IsAscii p) :
    propertyName (v.attach p) = p ↔ Canonical p.toList := by
  rw [propertyName_eq_iff (isAscii_attach hp v)]
  refine ⟨fun h => ?_, .attached v⟩
  generalize he : v.attach p = n at h
  cases h
  case bare          => exact absurd he (attach_ne v p)
  case attached _ hk => exact hk

theorem attach_strip (hn : IsAscii n) (h : v.leads n) : v.attach (v.strip n) = n := by
  have ⟨p, hp⟩ := leads_iff.mp h
  rw [Verb.strip, hp, Option.getD_some]
  exact ((strip?_eq_some_iff hn).mp hp).2.symm

end PropertyName
end BulletinPipeline
