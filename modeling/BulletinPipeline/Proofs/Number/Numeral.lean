import BulletinPipeline.Number.Numeral
import BulletinPipeline.Proofs.Text.Blank
import BulletinPipeline.Proofs.Text.CharClass
import Mathlib.Data.Nat.Digits.Defs

namespace BulletinPipeline.Numeral

open Text

-- Decimal digits, at least one.
structure Digits (cs : List Char) : Prop where
  ne_nil : cs ≠ []
  digit  : ∀ c ∈ cs, isAsciiDigit c

-- The number that a text writes. Zeros in front make no difference.
inductive Writes : List Char → Int → Prop
  | plain {ds : List Char} : Digits ds → Writes ds (valueOf ds)
  | plus {ds : List Char} : Digits ds → Writes ('+' :: ds) (valueOf ds)
  | minus {ds : List Char} : Digits ds → Writes ('-' :: ds) (-(valueOf ds : Int))

variable {cs ds : List Char} {bound low high m n : Nat} {k : Int}

theorem le_ofDigitChars (cs : List Char) (n : Nat) : n ≤ Nat.ofDigitChars 10 cs n := by
  induction cs generalizing n
  case nil => exact Nat.le_refl n
  case cons c cs hi =>
    rw [Nat.ofDigitChars_cons]
    have := hi (10 * n + (c.toNat - '0'.toNat))
    omega

-- No digit that is read makes the number smaller, so that it is enough to look at the bound at the end.
theorem accumulate_eq_some_iff (hn : n ≤ bound) : accumulate bound n cs = some (some m)
    ↔ (∀ c ∈ cs, isAsciiDigit c) ∧ m = Nat.ofDigitChars 10 cs n ∧ m ≤ bound := by
  induction cs generalizing n
  case nil =>
    simp only [accumulate, Nat.ofDigitChars_nil, Option.some.injEq]
    exact ⟨fun h => ⟨nofun, h.symm, h ▸ hn⟩, fun h => h.2.1.symm⟩
  case cons c cs hi =>
    rw [accumulate, Nat.ofDigitChars_cons, List.forall_mem_cons]
    split
    case isFalse hc => simp [hc]
    case isTrue hc =>
      dsimp only
      split
      case isTrue hb => rw [hi hb, and_iff_right hc]
      case isFalse hb =>
        have := le_ofDigitChars cs (10 * n + (c.toNat - '0'.toNat))
        refine ⟨nofun, fun ⟨_, he, hm⟩ => ?_⟩
        omega

theorem splitSign_of_digits (h : Digits ds) : splitSign ds = (false, ds) := by
  unfold splitSign
  split
  case h_1 => exact absurd (h.digit '-' List.mem_cons_self) (by decide)
  case h_2 => exact absurd (h.digit '+' List.mem_cons_self) (by decide)
  case h_3 => rfl

theorem writes_iff : Writes cs k ↔ Digits (splitSign cs).2
    ∧ k = if (splitSign cs).1 then -(valueOf (splitSign cs).2 : Int) else valueOf (splitSign cs).2 := by
  constructor
  case mp =>
    intro h
    cases h
    case plain h => simp [splitSign_of_digits h, h]
    case plus h  => exact ⟨h, rfl⟩
    case minus h => exact ⟨h, rfl⟩
  case mpr =>
    unfold splitSign
    split <;> rintro ⟨h, rfl⟩
    case h_1 => exact .minus h
    case h_2 => exact .plus h
    case h_3 => exact .plain h

theorem Writes.unique {l : Int} (h : Writes cs k) (h' : Writes cs l) : k = l :=
  (writes_iff.mp h).2.trans (writes_iff.mp h').2.symm

theorem readInt_eq_ok_iff : readInt low high cs = .ok k ↔ Writes cs k ∧ -(low : Int) ≤ k ∧ k ≤ high := by
  rw [writes_iff]
  by_cases hs : cs = []
  case pos =>
    subst hs
    exact ⟨nofun, fun h => absurd rfl h.1.1.ne_nil⟩
  case neg =>
    rw [readInt]
    rcases splitSign cs with ⟨negative, ds⟩
    dsimp only
    split
    case h_1 => contradiction
    case h_2 => exact ⟨nofun, fun h => absurd rfl h.1.1.ne_nil⟩
    case h_3 _ _ hn =>
      generalize hb : (if negative then low else high) = bound
      have ha {m : Nat} : accumulate bound 0 ds = some (some m) ↔ _ := accumulate_eq_some_iff (Nat.zero_le bound)
      constructor
      case mp =>
        intro h
        split at h
        case h_1 => contradiction
        case h_2 => contradiction
        case h_3 m hm =>
          obtain ⟨hd, rfl, hle⟩ := ha.mp hm
          cases h
          refine ⟨⟨⟨hn, hd⟩, rfl⟩, ?_⟩
          cases negative <;> simp at hb ⊢ <;> omega
      case mpr =>
        rintro ⟨⟨hd, rfl⟩, hl, hh⟩
        have hm : accumulate bound 0 ds = some (some (valueOf ds)) := by
          refine ha.mpr ⟨hd.digit, rfl, ?_⟩
          cases negative <;> simp at hb hl hh <;> omega
        rw [hm]

-- Words of some width stand for the numbers between two bounds, one word for each.
theorem map_readInt_eq_ok_iff {α : Type} {ofInt : Int → α} {toInt : α → Int} (hi : ∀ a, ofInt (toInt a) = a)
    (hb : ∀ a, -(low : Int) ≤ toInt a ∧ toInt a ≤ high)
    (ho : ∀ k, -(low : Int) ≤ k → k ≤ high → toInt (ofInt k) = k) {a : α} :
    (readInt low high cs).map ofInt = .ok a ↔ Writes cs (toInt a) := by
  constructor
  case mp =>
    intro h
    cases hr : readInt low high cs <;> rw [hr] at h <;> cases h
    case ok k =>
      obtain ⟨hw, hl, hh⟩ := readInt_eq_ok_iff.mp hr
      rwa [ho k hl hh]
  case mpr =>
    intro hw
    rw [readInt_eq_ok_iff.mpr ⟨hw, hb a⟩]
    exact congrArg Except.ok (hi a)

theorem readInt32_eq_ok_iff {n : Int32} : readInt32 cs = .ok n ↔ Writes cs n.toInt := by
  refine map_readInt_eq_ok_iff Int32.ofInt_toInt (fun a => ?_) fun k hl hh => ?_
  · have := a.le_toInt
    have := a.toInt_lt
    norm_num
    omega
  · norm_num at hl hh
    exact Int32.toInt_ofInt_of_le hl (by omega)

theorem readInt64_eq_ok_iff {n : Int64} : readInt64 cs = .ok n ↔ Writes cs n.toInt := by
  refine map_readInt_eq_ok_iff Int64.ofInt_toInt (fun a => ?_) fun k hl hh => ?_
  · have := a.le_toInt
    have := a.toInt_lt
    norm_num
    omega
  · norm_num at hl hh
    exact Int64.toInt_ofInt_of_le hl (by omega)

theorem isAsciiDigit_of_isDigit {c : Char} (h : c.isDigit) : isAsciiDigit c := by
  simpa [Char.isDigit, isAsciiDigit, UInt32.le_iff_toNat_le] using h

theorem digits_toDigits (n : Nat) : Digits (Nat.toDigits 10 n) :=
  ⟨Nat.toDigits_ne_nil, fun _ hc => isAsciiDigit_of_isDigit (Nat.isDigit_of_mem_toDigits (by decide) (by decide) hc)⟩

theorem valueOf_toDigits (n : Nat) : valueOf (Nat.toDigits 10 n) = n :=
  Nat.ofDigitChars_ten_toDigits

theorem writes_repr (k : Int) : Writes k.repr.toList k := by
  rw [Int.repr_eq_if]
  split
  case isTrue h =>
    have hw := Writes.plain (digits_toDigits k.toNat)
    rw [valueOf_toDigits, Int.toNat_of_nonneg h] at hw
    rwa [Nat.repr_eq_ofList_toDigits, String.toList_ofList]
  case isFalse h =>
    have hw := Writes.minus (digits_toDigits (-k).toNat)
    rw [valueOf_toDigits, Int.toNat_of_nonneg (by omega), Int.neg_neg] at hw
    simpa [Nat.repr_eq_ofList_toDigits] using hw

theorem eq_of_repr {k l : Int} (h : k.repr = l.repr) : k = l :=
  (writes_repr k).unique (h ▸ writes_repr l)

-- Signs and digits are visible characters of ASCII.
theorem Writes.graphic (h : Writes cs k) : ∀ c ∈ cs, isGraphic c := by
  have hd {ds : List Char} (h : Digits ds) : ∀ c ∈ ds, isGraphic c :=
    fun c hc => isGraphic_of_isAsciiDigit (h.digit c hc)
  cases h
  case plain h => exact hd h
  case plus h  => exact List.forall_mem_cons.mpr ⟨by decide, hd h⟩
  case minus h => exact List.forall_mem_cons.mpr ⟨by decide, hd h⟩

end BulletinPipeline.Numeral
