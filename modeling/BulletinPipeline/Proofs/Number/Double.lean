import BulletinPipeline.Number.Double
import Mathlib.Algebra.Order.Field.Power
import Mathlib.Data.Nat.Cast.Field
import Mathlib.Data.Rat.Cast.Order
import Mathlib.Tactic.FieldSimp
import Mathlib.Tactic.Linarith
import Mathlib.Tactic.Positivity
import Mathlib.Tactic.Ring

namespace BulletinPipeline.Double

-- The value of a finite number.
def value (d : Double) : ℚ :=
  (if d.isNegative then -1 else 1) * d.significand * 2 ^ d.scale

variable {d : Double} {e f num den q k : Nat}

theorem fields_ofMagnitude (negative : Bool) (he : e < 2 ^ 11) (hf : f < 2 ^ 52) :
    (ofMagnitude negative (e * 2 ^ 52 + f)).exponentField = e
      ∧ (ofMagnitude negative (e * 2 ^ 52 + f)).fraction = f
      ∧ (ofMagnitude negative (e * 2 ^ 52 + f)).isNegative = negative := by
  have hb : (ofMagnitude negative (e * 2 ^ 52 + f)).bits.toNat
      = e * 2 ^ 52 + f + if negative then 2 ^ 63 else 0 := by
    rw [ofMagnitude, UInt64.toNat_ofNat']
    apply Nat.mod_eq_of_lt
    cases negative <;> simp <;> omega
  simp only [exponentField, fraction, isNegative, hb]
  cases negative <;> simp <;> omega

theorem significand_lt (d : Double) : d.significand < 2 ^ 53 := by
  have hf : d.fraction < 2 ^ 52 := Nat.mod_lt _ (by decide)
  unfold significand
  split <;> simp <;> omega

theorem roundQuotient_half (num : Nat) (hd : 0 < den) :
    2 * |(roundQuotient num den : ℤ) * den - num| ≤ den := by
  have hm := Nat.mod_lt num hd
  have hn := Nat.div_add_mod' num den
  unfold roundQuotient
  generalize num / den = q at hn ⊢
  generalize num % den = r at hn hm ⊢
  subst hn
  dsimp only
  split
  case isTrue h =>
    have h : 2 * r ≤ den := by
      simp only [Bool.or_eq_true, decide_eq_true_eq, Bool.and_eq_true, beq_iff_eq] at h
      omega
    rw [show (q : ℤ) * den - (q * den + r : ℕ) = -r by push_cast; ring, abs_neg, Nat.abs_cast]
    omega
  case isFalse h =>
    have h : den ≤ 2 * r := by
      simp only [Bool.or_eq_true, decide_eq_true_eq] at h
      omega
    rw [show ((q + 1 : ℕ) : ℤ) * den - (q * den + r : ℕ) = den - r by push_cast; ring, abs_of_pos (by omega)]
    omega

-- No multiple of the divisor lies nearer, as two of them are a whole divisor apart.
theorem roundQuotient_nearest (num : Nat) (hd : 0 < den) (j : ℤ) :
    |(roundQuotient num den : ℤ) * den - num| ≤ |j * den - num| := by
  have hh := roundQuotient_half num hd
  by_cases hj : j = roundQuotient num den
  case pos => rw [hj]
  case neg =>
    have hs : (den : ℤ) ≤ |j * den - roundQuotient num den * den| := by
      rw [← sub_mul, abs_mul, Nat.abs_cast]
      exact le_mul_of_one_le_left (by omega) (Int.one_le_abs (sub_ne_zero.mpr hj))
    have ht := abs_sub_le (j * den : ℤ) num (roundQuotient num den * den)
    rw [abs_sub_comm (num : ℤ)] at ht
    omega

theorem le_roundQuotient (hd : 0 < den) (h : k * den ≤ num) : k ≤ roundQuotient num den := by
  have := (Nat.le_div_iff_mul_le hd).mpr h
  unfold roundQuotient
  dsimp only
  split <;> omega

theorem roundQuotient_le (hd : 0 < den) (h : num < k * den) : roundQuotient num den ≤ k := by
  have := (Nat.div_lt_iff_lt_mul hd).mpr h
  unfold roundQuotient
  dsimp only
  split <;> omega

-- A whole number in units of its place, as a quotient, lies between the least and the greatest significand.
theorem bounds_of_log2 (hn : num ≠ 0) : 2 ^ 52 * 2 ^ (num.log2 - 52) ≤ num * 2 ^ (52 - num.log2)
    ∧ num * 2 ^ (52 - num.log2) < 2 ^ 53 * 2 ^ (num.log2 - 52) := by
  have hp : 2 ^ 52 * 2 ^ (num.log2 - 52) = 2 ^ num.log2 * 2 ^ (52 - num.log2) := by
    rw [← pow_add, ← pow_add]
    congr 1
    omega
  refine ⟨hp ▸ Nat.mul_le_mul_right _ (Nat.log2_self_le hn), ?_⟩
  rw [pow_succ', mul_assoc, hp, ← mul_assoc, ← pow_succ']
  exact Nat.mul_lt_mul_of_pos_right Nat.lt_log2_self (Nat.two_pow_pos _)

theorem placeOf_one (hn : num ≠ 0) : placeOf num 1 = num.log2 - 52 := by
  have h1 : Nat.log2 1 = 0 := by decide
  have hu : (52 - (num.log2 : ℤ)).toNat = 52 - num.log2 := by omega
  have hd : ((num.log2 : ℤ) - 52).toNat = num.log2 - 52 := by omega
  have h := not_lt.mpr (bounds_of_log2 hn).1
  rw [mul_comm (2 ^ 52)] at h
  simp only [placeOf, scaled, h1, Nat.cast_zero, sub_zero, neg_sub, one_mul, Nat.pow_eq, hu, hd, if_neg h]
  omega

theorem isFinite_value_ofMagnitude (negative : Bool) (he : e ≤ 2044) (hl : 2 ^ 52 ≤ q) (hq : q ≤ 2 ^ 53) :
    (ofMagnitude negative (e * 2 ^ 52 + q)).isFinite
      ∧ (ofMagnitude negative (e * 2 ^ 52 + q)).value = (if negative then -1 else 1) * q * 2 ^ ((e : ℤ) - 1074) := by
  by_cases hc : q = 2 ^ 53
  case pos =>
    subst hc
    rw [show e * 2 ^ 52 + 2 ^ 53 = (e + 2) * 2 ^ 52 + 0 by ring]
    have ⟨hf, hm, hs⟩ := fields_ofMagnitude negative (e := e + 2) (f := 0) (by omega) (by decide)
    simp only [isFinite, value, significand, scale, hf, hm, hs]
    refine ⟨decide_eq_true (by omega), ?_⟩
    rw [if_neg (show e + 2 ≠ 0 by omega), show ((max (e + 2) 1 : ℕ) : ℤ) - 1075 = (e - 1074) + 1 by omega,
      zpow_add_one₀ two_ne_zero]
    push_cast
    ring
  case neg =>
    obtain ⟨f, rfl⟩ := Nat.exists_eq_add_of_le hl
    rw [show e * 2 ^ 52 + (2 ^ 52 + f) = (e + 1) * 2 ^ 52 + f by ring]
    have ⟨hf, hm, hs⟩ := fields_ofMagnitude negative (e := e + 1) (f := f) (by omega) (by omega)
    simp only [isFinite, value, significand, scale, hf, hm, hs]
    refine ⟨decide_eq_true (by omega), ?_⟩
    rw [if_neg (show e + 1 ≠ 0 by omega), show ((max (e + 1) 1 : ℕ) : ℤ) - 1075 = e - 1074 by omega]
    push_cast
    ring

-- The significand of a whole number, in units of the place that `placeOf_one` gives.
def rounded (num : Nat) : Nat :=
  roundQuotient (num * 2 ^ (52 - num.log2)) (2 ^ (num.log2 - 52))

theorem ofInt_eq {n : ℤ} (hn : n ≠ 0) (hb : n.natAbs < 2 ^ 64) : (ofInt n).isFinite
    ∧ (ofInt n).value = (if n < 0 then -1 else 1) * rounded n.natAbs * 2 ^ ((n.natAbs.log2 : ℤ) - 52) := by
  have hz : n.natAbs ≠ 0 := Int.natAbs_ne_zero.mpr hn
  have hl : n.natAbs.log2 < 64 := (Nat.log2_lt hz).mpr hb
  have ⟨hlow, hhigh⟩ := bounds_of_log2 hz
  have hlow := le_roundQuotient (Nat.two_pow_pos _) hlow
  have hhigh := roundQuotient_le (Nat.two_pow_pos _) hhigh
  rw [← rounded] at hlow hhigh
  have hu : (52 - (n.natAbs.log2 : ℤ)).toNat = 52 - n.natAbs.log2 := by omega
  have hd : ((n.natAbs.log2 : ℤ) - 52).toNat = n.natAbs.log2 - 52 := by omega
  have he : ((n.natAbs.log2 : ℤ) - 52 + 1074).toNat = n.natAbs.log2 + 1022 := by omega
  have hp := isFinite_value_ofMagnitude (n < 0) (e := n.natAbs.log2 + 1022) (by omega) hlow hhigh
  simp only [ofInt, ofQuotient, if_neg hz, placeOf_one hz, scaled, neg_sub, one_mul, Nat.pow_eq, hu, hd, he]
  rw [← rounded, if_neg (by omega)]
  simpa only [decide_eq_true_eq, show ((n.natAbs.log2 + 1022 : ℕ) : ℤ) - 1074 = n.natAbs.log2 - 52 by omega] using hp

-- A multiple of the place differs from a whole number as their quotients by the unit do.
theorem abs_sub_eq_unit_mul (num : Nat) (j : ℤ) : |(j : ℚ) * 2 ^ ((num.log2 : ℤ) - 52) - num|
    = (2 ^ (52 - num.log2))⁻¹ * |(j : ℚ) * 2 ^ (num.log2 - 52) - num * 2 ^ (52 - num.log2)| := by
  have hp : (2 : ℚ) ^ ((num.log2 : ℤ) - 52) = (2 ^ (52 - num.log2))⁻¹ * 2 ^ (num.log2 - 52) := by
    rw [← zpow_natCast, ← zpow_natCast, ← zpow_neg, ← zpow_add₀ two_ne_zero]
    congr 1
    omega
  have hu : (0 : ℚ) < (2 ^ (52 - num.log2))⁻¹ := by positivity
  rw [← abs_of_pos hu, ← abs_mul, hp]
  congr 1
  field_simp

theorem rounded_nearest (num : Nat) (j : ℤ) : |(rounded num : ℚ) * 2 ^ ((num.log2 : ℤ) - 52) - num|
    ≤ |(j : ℚ) * 2 ^ ((num.log2 : ℤ) - 52) - num| := by
  have h := roundQuotient_nearest (num * 2 ^ (52 - num.log2)) (Nat.two_pow_pos (num.log2 - 52)) j
  rw [← rounded] at h
  rw [← Int.cast_natCast (rounded num), abs_sub_eq_unit_mul, abs_sub_eq_unit_mul]
  refine mul_le_mul_of_nonneg_left ?_ (by positivity)
  exact_mod_cast h

theorem abs_value (d : Double) : |d.value| = d.significand * 2 ^ d.scale := by
  have hp : (0 : ℚ) < 2 ^ d.scale := by positivity
  rw [value, abs_mul, abs_mul, Nat.abs_cast, abs_of_pos hp]
  split <;> simp

-- A number with no digits below the place, or with no more above it than a significand has.
def Placed (e : ℤ) (x : ℚ) : Prop :=
  (∃ j : ℤ, x = j * 2 ^ e) ∨ |x| ≤ 2 ^ 52 * 2 ^ e

theorem Placed.neg {e : ℤ} {x : ℚ} (h : Placed e x) : Placed e (-x) := by
  cases h
  case inl h =>
    obtain ⟨j, rfl⟩ := h
    exact .inl ⟨-j, by push_cast; ring⟩
  case inr h => exact .inr ((abs_neg x).trans_le h)

theorem placed_value (d : Double) (e : ℤ) : Placed e d.value := by
  by_cases h : e ≤ d.scale
  case pos =>
    obtain ⟨k, hk⟩ := Int.le.dest h
    refine .inl ⟨(if d.isNegative then -1 else 1) * d.significand * 2 ^ k, ?_⟩
    rw [value, ← hk, zpow_add₀ two_ne_zero, zpow_natCast]
    push_cast
    ring
  case neg =>
    refine .inr ?_
    have hs : (d.significand : ℚ) ≤ 2 ^ 53 := by exact_mod_cast d.significand_lt.le
    have he : (2 : ℚ) ^ d.scale ≤ 2 ^ (e - 1) := zpow_le_zpow_right₀ one_le_two (by omega)
    calc |d.value| = d.significand * 2 ^ d.scale := abs_value d
      _ ≤ 2 ^ 53 * 2 ^ (e - 1)                   := by gcongr
      _ = 2 ^ 52 * 2 ^ e                         := by rw [zpow_sub_one₀ two_ne_zero]; ring

-- Of the multiples of the place, this one is nearest; whatever has digits below it stays under the least of them.
theorem abs_rounded_sub_le (hn : num ≠ 0) {x : ℚ} (hx : Placed ((num.log2 : ℤ) - 52) x) :
    |(rounded num : ℚ) * 2 ^ ((num.log2 : ℤ) - 52) - num| ≤ |x - num| := by
  cases hx
  case inl h =>
    obtain ⟨j, rfl⟩ := h
    exact rounded_nearest num j
  case inr h =>
    have hp : (2 : ℚ) ^ 52 * 2 ^ ((num.log2 : ℤ) - 52) ≤ num := by
      rw [← zpow_natCast, ← zpow_add₀ two_ne_zero, show ((52 : ℕ) : ℤ) + (num.log2 - 52) = (num.log2 : ℕ) by omega,
        zpow_natCast]
      exact_mod_cast Nat.log2_self_le hn
    have hl := (le_abs_self x).trans h
    calc |(rounded num : ℚ) * 2 ^ ((num.log2 : ℤ) - 52) - num|
        ≤ |((2 ^ 52 : ℤ) : ℚ) * 2 ^ ((num.log2 : ℤ) - 52) - num| := rounded_nearest num _
      _ ≤ |x - num|                                             := by
        push_cast
        rw [abs_of_nonpos (by linarith), abs_of_nonpos (by linarith)]
        linarith

variable {n : ℤ}

theorem sign_mul_natAbs (n : ℤ) : (if n < 0 then -1 else 1 : ℚ) * n.natAbs = n := by
  split
  case isTrue h  => rw [Nat.cast_natAbs, abs_of_neg h]; simp
  case isFalse h => rw [Nat.cast_natAbs, abs_of_nonneg (not_lt.mp h)]; simp

theorem isFinite_ofInt (hb : n.natAbs < 2 ^ 64) : (ofInt n).isFinite := by
  by_cases hn : n = 0
  case pos => exact hn ▸ by decide
  case neg => exact (ofInt_eq hn hb).1

theorem abs_ofInt_sub_le (hb : n.natAbs < 2 ^ 64) {x : ℚ} (hx : Placed (n.natAbs.log2 - 52) x) :
    |(ofInt n).value - n| ≤ |x - n| := by
  by_cases hn : n = 0
  case pos =>
    subst hn
    have hz : (ofInt 0).value = 0 := by
      rw [value, show (ofInt 0).significand = 0 by decide]
      simp
    simp [hz]
  case neg =>
    have hz : n.natAbs ≠ 0 := Int.natAbs_ne_zero.mpr hn
    rw [(ofInt_eq hn hb).2, ← sign_mul_natAbs n]
    split
    case isFalse =>
      rw [one_mul, one_mul]
      exact abs_rounded_sub_le hz hx
    case isTrue =>
      have h := abs_rounded_sub_le hz hx.neg
      rw [← abs_neg, ← abs_neg (-x - _)] at h
      convert h using 2 <;> ring

theorem ofInt_nearest (hb : n.natAbs < 2 ^ 64) (d : Double) : |(ofInt n).value - n| ≤ |d.value - n| :=
  abs_ofInt_sub_le hb (d.placed_value _)

theorem value_ofInt_of_eq (hb : n.natAbs < 2 ^ 64) (h : d.value = n) : (ofInt n).value = n := by
  have ha := ofInt_nearest hb d
  rwa [h, sub_self, abs_zero, abs_nonpos_iff, sub_eq_zero] at ha

-- Whole numbers of 53 digits have none below the place.
theorem value_ofInt_of_lt (h : n.natAbs < 2 ^ 53) : (ofInt n).value = n := by
  have hb : n.natAbs < 2 ^ 64 := by omega
  have hl : n.natAbs.log2 ≤ 52 := by
    by_contra hl
    have hn : n.natAbs ≠ 0 := fun h0 => by simp [h0] at hl
    have hp := (Nat.pow_le_pow_right two_pos (Nat.not_le.mp hl)).trans (Nat.log2_self_le hn)
    omega
  have hx : Placed (n.natAbs.log2 - 52) n := by
    refine .inl ⟨n * 2 ^ (52 - n.natAbs.log2), ?_⟩
    push_cast
    rw [mul_assoc, ← zpow_natCast, ← zpow_add₀ two_ne_zero,
      show ((52 - n.natAbs.log2 : ℕ) : ℤ) + (n.natAbs.log2 - 52) = 0 by omega, zpow_zero, mul_one]
  have ha := abs_ofInt_sub_le hb hx
  rwa [sub_self, abs_zero, abs_nonpos_iff, sub_eq_zero] at ha

-- The quotient that the whole part and the remainder are taken of.
theorem abs_value_eq_div (d : Double) :
    |d.value| = (d.significand * twoTo d.scale.toNat : ℕ) / (twoTo (-d.scale).toNat : ℕ) := by
  have hp : (2 : ℚ) ^ d.scale = 2 ^ d.scale.toNat / 2 ^ (-d.scale).toNat := by
    rw [← zpow_natCast, ← zpow_natCast, ← zpow_sub₀ two_ne_zero]
    congr 1
    omega
  rw [abs_value, hp]
  push_cast [twoTo, Nat.pow_eq]
  ring

theorem value_eq_sign_mul (d : Double) : d.value = (if d.isNegative then -1 else 1) * |d.value| := by
  rw [abs_value, value, mul_assoc]

theorem natAbs_trunc (d : Double) : d.trunc.natAbs = d.truncNat := by
  unfold trunc
  split <;> simp

theorem dvd_of_isWhole (h : d.isWhole) : twoTo (-d.scale).toNat ∣ d.significand * twoTo d.scale.toNat := by
  simp only [isWhole, Bool.and_eq_true, beq_iff_eq] at h
  exact Nat.dvd_of_mod_eq_zero h.2

-- Nothing is left out by the whole part.
theorem value_eq_trunc (h : d.isWhole) : d.value = d.trunc := by
  have hb : ((twoTo (-d.scale).toNat : ℕ) : ℚ) ≠ 0 := by simp
  rw [value_eq_sign_mul, abs_value_eq_div, ← Nat.cast_div (dvd_of_isWhole h) hb, ← truncNat, trunc]
  split <;> simp

theorem isWhole_iff : d.isWhole ↔ d.isFinite ∧ ∃ k : ℤ, d.value = k := by
  constructor
  case mp =>
    intro h
    exact ⟨(Bool.and_eq_true_iff.mp h).1, d.trunc, value_eq_trunc h⟩
  case mpr =>
    rintro ⟨hf, k, hk⟩
    have hb : ((twoTo (-d.scale).toNat : ℕ) : ℚ) ≠ 0 := by simp
    have ha := d.abs_value_eq_div
    rw [hk, ← Int.cast_abs, ← Nat.cast_natAbs, eq_div_iff hb] at ha
    have ha : k.natAbs * twoTo (-d.scale).toNat = d.significand * twoTo d.scale.toNat := by exact_mod_cast ha
    rw [isWhole, hf, ← ha]
    simp

end BulletinPipeline.Double
