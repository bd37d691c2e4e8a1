import BulletinPipeline.Proofs.Conversion.Basic
import BulletinPipeline.Proofs.Number.Double

namespace BulletinPipeline

namespace Value

-- The exact number that a value stands for.
def number? : Value → Option ℚ
  | int n    => some n.toInt
  | long n   => some n.toInt
  | double d => if d.isFinite then some d.value else none
  | _        => none

variable {v : Value} {q : ℚ}

theorem number?_eq_some_iff : v.number? = some q ↔ (∃ n, v = int n ∧ (n.toInt : ℚ) = q)
    ∨ (∃ n, v = long n ∧ (n.toInt : ℚ) = q) ∨ ∃ d, v = double d ∧ d.isFinite ∧ d.value = q := by
  cases v <;> simp [number?]

theorem bare_of_number? (h : v.number? = some q) : v.Bare := by
  obtain ⟨_, rfl, _⟩ | ⟨_, rfl, _⟩ | ⟨_, rfl, _⟩ := number?_eq_some_iff.mp h <;> exact ⟨rfl, nofun⟩

end Value

namespace ValueType

-- The type has a value for the number.
def Represents (t : ValueType) (q : ℚ) : Prop :=
  ∃ v : Value, v.type = t ∧ v.number? = some q

variable {q : ℚ}

theorem represents_int_iff : int.Represents q ↔ ∃ n : Int32, (n.toInt : ℚ) = q := by
  simp only [Represents, Value.number?_eq_some_iff]
  constructor
  · rintro ⟨_, ht, ⟨n, rfl, hn⟩ | ⟨n, rfl, hn⟩ | ⟨d, rfl, hd⟩⟩ <;> cases ht
    exact ⟨n, hn⟩
  · rintro ⟨n, hn⟩
    exact ⟨_, rfl, .inl ⟨n, rfl, hn⟩⟩

theorem represents_long_iff : long.Represents q ↔ ∃ n : Int64, (n.toInt : ℚ) = q := by
  simp only [Represents, Value.number?_eq_some_iff]
  constructor
  · rintro ⟨_, ht, ⟨n, rfl, hn⟩ | ⟨n, rfl, hn⟩ | ⟨d, rfl, hd⟩⟩ <;> cases ht
    exact ⟨n, hn⟩
  · rintro ⟨n, hn⟩
    exact ⟨_, rfl, .inr (.inl ⟨n, rfl, hn⟩)⟩

theorem represents_double_iff : double.Represents q ↔ ∃ d : Double, d.isFinite ∧ d.value = q := by
  simp only [Represents, Value.number?_eq_some_iff]
  constructor
  · rintro ⟨_, ht, ⟨n, rfl, hn⟩ | ⟨n, rfl, hn⟩ | ⟨d, rfl, hd⟩⟩ <;> cases ht
    exact ⟨d, hd⟩
  · rintro ⟨d, hd⟩
    exact ⟨_, rfl, .inr (.inr ⟨d, rfl, hd⟩)⟩

end ValueType

namespace Conversion

variable {env : Environment} {raw : Value} {t : ValueType} {q : ℚ} {d : Double}

theorem natCast_truncNat (d : Double) (hw : d.isWhole) : (d.truncNat : ℚ) = |d.value| := by
  rw [d.value_eq_trunc hw, ← Int.cast_abs, ← Nat.cast_natAbs, d.natAbs_trunc]

theorem toLong_double (hw : d.isWhole) (hb : |d.value| < wholeBound) :
    ∃ n : Int64, toLong (.double d) = .ok n ∧ (n.toInt : ℚ) = d.value := by
  have hb : d.truncNat < wholeBound := by
    rw [← natCast_truncNat d hw] at hb
    exact_mod_cast hb
  have ha := d.natAbs_trunc
  refine ⟨Int64.ofInt d.trunc, ?_, ?_⟩
  · simp [toLong, hw, hb]
  · have hb : d.truncNat < 2 ^ 63 := hb.trans (by decide)
    rw [Int64.toInt_ofInt_of_le (by omega) (by omega), Double.value_eq_trunc hw]

theorem toLong_double_eq_error (h : ¬(d.isWhole ∧ |d.value| < wholeBound)) :
    toLong (.double d) = .error (.outOfRange .long (d.text .plain)) := by
  rw [toLong, if_neg]
  intro hc
  obtain ⟨hw, hb⟩ := Bool.and_eq_true_iff.mp hc
  refine h ⟨hw, ?_⟩
  rw [← natCast_truncNat d hw]
  exact_mod_cast of_decide_eq_true hb

theorem toLong_cases (h : raw.number? = some q) :
    (∃ n : Int64, toLong raw = .ok n ∧ (n.toInt : ℚ) = q ∧ (raw.type = .double → |q| < wholeBound))
      ∨ raw.type = .double ∧ (∃ s, toLong raw = .error (.outOfRange .long s))
        ∧ ∀ k : ℤ, k = q → wholeBound ≤ |q| := by
  obtain ⟨n, rfl, hn⟩ | ⟨n, rfl, hn⟩ | ⟨d, rfl, hf, rfl⟩ := Value.number?_eq_some_iff.mp h
  · exact .inl ⟨n.toInt64, by rw [toLong, Int64.ofInt_int32ToInt], by rwa [n.toInt_toInt64], by rintro ⟨⟩⟩
  · exact .inl ⟨n, rfl, hn, by rintro ⟨⟩⟩
  · by_cases hc : d.isWhole ∧ |d.value| < wholeBound
    case pos =>
      obtain ⟨n, hn, hv⟩ := toLong_double hc.1 hc.2
      exact .inl ⟨n, hn, hv, fun _ => hc.2⟩
    case neg =>
      refine .inr ⟨rfl, ⟨_, toLong_double_eq_error hc⟩, fun k hk => not_lt.mp fun hb => hc ⟨?_, hb⟩⟩
      exact Double.isWhole_iff.mpr ⟨hf, k, hk.symm⟩

theorem narrow_cases (n : Int64) : (∃ m : Int32, narrow n = .ok m ∧ m.toInt = n.toInt)
    ∨ (∃ s, narrow n = .error (.outOfRange .int s)) ∧ ∀ m : Int32, m.toInt ≠ n.toInt := by
  by_cases h : ∃ m : Int32, m.toInt = n.toInt
  case pos =>
    obtain ⟨m, hm⟩ := h
    have hn : m.toInt64 = n := Int64.toInt_inj.mp (m.toInt_toInt64.trans hm)
    exact .inl ⟨m, hn ▸ narrow_toInt64 m, hm⟩
  case neg =>
    refine .inr ⟨⟨toString n.toInt, ?_⟩, not_exists.mp h⟩
    rw [narrow, if_neg]
    rintro ⟨hl, hu⟩
    exact h ⟨Int32.ofInt n.toInt, Int32.toInt_ofInt_of_le (by simpa using hl) (by simpa using hu)⟩

-- What fits into 32 bits is far below the bound.
theorem toInt_cases (h : raw.number? = some q) : (∃ m : Int32, toInt raw = .ok m ∧ (m.toInt : ℚ) = q)
    ∨ (∃ t s, toInt raw = .error (.outOfRange t s)) ∧ ∀ m : Int32, (m.toInt : ℚ) ≠ q := by
  have hs : ∀ s, raw ≠ .string s := by
    rintro s rfl
    contradiction
  rw [toInt_eq hs]
  obtain ⟨n, hn, rfl, -⟩ | ⟨-, ⟨s, he⟩, hk⟩ := toLong_cases h
  case inl =>
    rw [hn]
    obtain ⟨m, hm, hv⟩ | ⟨⟨s, hr⟩, hv⟩ := narrow_cases n
    case inl => exact .inl ⟨m, hm, congrArg _ hv⟩
    case inr => exact .inr ⟨⟨_, s, hr⟩, fun m hm => hv m (by exact_mod_cast hm)⟩
  case inr =>
    rw [he]
    refine .inr ⟨⟨_, s, rfl⟩, fun m hm => ?_⟩
    have hb := hk m.toInt hm
    rw [← hm, ← Int.cast_abs] at hb
    have hb : (wholeBound : ℤ) ≤ |m.toInt| := by exact_mod_cast hb
    have hl : |m.toInt| ≤ 2 ^ 31 := abs_le.mpr ⟨m.le_toInt, m.toInt_lt.le⟩
    have hw : 2 ^ 31 < wholeBound := by decide
    omega

theorem toDouble_cases (h : raw.number? = some q) : ∃ d, toDouble raw = .ok d ∧ d.isFinite
    ∧ (∀ d' : Double, |d.value - q| ≤ |d'.value - q|) ∧ (raw.type = .long ∨ d.value = q) := by
  obtain ⟨n, rfl, rfl⟩ | ⟨n, rfl, rfl⟩ | ⟨d, rfl, hf, rfl⟩ := Value.number?_eq_some_iff.mp h
  · have hl := n.le_toInt
    have hu := n.toInt_lt
    exact ⟨_, rfl, Double.isFinite_ofInt (by omega), Double.ofInt_nearest (by omega),
      .inr (Double.value_ofInt_of_lt (by omega))⟩
  · have hl := n.le_toInt
    have hu := n.toInt_lt
    exact ⟨_, rfl, Double.isFinite_ofInt (by omega), Double.ofInt_nearest (by omega), .inl rfl⟩
  · exact ⟨d, rfl, hf, fun d' => by simp, .inr rfl⟩

-- A number comes out unchanged if the type has it, and is out of range otherwise.
structure CoercesExactly (env : Environment) (raw : Value) (t : ValueType) (q : ℚ) : Prop where
  accepted : t.Represents q → ∃ v, convert env raw t = .ok v ∧ v.type = t ∧ v.number? = some q
  refused  : ¬t.Represents q → ∃ expected s, convert env raw t = .error (.outOfRange expected s)

namespace CoercesExactly

theorem of_eq_ok {v : Value} (hc : convert env raw t = .ok v) (ht : v.type = t) (hv : v.number? = some q) :
    CoercesExactly env raw t q :=
  ⟨fun _ => ⟨v, hc, ht, hv⟩, fun hr => absurd ⟨v, ht, hv⟩ hr⟩

theorem of_eq_error {e : ValueType} {s : String} (hc : convert env raw t = .error (.outOfRange e s))
    (hr : ¬t.Represents q) : CoercesExactly env raw t q :=
  ⟨fun h => absurd h hr, fun _ => ⟨e, s, hc⟩⟩

theorem unchanged_or_outOfRange (h : CoercesExactly env raw t q) :
    (∃ v, convert env raw t = .ok v ∧ v.type = t ∧ v.number? = some q)
      ∨ ∃ expected s, convert env raw t = .error (.outOfRange expected s) :=
  (Classical.em (t.Represents q)).imp h.accepted h.refused

end CoercesExactly

theorem coercesExactly_int (h : raw.number? = some q) : CoercesExactly env raw .int q := by
  have hc := convert_int env (Value.bare_of_number? h)
  obtain ⟨m, hm, hq⟩ | ⟨⟨e, s, he⟩, hn⟩ := toInt_cases h
  case inl =>
    rw [hm] at hc
    exact .of_eq_ok hc rfl (congrArg some hq)
  case inr =>
    rw [he] at hc
    exact .of_eq_error hc fun hr => (ValueType.represents_int_iff.mp hr).elim hn

-- A value that comes out as a long number is below the bound, or was none that could reach it.
theorem coercesExactly_long_iff (h : raw.number? = some q) : CoercesExactly env raw .long q
    ↔ (raw.type = .double → ValueType.long.Represents q → |q| < wholeBound) := by
  have hc := convert_long env (Value.bare_of_number? h)
  obtain ⟨n, hn, hq, hb⟩ | ⟨hd, ⟨s, he⟩, hk⟩ := toLong_cases h
  case inl =>
    rw [hn] at hc
    exact ⟨fun _ hd _ => hb hd, fun _ => .of_eq_ok hc rfl (congrArg some hq)⟩
  case inr =>
    rw [he] at hc
    constructor
    case mp =>
      intro hx _ hr
      have ⟨v, hv, _⟩ := hx.accepted hr
      exact nomatch hc.symm.trans hv
    case mpr =>
      intro hb
      refine .of_eq_error hc fun hr => ?_
      have ⟨n, hn⟩ := ValueType.represents_long_iff.mp hr
      exact (hb hd hr).not_ge (hk n.toInt hn)

theorem unchanged_or_outOfRange_long (h : raw.number? = some q) :
    (∃ v, convert env raw .long = .ok v ∧ v.type = .long ∧ v.number? = some q)
      ∨ ∃ expected s, convert env raw .long = .error (.outOfRange expected s) := by
  rw [convert_long env (Value.bare_of_number? h)]
  obtain ⟨n, hn, hq, -⟩ | ⟨-, ⟨s, he⟩, -⟩ := toLong_cases h
  case inl =>
    rw [hn]
    exact .inl ⟨_, rfl, rfl, congrArg some hq⟩
  case inr =>
    rw [he]
    exact .inr ⟨_, s, rfl⟩

theorem coercesExactly_double_iff (h : raw.number? = some q) : CoercesExactly env raw .double q
    ↔ (raw.type = .long → ValueType.double.Represents q) := by
  have hc := convert_double env (Value.bare_of_number? h)
  obtain ⟨d, hd, hf, hn, hq⟩ := toDouble_cases h
  rw [hd] at hc
  constructor
  case mp =>
    intro hx _
    by_contra hr
    have ⟨e, s, he⟩ := hx.refused hr
    exact nomatch hc.symm.trans he
  case mpr =>
    intro hl
    have hq : d.value = q := by
      refine hq.elim (fun ht => ?_) id
      obtain ⟨d', -, rfl⟩ := ValueType.represents_double_iff.mp (hl ht)
      simpa [sub_eq_zero] using hn d'
    exact .of_eq_ok hc rfl (Value.number?_eq_some_iff.mpr (.inr (.inr ⟨d, rfl, hf, hq⟩)))

-- What is brought to a whole number is unchanged or out of range, exact or not; only rounding changes a number.
theorem coercesExactly_iff (h : raw.number? = some q) (ht : t = .int ∨ t = .long ∨ t = .double) :
    (CoercesExactly env raw t q
      ↔ (raw.type = .double → t = .long → t.Represents q → |q| < wholeBound)
        ∧ (raw.type = .long → t = .double → t.Represents q))
    ∧ (t ≠ .double → (∃ v, convert env raw t = .ok v ∧ v.type = t ∧ v.number? = some q)
      ∨ ∃ expected s, convert env raw t = .error (.outOfRange expected s))
    ∧ (t = .double → ∃ d, convert env raw t = .ok (.double d) ∧ d.isFinite
      ∧ ∀ d' : Double, |d.value - q| ≤ |d'.value - q|) := by
  obtain rfl | rfl | rfl := ht
  · have hx : CoercesExactly env raw .int q := coercesExactly_int h
    exact ⟨iff_of_true hx ⟨nofun, nofun⟩, fun _ => hx.unchanged_or_outOfRange, nofun⟩
  · exact ⟨by simp [coercesExactly_long_iff h], fun _ => unchanged_or_outOfRange_long h, nofun⟩
  · refine ⟨by simp [coercesExactly_double_iff h], fun hn => absurd rfl hn, fun _ => ?_⟩
    obtain ⟨d, hd, hf, hn, _⟩ := toDouble_cases h
    rw [convert_double env (Value.bare_of_number? h), hd]
    exact ⟨d, rfl, hf, hn⟩

-- Up to here floating point numbers leave no whole number out.
theorem value_two_pow : (Double.mk 0x4340000000000000).value = 9007199254740992 := by
  rw [Double.value, show (Double.mk 0x4340000000000000).significand = 2 ^ 52 by decide,
    show (Double.mk 0x4340000000000000).scale = 1 by decide, if_neg (by decide)]
  norm_num

theorem coercesExactly_iff_two_pow : (Value.long 9007199254740992).number? = some 9007199254740992
    ∧ CoercesExactly .empty (.long 9007199254740992) .double 9007199254740992 := by
  have hq : (Value.long 9007199254740992).number? = some 9007199254740992 := by
    rw [Value.number?, show (9007199254740992 : Int64).toInt = 9007199254740992 by decide]
    norm_num
  have hr := ValueType.represents_double_iff.mpr ⟨_, by decide, value_two_pow⟩
  exact ⟨hq, (coercesExactly_iff hq (.inr (.inr rfl))).1.mpr ⟨nofun, fun _ _ => hr⟩⟩

-- The whole number next to that one is rounded to it; and of the long numbers that are floating point numbers too, one
-- from the bound on is refused.
theorem not_coercesExactly_edges :
    ((Value.long 9007199254740993).number? = some 9007199254740993
      ∧ ¬CoercesExactly .empty (.long 9007199254740993) .double 9007199254740993)
    ∧ (Value.double ⟨0x43dff41f8d035640⟩).number? = some 9210000000000000000
      ∧ ¬CoercesExactly .empty (.double ⟨0x43dff41f8d035640⟩) .long 9210000000000000000 := by
  have hl : (Value.long 9007199254740993).number? = some 9007199254740993 := by
    rw [Value.number?, show (9007199254740993 : Int64).toInt = 9007199254740993 by decide]
    norm_num
  have hd : (Value.double ⟨0x43dff41f8d035640⟩).number? = some 9210000000000000000 := by
    refine Value.number?_eq_some_iff.mpr (.inr (.inr ⟨_, rfl, by decide, ?_⟩))
    rw [Double.value, show (Double.mk 0x43dff41f8d035640).significand = 8994140625000000 by decide,
      show (Double.mk 0x43dff41f8d035640).scale = 10 by decide, if_neg (by decide)]
    norm_num
  refine ⟨⟨hl, fun h => ?_⟩, hd, fun h => ?_⟩
  · obtain ⟨d, -, hv⟩ := ValueType.represents_double_iff.mp ((coercesExactly_double_iff hl).mp h rfl)
    have hn := Double.value_ofInt_of_eq (n := 9007199254740993) (by decide) (by exact_mod_cast hv)
    rw [show Double.ofInt 9007199254740993 = ⟨0x4340000000000000⟩ by decide +kernel, value_two_pow] at hn
    norm_num at hn
  · have hr := ValueType.represents_long_iff.mpr
      ⟨9210000000000000000, show ((9210000000000000000 : Int64).toInt : ℚ) = 9210000000000000000 by
        rw [show (9210000000000000000 : Int64).toInt = 9210000000000000000 by decide]
        norm_num⟩
    have hb := (coercesExactly_long_iff hd).mp h rfl hr
    norm_num [wholeBound] at hb

end Conversion
end BulletinPipeline
