import BulletinPipeline.Proofs.Conversion.Basic
import BulletinPipeline.Proofs.Number.Numeral
import BulletinPipeline.Proofs.Recursion.Evaluation

namespace BulletinPipeline.Conversion

open Text

variable {env : Environment} {α φ : Type} {a : α} {t : ValueType} {fault : φ → ReadFault}
  {read : List Char → Except φ α} {s before behind : String} {k : Int}

theorem readAs_eq_ok_iff : readAs t fault read s = .ok a ↔ read (trimChars s.toList) = .ok a := by
  unfold readAs
  cases read (trimChars s.toList) <;> simp

theorem readAs_eq_error (h : ∀ a, read (trimChars s.toList) ≠ .ok a) :
    ∃ f, readAs t fault read s = .error (.unreadable t s (fault f)) := by
  unfold readAs
  cases hr : read (trimChars s.toList)
  case ok a    => exact absurd hr (h a)
  case error f => exact ⟨f, rfl⟩

theorem trimChars_around (hb : ∀ c ∈ before.toList ++ behind.toList, isBlank c) (hg : ∀ c ∈ s.toList, isGraphic c) :
    trimChars (before ++ s ++ behind).toList = s.toList := by
  obtain ⟨hb, ha⟩ := List.forall_mem_append.mp hb
  refine Trimmed.eq ⟨⟨_, _, by simp, hb, ha⟩, tight_of_forall fun c hc => isBlank_of_isGraphic (hg c hc)⟩

-- The text writes a number between white space.
def Spells (s : String) (k : Int) : Prop :=
  ∃ body, Trimmed s.toList body ∧ Numeral.Writes body k

theorem spells_iff : Spells s k ↔ Numeral.Writes (trimChars s.toList) k :=
  ⟨fun ⟨_, ht, hw⟩ => ht.eq ▸ hw, fun h => ⟨_, trimmed_trimChars s.toList, h⟩⟩

-- The texts that write numbers of a type convert to these numbers, and no other text does.
structure ReadsNumerals (env : Environment) (t : ValueType) (word : α → Value) (number : α → Int) : Prop where
  read    : ∀ s v, convert env (.string s) t = .ok v ↔ ∃ a, v = word a ∧ Spells s (number a)
  refused : ∀ s, (∃ fault, convert env (.string s) t = .error (.unreadable t s fault)) ↔ ¬∃ a, Spells s (number a)

theorem readsNumerals {word : α → Value} {number : α → Int} (fault : φ → ReadFault)
    (hc : ∀ s, convert env (.string s) t = (readAs t fault read s).map word)
    (hr : ∀ cs a, read cs = .ok a ↔ Numeral.Writes cs (number a)) : ReadsNumerals env t word number := by
  have ok {s : String} {a : α} : readAs t fault read s = .ok a ↔ Spells s (number a) := by
    rw [readAs_eq_ok_iff, hr, spells_iff]
  have error {s : String} (h : ¬∃ a, Spells s (number a)) :
      ∃ f, readAs t fault read s = .error (.unreadable t s (fault f)) := by
    refine readAs_eq_error fun a ha => h ⟨a, ?_⟩
    rwa [spells_iff, ← hr]
  refine ⟨fun s v => ⟨fun h => ?spelled, ?converted⟩, fun s => ⟨?unspelled, fun h => ?refused⟩⟩
  case spelled =>
    rw [hc] at h
    cases ha : readAs t fault read s <;> rw [ha] at h <;> cases h
    case ok a => exact ⟨a, rfl, ok.mp ha⟩
  case converted =>
    rintro ⟨a, rfl, ha⟩
    rw [hc, ok.mpr ha]
    rfl
  case unspelled =>
    rintro ⟨f, hf⟩ ⟨a, ha⟩
    rw [hc, ok.mpr ha] at hf
    contradiction
  case refused =>
    obtain ⟨f, hf⟩ := error h
    refine ⟨fault f, ?_⟩
    rw [hc, hf]
    rfl

theorem bare_string (s : String) : (Value.string s).Bare :=
  ⟨rfl, nofun⟩

theorem convert_string_int (env : Environment) (s : String) :
    convert env (.string s) .int = (readAs .int .integer Numeral.readInt32 s).map .int :=
  convert_int env (bare_string s)

theorem convert_string_long (env : Environment) (s : String) :
    convert env (.string s) .long = (readAs .long .integer Numeral.readInt64 s).map .long :=
  convert_long env (bare_string s)

theorem convert_string_bool (env : Environment) (s : String) :
    convert env (.string s) .bool = (readAs .bool (fun _ => .notBoolean) readBool s).map .bool := by
  rw [convert_plain (bare_string s) rfl]
  rfl

-- What a value is shown as is read as the value again, whatever white space stands around it.
structure ReadBackFrom (env : Environment) (v : Value) (s : String) : Prop where
  shown : convert env v .string = .ok (.string s)
  read  : ∀ before behind : String, (∀ c ∈ before.toList ++ behind.toList, isBlank c) →
    convert env (.string (before ++ s ++ behind)) v.type = .ok v

theorem readBackFrom {word : α → Value} (hs : convert env (word a) .string = .ok (.string s))
    (hc : ∀ s, convert env (.string s) (word a).type = (readAs t fault read s).map word)
    (hg : ∀ c ∈ s.toList, isGraphic c) (hr : read s.toList = .ok a) : ReadBackFrom env (word a) s := by
  refine ⟨hs, fun before behind h => ?_⟩
  have ha : readAs t fault read (before ++ s ++ behind) = .ok a := by
    rwa [readAs_eq_ok_iff, trimChars_around h hg]
  rw [hc, ha]
  rfl

theorem readBackFrom_int (env : Environment) (n : Int32) : ReadBackFrom env (.int n) n.toInt.repr := by
  have hb : (Value.int n).Bare := ⟨rfl, nofun⟩
  have hw := Numeral.writes_repr n.toInt
  refine readBackFrom ?_ (convert_string_int env) hw.graphic (Numeral.readInt32_eq_ok_iff.mpr hw)
  rw [convert_plain hb rfl]
  rfl

theorem readBackFrom_long (env : Environment) (n : Int64) : ReadBackFrom env (.long n) n.toInt.repr := by
  have hb : (Value.long n).Bare := ⟨rfl, nofun⟩
  have hw := Numeral.writes_repr n.toInt
  refine readBackFrom ?_ (convert_string_long env) hw.graphic (Numeral.readInt64_eq_ok_iff.mpr hw)
  rw [convert_plain hb rfl]
  rfl

theorem readBackFrom_bool (env : Environment) (b : Bool) :
    ReadBackFrom env (.bool b) (if b then "true" else "false") := by
  have hb : (Value.bool b).Bare := ⟨rfl, nofun⟩
  refine readBackFrom ?_ (convert_string_bool env) ?_ ?_
  · rw [convert_plain hb rfl]
    rfl
  · cases b <;> exact List.all_eq_true.mp (by decide)
  · cases b <;> rfl

theorem convert_text_exact (env : Environment) :
    (∀ v : Value, v.type = .int ∨ v.type = .long ∨ v.type = .bool → ∃ s, ReadBackFrom env v s)
    ∧ ReadsNumerals env .int .int Int32.toInt ∧ ReadsNumerals env .long .long Int64.toInt := by
  refine ⟨fun v hv => ?_, ?_, ?_⟩
  · cases v <;> simp [Value.type] at hv
    case int n  => exact ⟨_, readBackFrom_int env n⟩
    case long n => exact ⟨_, readBackFrom_long env n⟩
    case bool b => exact ⟨_, readBackFrom_bool env b⟩
  · exact readsNumerals .integer (convert_string_int env) fun _ _ => Numeral.readInt32_eq_ok_iff
  · exact readsNumerals .integer (convert_string_long env) fun _ _ => Numeral.readInt64_eq_ok_iff

-- The least long number between a no-break space and an ideographic one, zeros behind a sign, and a number that is one
-- too large.
theorem convert_text_exact_bounds :
    (∀ c ∈ "\u00A0".toList ++ "\u3000".toList, isBlank c)
    ∧ convert .empty (.string ("\u00A0" ++ "-9223372036854775808" ++ "\u3000")) .long = .ok (.long Int64.minValue)
    ∧ Spells " +007" 7 ∧ convert .empty (.string " +007") .int = .ok (.int 7)
    ∧ (¬∃ n : Int32, Spells "2147483648" n.toInt)
    ∧ ∃ fault, convert .empty (.string "2147483648") .int = .error (.unreadable .int "2147483648" fault) := by
  have ⟨hb, hi, _⟩ := convert_text_exact .empty
  have hc : ∀ c ∈ "\u00A0".toList ++ "\u3000".toList, isBlank c := List.all_eq_true.mp (by decide)
  obtain ⟨s, hs⟩ := hb (.long Int64.minValue) (.inr (.inl rfl))
  have ht : convert .empty (.long Int64.minValue) .string = .ok (.string "-9223372036854775808") :=
    convert_of_within (n := 0) rfl
  cases ht.symm.trans hs.shown
  have hw : Spells " +007" 7 := by
    rw [spells_iff]
    exact .plus ⟨by decide, List.all_eq_true.mp (by decide)⟩
  have hn : ¬∃ n : Int32, Spells "2147483648" n.toInt := by
    rintro ⟨n, hn⟩
    rw [spells_iff, ← Numeral.readInt32_eq_ok_iff] at hn
    have he : Numeral.readInt32 (trimChars "2147483648".toList) = .error .tooLarge := by decide +kernel
    cases he.symm.trans hn
  exact ⟨hc, hs.read _ _ hc, hw, (hi.read _ _).mpr ⟨7, rfl, hw⟩, hn, (hi.refused _).mpr hn⟩

end BulletinPipeline.Conversion
