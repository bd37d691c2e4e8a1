import BulletinPipeline.Proofs.Conversion.Basic

namespace BulletinPipeline

-- The type that a refused value should have had.
def ConversionError.expected? : ConversionError → Option ValueType
  | incompatible t _ | outOfRange t _ | unreadable t _ _ => some t
  | _                                                    => none

namespace Conversion

variable {v : Value} {t : ValueType} {e : ConversionError}

-- Floating point numbers become int numbers by way of long numbers.
def blamed : ValueType → Value → ValueType
  | .int, .double d => if d.isWhole && d.truncNat < wholeBound then .int else .long
  | t,    _         => t

theorem expected?_of_readAs {α φ : Type} {fault : φ → ReadFault} {read : List Char → Except φ α} {s : String}
    (h : readAs t fault read s = .error e) : e.expected? = some t := by
  unfold readAs at h
  split at h <;> cases h
  rfl

theorem expected?_of_toBool (h : toBool v = .error e) : e.expected? = some .bool := by
  cases v
  case bool   => contradiction
  case string => exact expected?_of_readAs h
  all_goals cases h; rfl

theorem expected?_of_toLong (h : toLong v = .error e) : e.expected? = some .long := by
  cases v
  case string => exact expected?_of_readAs h
  case double =>
    simp only [toLong] at h
    split at h <;> cases h
    rfl
  all_goals cases h; try rfl

theorem expected?_of_narrow {n : Int64} (h : narrow n = .error e) : e.expected? = some .int := by
  unfold narrow at h
  split at h <;> cases h
  rfl

theorem expected?_of_toInt (h : toInt v = .error e) : e.expected? = some (blamed .int v) := by
  cases v
  case string => exact expected?_of_readAs h
  case int    => exact nomatch (toInt_int _).symm.trans h
  case long   => exact expected?_of_narrow h
  case double d =>
    rw [toInt_eq (by simp), toLong] at h
    simp only [blamed]
    by_cases hw : d.isWhole && d.truncNat < wholeBound
    case pos =>
      rw [if_pos hw] at h ⊢
      exact expected?_of_narrow h
    case neg =>
      rw [if_neg hw] at h ⊢
      cases h
      rfl
  all_goals cases h; rfl

theorem expected?_of_toDouble (h : toDouble v = .error e) : e.expected? = some .double := by
  cases v
  case string => exact expected?_of_readAs h
  all_goals cases h; try rfl

theorem expected?_of_toText (h : toText v = .error e) : e.expected? = some .string := by
  cases v <;> cases h <;> rfl

-- Nothing inside a value is looked at.
theorem expected?_of_plain {read : Value → Result Value} (hr : plain? t = some read) (h : read v = .error e) :
    e.expected? = some (blamed t.unwrapped v) := by
  cases t <;> cases hr
  case any            => contradiction
  case bool           => exact expected?_of_toBool (error_of_map h)
  case int            => exact expected?_of_toInt (error_of_map h)
  case long           => exact expected?_of_toLong (error_of_map h)
  case double         => exact expected?_of_toDouble (error_of_map h)
  case string         => exact expected?_of_toText (error_of_map h)
  case map            => cases v <;> cases h <;> rfl
  case optionalInt    => exact expected?_of_toInt (error_of_bind (fun _ => ⟨_, rfl⟩) h)
  case optionalLong   => exact expected?_of_toLong (error_of_bind (fun _ => ⟨_, rfl⟩) h)
  case optionalDouble => exact expected?_of_toDouble (error_of_bind (fun _ => ⟨_, rfl⟩) h)
  case object =>
    cases v <;> dsimp only at h
    case object => split at h <;> cases h; rfl
    all_goals cases h; rfl

end Conversion
end BulletinPipeline
