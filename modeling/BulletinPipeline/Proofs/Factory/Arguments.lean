import BulletinPipeline.Factory.Object

namespace BulletinPipeline

variable {m : Type → Type} {α : Type} {f : ObjectFactory m α} {env : Environment} {raw : Entries Value}

-- What a slot gives for the parameter at a position of the constructor.
inductive Slot.Fills (f : ObjectFactory m α) (env : Environment) (raw : Entries Value) (i : Nat) :
    Slot → Except Error Value → Prop
  | fixed (v : Value) (t : ValueType) : Fills f env raw i (.fixed v t) (.ok v)
  | missing {n : String} {t : ValueType} :
    raw.lookup n = none → Fills f env raw i (.option n t) (.error (.missingRequiredOption f.name n))
  | converted {n : String} {t : ValueType} {v w : Value} :
    raw.lookup n = some v → f.converter.toParameter env v f.signature i = .ok w →
      Fills f env raw i (.option n t) (.ok w)
  | refused {n : String} {t : ValueType} {v : Value} {e : ConversionError} :
    raw.lookup n = some v → f.converter.toParameter env v f.signature i = .error e →
      Fills f env raw i (.option n t) (.error (.conversion f.name n e))

theorem Slot.fills_iff {slot : Slot} {i : Nat} {x : Except Error Value} :
    slot.Fills f env raw i x ↔ f.argument env raw i slot = x := by
  constructor
  case mp =>
    intro h
    cases h <;> simp [ObjectFactory.argument, *]
  case mpr =>
    intro h
    subst h
    cases slot
    case fixed v t => exact .fixed v t
    case option n t =>
      unfold ObjectFactory.argument
      dsimp only
      split
      case h_1 hl => exact .missing hl
      case h_2 hl =>
        split
        case h_1 hc => exact .converted hl hc
        case h_2 hc => exact .refused hl hc

theorem Slot.fills_fixed_iff {i : Nat} {v w : Value} {t : ValueType} :
    (Slot.fixed v t).Fills f env raw i (.ok w) ↔ v = w where
  mp h  := by cases h; rfl
  mpr h := h ▸ .fixed v t

theorem Slot.fills_option_iff {i : Nat} {n : String} {w : Value} {t : ValueType} :
    (Slot.option n t).Fills f env raw i (.ok w)
      ↔ ∃ v, raw.lookup n = some v ∧ f.converter.toParameter env v f.signature i = .ok w where
  mp h  := by cases h; exact ⟨_, ‹_›, ‹_›⟩
  mpr   := fun ⟨_, hl, hc⟩ => .converted hl hc

-- The arguments are those of the slots, each at its position.
structure Filled (f : ObjectFactory m α) (env : Environment) (raw : Entries Value) (slots : List Slot)
    (i : Nat) (args : List Value) : Prop where
  length : args.length = slots.length
  fills  : ∀ j (slot : Slot) v, slots[j]? = some slot → args[j]? = some v →
    slot.Fills f env raw (i + j) (.ok v)

-- The first slot that is at fault.
def Unfilled (f : ObjectFactory m α) (env : Environment) (raw : Entries Value) (slots : List Slot)
    (i : Nat) (e : Error) : Prop :=
  ∃ before slot after, slots = before ++ slot :: after
    ∧ (∃ args, Filled f env raw before i args) ∧ slot.Fills f env raw (i + before.length) (.error e)

theorem filled_cons {slot : Slot} {slots : List Slot} {v : Value} {args : List Value} {i : Nat} :
    Filled f env raw (slot :: slots) i (v :: args)
      ↔ slot.Fills f env raw i (.ok v) ∧ Filled f env raw slots (i + 1) args := by
  constructor
  case mp =>
    intro ⟨hl, hf⟩
    refine ⟨hf 0 slot v rfl rfl, Nat.succ.inj hl, fun j slot v hs hv => ?_⟩
    rw [Nat.add_assoc, Nat.add_comm 1 j]
    exact hf (j + 1) slot v hs hv
  case mpr =>
    intro ⟨hs, hl, hf⟩
    refine ⟨congrArg Nat.succ hl, fun j slot v hs hv => ?_⟩
    cases j
    case zero =>
      cases hs
      cases hv
      assumption
    case succ j =>
      rw [← Nat.add_assoc, Nat.add_right_comm]
      exact hf j slot v hs hv

theorem argumentsFrom_eq_ok_iff {slots : List Slot} {i : Nat} {args : List Value} :
    f.argumentsFrom env raw i slots = .ok args ↔ Filled f env raw slots i args := by
  induction slots generalizing i args
  case nil =>
    constructor
    case mp =>
      intro h
      cases h
      exact ⟨rfl, fun _ _ _ h => nomatch h⟩
    case mpr =>
      intro ⟨hl, _⟩
      rw [List.length_eq_zero_iff.mp hl]
      rfl
  case cons slot slots hi =>
    constructor
    case mp =>
      intro h
      rw [ObjectFactory.argumentsFrom] at h
      cases hv : f.argument env raw i slot <;> rw [hv] at h
      case error => contradiction
      cases hs : f.argumentsFrom env raw (i + 1) slots <;> rw [hs] at h
      case error => contradiction
      cases h
      exact filled_cons.mpr ⟨Slot.fills_iff.mpr hv, hi.mp hs⟩
    case mpr =>
      intro h
      cases args
      case nil => exact nomatch h.length
      case cons v args =>
        have ⟨hv, hs⟩ := filled_cons.mp h
        rw [ObjectFactory.argumentsFrom, Slot.fills_iff.mp hv, hi.mpr hs]
        rfl

theorem argumentsFrom_eq_error_iff {slots : List Slot} {i : Nat} {e : Error} :
    f.argumentsFrom env raw i slots = .error e ↔ Unfilled f env raw slots i e := by
  induction slots generalizing i
  case nil =>
    constructor
    case mp  => exact (nomatch ·)
    case mpr => intro ⟨before, _, _, hs, _⟩; simp at hs
  case cons slot slots hi =>
    constructor
    case mp =>
      intro h
      rw [ObjectFactory.argumentsFrom] at h
      cases hv : f.argument env raw i slot <;> rw [hv] at h
      case error =>
        cases h
        exact ⟨[], slot, slots, rfl, ⟨[], rfl, fun _ _ _ h => nomatch h⟩, Slot.fills_iff.mpr hv⟩
      case ok v =>
        cases hs : f.argumentsFrom env raw (i + 1) slots <;> rw [hs] at h <;> cases h
        obtain ⟨before, q, after, rfl, ⟨args, ha⟩, hq⟩ := hi.mp hs
        have ha := filled_cons.mpr ⟨Slot.fills_iff.mpr hv, ha⟩
        refine ⟨slot :: before, q, after, rfl, ⟨v :: args, ha⟩, ?_⟩
        rw [List.length_cons, Nat.add_comm before.length 1, ← Nat.add_assoc]
        exact hq
    case mpr =>
      intro ⟨before, q, after, hs, ⟨args, ha⟩, hq⟩
      rw [ObjectFactory.argumentsFrom]
      cases before
      case nil =>
        cases hs
        rw [List.length_nil, Nat.add_zero] at hq
        rw [Slot.fills_iff.mp hq]
        rfl
      case cons =>
        cases hs
        cases args
        case nil => exact nomatch ha.length
        case cons v args =>
          have ⟨hv, ha⟩ := filled_cons.mp ha
          rw [List.length_cons, Nat.add_comm _ 1, ← Nat.add_assoc] at hq
          rw [Slot.fills_iff.mp hv, hi.mpr ⟨_, q, after, rfl, ⟨args, ha⟩, hq⟩]
          rfl

end BulletinPipeline
