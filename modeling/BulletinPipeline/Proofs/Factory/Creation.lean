import BulletinPipeline.Proofs.Factory.Arguments
import BulletinPipeline.Proofs.Factory.Recording
import BulletinPipeline.Proofs.Factory.Resolution

namespace BulletinPipeline

open Recording

variable {σ α : Type} {b : Blueprint (StateM σ) α} {f : ObjectFactory (StateM σ) α} {env : Environment}
  {raw : Entries Value}

-- What the options that are left do to an object, one after the other: each is converted for the public
-- mutator of its name, which is called once, until one of them fails.
inductive Applies (b : Blueprint (StateM σ) α) (f : ObjectFactory (StateM σ) α) (env : Environment) :
    Entries Value → α → σ → List (Call α) → Except Error α → σ → Prop
  | done {object : α} {s : σ} : Applies b f env [] object s [] (.ok object) s
  | unconverted {key : String} {raw : Value} {rest : Entries Value} {object : α} {s : σ}
      {x : Mutator (StateM σ) α} {e : ConversionError} :
    b.Sets key x → f.converter.toParameter env raw (f.mutatorSignature x) 0 = .error e →
      Applies b f env ((key, raw) :: rest) object s []
        (.error (.propertySet f.name f.type key (.conversion e))) s
  | refused {key : String} {raw v : Value} {rest : Entries Value} {object : α} {s s' : σ}
      {x : Mutator (StateM σ) α} {cause : Cause} :
    b.Sets key x → f.converter.toParameter env raw (f.mutatorSignature x) 0 = .ok v →
      x.mutate object v s = (.error cause, s') →
      Applies b f env ((key, raw) :: rest) object s [.set key x.name object v]
        (.error (.propertySet f.name f.type key cause)) s'
  | set {key : String} {raw v : Value} {rest : Entries Value} {object object' : α} {s s' s'' : σ}
      {x : Mutator (StateM σ) α} {calls : List (Call α)} {answer : Except Error α} :
    b.Sets key x → f.converter.toParameter env raw (f.mutatorSignature x) 0 = .ok v →
      x.mutate object v s = (.ok object', s') → Applies b f env rest object' s' calls answer s'' →
      Applies b f env ((key, raw) :: rest) object s (.set key x.name object v :: calls) answer s''

-- What creation from a map does in a state: its answer, the state afterwards and the calls on the way.
inductive Creates (b : Blueprint (StateM σ) α) (f : ObjectFactory (StateM σ) α) (env : Environment)
    (raw : Entries Value) (s : σ) : Except Error α × σ × List (Call α) → Prop
  | unknown {key : String} : IsLeast {k | k ∈ Entries.keys raw ∧ ¬b.Understands k} key →
    Creates b f env raw s (.error (.unknownOption f.name key), s, [])
  | unfilled {e : Error} : (∀ k ∈ Entries.keys raw, b.Understands k) →
    Unfilled f env raw b.slots 0 e → Creates b f env raw s (.error e, s, [])
  | refused {args : List Value} {cause : Cause} {s' : σ} : (∀ k ∈ Entries.keys raw, b.Understands k) →
    Filled f env raw b.slots 0 args →
    f.constructor.invoke ⟨args, f.signature⟩ s = (.error cause, s') →
    Creates b f env raw s (.error (.construction f.name f.type cause), s', [.construct ⟨args, f.signature⟩])
  | constructed {args : List Value} {object : α} {s' s'' : σ} {calls : List (Call α)}
      {answer : Except Error α} : (∀ k ∈ Entries.keys raw, b.Understands k) →
    Filled f env raw b.slots 0 args →
    f.constructor.invoke ⟨args, f.signature⟩ s = (.ok object, s') →
    Applies b f env (raw.filter (·.1 ∉ b.optionSlots)) object s' calls answer s'' →
    Creates b f env raw s (answer, s'', .construct ⟨args, f.signature⟩ :: calls)

namespace Applies

variable {rest : Entries Value} {object : α} {s s' : σ} {calls : List (Call α)}
  {answer : Except Error α}

theorem exists_of_sets (h : ∀ k ∈ Entries.keys rest, ∃ x, b.Sets k x) (object : α) (s : σ) :
    ∃ calls answer s', Applies b f env rest object s calls answer s' := by
  induction rest generalizing object s
  case nil => exact ⟨[], .ok object, s, .done⟩
  case cons e rest hi =>
    have ⟨⟨x, hx⟩, hr⟩ := List.forall_mem_cons.mp h
    cases hv : f.converter.toParameter env e.2 (f.mutatorSignature x) 0
    case error c => exact ⟨_, _, _, .unconverted hx hv⟩
    case ok v =>
      cases hm : x.mutate object v s
      case mk r s' =>
        cases r
        case error c => exact ⟨_, _, _, .refused hx hv hm⟩
        case ok o    =>
          have ⟨calls, answer, s'', ha⟩ := hi hr o s'
          exact ⟨_, _, _, .set hx hv hm ha⟩

theorem properties_eq {object' : α} (h : Applies b f env rest object s calls (.ok object') s') :
    calls.map Call.property? = (Entries.keys rest).map some := by
  generalize ha : Except.ok object' = answer at h
  induction h
  case done        => rfl
  case unconverted => contradiction
  case refused     => contradiction
  case set hi      => exact congrArg (_ :: ·) (hi ha)

-- Induction on the map itself, as the options for slots are dropped on the way.
theorem run (hb : b.Resolves f) {es : Entries Value}
    (h : Applies b f env (es.filter (·.1 ∉ b.optionSlots)) object s calls answer s')
    (log : List (Call α)) :
    (f.recorded.settings es).foldlM (f.recorded.set env) object (s, log) = (answer, s', log ++ calls) := by
  rw [ObjectFactory.settings_recorded, List.foldlM_map]
  induction es generalizing object s calls log
  case nil =>
    cases h
    rw [List.append_nil]
    rfl
  case cons e es hi =>
    by_cases hk : e.1 ∈ b.optionSlots
    case pos =>
      have hs : f.settings (e :: es) = f.settings es := by
        simp [ObjectFactory.settings, hb.optionSlots, hk]
      rw [List.filter_cons_of_neg (by simpa using hk)] at h
      rw [hs]
      exact hi h log
    case neg =>
      have hs {x : Mutator (StateM σ) α} (hx : b.Sets e.1 x) :
          f.settings (e :: es) = (e.1, x, e.2) :: f.settings es := by
        simp [ObjectFactory.settings, hb.optionSlots, hk, (hb.mutators ..).mpr hx]
      rw [List.filter_cons_of_pos (by simpa using hk)] at h
      cases h
      case unconverted hx hv =>
        rw [hs hx, List.foldlM_cons, bind_apply, ObjectFactory.set_recorded_of_error hv, List.append_nil]
      case refused hx hv hm =>
        rw [hs hx, List.foldlM_cons, bind_apply, ObjectFactory.set_recorded_of_ok hv, hm]
        rfl
      case set hx hv hm ha =>
        rw [hs hx, List.foldlM_cons, bind_apply, ObjectFactory.set_recorded_of_ok hv, hm]
        exact (hi ha _).trans (by rw [List.append_assoc, List.singleton_append])

end Applies

namespace Creates

variable {s : σ} {out : Except Error α × σ × List (Call α)}

theorem find?_eq_none_iff (hb : b.Resolves f) :
    (Entries.keys raw).find? (!f.understands ·) = none ↔ ∀ k ∈ Entries.keys raw, b.Understands k := by
  simp [List.find?_eq_none, ← hb.understands_iff]

theorem isLeast_of_find? (hb : b.Resolves f) (hr : raw.Ascending) {key : String}
    (h : (Entries.keys raw).find? (!f.understands ·) = some key) :
    IsLeast {k | k ∈ Entries.keys raw ∧ ¬b.Understands k} key := by
  have hl := Entries.isLeast_of_find? hr h
  simpa [← hb.understands_iff] using hl

theorem create_of_known (hb : b.Resolves f) (hk : ∀ k ∈ Entries.keys raw, b.Understands k) :
    f.recorded.create env raw = (do
      let values ← f.argumentsFrom env raw 0 b.slots
      let object ← (f.recorded.constructor.invoke ⟨values, f.signature⟩).adapt
        (.construction f.name f.type)
      (f.recorded.settings raw).foldlM (f.recorded.set env) object) := by
  unfold ObjectFactory.create
  rw [ObjectFactory.understands_recorded, (find?_eq_none_iff hb).mpr hk, ObjectFactory.argumentsFrom_recorded]
  rw [← hb.slots]
  rfl

theorem run (hb : b.Resolves f) (hr : raw.Ascending) (h : Creates b f env raw s out) :
    f.recorded.create env raw (s, []) = out := by
  cases h
  case unknown key hl =>
    unfold ObjectFactory.create
    rw [ObjectFactory.understands_recorded]
    cases hf : (Entries.keys raw).find? (!f.understands ·)
    case none =>
      exact absurd ((find?_eq_none_iff hb).mp hf key hl.1.1) hl.1.2
    case some k =>
      rw [(isLeast_of_find? hb hr hf).unique hl]
      rfl
  case unfilled hk he =>
    rw [create_of_known hb hk, argumentsFrom_eq_error_iff.mpr he]
    rfl
  case refused hk ha hc =>
    rw [create_of_known hb hk, argumentsFrom_eq_ok_iff.mpr ha, lift_ok_bind, bind_apply, adapt_apply]
    simp only [ObjectFactory.recorded, Constructor.recorded, call, hc]
    rfl
  case constructed hk ha hc hs =>
    rw [create_of_known hb hk, argumentsFrom_eq_ok_iff.mpr ha, lift_ok_bind, bind_apply, adapt_apply]
    simp only [ObjectFactory.recorded, Constructor.recorded, call, hc]
    exact hs.run hb _

-- One of the outcomes always applies.
theorem exists_creates (hb : b.Resolves f) (hr : raw.Ascending) (env : Environment) (s : σ) :
    ∃ out, Creates b f env raw s out := by
  cases hf : (Entries.keys raw).find? (!f.understands ·)
  case some k => exact ⟨_, .unknown (isLeast_of_find? hb hr hf)⟩
  case none   =>
    have hk := (find?_eq_none_iff hb).mp hf
    cases ha : f.argumentsFrom env raw 0 b.slots
    case error e => exact ⟨_, .unfilled hk (argumentsFrom_eq_error_iff.mp ha)⟩
    case ok args =>
      have ha := argumentsFrom_eq_ok_iff.mp ha
      cases hc : f.constructor.invoke ⟨args, f.signature⟩ s
      case mk r s' =>
        cases r
        case error c  => exact ⟨_, .refused hk ha hc⟩
        case ok object =>
          have hx (k : String) (hm : k ∈ Entries.keys (raw.filter (·.1 ∉ b.optionSlots))) :
              ∃ x, b.Sets k x := by
            obtain ⟨e, he, rfl⟩ := List.mem_map.mp hm
            have ⟨he, hn⟩ := List.mem_filter.mp he
            exact (hk e.1 (List.mem_map_of_mem he)).resolve_left (of_decide_eq_true hn)
          obtain ⟨calls, answer, s'', h⟩ := Applies.exists_of_sets hx object s'
          exact ⟨_, .constructed hk ha hc h⟩

end Creates

namespace ObjectFactory

-- Gauges count in the state how often they are touched.
def gauge : ObjectClass (StateM Nat) (List Value) where
  name         := "Gauge"
  constructors := [⟨[.long, .string], true, fun args n => (.ok args.values, n + 1)⟩]
  mutators     := [⟨"setUnit", .string, true, fun object v n => (.ok (v :: object), n + 1)⟩]

def gaugeBlueprint : Blueprint (StateM Nat) (List Value) where
  target    := gauge
  name      := none
  converter := .standard
  slots     := [.option "limit" .long, .ofValue (.string "main")]

def gaugeFactory : ObjectFactory (StateM Nat) (List Value) where
  name        := "Gauge"
  type        := "Gauge"
  converter   := .standard
  constructor := ⟨[.long, .string], true, fun args n => (.ok args.values, n + 1)⟩
  slots       := [.option "limit" .long, .ofValue (.string "main")]
  mutators    := [("unit", ⟨"setUnit", .string, true, fun object v n => (.ok (v :: object), n + 1)⟩)]

end ObjectFactory
end BulletinPipeline
