import BulletinPipeline.Proofs.Effect
import BulletinPipeline.Proofs.Entries
import BulletinPipeline.Factory.Object

namespace BulletinPipeline

variable {σ α β γ : Type}

-- A call of a constructor or mutator. Mutators are called for the property that they set.
inductive Call (α : Type)
  | construct (args : Arguments)
  | set (property mutator : String) (object : α) (value : Value)

namespace Call

def property? : Call α → Option String
  | construct _         => none
  | set property _ _ _ => some property

end Call

-- What happens, and a record of the calls so far.
abbrev Recording (σ α : Type) := StateM (σ × List (Call α))

namespace Recording

def call (c : Call α) (x : ExceptT Cause (StateM σ) β) : ExceptT Cause (Recording σ α) β := fun s =>
  ((x s.1).1, (x s.1).2, s.2 ++ [c])

-- But for the record, the same happens.
def Erases (x : ExceptT Error (Recording σ α) β) (y : ExceptT Error (StateM σ) β) : Prop :=
  ∀ s calls, y s = ((x (s, calls)).1, (x (s, calls)).2.1)

theorem erases_pure (b : β) : Erases (pure b : ExceptT Error (Recording σ α) β) (pure b) :=
  fun _ _ => rfl

theorem erases_throw (e : Error) : Erases (throw e : ExceptT Error (Recording σ α) β) (throw e) :=
  fun _ _ => rfl

theorem erases_lift (x : Except Error β) :
    Erases (liftM x : ExceptT Error (Recording σ α) β) (liftM x) := by
  cases x <;> exact fun _ _ => rfl

theorem erases_adapt (f : Cause → Error) (c : Call α) (x : ExceptT Cause (StateM σ) β) :
    Erases ((call c x).adapt f) (x.adapt f) :=
  fun _ _ => rfl

theorem Erases.bind {x : ExceptT Error (Recording σ α) β} {y : ExceptT Error (StateM σ) β}
    {f : β → ExceptT Error (Recording σ α) γ} {g : β → ExceptT Error (StateM σ) γ} (hx : Erases x y)
    (hf : ∀ b, Erases (f b) (g b)) : Erases (x >>= f) (y >>= g) := by
  intro s calls
  rw [bind_apply, bind_apply, hx s calls]
  cases h : x (s, calls)
  case mk r s' =>
    cases r
    case error e => rfl
    case ok b    => exact hf b s'.1 s'.2

theorem Erases.foldlM {f : γ → β → ExceptT Error (Recording σ α) γ}
    {g : γ → β → ExceptT Error (StateM σ) γ} {bs : List β} (h : ∀ c, ∀ b ∈ bs, Erases (f c b) (g c b)) (c : γ) :
    Erases (bs.foldlM f c) (bs.foldlM g c) := by
  induction bs generalizing c
  case nil => exact erases_pure c
  case cons b bs hi =>
    rw [List.foldlM_cons, List.foldlM_cons]
    refine (h c b List.mem_cons_self).bind fun c => ?_
    exact hi (fun c b hb => h c b (List.mem_cons_of_mem _ hb)) c

end Recording

open Recording

def Constructor.recorded (c : Constructor (StateM σ) α) : Constructor (Recording σ α) α where
  params      := c.params
  isPublic    := c.isPublic
  invoke args := call (.construct args) (c.invoke args)

def Mutator.recorded (property : String) (x : Mutator (StateM σ) α) : Mutator (Recording σ α) α where
  name            := x.name
  param           := x.param
  isPublic        := x.isPublic
  mutate object v := call (.set property x.name object v) (x.mutate object v)

namespace ObjectFactory

def recorded (f : ObjectFactory (StateM σ) α) : ObjectFactory (Recording σ α) α where
  name        := f.name
  type        := f.type
  converter   := f.converter
  constructor := f.constructor.recorded
  slots       := f.slots
  mutators    := f.mutators.map fun e => (e.1, e.2.recorded e.1)

variable {b : Blueprint (StateM σ) α} {f : ObjectFactory (StateM σ) α} {env : Environment}
  {raw : Entries Value} {s : σ}

theorem lookup_recorded (f : ObjectFactory (StateM σ) α) (key : String) :
    f.recorded.mutators.lookup key = (f.mutators.lookup key).map (Mutator.recorded key) :=
  Entries.lookup_map Mutator.recorded f.mutators key

theorem understands_recorded (f : ObjectFactory (StateM σ) α) : f.recorded.understands = f.understands := by
  funext key
  rw [understands, lookup_recorded, Option.isSome_map]
  rfl

theorem argument_recorded (f : ObjectFactory (StateM σ) α) (i : Nat) (slot : Slot) :
    f.recorded.argument env raw i slot = f.argument env raw i slot := by
  cases slot <;> rfl

theorem argumentsFrom_recorded (f : ObjectFactory (StateM σ) α) (i : Nat) (slots : List Slot) :
    f.recorded.argumentsFrom env raw i slots = f.argumentsFrom env raw i slots := by
  induction slots generalizing i
  case nil => rfl
  case cons slot slots hi => simp only [argumentsFrom, argument_recorded, hi]

theorem settings_recorded (f : ObjectFactory (StateM σ) α) (raw : Entries Value) :
    f.recorded.settings raw = (f.settings raw).map fun x => (x.1, x.2.1.recorded x.1, x.2.2) := by
  simp only [settings, List.map_filterMap, lookup_recorded]
  refine List.filterMap_congr fun ⟨key, v⟩ _ => ?_
  change (if f.optionSlots.contains key then _ else _) = _
  split
  · rfl
  · cases f.mutators.lookup key <;> rfl

section Step

variable {object : α} {x : Mutator (StateM σ) α} {key : String} {v : Value}

theorem set_recorded : f.recorded.set env object (key, x.recorded key, v)
    = match f.converter.toParameter env v (f.mutatorSignature x) 0 with
      | .error e => throw (.propertySet f.name f.type key (.conversion e))
      | .ok v    => (call (.set key x.name object v) (x.mutate object v)).adapt
          (.propertySet f.name f.type key) :=
  rfl

theorem set_recorded_of_error {e : ConversionError}
    (h : f.converter.toParameter env v (f.mutatorSignature x) 0 = .error e) (s : σ) (log : List (Call α)) :
    f.recorded.set env object (key, x.recorded key, v) (s, log)
      = (.error (.propertySet f.name f.type key (.conversion e)), s, log) := by
  rw [set_recorded, h]
  rfl

theorem set_recorded_of_ok {w : Value}
    (h : f.converter.toParameter env v (f.mutatorSignature x) 0 = .ok w) (s : σ) (log : List (Call α)) :
    f.recorded.set env object (key, x.recorded key, v) (s, log)
      = ((x.mutate object w s).1.mapError (.propertySet f.name f.type key), (x.mutate object w s).2,
          log ++ [.set key x.name object w]) := by
  rw [set_recorded, h]
  rfl

end Step

theorem erases_set (f : ObjectFactory (StateM σ) α) (object : α) (x : Mutator (StateM σ) α)
    (key : String) (v : Value) :
    Erases (f.recorded.set env object (key, x.recorded key, v)) (f.set env object (key, x, v)) := by
  rw [set_recorded]
  dsimp only [set]
  cases f.converter.toParameter env v (f.mutatorSignature x) 0
  case error e => exact erases_throw _
  case ok v    => exact erases_adapt _ _ _

theorem erases_create (f : ObjectFactory (StateM σ) α) (env : Environment) (raw : Entries Value) :
    Erases (f.recorded.create env raw) (f.create env raw) := by
  unfold create
  rw [understands_recorded, argumentsFrom_recorded]
  split
  case h_1 => exact erases_throw _
  case h_2 =>
    refine Erases.bind (erases_lift _) fun values => Erases.bind (erases_adapt _ _ _) fun object => ?_
    rw [settings_recorded, List.foldlM_map]
    exact Erases.foldlM (fun object x _ => f.erases_set object x.2.1 x.1 x.2.2) object

end ObjectFactory

end BulletinPipeline
