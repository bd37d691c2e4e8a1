import BulletinPipeline.Proofs.Conversion.Basic

-- Work that makes calls. What a function does by itself is a tree: it is done, or it makes a call and goes on with
-- whatever that answers. Such work runs with answers to all calls, or with answers to some of them only.
namespace BulletinPipeline.Recursion

-- A call of one of the functions that call each other: validation of a descriptor that is reached by a path, building
-- of a configuration inside the schemas of a path, and conversion.
inductive Call
  | validate (d : Descriptor) (path : List String) (m : Memory)
  | build (s : Schema) (raw : Entries Value) (path : List String) (m : Memory)
  | convert (raw : Value) (t : ValueType)

def Call.Answer : Call → Type
  | validate .. => Except SchemaError Schema × Memory
  | build ..    => Except Error Config × Memory
  | convert ..  => Conversion.Result Value

inductive Work (α : Type)
  | done (a : α)
  | call (c : Call) (next : c.Answer → Work α)

namespace Work

variable {α β : Type} {P : Call → Prop} {answer : (c : Call) → c.Answer}

def bind (x : Work α) (f : α → Work β) : Work β :=
  match x with
  | done a      => f a
  | call c next => call c fun a => (next a).bind f

instance : Monad Work where
  pure := done
  bind := bind

instance : LawfulMonad Work := by
  refine .mk' Work (fun x => ?idMap) (fun _ _ => rfl) (fun x f g => ?assoc)
  case idMap =>
    induction x
    case done a      => rfl
    case call c _ hi => exact congrArg (call c) (funext hi)
  case assoc =>
    induction x
    case done a      => rfl
    case call c _ hi => exact congrArg (call c) (funext hi)

def run (answer : (c : Call) → c.Answer) : Work α → α
  | done a      => a
  | call c next => (next (answer c)).run answer

-- Gives nothing if a call is not answered.
def run? (answer? : (c : Call) → Option c.Answer) : Work α → Option α
  | done a      => some a
  | call c next => (answer? c).bind fun a => (next a).run? answer?

-- All calls have a property, whatever is answered.
def AllCalls (P : Call → Prop) : Work α → Prop
  | done _      => True
  | call c next => P c ∧ ∀ a, (next a).AllCalls P

theorem run_bind (x : Work α) (f : α → Work β) : (x >>= f).run answer = (f (x.run answer)).run answer := by
  induction x
  case done           => rfl
  case call c next hi => exact hi (answer c)

theorem AllCalls.bind {x : Work α} {f : α → Work β} (hx : x.AllCalls P) (hf : ∀ a, (f a).AllCalls P) :
    (x >>= f).AllCalls P := by
  induction x
  case done a         => exact hf a
  case call c next hi => exact ⟨hx.1, fun a => hi a (hx.2 a)⟩

theorem run?_eq {answer? : (c : Call) → Option c.Answer} {w : Work α} (h : w.AllCalls P)
    (ha : ∀ c, P c → answer? c = some (answer c)) : w.run? answer? = some (w.run answer) := by
  induction w
  case done => rfl
  case call c next hi =>
    rw [run?, ha c h.1]
    exact hi (answer c) (h.2 (answer c))

-- Work makes finitely many calls, so that there is a depth at which all of them are answered.
theorem exists_run?_eq {within : Nat → (c : Call) → Option c.Answer} {w : Work α} (h : w.AllCalls P)
    (ha : ∀ c, P c → ∃ n, ∀ k, within (n + k) c = some (answer c)) :
    ∃ n, ∀ k, w.run? (within (n + k)) = some (w.run answer) := by
  induction w
  case done           => exact ⟨0, fun _ => rfl⟩
  case call c next hi =>
    obtain ⟨i, hc⟩ := ha c h.1
    obtain ⟨j, hn⟩ := hi (answer c) (h.2 (answer c))
    refine ⟨i + j, fun k => ?_⟩
    rw [run?, Nat.add_assoc, hc, Nat.add_left_comm]
    exact hn (i + k)

end Work

-- Work that may fail, and keeps a memory in either case.
abbrev Building := ExceptT Error (StateT Memory Work)

namespace Building

variable {α β : Type} {P : Call → Prop} {answer : (c : Call) → c.Answer} {x : Building α} {f : α → Building β}

def run (answer : (c : Call) → c.Answer) (x : Building α) : Materializing α :=
  fun m => (x m).run answer

def AllCalls (P : Call → Prop) (x : Building α) : Prop :=
  ∀ m, (x m).AllCalls P

theorem bind_apply (x : Building α) (f : α → Building β) (m : Memory) : (x >>= f) m = x m >>= fun
    | (.ok a, m)    => f a m
    | (.error e, m) => .done (.error e, m) := by
  change (x m >>= fun p => ExceptT.bindCont f p.1 p.2) = _
  refine congrArg (x m >>= ·) (funext fun p => ?_)
  rcases p with ⟨_ | _, _⟩ <;> rfl

theorem run_bind (x : Building α) (f : α → Building β) :
    (x >>= f).run answer = x.run answer >>= fun a => (f a).run answer := by
  funext m
  rw [BulletinPipeline.bind_apply, run, bind_apply, Work.run_bind, run]
  rcases (x m).run answer with ⟨_ | _, _⟩ <;> rfl

theorem run_mapM (f : α → Building β) (as : List α) :
    (as.mapM f).run answer = as.mapM fun a => (f a).run answer := by
  induction as
  case nil          => rfl
  case cons a as hi =>
    rw [List.mapM_cons, List.mapM_cons, run_bind]
    simp only [run_bind, hi]
    rfl

theorem AllCalls.bind (hx : x.AllCalls P) (hf : ∀ a, (f a).AllCalls P) : (x >>= f).AllCalls P := by
  intro m
  rw [bind_apply]
  refine (hx m).bind fun p => ?_
  rcases p with ⟨_ | a, m⟩
  case error => trivial
  case ok    => exact hf a m

theorem allCalls_pure (a : α) : (pure a : Building α).AllCalls P :=
  fun _ => trivial

theorem allCalls_throw (e : Error) : (throw e : Building α).AllCalls P :=
  fun _ => trivial

theorem AllCalls.mapM {as : List α} (h : ∀ a ∈ as, (f a).AllCalls P) : (as.mapM f).AllCalls P := by
  induction as
  case nil          => exact allCalls_pure []
  case cons a as hi =>
    rw [List.mapM_cons]
    refine (h a List.mem_cons_self).bind fun _ => AllCalls.bind ?_ fun _ => allCalls_pure _
    exact hi fun b hb => h b (List.mem_cons_of_mem _ hb)

end Building
end BulletinPipeline.Recursion
