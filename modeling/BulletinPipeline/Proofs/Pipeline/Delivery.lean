import BulletinPipeline.Pipeline.Basic
import BulletinPipeline.Proofs.Effect

namespace BulletinPipeline

variable {σ ε α β : Type}

-- A call of an action, and what came of it.
structure Attempt (ε : Type) where
  archive  : Archive
  bulletin : Bulletin
  outcome  : Except ε Unit

-- What happens, and a record of the attempts so far.
abbrev Attempting (σ ε : Type) := StateM (σ × List (Attempt ε))

namespace Attempting

def recorded (x : Archive → Bulletin → StateM σ (Except ε Unit)) (a : Archive) (b : Bulletin) :
    Attempting σ ε (Except ε Unit) := fun s =>
  ((x a b s.1).1, (x a b s.1).2, s.2 ++ [⟨a, b, (x a b s.1).1⟩])

def silent (x : StateM σ α) : Attempting σ ε α := fun s =>
  ((x s.1).1, (x s.1).2, s.2)

-- But for the record, the same happens.
def Erases (x : Attempting σ ε α) (y : StateM σ α) : Prop :=
  ∀ s log, y.run s = ((x.run (s, log)).1, (x.run (s, log)).2.1)

theorem erases_pure (a : α) : Erases (pure a : Attempting σ ε α) (pure a) :=
  fun _ _ => rfl

theorem erases_silent (x : StateM σ α) : Erases (silent x : Attempting σ ε α) x :=
  fun _ _ => rfl

theorem erases_recorded (x : Archive → Bulletin → StateM σ (Except ε Unit)) (a : Archive) (b : Bulletin) :
    Erases (recorded x a b) (x a b) :=
  fun _ _ => rfl

theorem Erases.bind {x : Attempting σ ε α} {y : StateM σ α} {f : α → Attempting σ ε β} {g : α → StateM σ β}
    (hx : Erases x y) (hf : ∀ a, Erases (f a) (g a)) : Erases (x >>= f) (y >>= g) := by
  intro s log
  rw [run_state_bind, run_state_bind, hx s log]
  exact hf _ _ _

theorem Erases.map {x : Attempting σ ε α} {y : StateM σ α} (h : Erases x y) (f : α → β) :
    Erases (f <$> x) (f <$> y) := by
  intro s log
  rw [run_state_map, run_state_map, h s log]

theorem Erases.foldlM {f : β → α → Attempting σ ε β} {g : β → α → StateM σ β}
    (h : ∀ b a, Erases (f b a) (g b a)) (as : List α) (b : β) : Erases (as.foldlM f b) (as.foldlM g b) := by
  induction as generalizing b
  case nil => exact erases_pure b
  case cons a as hi =>
    rw [List.foldlM_cons, List.foldlM_cons]
    exact (h b a).bind hi

end Attempting

open Attempting

-- What came of calling one action, which may be called `n` times: it is called again only behind a failure, and is
-- given up only behind the last call.
structure Tried (n : Nat) (outcomes : List (Except ε Unit)) : Prop where
  called : outcomes ≠ []
  within : outcomes.length ≤ n
  stops  : ∀ o ∈ outcomes.dropLast, o.isOk = false
  spent  : outcomes.any (·.isOk) = false → outcomes.length = n

namespace Tried

variable {n : Nat} {outcomes : List (Except ε Unit)}

theorem success (n : Nat) (u : Unit) : Tried (n + 1) [(.ok u : Except ε Unit)] where
  called := List.cons_ne_nil _ _
  within := Nat.le_add_left 1 n
  stops  := nofun
  spent  := nofun

theorem failure (e : ε) : Tried 1 [(.error e : Except ε Unit)] where
  called := List.cons_ne_nil _ _
  within := Nat.le_refl 1
  stops  := nofun
  spent  := fun _ => rfl

theorem again (h : Tried n outcomes) (e : ε) : Tried (n + 1) (.error e :: outcomes) where
  called := List.cons_ne_nil _ _
  within := Nat.succ_le_succ h.within
  stops  := by
    rw [List.dropLast_cons_of_ne_nil h.called]
    exact List.forall_mem_cons.mpr ⟨rfl, h.stops⟩
  spent  := fun hn => congrArg Nat.succ (h.spent hn)

end Tried

namespace Pipeline

variable (call : Archive → Bulletin → StateM σ (Except ε Unit)) (b : Bulletin)

theorem erases_tryAgain (a : Archive) (pause : StateM σ Unit) (n : Nat) :
    Erases (tryAgain (silent pause) (recorded call a b) n) (tryAgain pause (call a b) n) := by
  induction n
  case zero => exact erases_recorded call a b
  case succ n hi =>
    rw [tryAgain, tryAgain]
    refine (erases_recorded call a b).bind fun o => ?_
    cases o
    case ok u    => exact erases_pure (Except.ok u)
    case error e => exact (erases_silent pause).bind fun _ => hi

-- One action: the answer is the last outcome, and so a success if there is one.
theorem exists_tryAgain (a : Archive) (pause : StateM σ Unit) (n : Nat) (s : σ) (log : List (Attempt ε)) :
    ∃ outcomes answer s', (tryAgain (silent pause) (recorded call a b) n).run (s, log)
        = (answer, s', log ++ outcomes.map (⟨a, b, ·⟩))
      ∧ Tried (n + 1) outcomes ∧ outcomes.any (·.isOk) = answer.isOk := by
  induction n generalizing s log
  case zero =>
    refine ⟨[(call a b s).1], (call a b s).1, (call a b s).2, rfl, ?_, by simp⟩
    cases (call a b s).1
    case ok u    => exact .success 0 u
    case error e => exact .failure e
  case succ n hi =>
    have hr : (recorded call a b).run (s, log)
        = ((call a b s).1, (call a b s).2, log ++ [⟨a, b, (call a b s).1⟩]) := rfl
    rw [tryAgain, run_state_bind, hr]
    cases (call a b s).1
    case ok u    => exact ⟨[.ok u], .ok u, (call a b s).2, rfl, .success _ u, rfl⟩
    case error e =>
      have ⟨outcomes, answer, s', ho, ht, ha⟩ :=
        hi (pause (call a b s).2).2 (log ++ [⟨a, b, .error e⟩])
      have hl := congrArg (answer, s', ·) (List.append_cons log ⟨a, b, .error e⟩ (outcomes.map (⟨a, b, ·⟩)))
      exact ⟨.error e :: outcomes, answer, s', ho.trans hl.symm, ht.again e, ha⟩

end Pipeline

namespace Delivery

-- Each run of calls counts once, whichever of them succeeded.
def of (runs : List (List (Except ε Unit))) : Delivery :=
  ⟨runs.countP (·.any (·.isOk)), runs.countP (!·.any (·.isOk))⟩

def add (d e : Delivery) : Delivery :=
  ⟨d.applied + e.applied, d.failed + e.failed⟩

theorem none_add (d : Delivery) : none.add d = d := by
  simp [add, none]

theorem count_add_of {outcomes : List (Except ε Unit)} {answer : Except ε Unit}
    (h : outcomes.any (·.isOk) = answer.isOk) (d : Delivery) (runs : List (List (Except ε Unit))) :
    (d.count answer).add (of runs) = d.add (of (outcomes :: runs)) := by
  rw [of, of, List.countP_cons, List.countP_cons, h]
  cases answer <;> simp [add, count, Except.isOk, Except.toBool] <;> omega

theorem applied_add_failed (runs : List (List (Except ε Unit))) :
    (of runs).applied + (of runs).failed = runs.length := by
  rw [List.length_eq_countP_add_countP fun outcomes => outcomes.any (·.isOk)]
  refine congrArg (_ + ·) (List.countP_congr fun outcomes _ => ?_)
  simp only [Bool.not_eq_true', decide_eq_true_eq, Bool.not_eq_true]

end Delivery

namespace Pipeline

variable (call : Archive → Bulletin → StateM σ (Except ε Unit)) (pause : Nat → StateM σ Unit)

-- The attempts for stages, one after the other, given what came of each of them.
def attemptsFor (b : Bulletin) (stages : List (Stage Archive)) (runs : List (List (Except ε Unit))) :
    List (Attempt ε) :=
  (stages.zip runs).flatMap fun r => r.2.map (⟨r.1.component, b, ·⟩)

-- Induction on the stages: whatever came of one of them, the next has its turn.
theorem exists_foldlM (b : Bulletin) (stages : List (Stage Archive)) (pause : StateM σ Unit) (n : Nat) (d : Delivery)
    (s : σ) (log : List (Attempt ε)) :
    ∃ (runs : List (List (Except ε Unit))) (s' : σ), (stages.foldlM
        (fun d t => d.count <$> tryAgain (silent pause) (recorded call t.component b) n) d).run (s, log)
          = (d.add (.of runs), s', log ++ attemptsFor b stages runs)
      ∧ runs.length = stages.length ∧ ∀ outcomes ∈ runs, Tried (n + 1) outcomes := by
  induction stages generalizing d s log
  case nil => exact ⟨[], s, congrArg (d, s, ·) (List.append_nil log).symm, rfl, nofun⟩
  case cons t stages hi =>
    have ⟨outcomes, answer, s₁, ho, ht, ha⟩ := exists_tryAgain call b t.component pause n s log
    have ⟨runs, s', hr, hl, hs⟩ := hi (d.count answer) s₁ (log ++ outcomes.map (⟨t.component, b, ·⟩))
    refine ⟨outcomes :: runs, s', ?_, congrArg Nat.succ hl, List.forall_mem_cons.mpr ⟨ht, hs⟩⟩
    rw [List.foldlM_cons, run_state_bind, run_state_map, ho, hr, Delivery.count_add_of ha, List.append_assoc]
    rfl

-- A delivery: the actions whose condition holds for the bulletin, if they have one, are called in order, each as often
-- as `Tried` says, and counted once.
structure Delivered (p : Pipeline) (b : Bulletin) (runs : List (List (Except ε Unit))) (log : List (Attempt ε))
    (d : Delivery) : Prop where
  length : runs.length = (p.actions.filter fun s => s.condition.all (·.holds b)).length
  tried  : ∀ outcomes ∈ runs, Tried p.attempts outcomes
  log_eq : log = attemptsFor b (p.actions.filter fun s => s.condition.all (·.holds b)) runs
  counts : d = .of runs
  total  : d.applied + d.failed = p.actions.countP fun s => s.condition.all (·.holds b)

theorem attempts_eq (p : Pipeline) :
    (p.attempts : Int) = p.settings.retry.elim 1 fun r => max 1 r.maxAttempts.toInt := by
  rw [attempts]
  cases p.settings.retry
  case none   => rfl
  case some r =>
    simp only [Option.map_some, Option.getD_some, Option.elim_some, RetrySettings.attempts]
    omega

theorem attempts_pos (p : Pipeline) : 0 < p.attempts := by
  rw [attempts]
  cases p.settings.retry
  case none   => exact Nat.one_pos
  case some r => exact Nat.le_max_left 1 _

theorem attempts_lt (p : Pipeline) : p.attempts < UInt32.size := by
  rw [attempts]
  cases p.settings.retry
  case none   => decide
  case some r =>
    have hr : r.maxAttempts.toInt < 2 ^ 31 := r.maxAttempts.toInt_lt
    have hs : UInt32.size = 2 ^ 32 := rfl
    simp only [Option.map_some, Option.getD_some, RetrySettings.attempts]
    omega

theorem exists_delivered (p : Pipeline) (b : Bulletin) (s : σ) :
    ∃ runs log d s', (p.deliverBy (recorded call) (silent ∘ pause) b).run (s, []) = (d, s', log)
      ∧ (p.deliverBy call pause b).run s = (d, s') ∧ p.Delivered b runs log d := by
  obtain ⟨runs, s', hr, hl, ht⟩ :=
    exists_foldlM call b (p.activeActions b) (pause p.delay) (p.attempts - 1) .none s []
  rw [Delivery.none_add, List.nil_append] at hr
  have he : Erases (p.deliverBy (recorded call) (silent ∘ pause) b) (p.deliverBy call pause b) :=
    .foldlM (fun _ (s : Stage Archive) => (erases_tryAgain call b s.component (pause p.delay) (p.attempts - 1)).map _)
      _ _
  refine ⟨runs, _, _, s', hr, ?_, hl, ?_, rfl, rfl, ?_⟩
  · rw [he s []]
    exact congrArg (fun r => (r.1, r.2.1)) hr
  · rwa [Nat.sub_add_cancel p.attempts_pos] at ht
  · rw [Delivery.applied_add_failed, List.countP_eq_length_filter]
    exact hl

section Counting

variable {m : Type → Type} [Monad m]

theorem toNat_succ {k : UInt32} (h : k.toNat + 1 < UInt32.size) : (k + 1).toNat = k.toNat + 1 := by
  rw [UInt32.toNat_add]
  exact Nat.mod_eq_of_lt h

-- The attempts, with the number of the one at hand in 32 bits. There is no answer if the number overflows.
def tryCounting (pause : m Unit) (call : m (Except ε Unit)) (attempts attempt : UInt32) :
    m (Option (Except ε Unit)) := do
  match ← call with
  | .ok u    => return some (.ok u)
  | .error e =>
    if attempt < attempts then
      pause
      if attempt.toNat + 1 < UInt32.size then
        tryCounting pause call attempts (attempt + 1)
      else return none
    else return some (.error e)
termination_by attempts.toNat - attempt.toNat
decreasing_by
  have := UInt32.lt_iff_toNat_lt.mp ‹attempt < attempts›
  rw [toNat_succ ‹attempt.toNat + 1 < UInt32.size›]
  omega

theorem tryCounting_eq [LawfulMonad m] (pause : m Unit) (call : m (Except ε Unit)) {n : Nat}
    {attempts attempt : UInt32} (h : attempt.toNat + n = attempts.toNat) :
    tryCounting pause call attempts attempt = some <$> tryAgain pause call n := by
  induction n generalizing attempt
  case zero =>
    have hl : ¬attempt < attempts := by
      rw [UInt32.lt_iff_toNat_lt]
      omega
    rw [tryCounting, tryAgain, map_eq_pure_bind]
    refine bind_congr fun o => ?_
    cases o
    case ok u    => rfl
    case error e => exact if_neg hl
  case succ n hi =>
    have hl : attempt < attempts := by
      rw [UInt32.lt_iff_toNat_lt]
      omega
    have hn : attempt.toNat + 1 < UInt32.size := by
      have hs : attempts.toNat < UInt32.size := attempts.toNat_lt
      omega
    rw [tryCounting, tryAgain, map_bind]
    refine bind_congr fun o => ?_
    cases o
    case ok u    => rw [map_pure]
    case error e =>
      dsimp only
      rw [if_pos hl, map_bind]
      refine bind_congr fun _ => ?_
      rw [if_pos hn]
      refine hi ?_
      rw [toNat_succ hn]
      omega

end Counting

-- What comes of a call may depend on all that happened before; with archives that write to storage this is `deliver`.
-- A counter of 32 bits makes the same attempts, and does not overflow.
theorem deliverBy_exact (p : Pipeline) (b : Bulletin) (s : σ) :
    (∃ runs log d s', (p.deliverBy (recorded call) (silent ∘ pause) b).run (s, []) = (d, s', log)
        ∧ (p.deliverBy call pause b).run s = (d, s') ∧ p.Delivered b runs log d)
      ∧ (∀ [Storage (StateM σ)], p.deliver b = p.deliverBy Archive.apply (Storage.pause (m := StateM σ)) b)
      ∧ (p.attempts : Int) = (p.settings.retry.elim 1 fun r => max 1 r.maxAttempts.toInt)
      ∧ ∀ a, tryCounting (pause p.delay) (call a b) (.ofNat p.attempts) 1
        = some <$> tryAgain (pause p.delay) (call a b) (p.attempts - 1) := by
  refine ⟨exists_delivered call pause p b s, rfl, p.attempts_eq, fun a => tryCounting_eq _ _ ?_⟩
  rw [UInt32.toNat_ofNat_of_lt' p.attempts_lt]
  exact Nat.add_sub_cancel' p.attempts_pos

def observation : Bulletin :=
  ⟨"METAR", "EFHK", "041020Z", "METAR EFHK 041020Z=", "in.txt"⟩

-- The second archive is for forecasts. Actions are tried up to three times.
def relay : Pipeline where
  name           := "relay"
  config         := ⟨"PipelineSettings",
    [("extension", .absent), ("inputDirectory", .string "in"), ("outputDirectory", .string "out"),
      ("retry", .present (.config "RetrySettings" [("delayMillis", .optionalLong none), ("maxAttempts", .int 3)])),
      ("workers", .optionalInt none)]⟩
  settings       := ⟨"in", "out", none, none, some ⟨3, none⟩⟩
  inputDirectory := "in"
  transformers   := []
  actions        :=
    [⟨"observations", ⟨"out/metar", "txt"⟩, some (.kind ["metar"])⟩,
      ⟨"forecasts", ⟨"out/taf", "txt"⟩, some (.kind ["taf"])⟩, ⟨"mirror", ⟨"mirror", "txt"⟩, none⟩]

-- Calls are numbered. The first one fails, and so does each that goes to the mirror.
def faulty (a : Archive) (_ : Bulletin) : StateM Nat (Except Nat Unit) := fun n =>
  (if n = 0 ∨ a.directory = "mirror" then .error n else .ok (), n + 1)

def relayAttempts : List (Attempt Nat) :=
  [⟨⟨"out/metar", "txt"⟩, observation, .error 0⟩, ⟨⟨"out/metar", "txt"⟩, observation, .ok ()⟩,
    ⟨⟨"mirror", "txt"⟩, observation, .error 2⟩, ⟨⟨"mirror", "txt"⟩, observation, .error 3⟩,
    ⟨⟨"mirror", "txt"⟩, observation, .error 4⟩]

theorem deliverBy_exact_relay : PipelineSettings.ofConfig relay.config = .ok relay.settings
    ∧ (relay.deliverBy faulty (fun _ => pure ()) observation).run 0 = (⟨1, 1⟩, 5)
    ∧ (∃ runs, relay.Delivered observation runs relayAttempts ⟨1, 1⟩) ∧ relay.attempts = 3
    ∧ tryCounting (pure ()) (faulty ⟨"mirror", "txt"⟩ observation) 3 1
      = some <$> tryAgain (pure ()) (faulty ⟨"mirror", "txt"⟩ observation) 2 := by
  have hr : (relay.deliverBy (recorded faulty) (silent ∘ fun _ => pure ()) observation).run (0, [])
      = (⟨1, 1⟩, 5, relayAttempts) := by rfl
  obtain ⟨⟨runs, log, d, s', hl, hd, h⟩, _, ha, hc⟩ := deliverBy_exact faulty (fun _ => pure ()) relay observation 0
  cases hr.symm.trans hl
  exact ⟨by rfl, hd, ⟨runs, h⟩, Int.ofNat.inj ha, hc ⟨"mirror", "txt"⟩⟩

end Pipeline
end BulletinPipeline
