import BulletinPipeline.Proofs.Recursion.Bodies

namespace BulletinPipeline

variable {env : Environment} {n : Nat}

namespace Recursion

theorem Work.run_of_run? {answer? : (c : Call) → Option c.Answer} {answer : (c : Call) → c.Answer} {α : Type}
    {w : Work α} {a : α} (ha : ∀ c b, answer? c = some b → answer c = b) (h : w.run? answer? = some a) :
    w.run answer = a := by
  induction w
  case done           => exact Option.some.inj h
  case call c next hi =>
    obtain ⟨b, hb, hn⟩ := Option.bind_eq_some_iff.mp h
    rw [run, ha c b hb]
    exact hi b hn

namespace Call

-- Answers a call with calls inside calls up to a depth; deeper ones are not answered.
def within (env : Environment) : Nat → (c : Call) → Option c.Answer
  | 0,     c => (c.work env).run? fun _ => none
  | n + 1, c => (c.work env).run? (within env n)

-- An answer at any depth is the answer. It is found by computation, where the functions themselves go down by a measure
-- that does not compute.
theorem answer_of_within {c : Call} {a : c.Answer} (h : c.within env n = some a) : c.answer env = a := by
  rw [← run_work]
  induction n generalizing c
  case zero      => exact Work.run_of_run? (fun _ b hb => absurd hb.symm (Option.some_ne_none b)) h
  case succ n hi => exact Work.run_of_run? (fun c _ h => run_work env c ▸ hi h) h

end Call
end Recursion

open Recursion

theorem Conversion.convert_of_within {v : Value} {t : ValueType} {x : Result Value}
    (h : (Call.convert v t).within env n = some x) : convert env v t = x :=
  Call.answer_of_within h

namespace Materializer

variable {d : Descriptor} {raw : Entries Value} {m : Memory}

theorem validate_of_within {x : Except Error Schema}
    (h : ((Call.validate d [] m).within env n).map (fun p => p.1.mapError Error.schema) = some x) :
    (validate env d m).1 = x := by
  obtain ⟨p, hp, rfl⟩ := Option.map_eq_some_iff.mp h
  exact (validate_fst env d m).trans <| congrArg (fun p => p.1.mapError Error.schema) (Call.answer_of_within hp)

theorem materialize_of_within {x : Except Error Config}
    (h : ((Work.configure d raw [] m).run? (Call.within env n)).map Prod.fst = some x) :
    (materialize env .standard d raw m).1 = x := by
  obtain ⟨p, hp, rfl⟩ := Option.map_eq_some_iff.mp h
  have hr : (Work.configure d raw [] m).run (Call.answer env) = p :=
    Work.run_of_run? (fun _ _ => Call.answer_of_within) hp
  exact congrArg Prod.fst ((congrFun (Work.run_configure d raw []) m).symm.trans hr)

end Materializer
end BulletinPipeline
