import BulletinPipeline.Proofs.Recursion.Descent
import BulletinPipeline.Proofs.Recursion.Evaluation
import Mathlib.Data.Finset.Card

namespace BulletinPipeline.Recursion

namespace Call

variable {env : Environment} {n : Nat} {d e : Descriptor} {path : List String}

-- The names that validation has not met on its path, when it is about to look at a descriptor.
def unmet (env : Environment) (d : Descriptor) (path : List String) : Finset String :=
  insert d.name env.names.toFinset \ path.toFinset

theorem mem_unmet (h : d.name ∉ path) : d.name ∈ unmet env d path := by
  simp [unmet, h]

theorem unmet_ssubset (hn : d.name ∉ path) (he : e.name ∈ env.names) :
    unmet env e (path ++ [d.name]) ⊂ unmet env d path := by
  rw [Finset.ssubset_iff_of_subset]
  · exact ⟨d.name, mem_unmet hn, by simp [unmet]⟩
  · intro n hm
    simp only [unmet, Finset.mem_sdiff, Finset.mem_insert, List.mem_toFinset, List.mem_append, not_or] at hm ⊢
    exact ⟨.inr (hm.1.elim (· ▸ he) id), hm.2.1⟩

theorem within_validate (h : (unmet env d path).card ≤ n) (m : Memory) :
    (validate d path m).within env n = some (BulletinPipeline.validate env d path m) := by
  induction n generalizing d path m
  case zero =>
    have hw : ((validate d path m).work env).AllCalls fun _ => False := by
      refine Work.allCalls_validate (fun hn => ?_) m
      have he := Finset.card_eq_zero.mp (Nat.le_zero.mp h)
      exact absurd he (Finset.ne_empty_of_mem (mem_unmet hn))
    exact (Work.run?_eq hw fun _ => False.elim).trans (congrArg some (run_work env _))
  case succ n hi =>
    have hw : ((validate d path m).work env).AllCalls fun c => c.within env n = some (c.answer env) := by
      refine Work.allCalls_validate (fun hn e m he => hi ?_ m) m
      have := Finset.card_lt_card (unmet_ssubset hn he)
      omega
    exact (Work.run?_eq hw fun _ => id).trans (congrArg some (run_work env _))

theorem exists_within (env : Environment) (c : Call) : ∃ n, ∀ k, c.within env (n + k) = some (c.answer env) := by
  induction c using wellFounded_descends.induction
  case h c hi =>
    by_cases hc : c.input?.isSome
    case pos =>
      have ha (q : Call) (hq : q.Starts ∨ q.Descends c) : ∃ n, ∀ k, q.within env (n + k) = some (q.answer env) := by
        rcases hq with ⟨d, m, rfl⟩ | hq
        case inl => exact ⟨_, fun k => within_validate (Nat.le_add_right _ k) m⟩
        case inr => exact hi q hq
      obtain ⟨n, hn⟩ := Work.exists_run?_eq (allCalls_work hc) ha
      refine ⟨n + 1, fun k => ?_⟩
      rw [Nat.add_right_comm, within, hn, run_work]
    case neg =>
      cases c
      case validate d path m => exact ⟨_, fun k => within_validate (Nat.le_add_right _ k) m⟩
      all_goals exact absurd rfl hc

end Call

-- Validation is at no place deeper than the number of names of the environment, the descriptor's own among them. All
-- other calls start a validation or descend, whatever is answered to the calls before.
theorem terminates (env : Environment) :
    (∀ d m k, (Call.validate d [] m).within env ((insert d.name env.names.toFinset).card + k)
        = some (validate env d [] m))
      ∧ (∀ s raw path m, ((Call.build s raw path m).work env).AllCalls fun c =>
          c.Starts ∨ c.Descends (.build s raw path m))
      ∧ (∀ raw t, ((Call.convert raw t).work env).AllCalls fun c => c.Starts ∨ c.Descends (.convert raw t))
      ∧ WellFounded Call.Descends
      ∧ (∀ c : Call, ∃ n, ∀ k, c.within env (n + k) = some (c.answer env))
      ∧ ∀ d raw m, ∃ n, ∀ k, (Work.configure d raw [] m).run? (Call.within env (n + k))
          = some (Materializer.materialize env .standard d raw m) := by
  refine ⟨fun d m k => ?_, fun s raw path m => Call.allCalls_work rfl, fun raw t => Call.allCalls_work rfl,
    Call.wellFounded_descends, Call.exists_within env, fun d raw m => ?_⟩
  · have hu : Call.unmet env d [] = insert d.name env.names.toFinset := by simp [Call.unmet]
    exact Call.within_validate (hu ▸ Nat.le_add_right _ k) m
  · have hw : (Work.configure d raw [] m).AllCalls fun _ => True := by
      exact Work.allCalls_configure (fun _ _ => trivial) (fun _ _ _ => trivial) d [] m
    obtain ⟨n, hn⟩ := Work.exists_run?_eq hw fun c _ => Call.exists_within env c
    exact ⟨n, fun k => (hn k).trans (congrArg some (congrFun (Work.run_configure d raw []) m))⟩

end BulletinPipeline.Recursion
