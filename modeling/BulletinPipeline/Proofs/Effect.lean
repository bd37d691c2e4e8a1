import Mathlib.Control.Lawful

namespace BulletinPipeline

variable {ε ε' σ α β : Type}

theorem bind_eq_ok_iff {x : Except ε α} {f : α → Except ε β} {b : β} :
    (x >>= f) = .ok b ↔ ∃ a, x = .ok a ∧ f a = .ok b := by
  cases x
  case error => simp [bind, Except.bind]
  case ok a  => simp [bind, Except.bind]

theorem run_bind_eq_ok_iff {x : ExceptT ε Id α} {f : α → ExceptT ε Id β} {b : β} :
    (x >>= f).run = .ok b ↔ ∃ a, x.run = .ok a ∧ (f a).run = .ok b := by
  rw [← bind_eq_ok_iff (x := (x.run : Except ε α))]
  cases x <;> rfl

theorem run_adapt_eq_ok_iff {f : ε → ε'} {x : ExceptT ε Id α} {a : α} :
    (x.adapt f).run = .ok a ↔ x.run = .ok a := by
  cases x
  case error => exact ⟨nofun, nofun⟩
  case ok    => exact ⟨fun h => by cases h; rfl, fun h => by cases h; rfl⟩

theorem bind_apply (x : ExceptT ε (StateM σ) α) (f : α → ExceptT ε (StateM σ) β) (s : σ) :
    (x >>= f) s = match x s with
      | (.ok a, s)    => f a s
      | (.error e, s) => (.error e, s) := by
  change (match x s with | (a, s) => ExceptT.bindCont f a s) = _
  cases hx : x s
  case mk a s' => cases a <;> rfl

theorem run_state_bind (x : StateM σ α) (f : α → StateM σ β) (s : σ) :
    (x >>= f).run s = (f (x.run s).1).run (x.run s).2 :=
  rfl

theorem run_state_map (f : α → β) (x : StateM σ α) (s : σ) : (f <$> x).run s = (f (x.run s).1, (x.run s).2) :=
  rfl

theorem map_apply (f : α → β) (x : ExceptT ε (StateM σ) α) (s : σ) :
    (f <$> x) s = ((x s).1.map f, (x s).2) := by
  rw [← bind_pure_comp, bind_apply]
  cases hx : x s
  case mk a s' => cases a <;> rfl

theorem lift_apply (x : StateM σ α) (s : σ) :
    (liftM x : ExceptT ε (StateM σ) α) s = (.ok (x s).1, (x s).2) :=
  rfl

theorem tryCatch_apply (x : ExceptT ε (StateM σ) α) (handle : ε → ExceptT ε (StateM σ) α) (s : σ) :
    tryCatch x handle s = match x s with
      | (.ok a, s)    => (.ok a, s)
      | (.error e, s) => handle e s := by
  change (match x s with
    | (a, s) => (match a with | .ok a => pure (.ok a) | .error e => handle e : StateM σ (Except ε α)) s) = _
  cases hx : x s
  case mk a s' => cases a <;> rfl

theorem adapt_apply (f : ε → ε') (x : ExceptT ε (StateM σ) α) (s : σ) :
    x.adapt f s = ((x s).1.mapError f, (x s).2) :=
  rfl

theorem lift_ok_bind (a : α) (f : α → ExceptT ε (StateM σ) β) :
    (liftM (Except.ok a : Except ε α) >>= f : ExceptT ε (StateM σ) β) = f a :=
  rfl

end BulletinPipeline
