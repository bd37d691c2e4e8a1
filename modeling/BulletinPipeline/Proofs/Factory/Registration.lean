import BulletinPipeline.Factory.Registry
import BulletinPipeline.Proofs.Effect
import BulletinPipeline.Proofs.Entries

namespace BulletinPipeline.Registry

variable {m : Type → Type} {α : Type} {r : Registry m α} {f : Factory m α} {n : String}

-- A call that registers a factory. Where it is refused the registry stays as it is.
def offer (f : Factory m α) : StateM (Registry m α) (Except Error Unit) := fun r =>
  match r.register f with
  | .ok r    => (.ok (), r)
  | .error e => (.error e, r)

def offerAll (fs : List (Factory m α)) : StateM (Registry m α) (List (Except Error Unit)) :=
  fs.mapM offer

-- What calls in this order make of an empty registry.
def afterAll (fs : List (Factory m α)) : Registry m α :=
  ((offerAll fs).run empty).2

theorem offer_taken (h : (r.get? f.name).isSome) : (offer f).run r = (.error (.duplicateFactory f.name), r) := by
  have hr : r.register f = .error (.duplicateFactory f.name) := if_pos h
  simp only [StateT.run, offer, hr]

theorem offer_free (h : r.get? f.name = none) :
    (offer f).run r = (.ok (), ⟨Entries.insert f.name f r.factories⟩) := by
  have hr : r.register f = .ok ⟨Entries.insert f.name f r.factories⟩ := if_neg (by simp [h])
  simp only [StateT.run, offer, hr]

theorem accepted_iff : ((offer f).run r).1 = .ok () ↔ r.get? f.name = none := by
  cases hf : r.get? f.name
  case none   => simp [offer_free hf]
  case some g => simp [offer_taken (r := r) (f := f) (by simp [hf])]

theorem refused_iff {e : Error} :
    ((offer f).run r).1 = .error e ↔ (r.get? f.name).isSome ∧ e = .duplicateFactory f.name := by
  cases hf : r.get? f.name
  case none   => simp [offer_free hf]
  case some g => simp [offer_taken (r := r) (f := f) (by simp [hf]), eq_comm]

theorem offerAll_cons (f : Factory m α) (fs : List (Factory m α)) (r : Registry m α) :
    (offerAll (f :: fs)).run r = (((offer f).run r).1 :: ((offerAll fs).run ((offer f).run r).2).1,
      ((offerAll fs).run ((offer f).run r).2).2) := by
  rw [offerAll, List.mapM_cons]
  rfl

-- One call adds the binding of one name at most, and changes none.
theorem get?_offer (f : Factory m α) (r : Registry m α) (n : String) :
    ((offer f).run r).2.get? n = (r.get? n).or ([f].find? (·.name = n)) := by
  cases hf : r.get? f.name
  case some g =>
    rw [offer_taken (by simp [hf])]
    by_cases he : f.name = n
    case pos => simp [← he, hf]
    case neg => simp [he]
  case none =>
    rw [offer_free hf, get?, Entries.lookup_insert]
    by_cases he : f.name = n
    case pos => simp [← he, hf]
    case neg => simp [he, Ne.symm he, get?]

theorem get?_offerAll (fs : List (Factory m α)) (r : Registry m α) (n : String) :
    ((offerAll fs).run r).2.get? n = (r.get? n).or (fs.find? (·.name = n)) := by
  induction fs generalizing r
  case nil          => exact Option.or_none.symm
  case cons f fs hi => rw [offerAll_cons, hi, get?_offer, Option.or_assoc, ← List.find?_append, List.singleton_append]

theorem get?_afterAll (fs : List (Factory m α)) (n : String) : (afterAll fs).get? n = fs.find? (·.name = n) :=
  get?_offerAll fs empty n

theorem ascending_offer (h : r.factories.Ascending) (f : Factory m α) :
    ((offer f).run r).2.factories.Ascending := by
  cases hf : r.get? f.name
  case some => rwa [offer_taken (by simp [hf])]
  case none =>
    rw [offer_free hf]
    exact h.alter _

theorem ascending_offerAll (h : r.factories.Ascending) (fs : List (Factory m α)) :
    ((offerAll fs).run r).2.factories.Ascending := by
  induction fs generalizing r
  case nil          => exact h
  case cons f fs hi =>
    rw [offerAll_cons]
    exact hi (ascending_offer h f)

theorem ascending_afterAll (fs : List (Factory m α)) : (afterAll fs).factories.Ascending := by
  have hr : (empty : Registry m α).factories.Ascending := List.Pairwise.nil
  exact ascending_offerAll hr fs

theorem get?_afterAll_eq_none_iff {fs : List (Factory m α)} :
    (afterAll fs).get? n = none ↔ ∀ g ∈ fs, g.name ≠ n := by
  simp [get?_afterAll]

-- Of the calls under a name, the first one has registered its factory.
theorem isSome_get?_afterAll_iff {fs : List (Factory m α)} : ((afterAll fs).get? n).isSome
    ↔ ∃ before g after, fs = before ++ g :: after ∧ ((offer g).run (afterAll before)).1 = .ok () ∧ g.name = n := by
  constructor
  case mp =>
    intro h
    have ⟨g, hg⟩ := Option.isSome_iff_exists.mp h
    rw [get?_afterAll, List.find?_eq_some_iff_append] at hg
    have ⟨hn, before, after, hs, hb⟩ := hg
    have hn : g.name = n := of_decide_eq_true hn
    have hf : (afterAll before).get? g.name = none :=
      get?_afterAll_eq_none_iff.mpr fun b hm => by simpa [hn] using hb b hm
    exact ⟨before, g, after, hs, accepted_iff.mpr hf, hn⟩
  case mpr =>
    rintro ⟨before, g, after, rfl, -, rfl⟩
    rw [get?_afterAll]
    simp

-- What calls in this order make of an empty registry, and what it answers to one more. Of all calls under one
-- name only the first counts, also for those that come after.
structure Registered [Monad m] (fs : List (Factory m α)) : Prop where
  refused  : ∀ f, ((offer f).run (afterAll fs)).1 = .error (.duplicateFactory f.name)
    ↔ ∃ before g after, fs = before ++ g :: after ∧ ((offer g).run (afterAll before)).1 = .ok () ∧ g.name = f.name
  noTrace  : ∀ f e later, ((offer f).run (afterAll fs)).1 = .error e →
    (offerAll (f :: later)).run (afterAll fs)
      = (.error e :: ((offerAll later).run (afterAll fs)).1, ((offerAll later).run (afterAll fs)).2)
  accepted : ∀ f, ((offer f).run (afterAll fs)).1 = .ok () ↔ ∀ g ∈ fs, g.name ≠ f.name
  first    : ∀ n, (afterAll fs).get? n = fs.find? (·.name = n)
  own      : ∀ n f, (n, f) ∈ (afterAll fs).factories → f.name = n
  names    : (afterAll fs).names.Pairwise (· < ·)
  named    : ∀ n, n ∈ (afterAll fs).names ↔ ∃ f ∈ fs, f.name = n
  create   : ∀ n raw, (afterAll fs).create n raw = match fs.find? (·.name = n) with
    | some f => f.create raw
    | none   => throw (.unknownFactory n)

-- A name stays with the first factory that is offered under it.
theorem registered_afterAll [Monad m] (fs : List (Factory m α)) : Registered fs := by
  refine ⟨fun f => ?refused, fun f e later he => ?noTrace, fun f => ?accepted, get?_afterAll fs,
    fun n f hm => ?own, ascending_afterAll fs, fun n => ?named, fun n raw => ?create⟩
  case refused =>
    rw [refused_iff, ← isSome_get?_afterAll_iff, and_iff_left rfl]
  case noTrace =>
    rw [offerAll_cons, he, offer_taken (refused_iff.mp he).1]
  case accepted =>
    rw [accepted_iff, get?_afterAll_eq_none_iff]
  case own =>
    have hl := (ascending_afterAll fs).lookup_eq_some_iff.mpr hm
    change (afterAll fs).get? n = some f at hl
    rw [get?_afterAll] at hl
    have hn := List.find?_some hl
    exact of_decide_eq_true hn
  case named =>
    rw [names, ← Entries.lookup_isSome_iff]
    change ((afterAll fs).get? n).isSome ↔ _
    simp [get?_afterAll]
  case create =>
    rw [← get?_afterAll]
    rfl

end BulletinPipeline.Registry
