import BulletinPipeline.Proofs.Effect
import BulletinPipeline.Proofs.Factory.Renaming

namespace BulletinPipeline

namespace Factory

variable {σ τ α β : Type} {m : Type → Type}

-- A factory beside whose state there is room for that of observers.
def beside (τ : Type) (F : Factory (StateM σ) α) : Factory (StateM (σ × τ)) α where
  name        := F.name
  optionNames := F.optionNames
  create raw  := fun s => ((F.create raw s.1).1, (F.create raw s.1).2, s.2)

-- A shared or boxed factory passes everything on.
def forwarded (F : Factory m α) : Factory m α where
  name        := F.name
  optionNames := F.optionNames
  create      := F.create

end Factory

-- Layers around something that builds an `α`, which together build a `β`. The outermost layer is the first.
-- Observers have a state of their own.
inductive Layers (τ α : Type) : Type → Type 1
  | bare : Layers τ α α
  | forwarded {β : Type} (inside : Layers τ α β) : Layers τ α β
  | observed {β : Type} (creating : Entries Value → τ → τ) (failed : Error → τ → τ)
      (inside : Layers τ α β) : Layers τ α β
  | mapped {β γ : Type} (f : β → γ) (inside : Layers τ α β) : Layers τ α γ
  | renamed {β : Type} (rename : Renaming) (name : Option String) (inside : Layers τ α β) : Layers τ α β

namespace Layers

variable {σ τ α β : Type} {raw : Entries Value}

-- A step of the observers, who leave the rest of the state alone.
def observing (σ : Type) (f : τ → τ) : StateM (σ × τ) Unit := fun s =>
  ((), s.1, f s.2)

def around (F : Factory (StateM σ) α) : {β : Type} → Layers τ α β → Factory (StateM (σ × τ)) β
  | _, bare                            => F.beside τ
  | _, forwarded inside                => (inside.around F).forwarded
  | _, observed creating failed inside =>
    (inside.around F).observed (observing σ ∘ creating) (observing σ ∘ failed)
  | _, mapped f inside                 => (inside.around F).map f
  | _, renamed rename name inside      => (inside.around F).renamed rename name

-- All renamings one after the other, that of the outermost layer first.
def rename : {β : Type} → Layers τ α β → Renaming
  | _, bare                => id
  | _, forwarded inside    => inside.rename
  | _, observed _ _ inside => inside.rename
  | _, mapped _ inside     => inside.rename
  | _, renamed r _ inside  => inside.rename ∘ r

-- All changes of what was built, that of the innermost layer first.
def output : {β : Type} → Layers τ α β → α → β
  | _, bare                => id
  | _, forwarded inside    => inside.output
  | _, observed _ _ inside => inside.output
  | _, mapped f inside     => f ∘ inside.output
  | _, renamed _ _ inside  => inside.output

-- The name that the outermost of the layers with one gives.
def name? : {β : Type} → Layers τ α β → Option String
  | _, bare                  => none
  | _, forwarded inside      => inside.name?
  | _, observed _ _ inside   => inside.name?
  | _, mapped _ inside       => inside.name?
  | _, renamed _ name inside => name <|> inside.name?

-- The map that gets through to the factory inside, which goes by `name`.
def reaching (name : String) : {β : Type} → Layers τ α β → Entries Value → Except Error (Entries Value)
  | _, bare, raw                => .ok raw
  | _, forwarded inside, raw    => inside.reaching name raw
  | _, observed _ _ inside, raw => inside.reaching name raw
  | _, mapped _ inside, raw     => inside.reaching name raw
  | _, renamed r n inside, raw  =>
    (r.apply ((n <|> inside.name?).getD name) raw).bind (inside.reaching name)

@[simp]
theorem optionNames_around (F : Factory (StateM σ) α) (l : Layers τ α β) :
    (l.around F).optionNames = F.optionNames := by
  induction l
  case bare           => rfl
  case forwarded hi   => exact hi
  case observed hi    => exact hi
  case mapped hi      => exact hi
  case renamed hi     => exact hi

theorem name_around (F : Factory (StateM σ) α) (l : Layers τ α β) :
    (l.around F).name = l.name?.getD F.name := by
  induction l
  case bare           => rfl
  case forwarded hi   => exact hi
  case observed hi    => exact hi
  case mapped hi      => exact hi
  case renamed n _ hi =>
    cases n
    case none   => exact hi
    case some n => rfl

-- What each kind of layer makes of a run of the factory inside.
theorem create_observed (G : Factory (StateM (σ × τ)) β) (creating : Entries Value → τ → τ)
    (failed : Error → τ → τ) (raw : Entries Value) (s : σ) (t : τ) :
    (G.observed (observing σ ∘ creating) (observing σ ∘ failed)).create raw (s, t)
      = match G.create raw (s, creating raw t) with
        | (.ok b, s)    => (.ok b, s)
        | (.error e, s) => (.error e, s.1, failed e s.2) := by
  simp only [Factory.observed, bind_apply, lift_apply, tryCatch_apply, observing, Function.comp_apply]
  cases hg : G.create raw (s, creating raw t)
  case mk r s' => cases r <;> rfl

theorem create_map (G : Factory (StateM σ) α) (f : α → β) (raw : Entries Value) (s : σ) :
    (G.map f).create raw s = ((G.create raw s).1.map f, (G.create raw s).2) :=
  map_apply ..

theorem create_renamed (G : Factory (StateM σ) α) (rename : Renaming) (name : Option String)
    (raw : Entries Value) (s : σ) :
    (G.renamed rename name).create raw s = match rename.apply (name.getD G.name) raw with
      | .ok raw  => G.create raw s
      | .error e => (.error e, s) := by
  simp only [Factory.renamed]
  cases rename.apply (name.getD G.name) raw <;> rfl

-- The state of the factory inside is that after its one run, or untouched. That of the observers is theirs.
theorem create_around (F : Factory (StateM σ) α) (l : Layers τ α β) (raw : Entries Value) (s : σ) (t : τ) :
    ∃ t', (l.around F).create raw (s, t) = match l.reaching F.name raw with
      | .ok raw'  => ((F.create raw' s).1.map l.output, (F.create raw' s).2, t')
      | .error e  => (.error e, s, t') := by
  induction l generalizing raw t
  case bare =>
    have hm (x : Except Error α) : x.map id = x := by cases x <;> rfl
    exact ⟨t, by simp only [around, reaching, output, Factory.beside, hm]⟩
  case forwarded hi => exact hi raw t
  case observed creating failed inside hi =>
    have ⟨t', ht⟩ := hi raw (creating raw t)
    rw [around, create_observed, ht]
    simp only [reaching, output]
    cases inside.reaching F.name raw
    case error e => exact ⟨failed e t', rfl⟩
    case ok raw' =>
      dsimp only
      cases F.create raw' s
      case mk r s' =>
        cases r
        case ok b    => exact ⟨t', rfl⟩
        case error e => exact ⟨failed e t', rfl⟩
  case mapped f inside hi =>
    have ⟨t', ht⟩ := hi raw t
    rw [around, create_map, ht]
    simp only [reaching, output]
    cases inside.reaching F.name raw
    case error e => exact ⟨t', rfl⟩
    case ok raw' =>
      dsimp only
      cases F.create raw' s
      case mk r s' => cases r <;> exact ⟨t', rfl⟩
  case renamed r n inside hi =>
    have hn : n.getD (inside.around F).name = (n <|> inside.name?).getD F.name := by
      cases n <;> simp [name_around]
    rw [around, create_renamed, hn]
    simp only [reaching, output]
    cases r.apply ((n <|> inside.name?).getD F.name) raw
    case error e => exact ⟨t, rfl⟩
    case ok raw' => exact hi raw' t

theorem exists_reaching (l : Layers τ α β) (hr : raw.Ascending) (hs : l.rename.Separates raw)
    (name : String) : ∃ raw', l.reaching name raw = .ok raw' ∧ l.rename.Renames raw raw' := by
  induction l generalizing raw
  case bare         => exact ⟨raw, rfl, Renaming.renames_id hr⟩
  case forwarded hi => exact hi hr hs
  case observed hi  => exact hi hr hs
  case mapped hi    => exact hi hr hs
  case renamed r n inside hi =>
    -- The renaming inside has to keep apart only what the layer outside has made of the names.
    have ho : r.Separates raw := Set.InjOn.of_comp hs
    have ⟨raw', ha, hn⟩ := Renaming.exists_renames hr ho ((n <|> inside.name?).getD name)
    have ⟨raw'', hb, hn'⟩ := hi hn.ascending ((hn.separates_comp_iff ho).mp hs)
    refine ⟨raw'', ?_, hn.comp hn'⟩
    rw [reaching, ha]
    exact hb

theorem exists_reaching_error (l : Layers τ α β) (hr : raw.Ascending) (hs : ¬l.rename.Separates raw)
    (name : String) : ∃ e, l.reaching name raw = .error e ∧ e.kind = .duplicateOption := by
  induction l generalizing raw
  case bare         => exact absurd (Set.injOn_id _) hs
  case forwarded hi => exact hi hr hs
  case observed hi  => exact hi hr hs
  case mapped hi    => exact hi hr hs
  case renamed r n inside hi =>
    by_cases ho : r.Separates raw
    case neg =>
      have ⟨e, ha, hk⟩ := Renaming.exists_error hr ho ((n <|> inside.name?).getD name)
      refine ⟨e, ?_, hk⟩
      rw [reaching, ha]
      rfl
    case pos =>
      have ⟨raw', ha, hn⟩ := Renaming.exists_renames hr ho ((n <|> inside.name?).getD name)
      have ⟨e, hb, hk⟩ := hi hn.ascending (fun h => hs ((hn.separates_comp_iff ho).mpr h))
      refine ⟨e, ?_, hk⟩
      rw [reaching, ha]
      exact hb

-- What any layers amount to. Where their renamings make two names one, the answer is the same for every
-- `create` of the factory inside, which is not called.
structure NormalForm (l : Layers τ α β) (F : Factory (StateM σ) α) (raw : Entries Value) : Prop where
  name        : (l.around F).name = l.name?.getD F.name
  optionNames : (l.around F).optionNames = F.optionNames
  separated   : l.rename.Separates raw → ∃ raw', l.rename.Renames raw raw' ∧ ∀ s t, ∃ t',
    (l.around F).create raw (s, t) = ((F.create raw' s).1.map l.output, (F.create raw' s).2, t')
  merged      : ¬l.rename.Separates raw → ∃ e : Error, e.kind = .duplicateOption ∧ ∀ create (s : σ) t, ∃ t',
    (l.around { F with create := create }).create raw (s, t) = (.error e, s, t')

-- Whatever the layers and their order, options are renamed once, the factory inside is called once, and what it
-- built is changed once.
theorem normalForm (l : Layers τ α β) (F : Factory (StateM σ) α) (hr : raw.Ascending) :
    l.NormalForm F raw where
  name        := name_around F l
  optionNames := optionNames_around F l
  separated   := by
    intro hs
    have ⟨raw', hl, hn⟩ := l.exists_reaching hr hs F.name
    refine ⟨raw', hn, fun s t => ?_⟩
    have ⟨t', ht⟩ := create_around F l raw s t
    exact ⟨t', by rw [ht, hl]⟩
  merged      := by
    intro hs
    have ⟨e, hl, hk⟩ := l.exists_reaching_error hr hs F.name
    refine ⟨e, hk, fun create s t => ?_⟩
    have ⟨t', ht⟩ := create_around { F with create := create } l raw s t
    exact ⟨t', by rw [ht, hl]⟩

-- Ledgers count in the state how many of them there are.
def ledger : Factory (StateM Nat) (List String) where
  name        := "Ledger"
  optionNames := ["limit", "unit"]
  create raw  := fun n => (.ok (Entries.keys raw), n + 1)

-- An option that has been renamed twice, a layer for each time, and an observer that counts failures.
def renamedTwice : Layers Nat (List String) Nat :=
  .observed (fun _ t => t) (fun _ t => t + 1) <|
    .renamed (.ofAliases [("bound", "cap")]) none <| .mapped List.length <| .forwarded <|
      .renamed (.ofAliases [("cap", "limit")]) (some "Capped") .bare

-- The second map has the option under two of its names, which only the inner renaming makes one.
theorem normalForm_renamedTwice :
    (Entries.Ascending [("bound", Value.long 5), ("unit", .string "hPa")]
      ∧ renamedTwice.rename.Separates [("bound", .long 5), ("unit", .string "hPa")]
      ∧ renamedTwice.NormalForm ledger [("bound", .long 5), ("unit", .string "hPa")])
    ∧ Entries.Ascending [("bound", Value.long 5), ("limit", .long 7)]
      ∧ ¬renamedTwice.rename.Separates [("bound", .long 5), ("limit", .long 7)]
      ∧ renamedTwice.NormalForm ledger [("bound", .long 5), ("limit", .long 7)] := by
  have ho : Entries.Ascending [("bound", Value.long 5), ("unit", .string "hPa")] := by
    unfold Entries.Ascending
    decide
  have hm : Entries.Ascending [("bound", Value.long 5), ("limit", .long 7)] := by
    unfold Entries.Ascending
    decide
  exact ⟨⟨ho, by decide, normalForm renamedTwice ledger ho⟩, hm, by decide, normalForm renamedTwice ledger hm⟩

end Layers
end BulletinPipeline
