import BulletinPipeline.Proofs.Effect
import BulletinPipeline.Schema.Configuration
import Mathlib.Data.List.Forall2

namespace BulletinPipeline

section Relation

variable {M N : Type → Type} [Monad M] [Monad N] [MonadExcept Error M] [MonadExcept Error N]

-- A relation between programs that passes from their steps to the programs.
structure Respects (R : (α : Type) → M α → N α → Prop) : Prop where
  pure  : ∀ {α : Type} (a : α), R α (pure a) (pure a)
  throw : ∀ {α : Type} (e : Error), R α (throw e) (throw e)
  bind  : ∀ {α β : Type} {x : M α} {y : N α} {f : α → M β} {g : α → N β},
    R α x y → (∀ a, R β (f a) (g a)) → R β (x >>= f) (y >>= g)

theorem Respects.mapM [LawfulMonad M] [LawfulMonad N] {R : (α : Type) → M α → N α → Prop} {α β : Type}
    {f : α → M β} {g : α → N β} {as : List α} (h : Respects R) (hf : ∀ a ∈ as, R β (f a) (g a)) :
    R (List β) (as.mapM f) (as.mapM g) := by
  induction as
  case nil => exact h.pure []
  case cons a as hi =>
    rw [List.mapM_cons, List.mapM_cons]
    refine h.bind (hf a List.mem_cons_self) fun _ => h.bind ?_ fun _ => h.pure _
    exact hi fun b hb => hf b (List.mem_cons_of_mem _ hb)

end Relation

namespace Materializing

variable {α β : Type} {I : Memory → Prop} {x : Materializing α} {f : α → Materializing β}

-- However it ends, a run keeps what held of memory.
def Preserves (I : Memory → Prop) (x : Materializing α) : Prop :=
  ∀ m, I m → I (x m).2

theorem preserves_pure (a : α) : Preserves I (pure a) :=
  fun _ h => h

theorem preserves_throw (e : Error) : Preserves I (throw e : Materializing α) :=
  fun _ h => h

theorem Preserves.bind (hx : Preserves I x) (hf : ∀ a, Preserves I (f a)) :
    Preserves I (x >>= f) := by
  intro m h
  have hm := hx m h
  rw [bind_apply]
  split
  case h_1 a m' he => exact hf a m' (by simpa [he] using hm)
  case h_2 e m' he => simpa [he] using hm

-- The elements of a traversal are met in memories that kept the property.
theorem forall₂_of_mapM {as : List α} {bs : List β} {m : Memory} (hp : ∀ a ∈ as, Preserves I (f a)) (hm : I m)
    (h : (as.mapM f m).1 = .ok bs) : List.Forall₂ (fun a b => ∃ m, I m ∧ (f a m).1 = .ok b) as bs := by
  induction as generalizing m bs
  case nil =>
    cases h
    exact .nil
  case cons a as hi =>
    rw [List.mapM_cons, bind_apply] at h
    split at h
    case h_2 => contradiction
    case h_1 b m' hb =>
      rw [bind_apply] at h
      split at h
      case h_2 => contradiction
      case h_1 cs _ hc =>
        cases h
        have hm' : I m' := by simpa [hb] using hp a List.mem_cons_self m hm
        have hs := hi (fun b hb => hp b (List.mem_cons_of_mem _ hb)) hm' (congrArg Prod.fst hc)
        exact .cons ⟨m, hm, congrArg Prod.fst hb⟩ hs

-- In every memory with a property, a run ends in the same answer and keeps the property.
def Answers (I : Memory → Prop) (x : Materializing α) (r : Except Error α) : Prop :=
  ∀ m, I m → (x m).1 = r ∧ I (x m).2

theorem Preserves.answers {r : Except Error α} (h : Preserves I x) (hr : ∀ m, I m → (x m).1 = r) :
    Answers I x r :=
  fun m hm => ⟨hr m hm, h m hm⟩

theorem answers_pure (a : α) : Answers I (pure a) (.ok a) :=
  fun _ h => ⟨rfl, h⟩

theorem answers_throw (e : Error) : Answers I (throw e : Materializing α) (.error e) :=
  fun _ h => ⟨rfl, h⟩

theorem Answers.bind {r : Except Error α} {g : α → Except Error β} (hx : Answers I x r)
    (hf : ∀ a, r = .ok a → Answers I (f a) (g a)) : Answers I (x >>= f) (r >>= g) := by
  intro m h
  have ⟨hr, hm⟩ := hx m h
  rw [bind_apply]
  split
  case h_1 a m' he =>
    simp only [he] at hr hm
    exact hr ▸ hf a hr.symm m' hm
  case h_2 e m' he =>
    simp only [he] at hr hm
    exact hr ▸ ⟨rfl, hm⟩

theorem respects_preserves (I : Memory → Prop) :
    Respects (M := Materializing) (N := Materializing) fun _ x _ => Preserves I x where
  pure     := preserves_pure
  throw    := preserves_throw
  bind h hf := h.bind hf

theorem respects_answers (I : Memory → Prop) :
    Respects (M := Materializing) (N := Except Error) fun _ x r => Answers I x r where
  pure      := answers_pure
  throw     := answers_throw
  bind h hf := h.bind fun a _ => hf a

end Materializing

namespace Schema

open Materializing

def fill (env : Environment) (convert : Value → Signature → Except ConversionError Value)
    (s : Schema) (raw : Entries Value) (path : List String) : Materializing Config :=
  s.build env (fun _ => True) (fun v _ accessor => convert v accessor) raw (fun _ _ => trivial) path

section Assembly

variable {M : Type → Type} [Monad M] [MonadExcept Error M]

-- One property of a configuration, where `inner` are the configurations of nested schemas.
def assign (convert : Value → Signature → Except ConversionError Value)
    (inner : SchemaRef → Entries Value → M Config) (s : Schema) (raw : Entries Value)
    (p : Property) : M (String × Value) :=
  match raw.lookup p.name with
  | none =>
    match p.accessor.returns.empty? with
    | some v => pure (p.name, v)
    | none   => throw (.missingRequiredOption s.name p.name)
  | some v =>
    match v, p.nested? with
    | .map nested, some r => do
      let c ← inner r nested
      pure (p.name, if p.isOptional then .present c.toValue else c.toValue)
    | v, _ =>
      match convert v p.accessor with
      | .ok v    => pure (p.name, v)
      | .error e => throw (.conversion s.name p.name e)

def assemble (convert : Value → Signature → Except ConversionError Value)
    (inner : SchemaRef → Entries Value → M Config) (s : Schema) (raw : Entries Value) : M Config :=
  match s.unknown? raw with
  | some key => throw (.unknownOption s.name key)
  | none     => do
    let properties ← s.properties.mapM (s.assign convert inner raw)
    pure ⟨s.name, properties⟩

end Assembly

variable {env : Environment} {convert : Value → Signature → Except ConversionError Value}
  {s : Schema} {raw : Entries Value} {I : Memory → Prop}

theorem fill_eq (s : Schema) (raw : Entries Value) (path : List String) :
    s.fill env convert raw path
      = if s.name ∈ path then throw (.schema (.circular (path ++ [s.name])))
        else s.assemble convert (fun r nested => do
          let t ← resolve env r
          t.fill env convert nested (path ++ [s.name])) raw := by
  rw [fill, build]
  split
  case isTrue => rfl
  unfold assemble
  cases s.unknown? raw
  case some key => rfl
  refine congrArg (· >>= _) (congrArg (List.mapM · s.properties) (funext fun p => ?_))
  unfold assign
  split
  case h_1 h => cases he : p.accessor.returns.empty? <;> simp only [h]
  case h_2 v h =>
    simp only [h]
    cases v
    case map nested =>
      generalize p.nested? = r
      cases r
      case none   => rfl
      case some r => exact (bind_assoc (resolve env r) _ _).symm
    all_goals rfl

theorem build_eq_fill (small : Value → Prop) (s : Schema) (raw : Entries Value)
    (inside : ∀ v, sizeOf v < sizeOf raw → small v) (path : List String) :
    s.build env small (fun v _ accessor => convert v accessor) raw inside path
      = s.fill env convert raw path := by
  induction s, raw, inside, path using Schema.build.induct
  case case1 hp => rw [build, fill_eq, if_pos hp, if_pos hp]
  case case2 hp key hk => rw [build, fill_eq, if_neg hp, if_neg hp, assemble, hk]
  case case3 s raw inside path hp hk hi =>
    rw [build, fill_eq, if_neg hp, if_neg hp, assemble, hk]
    refine congrArg (· >>= _) (congrArg (List.mapM · s.properties) (funext fun p => ?_))
    unfold assign
    split
    case h_1 h => cases he : p.accessor.returns.empty? <;> simp only [h]
    case h_2 v h =>
      simp only [h]
      cases v
      case map nested =>
        generalize p.nested? = r
        cases r
        case none => rfl
        case some r =>
          dsimp only
          rw [bind_assoc]
          refine congrArg (resolve env r >>= ·) (funext fun inner => ?_)
          exact congrArg (· >>= _) (hi nested (sizeOf_lt_of_lookup h) inner)
      all_goals rfl

section Relation

variable {M N : Type → Type} [Monad M] [Monad N] [MonadExcept Error M] [MonadExcept Error N]
  {R : (α : Type) → M α → N α → Prop} {f : SchemaRef → Entries Value → M Config}
  {g : SchemaRef → Entries Value → N Config}

theorem assign_related {p : Property} (h : Respects R)
    (hi : ∀ r nested, p.nested? = some r → raw.lookup p.name = some (.map nested) →
      R Config (f r nested) (g r nested)) :
    R (String × Value) (s.assign convert f raw p) (s.assign convert g raw p) := by
  unfold assign
  split
  · split
    · exact h.pure _
    · exact h.throw _
  case h_2 v hv =>
    split
    case h_1 nested r hr => exact h.bind (hi r nested hr hv) fun _ => h.pure _
    case h_2 =>
      split
      · exact h.pure _
      · exact h.throw _

theorem assemble_related [LawfulMonad M] [LawfulMonad N] (h : Respects R)
    (hi : ∀ p ∈ s.properties, ∀ r nested, p.nested? = some r → raw.lookup p.name = some (.map nested) →
      R Config (f r nested) (g r nested)) :
    R Config (s.assemble convert f raw) (s.assemble convert g raw) := by
  unfold assemble
  split
  · exact h.throw _
  exact h.bind (h.mapM fun p hp => assign_related h (hi p hp)) fun _ => h.pure _

end Relation

theorem preserves_assign {inner : SchemaRef → Entries Value → Materializing Config} {p : Property}
    (hi : ∀ r nested, raw.lookup p.name = some (.map nested) → Preserves I (inner r nested)) :
    Preserves I (s.assign convert inner raw p) :=
  assign_related (g := inner) (respects_preserves I) fun r nested _ => hi r nested

theorem preserves_assemble {inner : SchemaRef → Entries Value → Materializing Config}
    (hi : ∀ p r nested, raw.lookup p = some (.map nested) → Preserves I (inner r nested)) :
    Preserves I (s.assemble convert inner raw) :=
  assemble_related (g := inner) (respects_preserves I) fun p _ r nested _ => hi p.name r nested

-- One property asks memory at most once, for the configuration of its nested schema.
theorem assign_apply (inner : SchemaRef → Entries Value → Materializing Config) (p : Property) (m : Memory) :
    (s.assign convert inner raw p m).1 = s.assign convert (fun r nested => (inner r nested m).1) raw p := by
  have hc (v : Value) : ((match convert v p.accessor with
      | .ok v    => pure (p.name, v)
      | .error e => throw (.conversion s.name p.name e) : Materializing _) m).1
        = match convert v p.accessor with
          | .ok v    => pure (p.name, v)
          | .error e => throw (.conversion s.name p.name e) := by
    cases convert v p.accessor <;> rfl
  unfold assign
  cases raw.lookup p.name
  case none => cases p.accessor.returns.empty? <;> rfl
  case some v =>
    generalize p.nested? = q
    cases v
    case map nested =>
      cases q
      case none   => exact hc _
      case some r =>
        dsimp only
        rw [bind_apply]
        split
        case h_1 hn => rw [hn]; rfl
        case h_2 hn => rw [hn]; rfl
    all_goals exact hc _

theorem sizeOf_lt_of_lookup_map {k : String} {nested : Entries Value}
    (h : raw.lookup k = some (.map nested)) : sizeOf nested < sizeOf raw := by
  have hlt := sizeOf_lt_of_lookup h
  rw [Value.map.sizeOf_spec] at hlt
  omega

theorem preserves_fill (hr : ∀ r, Preserves I (resolve env r)) (s : Schema) (raw : Entries Value)
    (path : List String) : Preserves I (s.fill env convert raw path) := by
  rw [fill_eq]
  split
  · exact preserves_throw _
  refine preserves_assemble fun p r nested h => (hr r).bind fun t => ?_
  have := sizeOf_lt_of_lookup_map h
  exact preserves_fill hr t nested _
termination_by sizeOf raw

theorem answers_assemble {inner : SchemaRef → Entries Value → Materializing Config}
    {inner' : SchemaRef → Entries Value → Except Error Config}
    (hi : ∀ p ∈ s.properties, ∀ r nested, p.nested? = some r →
      raw.lookup p.name = some (.map nested) → Answers I (inner r nested) (inner' r nested)) :
    Answers I (s.assemble convert inner raw) (s.assemble convert inner' raw) :=
  assemble_related (respects_answers I) hi

end Schema
end BulletinPipeline
