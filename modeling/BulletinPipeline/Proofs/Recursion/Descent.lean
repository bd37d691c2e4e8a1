import BulletinPipeline.Proofs.Recursion.Bodies
import Mathlib.Data.Prod.Lex
import Mathlib.Logic.Relation
import Mathlib.Order.WellFounded

-- What the calls of validation, building and conversion come closer to. Validation puts a new name on its path with
-- every call. Building and conversion go down into the raw value, or keep it and go down into the type; the
-- validations that they ask for start with an empty path.
namespace BulletinPipeline

namespace ValueType

-- What stands directly inside a type.
inductive Part : ValueType → ValueType → Prop
  | item (t : ValueType) : Part t (.list t)
  | inner {t u : ValueType} (h : u.inner? = some t) : Part t u

def depth : ValueType → Nat
  | list t | optional t                         => t.depth + 1
  | optionalInt | optionalLong | optionalDouble => 1
  | _                                           => 0

theorem Part.depth_lt {t u : ValueType} (h : Part t u) : t.depth < u.depth := by
  cases h
  case item    => exact Nat.lt_succ_self _
  case inner h => cases u <;> cases h <;> exact Nat.lt_succ_self _

end ValueType

namespace Recursion

-- What building and conversion take apart.
inductive Input
  | value (v : Value)
  | entries (es : Entries Value)

namespace Input

variable {i j : Input}

-- What stands directly inside a value, or inside the entries of a map. An empty wrapper holds null.
inductive Part : Input → Input → Prop
  | held {v : Value} {held : Option Value} (h : v.held? = some held) : Part (value (held.getD .null)) (value v)
  | item {v : Value} {vs : List Value} (h : v ∈ vs) : Part (value v) (value (.list vs))
  | entries (es : Entries Value) : Part (entries es) (value (.map es))
  | entry {e : String × Value} {es : Entries Value} (h : e ∈ es) : Part (value e.2) (entries es)

def Inside : Input → Input → Prop :=
  Relation.TransGen Part

-- An empty wrapper is as large as null, which it counts more than for being a wrapper.
noncomputable def size : Input → Nat
  | value v    => 2 * sizeOf v + v.held?.isSome.toNat
  | entries es => 2 * sizeOf es

theorem Part.size_lt (h : Part i j) : i.size < j.size := by
  have hw (v : Value) : v.held?.isSome.toNat ≤ 1 := Bool.toNat_le _
  cases h
  case held v held h =>
    cases held
    case none   =>
      have hv : sizeOf Value.null ≤ sizeOf v := by cases v <;> simp +arith
      have hn : Value.null.held? = none := rfl
      simp only [size, Option.getD_none, hn, h, Option.isSome_some, Option.isSome_none, Bool.toNat_true,
        Bool.toNat_false]
      omega
    case some w =>
      have hs := Conversion.sizeOf_lt_of_held? h
      have hw := hw w
      simp only [size, Option.getD_some, h, Option.isSome_some, Bool.toNat_true]
      omega
  case item v vs h =>
    have hs := List.sizeOf_lt_of_mem h
    have hw := hw v
    simp only [size, Value.list.sizeOf_spec]
    omega
  case entries es =>
    simp only [size, Value.map.sizeOf_spec]
    omega
  case entry e es h =>
    have hs := sizeOf_lt_of_mem_entries h
    have hw := hw e.2
    simp only [size]
    omega

theorem Inside.size_lt (h : Inside i j) : i.size < j.size := by
  induction h
  case single h    => exact h.size_lt
  case tail _ h hi => exact hi.trans h.size_lt

end Input

namespace Call

variable {env : Environment} {c c' : Call} {i : Input}

-- What is taken apart. Validation takes no raw values.
def input? : Call → Option Input
  | validate ..     => none
  | build _ raw _ _ => some (.entries raw)
  | convert raw _   => some (.value raw)

-- Down into the raw value, or down into the type for the same raw value.
inductive Descends : Call → Call → Prop
  | input {c c' : Call} {i j : Input} (hc : c.input? = some i) (hc' : c'.input? = some j) (h : i.Inside j) :
    Descends c c'
  | type {t u : ValueType} (raw : Value) (h : t.Part u) : Descends (.convert raw t) (.convert raw u)

-- Validation that starts outside of any path.
def Starts (c : Call) : Prop :=
  ∃ d m, c = .validate d [] m

noncomputable def rank : Call → Nat × Nat
  | validate ..     => (0, 0)
  | build _ raw _ _ => ((Input.entries raw).size, 0)
  | convert raw t   => ((Input.value raw).size, t.depth)

theorem rank_fst (h : c.input? = some i) : c.rank.1 = i.size := by
  cases c <;> cases h <;> rfl

theorem Descends.rank_lt (h : Descends c c') : Prod.Lex (· < ·) (· < ·) c.rank c'.rank := by
  cases h
  case input i j h hc hc' =>
    rw [Prod.lex_iff, rank_fst hc, rank_fst hc']
    exact .inl h.size_lt
  case type h => exact .right _ h.depth_lt

theorem wellFounded_descends : WellFounded Descends :=
  Subrelation.wf Descends.rank_lt (InvImage.wf rank (WellFounded.prod_lex Nat.lt_wfRel.wf Nat.lt_wfRel.wf))

end Call
namespace Work

variable {env : Environment} {P : Call → Prop} {raw : Entries Value}

theorem allCalls_validateAll {path : List String} (h : ∀ e m, e.name ∈ env.names → P (.validate e path m))
    (rs : List SchemaRef) (m : Memory) : (validateAll env path rs m).AllCalls P := by
  induction rs generalizing m
  case nil          => trivial
  case cons r rs hi =>
    rw [validateAll]
    cases hr : env.resolve? r
    case none   => trivial
    case some d =>
      refine ⟨h d m (Environment.name_mem_of_resolve? hr), fun a => ?_⟩
      rcases a with ⟨_ | _, m⟩
      case error => trivial
      case ok    => exact hi m

-- Each call puts the name on the path, where it was not before.
theorem allCalls_validate {d : Descriptor} {path : List String}
    (h : d.name ∉ path → ∀ e m, e.name ∈ env.names → P (.validate e (path ++ [d.name]) m)) (m : Memory) :
    (validate env d path m).AllCalls P := by
  rw [validate]
  cases m.find? d
  case some q => trivial
  dsimp only
  split
  case isTrue => trivial
  case isFalse hn =>
    cases Schema.ofDescriptor d
    case error e => trivial
    case ok s    =>
      refine (allCalls_validateAll (h hn) s.references m).bind fun a => ?_
      rcases a with ⟨_ | _, m⟩ <;> trivial

theorem allCalls_configure (hs : ∀ c : Call, c.Starts → P c) (hb : ∀ s path m, P (.build s raw path m))
    (d : Descriptor) (path : List String) : (configure d raw path).AllCalls P := by
  intro m
  refine ⟨hs _ ⟨d, m, rfl⟩, fun a => ?_⟩
  rcases a with ⟨_ | s, m⟩
  case error => trivial
  case ok    => exact ⟨hb s path m, fun _ => trivial⟩

theorem allCalls_configureRef (hs : ∀ c : Call, c.Starts → P c) (hb : ∀ s path m, P (.build s raw path m))
    (r : SchemaRef) (path : List String) : (configureRef env r raw path).AllCalls P := by
  rw [configureRef]
  cases env.resolve? r
  case none   => exact Building.allCalls_throw _
  case some d => exact allCalls_configure hs hb d path

theorem allCalls_convertProperty {v : Value} (h : ∀ t, P (.convert v t)) (s : Schema) (p : Property) :
    (convertProperty s p v).AllCalls P := by
  intro m
  refine ⟨h _, fun a => ?_⟩
  cases a <;> trivial

theorem allCalls_assign (hs : ∀ c : Call, c.Starts → P c)
    (hi : ∀ c i, Call.input? c = some i → i.Inside (.entries raw) → P c) (s : Schema) (path : List String)
    (p : Property) : (assign env s raw path p).AllCalls P := by
  rw [assign]
  cases hv : raw.lookup p.name
  case none =>
    cases p.accessor.returns.empty?
    case none   => exact Building.allCalls_throw _
    case some v => exact Building.allCalls_pure _
  case some v =>
    have hp : Input.Part (.value v) (.entries raw) := .entry (Entries.mem_of_lookup hv)
    have hc : (convertProperty s p v).AllCalls P := allCalls_convertProperty (fun t => hi _ _ rfl (.single hp)) s p
    cases v
    case map nested =>
      cases p.nested?
      case none   => exact hc
      case some r =>
        have hb (s : Schema) (path : List String) (m : Memory) : P (.build s nested path m) :=
          hi _ _ rfl (.head (.entries nested) (.single hp))
        exact (allCalls_configureRef hs hb r _).bind fun _ => Building.allCalls_pure _
    all_goals exact hc

theorem allCalls_build (hs : ∀ c : Call, c.Starts → P c)
    (hi : ∀ c i, Call.input? c = some i → i.Inside (.entries raw) → P c) (s : Schema) (path : List String) :
    (build env s raw path).AllCalls P := by
  rw [build]
  split
  case isTrue  => exact Building.allCalls_throw _
  case isFalse =>
    cases s.unknown? raw
    case some key => exact Building.allCalls_throw _
    case none     =>
      refine Building.AllCalls.bind ?_ fun _ => Building.allCalls_pure _
      exact Building.AllCalls.mapM fun p _ => allCalls_assign hs hi s path p

theorem allCalls_convertItems {item : ValueType} {raws : List Value} (h : ∀ raw ∈ raws, P (.convert raw item))
    (n : Nat) : (convertItems item n raws).AllCalls P := by
  induction raws generalizing n
  case nil            => trivial
  case cons raw _ hi =>
    refine ⟨h raw List.mem_cons_self, fun a => ?_⟩
    cases a
    case error => trivial
    case ok v  => exact (hi (fun raw hm => h raw (List.mem_cons_of_mem _ hm)) (n + 1)).bind fun _ => trivial

section Conversion

variable {v : Value} {t : ValueType} (hs : ∀ c : Call, c.Starts → P c)
  (hi : ∀ c i, Call.input? c = some i → i.Inside (.value v) → P c)

include hi in
theorem allCalls_convertList (ht : P (.convert v t)) : (convertBare env v (.list t)).AllCalls P := by
  have h : ∀ w ∈ itemsOf v, P (.convert w t) := by
    intro w hw
    by_cases hl : ∃ vs, v = .list vs
    case pos =>
      obtain ⟨vs, rfl⟩ := hl
      exact hi _ _ rfl (.single (.item hw))
    case neg =>
      rw [not_exists] at hl
      rw [itemsOf_of_ne_list hl, List.mem_singleton] at hw
      exact hw ▸ ht
  exact (allCalls_convertItems h 0).bind fun _ => trivial

include hs hi in
theorem allCalls_convertToSchema (r : SchemaRef) : (convertToSchema env r v).AllCalls P := by
  cases v
  case map raws =>
    have hb (s : Schema) (path : List String) (m : Memory) : P (.build s raws path m) :=
      hi _ _ rfl (.single (.entries raws))
    refine (allCalls_configureRef hs hb r [] .none).bind fun a => ?_
    rcases a with ⟨_ | _, m⟩ <;> trivial
  all_goals trivial

include hs hi in
theorem allCalls_convert (ht : ∀ u, u.Part t → P (.convert v u)) : (convert env v t).AllCalls P := by
  rw [convert]
  split
  case isTrue  => trivial
  case isFalse =>
    cases hh : v.held?
    case some held =>
      dsimp only
      split
      case isTrue  => trivial
      case isFalse => exact ⟨hi _ _ rfl (.single (.held hh)), fun _ => trivial⟩
    case none =>
      cases t
      case list t   => exact allCalls_convertList hi (ht t (.item t))
      case schema r => exact allCalls_convertToSchema hs hi r
      case optional | optionalInt | optionalLong | optionalDouble => exact ⟨ht _ (.inner rfl), fun _ => trivial⟩
      all_goals trivial

end Conversion
end Work

namespace Call

variable {env : Environment} {c : Call}

theorem allCalls_work (hc : c.input?.isSome) : (c.work env).AllCalls fun q => q.Starts ∨ q.Descends c := by
  cases c
  case validate       => contradiction
  case build s raw path m =>
    exact Work.allCalls_build (fun q => .inl) (fun q i hq h => .inr (.input hq rfl h)) s path m
  case convert raw t =>
    exact Work.allCalls_convert (fun q => .inl) (fun q i hq h => .inr (.input hq rfl h)) fun u h => .inr (.type raw h)

end Call
end Recursion
end BulletinPipeline
