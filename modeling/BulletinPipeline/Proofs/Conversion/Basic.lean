import BulletinPipeline.Proofs.Schema.Assembly

namespace BulletinPipeline

theorem sizeOf_lt_of_mem_entries {es : Entries Value} {e : String × Value} (h : e ∈ es) : sizeOf e.2 < sizeOf es := by
  have hlt := List.sizeOf_lt_of_mem h
  have he : sizeOf e = 1 + sizeOf e.1 + sizeOf e.2 := Prod.mk.sizeOf_spec ..
  omega

structure Value.Bare (v : Value) : Prop where
  held?   : v.held? = none
  ne_null : v ≠ .null

theorem Config.bare_toValue (c : Config) : c.toValue.Bare :=
  ⟨rfl, nofun⟩

theorem Value.eq_null_or_held_or_bare (v : Value) :
    v = .null ∨ (∃ held, v.held? = some held) ∨ v.Bare := by
  by_cases hn : v = .null
  case pos => exact .inl hn
  case neg =>
    cases hh : v.held?
    case some held => exact .inr (.inl ⟨held, rfl⟩)
    case none      => exact .inr (.inr ⟨hh, hn⟩)

theorem Value.eq_map_or_config_or (v : Value) : (∃ es, v = .map es) ∨ (∃ s ps, v = .config s ps)
    ∨ (∀ es, v ≠ .map es) ∧ ∀ s ps, v ≠ .config s ps := by
  cases v <;> simp

theorem ValueType.wrap_optional (t : ValueType) {v : Value} (h : v ≠ .null) :
    (optional t).wrap v = .ok (.present v) := by
  cases v <;> first | rfl | contradiction

namespace Conversion

variable {env : Environment} {raw v : Value} {t : ValueType} {r : SchemaRef} {e : ConversionError}

theorem exists_of_map_eq_ok {α : Type} {x : Result α} {f : α → Value} (h : x.map f = .ok v) :
    ∃ a, v = f a := by
  cases x <;> cases h
  exact ⟨_, rfl⟩

theorem exists_of_bind_eq_ok {α : Type} {x : Result α} {f : α → Result Value} (h : (x >>= f) = .ok v) :
    ∃ a, f a = .ok v := by
  cases x
  case error => contradiction
  case ok a  => exact ⟨a, h⟩

theorem error_of_map {α β : Type} {x : Result α} {f : α → β} (h : x.map f = .error e) :
    x = .error e := by
  cases x <;> cases h
  rfl

theorem error_of_bind {α : Type} {x : Result α} {f : α → Result Value} (hf : ∀ a, ∃ v, f a = .ok v)
    (h : (x >>= f) = .error e) : x = .error e := by
  cases x
  case error => cases h; rfl
  case ok a  =>
    have ⟨v, hv⟩ := hf a
    exact nomatch hv.symm.trans h

theorem error_of_map_bind {α : Type} {x : Result α} {f : α → Value} {g : Value → Result Value}
    (h : (x.map f >>= g) = .error e) (hg : ∀ a, ∃ v, g (f a) = .ok v) : x.map f = .error e := by
  cases x
  case error => exact h
  case ok a  =>
    have ⟨v, hv⟩ := hg a
    exact nomatch hv.symm.trans h

theorem narrow_toInt64 (n : Int32) : narrow n.toInt64 = .ok n := by
  have hl := n.le_toInt
  have hu := n.toInt_lt
  simp only [narrow, Int32.toInt_toInt64]
  rw [if_pos ⟨by simpa using hl, by simpa using hu⟩, Int32.ofInt_toInt]

theorem toInt_int (n : Int32) : toInt (.int n) = .ok n := by
  simp only [toInt, toLong, Int64.ofInt_int32ToInt, narrow_toInt64]

theorem toInt_eq (h : ∀ s, raw ≠ .string s) : toInt raw = match toLong raw with
    | .ok n                      => narrow n
    | .error (.incompatible _ k) => .error (.incompatible .int k)
    | .error e                   => .error e := by
  cases raw <;> first | rfl | exact absurd rfl (h _)

theorem convert_null (t : ValueType) : convert env .null t = .ok t.nothing := by
  rw [convert]
  simp [Value.held?]

theorem convert_held {held : Option Value} (h : raw.held? = some held) :
    convert env raw t = if t.isPrimitiveOptional && t.assignableFrom raw.type then .ok raw
      else match held with
        | none   => .ok t.nothing
        | some v => convert env v t := by
  rw [convert]
  split
  case h_1 held' hh =>
    cases h.symm.trans hh
    rfl
  case h_2 hh => simp [h] at hh

-- How values are read at the types that take no conversion of their parts.
def plain? : ValueType → Option (Value → Result Value)
  | .any            => some .ok
  | .bool           => some fun raw => (toBool raw).map .bool
  | .int            => some fun raw => (toInt raw).map .int
  | .long           => some fun raw => (toLong raw).map .long
  | .double         => some fun raw => (toDouble raw).map .double
  | .string         => some fun raw => (toText raw).map .string
  | .map            => some fun
    | .map raws     => .ok (.map raws)
    | .config _ ps  => .ok (.map ps)
    | raw           => .error (.incompatible .map raw.kind)
  | .optionalInt    => some fun raw => do ValueType.optionalInt.wrap (.int (← toInt raw))
  | .optionalLong   => some fun raw => do ValueType.optionalLong.wrap (.long (← toLong raw))
  | .optionalDouble => some fun raw => do ValueType.optionalDouble.wrap (.double (← toDouble raw))
  | .object o       => some fun
    | .object b     => if b.type = o then .ok (.object b) else .error (.incompatible (.object o) .object)
    | raw           => .error (.incompatible (.object o) raw.kind)
  | _               => none

theorem convert_plain {read : Value → Result Value} (h : raw.Bare) (hr : plain? t = some read) :
    convert env raw t = read raw := by
  have ⟨hw, hn⟩ := h
  rw [convert]
  split
  case h_1 _ hh => simp [hw] at hh
  case h_2 =>
    cases t <;> cases hr <;> cases raw <;> first | rfl | contradiction

theorem convert_int (env : Environment) (h : raw.Bare) : convert env raw .int = (toInt raw).map .int := by
  rw [convert_plain h rfl]

theorem convert_long (env : Environment) (h : raw.Bare) : convert env raw .long = (toLong raw).map .long := by
  rw [convert_plain h rfl]

theorem convert_double (env : Environment) (h : raw.Bare) : convert env raw .double = (toDouble raw).map .double := by
  rw [convert_plain h rfl]

theorem convert_list (raws : List Value) :
    convert env (.list raws) (.list t) = (convertItems env t 0 raws).map .list := by
  rw [convert]
  simp [Value.held?]

theorem convertItems_eq_ok_iff {raws vs : List Value} {i : Nat} :
    convertItems env t i raws = .ok vs
      ↔ List.Forall₂ (fun raw v => convert env raw t = .ok v) raws vs := by
  induction raws generalizing i vs
  case nil =>
    rw [convertItems]
    exact ⟨fun h => by cases h; exact .nil, fun h => by cases h; rfl⟩
  case cons raw raws hi =>
    rw [convertItems]
    constructor
    case mp =>
      intro h
      cases hr : convert env raw t <;> rw [hr] at h
      case error => contradiction
      cases hs : convertItems env t (i + 1) raws <;> rw [hs] at h
      case error => contradiction
      cases h
      exact .cons hr (hi.mp hs)
    case mpr =>
      intro h
      cases h
      case cons hr hs =>
        rw [hr, hi.mpr hs]
        rfl

theorem exists_mem_of_convertItems {raws vs : List Value} {i : Nat}
    (h : convertItems env t i raws = .ok vs) (hv : v ∈ vs) :
    ∃ raw ∈ raws, convert env raw t = .ok v := by
  rw [convertItems_eq_ok_iff] at h
  induction h
  case nil => contradiction
  case cons raw w raws vs hr hs hi =>
    cases List.mem_cons.mp hv
    case inl he => exact ⟨raw, List.mem_cons_self, he ▸ hr⟩
    case inr hm => exact (hi hm).imp fun _ h => ⟨List.mem_cons_of_mem _ h.1, h.2⟩

-- The items before the one that is refused convert.
theorem exists_first_of_convertItems_error {raws : List Value} {k : Nat} (h : convertItems env t k raws = .error e) :
    ∃ i part source, raws[i]? = some part ∧ (∀ j < i, ∀ p, raws[j]? = some p → ∃ v, convert env p t = .ok v)
      ∧ convert env part t = .error source ∧ e = .element (k + i) source := by
  induction raws generalizing k <;> rw [convertItems] at h
  case nil => contradiction
  case cons raw raws hi =>
    cases hr : convert env raw t <;> rw [hr] at h
    case error source =>
      exact ⟨0, raw, source, rfl, fun j hj => absurd hj j.not_lt_zero, hr, (Except.error.inj h).symm⟩
    case ok v =>
      obtain ⟨i, part, source, hp, hb, hc, rfl⟩ := hi (error_of_map h)
      refine ⟨i + 1, part, source, hp, fun j hj p hjp => ?_, hc, by rw [Nat.add_right_comm, Nat.add_assoc]⟩
      cases j
      case zero   => exact ⟨v, by cases hjp; exact hr⟩
      case succ j => exact hb j (Nat.lt_of_succ_lt_succ hj) p hjp

-- A value that is no list converts to a list of one.
theorem convert_single (h : raw.Bare) (hl : ∀ raws, raw ≠ .list raws) :
    convert env raw (.list t) = match convert env raw t with
      | .ok v    => .ok (.list [v])
      | .error e => .error (.element 0 e) := by
  have ⟨hw, hn⟩ := h
  rw [convert]
  split
  case h_1 _ hh => simp [hw] at hh
  case h_2 => cases raw <;> first | rfl | contradiction | exact absurd rfl (hl _)

theorem convert_string (env : Environment) (s : String) :
    convert env (.string s) .string = .ok (.string s) := by
  have hs : (Value.string s).Bare := ⟨rfl, nofun⟩
  rw [convert_plain hs rfl]
  rfl

-- A text stands for the list of it alone.
theorem convert_list_string (env : Environment) (s : String) :
    convert env (.string s) (.list .string) = .ok (.list [.string s]) := by
  have hs : (Value.string s).Bare := ⟨rfl, nofun⟩
  rw [convert_single hs (by simp), convert_string]

theorem convert_optional (h : raw.Bare) : convert env raw (.optional t)
    = (do (ValueType.optional t).wrap (← convert env raw t)) := by
  have ⟨hw, hn⟩ := h
  rw [convert]
  split
  case h_1 _ hh => simp [hw] at hh
  case h_2 => cases raw <;> first | rfl | contradiction

-- Optional types read what they wrap.
theorem convert_eq_wrap (h : raw.Bare) (ht : t.isOptional) :
    convert env raw t = convert env raw t.unwrapped >>= t.wrap := by
  cases t <;> cases ht
  case optional t => exact convert_optional h
  all_goals
    rw [convert_plain h rfl, ValueType.unwrapped, ValueType.inner?, Option.getD_some, convert_plain h rfl]
    exact (bind_map_left ..).symm

theorem convert_schema (r : SchemaRef) (raws : Entries Value) : convert env (.map raws) (.schema r)
    = match ((Schema.resolve env r >>= fun s =>
        s.fill env (Converter.standard.toResult env) raws []) .none).1 with
      | .ok c    => .ok c.toValue
      | .error e => .error (.nested e) := by
  rw [convert]
  simp only [Value.held?, Schema.build_eq_fill]
  rfl

theorem convert_config (s : String) (ps : Entries Value) (r : SchemaRef) :
    convert env (.config s ps) (.schema r)
      = if s = r.name then .ok (.config s ps) else .error (.incompatible (.schema r) .config) := by
  rw [convert]
  simp [Value.held?]

theorem convert_schema_of_bare (h : raw.Bare) (hm : ∀ raws, raw ≠ .map raws)
    (hc : ∀ s ps, raw ≠ .config s ps) :
    convert env raw (.schema r) = .error (.incompatible (.schema r) raw.kind) := by
  have ⟨hw, hn⟩ := h
  rw [convert]
  split
  case h_1 _ hh => simp [hw] at hh
  case h_2 =>
    cases raw
    case map    => exact absurd rfl (hm _)
    case config => exact absurd rfl (hc _ _)
    all_goals first | rfl | contradiction

-- Only a valid schema is built, and only once its raw map gives a configuration of it.
theorem convert_schema_eq_ok_iff (u : env.NamesUnique) {raws : Entries Value} :
    convert env (.map raws) (.schema r) = .ok v ↔ env.Valid (env.target r)
      ∧ ∃ c, env.configure (Converter.standard.toResult env) (env.target r) raws = .ok c
        ∧ v = c.toValue := by
  rw [convert_schema]
  by_cases hv : env.Valid (env.target r)
  case pos =>
    rw [(u.answers_resolve_fill hv raws .none Memory.keeps_none).1]
    cases env.configure (Converter.standard.toResult env) (env.target r) raws
    case error e => exact ⟨(nomatch ·), fun ⟨_, _, h, _⟩ => nomatch h⟩
    case ok c    =>
      exact ⟨fun h => ⟨hv, c, rfl, (Except.ok.inj h).symm⟩, fun ⟨_, _, hc, h⟩ => by cases hc; rw [h]⟩
  case neg =>
    refine ⟨fun h => ?_, fun h => absurd h.1 hv⟩
    rw [bind_apply] at h
    cases hs : Schema.resolve env r .none
    case mk x m =>
      cases x <;> rw [hs] at h
      case error => contradiction
      case ok s  => exact absurd (u.valid_of_resolve Memory.keeps_none (congrArg Prod.fst hs)) hv

end Conversion
end BulletinPipeline
