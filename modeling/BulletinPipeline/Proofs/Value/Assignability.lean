import BulletinPipeline.Proofs.Conversion.Typing

namespace BulletinPipeline

-- What may stand for a declared type. In contrast to what conversion gives for `any`, wrappers may stand for
-- it as well, and a wrapper may hold null.
inductive Value.Fits : Value → ValueType → Prop
  | any (v : Value) : Fits v .any
  | null {t : ValueType} : t.isOptional = false → Fits .null t
  | bool (b : Bool) : Fits (.bool b) .bool
  | int (n : Int32) : Fits (.int n) .int
  | long (n : Int64) : Fits (.long n) .long
  | double (d : Double) : Fits (.double d) .double
  | string (s : String) : Fits (.string s) .string
  | list {items : List Value} {t : ValueType} : (∀ v ∈ items, Fits v t) → Fits (.list items) (.list t)
  | map (entries : Entries Value) : Fits (.map entries) .map
  | absent (t : ValueType) : Fits .absent (.optional t)
  | present {v : Value} {t : ValueType} : Fits v t → Fits (.present v) (.optional t)
  | optionalInt (n : Option Int32) : Fits (.optionalInt n) .optionalInt
  | optionalLong (n : Option Int64) : Fits (.optionalLong n) .optionalLong
  | optionalDouble (d : Option Double) : Fits (.optionalDouble d) .optionalDouble
  | config (r : SchemaRef) (properties : Entries Value) : Fits (.config r.name properties) (.schema r)
  | object (o : Object) : Fits (.object o) (.object o.type)

namespace ValueType

-- The ways in which a type is assignable from another one.
inductive Assignable : ValueType → ValueType → Prop
  | any (u : ValueType) : Assignable .any u
  | same (t : ValueType) : Assignable t t
  | list {t u : ValueType} : Assignable t u → Assignable (.list t) (.list u)
  | optional {t u : ValueType} : Assignable t u → Assignable (.optional t) (.optional u)
  | schema {r s : SchemaRef} : r.name = s.name → Assignable (.schema r) (.schema s)

theorem assignable_of_alike {t u : ValueType} (h : t.Alike u) : t.Assignable u := by
  induction h
  case refl t      => exact .same t
  case list hi     => exact .list hi
  case optional hi => exact .optional hi
  case schema hn   => exact .schema hn

theorem assignable_of_assignableFrom {t u : ValueType} (h : t.assignableFrom u) : t.Assignable u := by
  fun_induction assignableFrom t u
  case case1    => exact .any _
  case case2 hi => exact .list (hi h)
  case case3 hi => exact .optional (hi h)
  case case4    => exact assignable_of_alike (alike_of_same h)

theorem assignableFrom_self (t : ValueType) : t.assignableFrom t := by
  induction t
  case list hi     => exact hi
  case optional hi => exact hi
  all_goals simp [assignableFrom, same]

theorem Assignable.assignableFrom {t u : ValueType} (h : t.Assignable u) : t.assignableFrom u := by
  induction h
  case any u       => rw [ValueType.assignableFrom]
  case same t      => exact t.assignableFrom_self
  case list hi     => exact hi
  case optional hi => exact hi
  case schema hn   => exact decide_eq_true hn

-- Only types that read the same are assignable both ways.
theorem Assignable.alike {t u : ValueType} (h : t.Assignable u) (h' : u.Assignable t) : t.Alike u := by
  induction h
  case any u => cases h' <;> exact .refl .any
  case same t => exact .refl t
  case list hi =>
    cases h'
    case same   => exact .refl _
    case list h => exact .list (hi h)
  case optional hi =>
    cases h'
    case same       => exact .refl _
    case optional h => exact .optional (hi h)
  case schema hn => exact .schema hn

end ValueType

namespace Value.Fits

variable {v : Value} {t u : ValueType}

theorem of_inhabits (h : v.Inhabits t) : v.Fits t := by
  induction h
  case null h           => exact .null h
  case any v _          => exact .any v
  case bool b           => exact .bool b
  case int n            => exact .int n
  case long n           => exact .long n
  case double d         => exact .double d
  case string s         => exact .string s
  case list hi          => exact .list hi
  case map entries      => exact .map entries
  case absent t         => exact .absent t
  case present hi       => exact .present hi
  case optionalInt n    => exact .optionalInt n
  case optionalLong n   => exact .optionalLong n
  case optionalDouble d => exact .optionalDouble d
  case config r ps      => exact .config r ps
  case object o         => exact .object o

-- A list shows that it is one of anything, and a wrapper that it may hold anything.
theorem of_type (v : Value) : v.Fits v.type := by
  cases v
  case null             => exact .any .null
  case bool b           => exact .bool b
  case int n            => exact .int n
  case long n           => exact .long n
  case double d         => exact .double d
  case string s         => exact .string s
  case list items       => exact .list fun v _ => .any v
  case map entries      => exact .map entries
  case absent           => exact .absent .any
  case present v        => exact .present (.any v)
  case optionalInt n    => exact .optionalInt n
  case optionalLong n   => exact .optionalLong n
  case optionalDouble d => exact .optionalDouble d
  case config s ps      => exact .any (.config s ps)
  case object o         => exact .object o

-- Induction on the assignability, as the value changes with the type: it is that of an item in a list.
theorem of_assignable (h : v.Fits u) (ha : t.Assignable u) : v.Fits t := by
  induction ha generalizing v
  case any    => exact .any v
  case same   => exact h
  case list hi =>
    cases h
    case null    => exact .null rfl
    case list hs => exact .list fun v hm => hi (hs v hm)
  case optional hi =>
    cases h
    case null h    => contradiction
    case absent    => exact .absent _
    case present h => exact .present (hi h)
  case schema hn =>
    cases h
    case null      => exact .null rfl
    case config ps => exact hn ▸ .config _ ps

-- What is declared by its own type may be passed wherever that type is accepted.
theorem of_assignableFrom (h : t.assignableFrom v.type) : v.Fits t :=
  (of_type v).of_assignable (ValueType.assignable_of_assignableFrom h)

-- Where a value shows its type in full, it stands for nothing else.
theorem assignable_type (h : v.Fits t) (ha : v.type ≠ .any) (hl : v.type ≠ .list .any) (ho : v.type ≠ .optional .any) :
    t.Assignable v.type := by
  cases h <;> first | exact .any _ | exact .same _ | contradiction

end Value.Fits

namespace ValueType

variable {t u : ValueType}

theorem fits_config_iff {name : String} {ps : Entries Value} :
    (Value.config name ps).Fits t ↔ t = .any ∨ ∃ r, t = .schema r ∧ r.name = name := by
  constructor
  case mp =>
    generalize hv : Value.config name ps = v
    rintro ⟨⟩ <;> cases hv
    case any      => exact .inl rfl
    case config r => exact .inr ⟨r, rfl, rfl⟩
  case mpr =>
    rintro (rfl | ⟨r, rfl, rfl⟩)
    case inl => exact .any _
    case inr => exact .config r ps

-- Each type has values that tell it from all others but `any`. Induction on the type whose values are given, as an
-- item is asked for in a list of one and in a wrapper.
theorem assignable_of_forall_fits (h : ∀ v : Value, v.Fits u → v.Fits t) : t.Assignable u := by
  induction u generalizing t
  case any =>
    cases h (.bool true) (.any _)
    case any => exact .any _
    case bool => nomatch h .absent (.any _)
  case list u hi =>
    cases h (.list []) (.list nofun)
    case any  => exact .any _
    case list =>
      refine .list (hi fun v hv => ?_)
      cases h (.list [v]) (.list (List.forall_mem_singleton.mpr hv))
      case list hs => exact hs v List.mem_cons_self
  case optional u hi =>
    cases h .absent (.absent u)
    case any    => exact .any _
    case absent =>
      refine .optional (hi fun v hv => ?_)
      cases h (.present v) (.present hv)
      case present hv => exact hv
  case schema r =>
    cases fits_config_iff.mp (h (.config r.name []) (.config r []))
    case inl ht => exact ht ▸ .any _
    case inr ht =>
      obtain ⟨s, rfl, hn⟩ := ht
      exact .schema hn
  case bool           => exact (h (.bool true) (.bool _)).assignable_type nofun nofun nofun
  case int            => exact (h (.int 0) (.int _)).assignable_type nofun nofun nofun
  case long           => exact (h (.long 0) (.long _)).assignable_type nofun nofun nofun
  case double         => exact (h (.double ⟨0⟩) (.double _)).assignable_type nofun nofun nofun
  case string         => exact (h (.string "") (.string _)).assignable_type nofun nofun nofun
  case map            => exact (h (.map []) (.map _)).assignable_type nofun nofun nofun
  case optionalInt    => exact (h (.optionalInt none) (.optionalInt _)).assignable_type nofun nofun nofun
  case optionalLong   => exact (h (.optionalLong none) (.optionalLong _)).assignable_type nofun nofun nofun
  case optionalDouble => exact (h (.optionalDouble none) (.optionalDouble _)).assignable_type nofun nofun nofun
  case object o       => exact (h (.object ⟨o, "", ""⟩) (.object _)).assignable_type nofun nofun nofun

theorem assignableFrom_iff_forall_fits : t.assignableFrom u ↔ ∀ v : Value, v.Fits u → v.Fits t :=
  ⟨fun h _ hv => hv.of_assignable (assignable_of_assignableFrom h),
    fun h => (assignable_of_forall_fits h).assignableFrom⟩

theorem assignableFrom_partialOrder :
    (∀ t : ValueType, t.assignableFrom t)
    ∧ (∀ t u w : ValueType, t.assignableFrom u → u.assignableFrom w → t.assignableFrom w)
    ∧ (∀ t u : ValueType, t.assignableFrom u ∧ u.assignableFrom t ↔ t.Alike u)
    ∧ (∀ t u : ValueType, t.assignableFrom u ↔ ∀ v : Value, v.Fits u → v.Fits t)
    ∧ ∀ (v : Value) (t : ValueType), t.assignableFrom v.type → v.Fits t := by
  refine ⟨assignableFrom_self, fun t u w h h' => ?transitive, fun t u => ⟨fun h => ?antisymmetric, fun h => ?alike⟩,
    fun _ _ => assignableFrom_iff_forall_fits, fun _ _ => .of_assignableFrom⟩
  case transitive =>
    rw [assignableFrom_iff_forall_fits] at h h' ⊢
    exact fun v hv => h v (h' v hv)
  case antisymmetric => exact (assignable_of_assignableFrom h.1).alike (assignable_of_assignableFrom h.2)
  case alike =>
    exact ⟨(assignable_of_alike h).assignableFrom, (assignable_of_alike h.symm).assignableFrom⟩

def retryLists (key : String) : ValueType :=
  .list (.optional (.schema ⟨"Retry", key⟩))

-- The wrapper of anything stands between, and what the reference points to makes no difference.
theorem assignableFrom_partialOrder_retryLists :
    (list any).assignableFrom (list (optional any)) ∧ (list (optional any)).assignableFrom (retryLists "Retry")
      ∧ (list any).assignableFrom (retryLists "Retry")
      ∧ (retryLists "Retry").assignableFrom (retryLists "Pause")
      ∧ (retryLists "Pause").assignableFrom (retryLists "Retry")
      ∧ (retryLists "Retry").Alike (retryLists "Pause")
      ∧ (list any).assignableFrom (Value.list [.present (.int 3), .null]).type
      ∧ (Value.list [.present (.int 3), .null]).Fits (list any) := by
  have ⟨_, ht, ha, _, hi⟩ := assignableFrom_partialOrder
  exact ⟨rfl, rfl, ht _ (list (optional any)) _ rfl rfl, rfl, rfl, (ha _ _).mp ⟨rfl, rfl⟩, rfl, hi _ _ rfl⟩

end ValueType
end BulletinPipeline
