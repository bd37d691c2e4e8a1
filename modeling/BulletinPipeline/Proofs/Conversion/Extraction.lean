import BulletinPipeline.Extraction
import BulletinPipeline.Proofs.Conversion.Settled
import BulletinPipeline.Proofs.Recursion.Evaluation

namespace BulletinPipeline

-- A null where the type wants something: the value itself, or inside lists and wrappers.
inductive Value.NullAt : ValueType → Value → Prop
  | here {t : ValueType} : t ≠ .any → t.isOptional = false → NullAt t .null
  | item {t : ValueType} {items : List Value} {v : Value} : v ∈ items → NullAt t v → NullAt (.list t) (.list items)
  | held {t : ValueType} {v : Value} : NullAt t v → NullAt (.optional t) (.present v)

namespace ValueType

-- The form in which components take the values of a type.
def form : ValueType → Form
  | any            => .value
  | bool           => .bool
  | int            => .int
  | long           => .long
  | double         => .double
  | string         => .string
  | map            => .map
  | list t         => .list t.form
  | optional t     => .option t.form
  | optionalInt    => .option .int
  | optionalLong   => .option .long
  | optionalDouble => .option .double
  | schema _       => .config
  | object o       => .object o

-- What was taken out of a value, as a value of the type again.
def restore : ValueType → Extracted → Option Value
  | any,            .value v                   => some v
  | bool,           .bool b                    => some (.bool b)
  | int,            .int n                     => some (.int n)
  | long,           .long n                    => some (.long n)
  | double,         .double d                  => some (.double d)
  | string,         .string s                  => some (.string s)
  | map,            .map es                    => some (.map es)
  | list t,         .list xs                   => (xs.mapM t.restore).map .list
  | optional t,     .option (some x)           => do ((optional t).wrap (← t.restore x)).toOption
  | optionalInt,    .option (some (.int n))    => (optionalInt.wrap (.int n)).toOption
  | optionalLong,   .option (some (.long n))   => (optionalLong.wrap (.long n)).toOption
  | optionalDouble, .option (some (.double d)) => (optionalDouble.wrap (.double d)).toOption
  | t,              .option none               => t.empty?
  | schema _,       .config c                  => some c.toValue
  | object o,       .object b                  => if b.type = o then some (.object b) else none
  | _,              _                          => none

end ValueType

namespace Extraction

variable {α : Type} {item : Value → Result α} {restore : α → Option Value} {vs : List Value} {v : Value} {xs : List α}

theorem exists_of_items {i : Nat} (h : items item i vs = .ok xs) (hv : v ∈ vs) : ∃ x, item v = .ok x := by
  induction vs generalizing i xs
  case nil => contradiction
  case cons w vs hi =>
    rw [items] at h
    cases hw : item w <;> rw [hw] at h
    case error => contradiction
    case ok x =>
      cases hs : items item (i + 1) vs <;> rw [hs] at h
      case error => contradiction
      case ok xs =>
        cases List.mem_cons.mp hv
        case inl he => exact ⟨x, he ▸ hw⟩
        case inr hm => exact hi hs hm

theorem exists_items (h : ∀ v ∈ vs, ∃ x, item v = .ok x ∧ restore x = some v) (i : Nat) :
    ∃ xs, items item i vs = .ok xs ∧ xs.mapM restore = some vs := by
  induction vs generalizing i
  case nil => exact ⟨[], rfl, rfl⟩
  case cons v vs hi =>
    have ⟨x, hx, hr⟩ := h v List.mem_cons_self
    have ⟨xs, hxs, hrs⟩ := hi (fun w hw => h w (List.mem_cons_of_mem v hw)) (i + 1)
    refine ⟨x :: xs, ?_, ?_⟩
    · rw [items, hx, hxs]
      rfl
    · rw [List.mapM_cons, hr, hrs]
      rfl

end Extraction

theorem Form.extract_list (f : Form) (items : List Value) :
    (list f).extract (.list items) = (Extraction.items f.extract 0 items).map .list :=
  rfl

theorem Form.extract_present (f : Form) (v : Value) :
    (option f).extract (.present v) = (f.extract v).map fun x => .option (some x) := by
  simp only [Form.extract, Extraction.option, Value.held?]
  cases f.extract v <;> rfl

namespace Value

variable {env : Environment} {t : ValueType} {v : Value}

theorem NullAt.extract_ne_ok (h : v.NullAt t) : ∀ x, t.form.extract v ≠ .ok x := by
  induction h
  case here t ha ho =>
    intro x hx
    cases t <;> first | exact ha rfl | contradiction
  case item t items v hm _ hi =>
    intro x hx
    rw [ValueType.form, Form.extract_list] at hx
    cases hs : Extraction.items t.form.extract 0 items
    case error =>
      rw [hs] at hx
      contradiction
    case ok =>
      have ⟨y, hy⟩ := Extraction.exists_of_items hs hm
      exact hi y hy
  case held t v _ hi =>
    intro x hx
    rw [ValueType.form, Form.extract_present] at hx
    cases hy : t.form.extract v
    case error =>
      rw [hy] at hx
      contradiction
    case ok y => exact hi y hy

theorem Settled.exists_extract (h : v.Settled env t) (hn : ¬v.NullAt t) :
    ∃ x, t.form.extract v = .ok x ∧ t.restore x = some v := by
  induction h
  case null t ho =>
    by_cases ha : t = .any
    case pos => exact ha ▸ ⟨.value .null, rfl, rfl⟩
    case neg => exact absurd (.here ha ho) hn
  case any v _            => exact ⟨.value v, rfl, rfl⟩
  case bool b             => exact ⟨.bool b, rfl, rfl⟩
  case int n              => exact ⟨.int n, rfl, rfl⟩
  case long n             => exact ⟨.long n, rfl, rfl⟩
  case double d           => exact ⟨.double d, rfl, rfl⟩
  case string s           => exact ⟨.string s, rfl, rfl⟩
  case list items t _ hi  =>
    have ⟨xs, hxs, hrs⟩ := Extraction.exists_items (fun v hv => hi v hv fun hc => hn (.item hv hc)) 0
    refine ⟨.list xs, ?_, ?_⟩
    · rw [ValueType.form, Form.extract_list, hxs]
      rfl
    · rw [ValueType.restore, hrs]
      rfl
  case map es             => exact ⟨.map es, rfl, rfl⟩
  case absent t           => exact ⟨.option none, rfl, by cases t <;> rfl⟩
  case present v t hb _ hi =>
    have ⟨x, hx, hr⟩ := hi fun hc => hn (.held hc)
    refine ⟨.option (some x), ?_, ?_⟩
    · rw [ValueType.form, Form.extract_present, hx]
      rfl
    · rw [ValueType.restore, hr, Option.bind_eq_bind, Option.bind_some,
        ValueType.wrap_optional t (ne_null_of_bare_core hb)]
      rfl
  case optionalInt n      => exact ⟨.option (n.map .int), by cases n <;> rfl, by cases n <;> rfl⟩
  case optionalLong n     => exact ⟨.option (n.map .long), by cases n <;> rfl, by cases n <;> rfl⟩
  case optionalDouble d   => exact ⟨.option (d.map .double), by cases d <;> rfl, by cases d <;> rfl⟩
  case config r s ps _    => exact ⟨.config ⟨s, ps⟩, rfl, rfl⟩
  case object o           =>
    refine ⟨.object o, ?_, if_pos rfl⟩
    rw [ValueType.form, Form.extract, Extraction.object, if_pos rfl]
    rfl

end Value

namespace Conversion

variable {env : Environment} {t : ValueType} {v : Value}

-- Only a null that conversion let through is in the way.
theorem extract_of_convert (raw : Value) (t : ValueType) (h : convert env raw t = .ok v) :
    ((∃ x, t.form.extract v = .ok x) ↔ ¬v.NullAt t)
    ∧ ∀ x, t.form.extract v = .ok x → t.restore x = some v := by
  have hs := settled_of_convert raw t h
  have hn {x : Extracted} (hx : t.form.extract v = .ok x) : ¬v.NullAt t := fun hc => hc.extract_ne_ok x hx
  refine ⟨⟨fun ⟨_, hx⟩ => hn hx, fun hc => ?succeeds⟩, fun x hx => ?restored⟩
  case succeeds =>
    have ⟨x, hx, _⟩ := hs.exists_extract hc
    exact ⟨x, hx⟩
  case restored =>
    have ⟨y, hy, hr⟩ := hs.exists_extract (hn hx)
    cases hx.symm.trans hy
    exact hr

def rows : ValueType :=
  .list (.optional (.list .long))

-- A null in the place of a number is let through, but not one in the place of a wrapper.
theorem extract_of_convert_rows :
    convert .empty (.list [.list [.int 1, .null], .absent]) rows
        = .ok (.list [.present (.list [.long 1, .null]), .absent])
    ∧ (¬∃ x, rows.form.extract (.list [.present (.list [.long 1, .null]), .absent]) = .ok x)
    ∧ convert .empty (.list [.int 1, .null]) rows = .ok (.list [.present (.list [.long 1]), .absent])
    ∧ ∃ x, rows.form.extract (.list [.present (.list [.long 1]), .absent]) = .ok x
        ∧ rows.restore x = some (.list [.present (.list [.long 1]), .absent]) := by
  have hn : convert .empty (.list [.list [.int 1, .null], .absent]) rows
      = .ok (.list [.present (.list [.long 1, .null]), .absent]) :=
    convert_of_within (n := 5) rfl
  have hl : Value.NullAt rows (.list [.present (.list [.long 1, .null]), .absent]) :=
    .item List.mem_cons_self <| .held <| .item (.tail _ List.mem_cons_self) <| .here (by simp) rfl
  have hs : convert .empty (.list [.int 1, .null]) rows = .ok (.list [.present (.list [.long 1]), .absent]) :=
    convert_of_within (n := 5) rfl
  have hx : rows.form.extract (.list [.present (.list [.long 1]), .absent])
      = .ok (.list [.option (some (.list [.long 1])), .option none]) := rfl
  exact ⟨hn, fun h => (extract_of_convert _ _ hn).1.mp h hl, hs, _, hx, (extract_of_convert _ _ hs).2 _ hx⟩

end Conversion
end BulletinPipeline
