import BulletinPipeline.Conversion.Scalar
import BulletinPipeline.Schema.Configuration

namespace BulletinPipeline

namespace ValueType

def wrap (t : ValueType) (v : Value) : Except ConversionError Value :=
  match t, v with
  | t,              .null     => .ok t.nothing
  | optional _,     v         => .ok (.present v)
  | optionalInt,    .int n    => .ok (.optionalInt (some n))
  | optionalLong,   .long n   => .ok (.optionalLong (some n))
  | optionalDouble, .double d => .ok (.optionalDouble (some d))
  | t,              v         => .error (.incompatible t.unwrapped v.kind)

def isPrimitiveOptional : ValueType → Bool
  | optionalInt | optionalLong | optionalDouble => true
  | _                                           => false

end ValueType

namespace Conversion

theorem sizeOf_lt_of_held? {v w : Value} (h : v.held? = some (some w)) : sizeOf w < sizeOf v := by
  cases v <;> simp [Value.held?] at h
  case present => simp [h]
  all_goals
    obtain ⟨n, rfl, rfl⟩ := h
    simp

mutual

-- A raw value as a value of a type. Wrappers around the raw value are taken off first.
def convert (env : Environment) (raw : Value) (type : ValueType) : Result Value :=
  match _h : raw.held? with
  | some held =>
    if type.isPrimitiveOptional && type.assignableFrom raw.type then .ok raw
    else match held with
      | none   => .ok type.nothing
      | some v => convert env v type
  | none =>
    match type, raw with
    | type,        .null         => .ok type.nothing
    | .any,        raw           => .ok raw
    | .bool,       raw           => (toBool raw).map .bool
    | .int,        raw           => (toInt raw).map .int
    | .long,       raw           => (toLong raw).map .long
    | .double,     raw           => (toDouble raw).map .double
    | .string,     raw           => (toText raw).map .string
    | .list item,  .list raws    => (convertItems env item 0 raws).map .list
    | .list item,  raw           =>
      match convert env raw item with
      | .ok v    => .ok (.list [v])
      | .error e => .error (.element 0 e)
    | .map,        .map raws     => .ok (.map raws)
    | .map,        .config _ ps  => .ok (.map ps)
    | .optional t, raw           => do (ValueType.optional t).wrap (← convert env raw t)
    | .optionalInt, raw          => do ValueType.optionalInt.wrap (.int (← toInt raw))
    | .optionalLong, raw         => do ValueType.optionalLong.wrap (.long (← toLong raw))
    | .optionalDouble, raw       => do ValueType.optionalDouble.wrap (.double (← toDouble raw))
    | .schema r,   .config s ps  =>
      if s = r.name then .ok (.config s ps) else .error (.incompatible (.schema r) .config)
    | .schema r,   .map raws     =>
      let built := do
        let s ← Schema.resolve env r
        s.build env (sizeOf · < sizeOf raws) (fun v _ accessor => convert env v accessor.returns) raws
          (fun _ h => h) []
      match (built Memory.none).1 with
      | .ok c    => .ok c.toValue
      | .error e => .error (.nested e)
    | .object t,   .object o     =>
      if o.type = t then .ok (.object o) else .error (.incompatible (.object t) .object)
    | type,        raw           => .error (.incompatible type raw.kind)
termination_by (sizeOf raw, sizeOf type)
decreasing_by
  · exact Prod.Lex.left _ _ (sizeOf_lt_of_held? _h)
  · exact Prod.Lex.left _ _ (by simp)
  · exact Prod.Lex.right _ (by simp)
  · exact Prod.Lex.right _ (by simp)
  · exact Prod.Lex.left _ _ (by simp; omega)

def convertItems (env : Environment) (item : ValueType) (index : Nat) (raws : List Value) :
    Result (List Value) :=
  match raws with
  | []        => .ok []
  | raw :: raws =>
    match convert env raw item with
    | .error e => .error (.element index e)
    | .ok v    => (convertItems env item (index + 1) raws).map (v :: ·)
termination_by (sizeOf raws, sizeOf item)
decreasing_by
  · exact Prod.Lex.left _ _ (by rw [List.cons.sizeOf_spec]; omega)
  · exact Prod.Lex.left _ _ (by rw [List.cons.sizeOf_spec]; omega)

end
end Conversion
end BulletinPipeline
