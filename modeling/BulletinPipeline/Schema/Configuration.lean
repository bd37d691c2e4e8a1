import BulletinPipeline.Schema.Validation

namespace BulletinPipeline

theorem sizeOf_lt_of_lookup {es : Entries Value} {k : String} {v : Value} (h : es.lookup k = some v) :
    sizeOf v < sizeOf es := by
  obtain ⟨before, after, hs, _⟩ := List.lookup_eq_some_iff.mp h
  have hm : (k, v) ∈ es := by simp [hs]
  have := List.sizeOf_lt_of_mem hm
  simp at this
  omega

abbrev Materializing := ExceptT Error (StateM Memory)

namespace Schema

-- Validates what a reference stands for, outside of any path.
def resolve (env : Environment) (r : SchemaRef) : Materializing Schema := fun m =>
  match env.resolve? r with
  | none   => (.error (.schema (.violation r.name .concrete)), m)
  | some d =>
    match validate env d [] m with
    | (.error e, m) => (.error (.schema e), m)
    | (.ok s, m)    => (.ok s, m)

-- By halving, which wants the properties in ascending order. The fuel is the number of properties.
def search? (name : String) : Nat → List Property → Option Property
  | 0,     _  => none
  | n + 1, ps =>
    if h : ps.length ≤ 1 then ps.head?.filter (·.name = name)
    else if name < ps[ps.length / 2].name then search? name n (ps.take (ps.length / 2))
    else search? name n (ps.drop (ps.length / 2))

def property? (s : Schema) (name : String) : Option Property :=
  search? name s.properties.length s.properties

def unknown? (s : Schema) (raw : Entries Value) : Option String :=
  (Entries.keys raw).find? fun k => (s.property? k).isNone

-- The configuration that a raw map gives, for a schema reached inside the schemas of a path. The conversion is asked
-- for values inside the map only, which are all small.
def build (env : Environment) (small : Value → Prop)
    (convert : (v : Value) → small v → Signature → Except ConversionError Value)
    (s : Schema) (raw : Entries Value) (inside : ∀ v, sizeOf v < sizeOf raw → small v)
    (path : List String) : Materializing Config := do
  if s.name ∈ path then throw (.schema (.circular (path ++ [s.name])))
  else match s.unknown? raw with
    | some key => throw (.unknownOption s.name key)
    | none =>
      let properties ← s.properties.mapM fun p =>
        match h : raw.lookup p.name with
        | none =>
          match p.accessor.returns.empty? with
          | some v => pure (p.name, v)
          | none   => throw (.missingRequiredOption s.name p.name)
        | some v =>
          have lt := sizeOf_lt_of_lookup h
          match v, p.nested? with
          | .map nested, some r => do
            let inner ← resolve env r
            have : sizeOf nested < sizeOf raw := by simp at lt; omega
            let c ← build env small convert inner nested (fun v h => inside v (by omega)) (path ++ [s.name])
            pure (p.name, if p.isOptional then .present c.toValue else c.toValue)
          | v, _ =>
            match convert v (inside v lt) p.accessor with
            | .ok v    => pure (p.name, v)
            | .error e => throw (.conversion s.name p.name e)
      pure ⟨s.name, properties⟩
termination_by sizeOf raw

end Schema
end BulletinPipeline
