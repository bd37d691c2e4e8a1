import BulletinPipeline.Schema.Memory

-- Validation of a descriptor with all that it refers to. The walk goes down from property to property in ascending
-- order and keeps the names on its path; a name that it meets again on the path is an error. It ends because every
-- step puts one more name of the environment on the path.
namespace BulletinPipeline

namespace Environment

def unvisited (env : Environment) (path : List String) : Nat :=
  env.names.countP (· ∉ path)

def room (env : Environment) (d : Descriptor) (path : List String) : Nat :=
  env.unvisited path + if d.name ∈ env.names then 0 else 1

theorem name_mem_of_resolve? {env : Environment} {r : SchemaRef} {d : Descriptor}
    (h : env.resolve? r = some d) : d.name ∈ env.names := by
  obtain ⟨_, _, he, _⟩ := List.lookup_eq_some_iff.mp h
  simp [names, he]

theorem unvisited_append_le (env : Environment) (path : List String) (n : String) :
    env.unvisited (path ++ [n]) ≤ env.unvisited path :=
  List.countP_mono_left (by simp +contextual)

theorem unvisited_append_lt {env : Environment} {path : List String} {n : String}
    (hn : n ∈ env.names) (hp : n ∉ path) : env.unvisited (path ++ [n]) < env.unvisited path := by
  obtain ⟨before, after, hs⟩ := List.append_of_mem hn
  have hle (names : List String) :
      names.countP (· ∉ path ++ [n]) ≤ names.countP (· ∉ path) :=
    List.countP_mono_left (by simp +contextual)
  have hb := hle before
  have ha := hle after
  simp only [unvisited, hs, List.countP_append, List.countP_cons]
  simp [hp] at ha hb ⊢
  omega

theorem unvisited_lt_room {env : Environment} {d : Descriptor} {path : List String}
    (h : d.name ∉ path) : env.unvisited (path ++ [d.name]) < env.room d path := by
  unfold room
  split
  · exact unvisited_append_lt ‹_› h
  · exact Nat.lt_succ_of_le (unvisited_append_le ..)

end Environment

mutual

def validate (env : Environment) (d : Descriptor) (path : List String) (m : Memory) :
    Except SchemaError Schema × Memory :=
  match m.find? d with
  | some r => (.ok r.schema, m)
  | none =>
    if d.name ∈ path then (.error (.circular (path ++ [d.name])), m)
    else match Schema.ofDescriptor d with
      | .error e => (.error e, m)
      | .ok s =>
        match validateAll env s.references (path ++ [d.name]) m with
        | (.error e, m) => (.error e, m)
        | (.ok _, m)    => (.ok s, m.remember d s)
termination_by (env.room d path, 0)
decreasing_by exact Prod.Lex.left _ _ (Environment.unvisited_lt_room ‹_›)

def validateAll (env : Environment) (rs : List SchemaRef) (path : List String) (m : Memory) :
    Except SchemaError Unit × Memory :=
  match rs with
  | [] => (.ok (), m)
  | r :: rs =>
    match _h : env.resolve? r with
    | none   => (.error (.violation r.name .concrete), m)
    | some d =>
      match validate env d path m with
      | (.error e, m) => (.error e, m)
      | (.ok _, m)    => validateAll env rs path m
termination_by (env.unvisited path, rs.length + 1)
decreasing_by
  · have := Environment.name_mem_of_resolve? _h
    simp only [Environment.room, this, if_true]
    exact Prod.Lex.right _ (by omega)
  · exact Prod.Lex.right _ (by simp)

end

end BulletinPipeline
