import BulletinPipeline.Entries
import BulletinPipeline.Yaml.Grammar
import BulletinPipeline.Yaml.Resolve

-- Reading of trees by the shape that is wanted. Readers follow aliases, and are bounded in two ways: by the depth of
-- sequences and mappings, which each reader takes as an argument, and by the number of aliases that are followed.
-- Parts that no reader asks for may hold anything.
namespace BulletinPipeline.Yaml

abbrev Reading := ReaderT (List (Nat × Node Nat)) (StateT Nat Option)

namespace Reading

def maxDepth : Nat := 128

def aliasesPerNode : Nat := 100

def run {α : Type} (n : Node Nat) (r : Reading α) : Option α :=
  ((ReaderT.run r n.anchors.reverse).run (aliasesPerNode * n.size)).map (·.1)

def follow : Node Nat → Reading (Node Nat)
  | .alias i => do
    match ← get with
    | 0     => failure
    | k + 1 => set k
    match (← read).lookup i with
    | some n => return n
    | none   => failure
  | n => return n

def inside {α : Type} (depth : Nat) (f : Nat → Reading α) : Reading α :=
  match depth with
  | 0         => failure
  | depth + 1 => f depth

def text (n : Node Nat) : Reading String := do
  match ← follow n with
  | .scalar _ _ s => return s
  | _             => failure

def option {α : Type} (f : Node Nat → Reading α) (n : Node Nat) : Reading (Option α) := do
  let n ← follow n
  match n with
  | .scalar p true s =>
    match p.tag with
    | none => if s.isEmpty ∨ isNull s then return none else some <$> f n
    | some tag =>
      if tag ≠ "tag:yaml.org,2002:null" then some <$> f n
      else if isNull s then return none
      else failure
  | n => some <$> f n

def list {α : Type} (depth : Nat) (f : Nat → Node Nat → Reading α) (n : Node Nat) :
    Reading (List α) := do
  match ← follow n with
  | .sequence _ ns => inside depth fun depth => ns.mapM (f depth)
  | n              => if n.isEmpty then return [] else failure

-- The fields of a record, which may be given by their names, or as a sequence in their order. A field is given once;
-- other names do not count.
def record {α : Type} (depth : Nat) (names : List String)
    (f : Nat → List (String × Node Nat) → Reading α) (n : Node Nat) : Reading α := do
  match ← follow n with
  | .mapping _ pairs => inside depth fun depth => do
    let fields ← pairs.filterMapM fun (k, v) => do
      let k ← text k
      return if names.contains k then some (k, v) else none
    if (fields.map Prod.fst).eraseDups.length = fields.length then f depth fields else failure
  | .sequence _ ns => inside depth fun depth =>
    if ns.length ≤ names.length then f depth (names.zip ns) else failure
  | n => if n.isEmpty then f depth [] else failure

def required {α : Type} (name : String) (f : Node Nat → Reading α) (fields : List (String × Node Nat)) :
    Reading α :=
  match fields.lookup name with
  | some n => f n
  | none   => failure

def optional {α : Type} (name : String) (other : α) (f : Node Nat → Reading α)
    (fields : List (String × Node Nat)) : Reading α :=
  match fields.lookup name with
  | some n => f n
  | none   => return other

def data (depth : Nat) (n : Node Nat) : Reading Data := do
  match ← follow n with
  | .alias _ => failure
  | .scalar p isPlain s =>
    match scalarData? p.tag isPlain s with
    | some d => return d
    | none   => failure
  | .sequence p ns =>
    match depth with
    | 0         => failure
    | depth + 1 =>
      if p.tag.any isLocalTag then failure
      else return .list (← ns.mapM (data depth))
  | .mapping p pairs =>
    match depth with
    | 0         => failure
    | depth + 1 =>
      if p.tag.any isLocalTag then failure
      else
        let entries ← pairs.mapM fun (k, v) => return (← text k, ← data depth v)
        return .map (Entries.ofList entries)
termination_by structural depth

def entries (depth : Nat) (n : Node Nat) : Reading (Entries Data) := do
  match ← follow n with
  | .mapping _ pairs => inside depth fun depth => do
    let entries ← pairs.mapM fun (k, v) => return (← text k, ← data depth v)
    return Entries.ofList entries
  | n => if n.isEmpty then return [] else failure

end Reading
end BulletinPipeline.Yaml
