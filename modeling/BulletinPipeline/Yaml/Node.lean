-- Trees of YAML nodes. A node may be anchored under a name, and aliases stand for anchored nodes. Names are replaced
-- by numbers once the tree is read; an alias may stand for a node that it lies in.
namespace BulletinPipeline.Yaml

structure Properties (α : Type) where
  anchor : Option α
  tag    : Option String

def Properties.none {α : Type} : Properties α :=
  ⟨.none, .none⟩

def Properties.isNone {α : Type} (p : Properties α) : Bool :=
  p.anchor.isNone && p.tag.isNone

inductive Node (α : Type)
  | alias (anchor : α)
  | scalar (properties : Properties α) (isPlain : Bool) (text : String)
  | sequence (properties : Properties α) (items : List (Node α))
  | mapping (properties : Properties α) (pairs : List (Node α × Node α))

namespace Node

variable {α : Type}

def empty (p : Properties α) : Node α :=
  .scalar p true ""

def isEmpty : Node α → Bool
  | .scalar _ isPlain text => isPlain && text.isEmpty
  | _                      => false

mutual

def size : Node α → Nat
  | .alias _         => 1
  | .scalar _ _ _    => 1
  | .sequence _ ns   => 2 + sizeItems ns
  | .mapping _ pairs => 2 + sizePairs pairs

def sizeItems : List (Node α) → Nat
  | []      => 0
  | n :: ns => n.size + sizeItems ns

def sizePairs : List (Node α × Node α) → Nat
  | []           => 0
  | (k, v) :: ps => k.size + v.size + sizePairs ps

end

abbrev Names := List (String × Nat)

-- Numbers a name with the number of names before it, itself included if it was there.
def Names.declare (name : String) (names : Names) : Names :=
  (name, names.length) :: names.filter (·.1 ≠ name)

abbrev Linking := StateT Names Option

def linkProperties (p : Properties String) : Linking (Properties Nat) := do
  match p.anchor with
  | none      => return ⟨none, p.tag⟩
  | some name =>
    let names ← get
    set (names.declare name)
    return ⟨some names.length, p.tag⟩

mutual

-- Replaces names by numbers, in the order of the text. An alias means the last anchor of its name.
def link : Node String → Linking (Node Nat)
  | .alias name => do
    match (← get).lookup name with
    | some n => return .alias n
    | none   => failure
  | .scalar p isPlain text => return .scalar (← linkProperties p) isPlain text
  | .sequence p ns => do
    let p ← linkProperties p
    return .sequence p (← linkItems ns)
  | .mapping p pairs => do
    let p ← linkProperties p
    return .mapping p (← linkPairs pairs)

def linkItems : List (Node String) → Linking (List (Node Nat))
  | []      => return []
  | n :: ns => return (← link n) :: (← linkItems ns)

def linkPairs : List (Node String × Node String) → Linking (List (Node Nat × Node Nat))
  | []           => return []
  | (k, v) :: ps => return (← link k, ← link v) :: (← linkPairs ps)

end

def anchored (p : Properties Nat) (n : Node Nat) : List (Nat × Node Nat) :=
  match p.anchor with
  | none   => []
  | some i => [(i, n)]

mutual

def anchors : Node Nat → List (Nat × Node Nat)
  | .alias _              => []
  | .scalar p isPlain s   => anchored p (.scalar p isPlain s)
  | .sequence p ns        => anchored p (.sequence p ns) ++ anchorsItems ns
  | .mapping p pairs      => anchored p (.mapping p pairs) ++ anchorsPairs pairs

def anchorsItems : List (Node Nat) → List (Nat × Node Nat)
  | []      => []
  | n :: ns => n.anchors ++ anchorsItems ns

def anchorsPairs : List (Node Nat × Node Nat) → List (Nat × Node Nat)
  | []           => []
  | (k, v) :: ps => k.anchors ++ v.anchors ++ anchorsPairs ps

end

end Node
end BulletinPipeline.Yaml
