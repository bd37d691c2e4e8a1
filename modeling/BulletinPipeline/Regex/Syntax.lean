import BulletinPipeline.Regex.CharSet

namespace BulletinPipeline.Regex

inductive LineEnd
  | newline | anyReturn
  deriving DecidableEq, Repr

-- A condition on a place between two characters. Word borders know ASCII words only if they say so.
inductive Assertion
  | startText | endText
  | startLine (e : LineEnd) | endLine (e : LineEnd)
  | wordBorder (ascii : Bool) | noWordBorder (ascii : Bool)
  | wordStart (ascii : Bool) | wordEnd (ascii : Bool)
  | halfStart (ascii : Bool) | halfEnd (ascii : Bool)
  deriving DecidableEq, Repr

inductive Node
  | empty
  | one (set : CharSet)
  | assert (a : Assertion)
  | group (index : Nat) (n : Node)
  | seq (n m : Node)
  | alt (n m : Node)
  | many (n : Node) (min : Nat) (max : Option Nat) (greedy : Bool)
  deriving Repr

namespace Node

def nullable : Node → Bool
  | empty         => true
  | one _         => false
  | assert _      => true
  | group _ n     => n.nullable
  | seq n m       => n.nullable && m.nullable
  | alt n m       => n.nullable || m.nullable
  | many n k _ _  => k = 0 || n.nullable

def vacuous : Node → Bool
  | empty         => true
  | one _         => false
  | assert _      => true
  | group _ n     => n.vacuous
  | seq n m       => n.vacuous && m.vacuous
  | alt n m       => n.vacuous && m.vacuous
  | many n _ k _  => k = some 0 || n.vacuous

-- A repetition. Once more of what takes no character changes nothing.
def repeated (n : Node) (min : Nat) (max : Option Nat) (greedy : Bool) : Node :=
  let (min, max) := if n.vacuous then (Nat.min min 1, some (Nat.min (max.getD 1) 1)) else (min, max)
  if max = some 0 then empty
  else if min = 1 ∧ max = some 1 then n
  else many n min max greedy

end Node
end BulletinPipeline.Regex
