import BulletinPipeline.Regex.Parser
import BulletinPipeline.Regex.Search
import BulletinPipeline.Regex.Template

namespace BulletinPipeline

structure Regex where
  program : Array Regex.Instruction
  names   : List (String × Nat)

namespace Regex

def ofString? (s : String) : Option Regex := do
  let (n, _, names) ← parse? s.toList
  if n.size ≤ maxSize then some ⟨n.program.toArray, names⟩ else none

def expand (r : Regex) (text : Array Char) (m : Match) (t : Template) : List Char :=
  t.flatMap fun
    | .text cs  => cs
    | .number i => m.group text i
    | .name s   => match r.names.lookup s with
      | some i => m.group text i
      | none   => []

def splice (r : Regex) (text : Array Char) (t : Template) (place : Nat) : List Match → List Char
  | []      => (text.extract place text.size).toList
  | m :: ms => (text.extract place m.start).toList ++ r.expand text m t ++ r.splice text t m.stop ms

def replace (r : Regex) (limit : Nat) (replacement s : String) : String :=
  let text := s.toList.toArray
  let ms := allMatches r.program text
  let ms := if limit = 0 then ms else ms.take limit
  String.ofList (r.splice text (Template.ofChars 0 replacement.toList) 0 ms)

end Regex
end BulletinPipeline
