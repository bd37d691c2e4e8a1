import BulletinPipeline.Regex.Syntax

-- Programs that search: what a regular expression comes down to. Jumps are counted from the instruction itself, so
-- that programs are put together by joining them.
namespace BulletinPipeline.Regex

inductive Instruction
  | take (set : CharSet)
  | assert (a : Assertion)
  | save (slot : Nat)
  | fork (first second : Int)
  | jump (by_ : Int)
  deriving Repr

abbrev Program := List Instruction

namespace Program

-- Goes on with the next instruction, or leaves by a jump; the greedy way tries the next one first.
def enter (greedy : Bool) (leave : Int) : Instruction :=
  if greedy then .fork 1 leave else .fork leave 1

def back (greedy : Bool) (again : Int) : Instruction :=
  if greedy then .fork again 1 else .fork 1 again

def times : Nat → Program → Program
  | 0,     _ => []
  | n + 1, p => p ++ times n p

def upTo (greedy : Bool) : Nat → Program → Program
  | 0,     _ => []
  | n + 1, p =>
    let rest := p ++ upTo greedy n p
    enter greedy (rest.length + 1) :: rest

def plus (greedy : Bool) (p : Program) : Program :=
  p ++ [back greedy (-p.length)]

def star (greedy : Bool) (p : Program) : Program :=
  enter greedy (p.length + 2) :: p ++ [.jump (-(p.length + 1))]

-- A repetition. What may take no character is entered once or not at all, and then repeated.
def many (greedy nullable : Bool) (min : Nat) (max : Option Nat) (p : Program) : Program :=
  match min, max with
  | min,     some max => times min p ++ upTo greedy (max - min) p
  | 0,       none     => if nullable then upTo greedy 1 (plus greedy p) else star greedy p
  | min + 1, none     => times min p ++ plus greedy p

theorem length_times (n : Nat) (p : Program) : (times n p).length = n * p.length := by
  induction n with
  | zero => rw [times, List.length_nil, Nat.zero_mul]
  | succ n ih => rw [times, List.length_append, ih, Nat.succ_mul, Nat.add_comm]

theorem length_upTo (greedy : Bool) (n : Nat) (p : Program) :
    (upTo greedy n p).length = n * (p.length + 1) := by
  induction n with
  | zero => rw [upTo, List.length_nil, Nat.zero_mul]
  | succ n ih =>
    rw [upTo, List.length_cons, List.length_append, ih, Nat.succ_mul]
    omega

theorem length_plus (greedy : Bool) (p : Program) : (plus greedy p).length = p.length + 1 :=
  List.length_append

theorem length_star (greedy : Bool) (p : Program) : (star greedy p).length = p.length + 2 := by
  rw [star, List.cons_append, List.length_cons, List.length_append, List.length_singleton]

def copies (min : Nat) (max : Option Nat) : Nat :=
  Max.max min (max.getD (min + 1))

theorem length_many_le (greedy nullable : Bool) (min : Nat) (max : Option Nat) (p : Program) :
    (many greedy nullable min max p).length ≤ copies min max * (p.length + 2) := by
  match min, max with
  | min, some max =>
    have all : copies min (some max) = min + (max - min) := by
      rw [copies, Option.getD_some]
      omega
    rw [many, List.length_append, length_times, length_upTo, all, Nat.add_mul]
    exact Nat.add_le_add (Nat.mul_le_mul_left _ (Nat.le_add_right ..))
      (Nat.mul_le_mul_left _ (Nat.le_succ _))
  | 0, none =>
    have all : copies 0 none = 1 := rfl
    rw [many, all, Nat.one_mul]
    split
    · exact Nat.le_of_eq (by rw [length_upTo, length_plus, Nat.one_mul])
    · exact Nat.le_of_eq (length_star ..)
  | min + 1, none =>
    have all : copies (min + 1) none = min + 1 + 1 := Nat.max_eq_right (Nat.le_succ _)
    have rest := Nat.mul_le_mul_left min (Nat.le_add_right p.length 2)
    rw [many, List.length_append, length_times, length_plus, all, Nat.succ_mul, Nat.succ_mul]
    omega

end Program

def Node.program : Node → Program
  | empty             => []
  | one s             => [.take s]
  | assert a          => [.assert a]
  | group i n         => .save (2 * i) :: n.program ++ [.save (2 * i + 1)]
  | seq n m           => n.program ++ m.program
  | alt n m           =>
    let p := n.program
    let q := m.program
    .fork 1 (p.length + 2) :: p ++ .jump (q.length + 1) :: q
  | many n min max greedy => Program.many greedy n.nullable min max n.program

-- How many instructions a tree comes down to at most, known before they are written out.
def Node.size : Node → Nat
  | empty            => 0
  | one _            => 1
  | assert _         => 1
  | group _ n        => n.size + 2
  | seq n m          => n.size + m.size
  | alt n m          => n.size + m.size + 2
  | many n min max _ => Program.copies min max * (n.size + 2)

theorem Node.length_program_le (n : Node) : n.program.length ≤ n.size := by
  induction n with
  | empty => exact Nat.le_refl _
  | one s => exact Nat.le_refl _
  | assert a => exact Nat.le_refl _
  | group i n ih =>
    rw [program, size, List.cons_append, List.length_cons, List.length_append, List.length_singleton]
    omega
  | seq n m ihn ihm =>
    rw [program, size, List.length_append]
    omega
  | alt n m ihn ihm =>
    rw [program, size, List.cons_append, List.length_cons, List.length_append, List.length_cons]
    omega
  | many n min max greedy ih =>
    rw [program, size]
    exact Nat.le_trans (Program.length_many_le ..) (Nat.mul_le_mul_left _ (Nat.add_le_add_right ih 2))

def maxSize : Nat :=
  327680

end BulletinPipeline.Regex
