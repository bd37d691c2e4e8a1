namespace BulletinPipeline.Text

-- Every `step`-th code point from `first` through `last`.
structure Span where
  first : Nat
  last  : Nat
  step  : Nat

-- A run of code points, each mapped as far as `first` is mapped to `image`.
structure Shift where
  first : Nat
  last  : Nat
  step  : Nat
  image : Nat

namespace Span

def contains (s : Span) (n : Nat) : Bool :=
  s.first ≤ n && n ≤ s.last && (n - s.first) % s.step == 0

def covers (spans : List Span) (n : Nat) : Bool :=
  spans.any (·.contains n)

end Span

namespace Shift

def imageOf? (s : Shift) (n : Nat) : Option Nat :=
  if s.first ≤ n && n ≤ s.last && (n - s.first) % s.step == 0 then
    some (n - s.first + s.image)
  else
    none

def preimageOf? (s : Shift) (n : Nat) : Option Nat :=
  if s.image ≤ n && n - s.image ≤ s.last - s.first && (n - s.image) % s.step == 0 then
    some (n - s.image + s.first)
  else
    none

def lookup (shifts : List Shift) (n : Nat) : Option Nat :=
  shifts.findSome? (·.imageOf? n)

end Shift
end BulletinPipeline.Text
