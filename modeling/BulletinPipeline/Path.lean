namespace BulletinPipeline

abbrev Path := String

namespace Path

def isAbsolute (p : Path) : Bool :=
  p.toList.head? = some '/'

def join (p q : Path) : Path :=
  if isAbsolute q then q
  else if p.isEmpty ∨ p.toList.getLast? = some '/' then p ++ q
  else p ++ "/" ++ q

def splitSlashes : List Char → List (List Char)
  | []      => [[]]
  | c :: cs =>
    if c = '/' then [] :: splitSlashes cs
    else match splitSlashes cs with
      | []      => [[c]]
      | w :: ws => (c :: w) :: ws

def parts (p : Path) : List String :=
  (splitSlashes p.toList).filterMap fun w => if w.isEmpty then none else some (String.ofList w)

-- The last part, unless it only points to the directory itself or the one above.
def fileName? (p : Path) : Option String :=
  match p.parts.reverse.dropWhile (· = ".") with
  | []      => none
  | n :: _  => if n = ".." then none else some n

-- What follows the last dot of a name, if anything stands before the dot.
def extensionOf? (name : String) : Option String :=
  let behind := name.toList.reverse.takeWhile (· ≠ '.')
  match name.toList.reverse.dropWhile (· ≠ '.') with
  | _ :: _ :: _ => if name = ".." then none else some (String.ofList behind.reverse)
  | _           => none

-- The directory that a path lies in: without its last part, and without slashes and dots that point nowhere before
-- that.
def parent (p : Path) : Path :=
  String.ofList (strip ((strip p.toList.reverse).dropWhile (· ≠ '/'))).reverse
where
  strip : List Char → List Char
    | '/' :: '.' :: '/' :: cs => strip ('/' :: cs)
    | '/' :: cs               => if cs.isEmpty then ['/'] else strip cs
    | '.' :: '/' :: cs        => if cs.isEmpty then ['/'] else strip cs
    | cs                      => cs
  termination_by cs => cs.length

end Path
end BulletinPipeline
