import BulletinPipeline.Storage.Basic

-- A tree of files as a value. Paths are followed from directory to directory as they are written, so that a path
-- through something that is no directory leads nowhere.
namespace BulletinPipeline

abbrev Location := List String

inductive FileTree.Entry
  | directory
  | file (text : String)
  deriving DecidableEq, Repr

structure FileTree where
  entries : List (Location × FileTree.Entry)
  home    : Location

namespace FileTree

def entry? (t : FileTree) (l : Location) : Option Entry :=
  if l = [] then some .directory else t.entries.lookup l

def put (t : FileTree) (l : Location) (e : Entry) : FileTree :=
  { t with entries := (l, e) :: t.entries.filter (·.1 ≠ l) }

-- The beginnings of a list, the list itself last and the empty one left out.
def beginnings {α : Type} : List α → List (List α)
  | []      => []
  | a :: as => [a] :: (beginnings as).map (a :: ·)

def empty (home : Location) : FileTree :=
  ⟨(beginnings home).map (·, .directory), home⟩

-- The parts of a path; a slash at the end asks for a directory, as a dot would.
def steps (p : Path) : List String :=
  if p.toList.getLast? = some '/' then p.parts ++ ["."] else p.parts

def walk (t : FileTree) (l : Location) : List String → Option Location
  | [] => some l
  | s :: ss =>
    if t.entry? l = some .directory then
      t.walk (if s = "." then l else if s = ".." then l.dropLast else l ++ [s]) ss
    else none

def locate (t : FileTree) (p : Path) : Option Location :=
  if p.isEmpty then none else t.walk (if p.isAbsolute then [] else t.home) (steps p)

def isDirectory (t : FileTree) (p : Path) : Bool :=
  (t.locate p).any fun l => t.entry? l = some .directory

def readText? (t : FileTree) (p : Path) : Option String :=
  match (t.locate p).bind t.entry? with
  | some (.file s) => some s
  | _              => none

def isName (s : String) : Bool :=
  s.utf8ByteSize ≤ 255 && !s.toList.contains '\x00'

def place? (t : FileTree) (p : Path) : Option Location :=
  match (t.locate p), (steps p).getLast? with
  | some l, some s => if s = "." ∨ s = ".." ∨ ¬ isName s then none else some l
  | _,      _      => none

def append (t : FileTree) (p : Path) (text : String) : Option FileTree := do
  let l ← t.place? p
  match t.entry? l with
  | some (.file s)  => some (t.put l (.file (s ++ text)))
  | some .directory => none
  | none            => some (t.put l (.file text))

def createDirectory (t : FileTree) (p : Path) : Option FileTree :=
  if t.isDirectory p then some t
  else do
    let l ← t.place? p
    if (t.entry? l).isNone then some (t.put l .directory) else none

def ancestors (p : Path) : List Path :=
  let root := if p.isAbsolute then "/" else ""
  (beginnings p.parts).map fun ps => root ++ String.intercalate "/" ps

-- Makes a directory and those on the way to it; also the tree so far if that fails.
def createDirectories (t : FileTree) (p : Path) : Bool × FileTree :=
  if p.toList.contains '\x00' then (false, t)
  else (ancestors p).foldl
    (fun (ok, t) q =>
      if ok then
        match t.createDirectory q with
        | some t => (true, t)
        | none   => (false, t)
      else (ok, t))
    (true, t)

def isBefore : Location → Location → Bool
  | [],      _       => true
  | _,       []      => false
  | a :: as, b :: bs => a < b || (a = b && isBefore as bs)

def filesBelow (t : FileTree) (p : Path) : List Path :=
  match t.locate p with
  | none => []
  | some l =>
    let below := t.entries.filterMap fun (k, e) =>
      match e with
      | .file _    => if l.isPrefixOf k then some (k.drop l.length) else none
      | .directory => none
    (below.mergeSort isBefore).map fun names => names.foldl Path.join p

def contents (t : FileTree) : List (Path × String) :=
  t.entries.filterMap fun (k, e) =>
    match e with
    | .file s    =>
      if t.home.isPrefixOf k then some (String.intercalate "/" (k.drop t.home.length), s) else none
    | .directory => none

instance : Storage (StateM FileTree) where
  readText? p         := fun t => (t.readText? p, t)
  isDirectory p       := fun t => (t.isDirectory p, t)
  filesBelow p        := fun t => (t.filesBelow p, t)
  createDirectories p := fun t => t.createDirectories p
  append p text       := fun t =>
    match t.append p text with
    | some t => (true, t)
    | none   => (false, t)
  pause _             := pure ()

end FileTree
end BulletinPipeline
