import BulletinPipeline.Bulletin.Basic
import BulletinPipeline.Storage.Basic

namespace BulletinPipeline

inductive ActionError
  | storage
  | failed (action message : String)
  deriving DecidableEq, Repr

def ActionError.message : ActionError → String
  | storage               => "IO error"
  | failed action message => "action '" ++ action ++ "' failed: " ++ message

structure Archive where
  directory : Path
  extension : String
  deriving DecidableEq, Repr

namespace Archive

def below (root : Path) (directory : String) : Archive :=
  ⟨Path.join root directory, "txt"⟩

def pathFor (a : Archive) (b : Bulletin) : Path :=
  Path.join a.directory (b.kind ++ "_" ++ b.station ++ "." ++ a.extension)

def line (b : Bulletin) : String :=
  b.text ++ "\n"

variable {m : Type → Type} [Monad m] [Storage m]

def apply (a : Archive) (b : Bulletin) : m (Except ActionError Unit) := do
  if ← Storage.createDirectories a.directory then
    if ← Storage.append (a.pathFor b) (line b) then return .ok ()
  return .error .storage

end Archive
end BulletinPipeline
