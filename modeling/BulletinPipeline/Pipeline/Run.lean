import BulletinPipeline.Bulletin.Reader
import BulletinPipeline.Pipeline.Assembly

namespace BulletinPipeline

structure Totals where
  files     : Nat
  bulletins : Nat
  applied   : Nat
  failed    : Nat
  deriving DecidableEq, Repr

namespace Totals

def none : Totals :=
  ⟨0, 0, 0, 0⟩

def add (a b : Totals) : Totals :=
  ⟨a.files + b.files, a.bulletins + b.bulletins, a.applied + b.applied, a.failed + b.failed⟩

def count (t : Totals) (d : Delivery) : Totals :=
  { t with bulletins := t.bulletins + 1, applied := t.applied + d.applied, failed := t.failed + d.failed }

end Totals

namespace Pipeline

variable {m : Type → Type} [Monad m] [Storage m]

def load (path : Path) : ExceptT Failure m (PipelineDocument × Path) := do
  match ← Storage.readText? (m := m) path with
  | none      => throw (.unreadable path)
  | some text =>
    match PipelineDocument.ofString? text with
    | none   => throw .malformedDocument
    | some d => return (d, if path.parent.isEmpty then "." else path.parent)

def ofFile (path : Path) : ExceptT Failure m Pipeline := do
  let (d, base) ← load path
  match assemble d base with
  | .ok p    => return p
  | .error f => throw f

def reads (p : Pipeline) (path : Path) : Bool :=
  path.fileName?.bind Path.extensionOf? = some p.settings.inputExtension

def inputFiles (p : Pipeline) : ExceptT Failure m (List Path) := do
  if ← Storage.isDirectory (m := m) p.inputDirectory then
    return (← Storage.filesBelow (m := m) p.inputDirectory).filter p.reads
  else
    throw (.noInputDirectory p.inputDirectory)

def runText (p : Pipeline) (text source : String) : m Totals :=
  (Bulletin.readAll text source).foldlM (fun t b => t.count <$> p.deliver (p.transform b)) ⟨1, 0, 0, 0⟩

def runFile (p : Pipeline) (path : Path) : m (Except Failure Totals) := do
  match ← Storage.readText? path with
  | none      => return .error (.unreadable path)
  | some text => .ok <$> p.runText text (path.fileName?.getD "")

-- All files one after the other. A file that cannot be read does not keep the others from their turn; the first such
-- file is reported.
def runFiles (p : Pipeline) : List Path → m (Except Failure Totals)
  | []            => return .ok .none
  | path :: paths => do
    let first ← p.runFile path
    let others ← p.runFiles paths
    return do return (← first).add (← others)

end Pipeline
end BulletinPipeline
