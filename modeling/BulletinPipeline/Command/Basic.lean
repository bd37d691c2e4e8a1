import BulletinPipeline.Command.Request
import BulletinPipeline.Digest
import BulletinPipeline.Pipeline.Run
import BulletinPipeline.Value.Data
import BulletinPipeline.Yaml.Write

namespace BulletinPipeline

structure Reply where
  notes   : List String
  output  : String
  failure : Option Failure

structure Outcome where
  code   : Nat
  notes  : List String
  output : String
  error  : Option String
  deriving DecidableEq, Repr

namespace Command

def listing (names : List String) : String :=
  String.intercalate ", " names

def sectionText {α : Type} (title : String) (r : Registry Id α) : String :=
  title ++ ":\n" ++ String.join (r.factories.map fun e =>
    "  " ++ e.1 ++ " [" ++ listing e.2.optionNames ++ "]\n")

def schemasText : Except Error String := do
  let catalog ← Catalog.builtin "."
  let settings ← ((Materializer.validate PipelineSettings.environment PipelineSettings.descriptor).run
    .fresh).1
  return "settings (" ++ settings.name ++ "):\n  " ++ listing settings.optionNames ++ "\n"
    ++ sectionText "transformers" catalog.transformers ++ sectionText "predicates" catalog.predicates
    ++ sectionText "actions" catalog.actions

def settingsText (c : Config) : String :=
  "# " ++ c.schema ++ "\n" ++ Yaml.write c.toData ++ "# fingerprint: " ++ c.fingerprint ++ "\n"

def stageNotes (p : Pipeline) : List String :=
  ["✓ Pipeline: " ++ p.name, "✓ Input: " ++ p.inputDirectory]
    ++ p.transformers.map (fun s => "✓ Transformer: " ++ s.name)
    ++ p.actions.map (fun s => "✓ Action: " ++ s.name)

def totalsText (t : Totals) : String :=
  "Processed " ++ toString t.bulletins ++ " bulletins from " ++ toString t.files ++ " files: "
    ++ toString t.applied ++ " actions applied, " ++ toString t.failed ++ " failed\n"

def workers (asked : Option Nat) (p : Pipeline) : Nat :=
  (asked.filter (0 < ·)).getD p.settings.workerCount

def runNote (p : Pipeline) (files workers : Nat) : String :=
  "Pipeline '" ++ p.name ++ "': " ++ toString files ++ " input files, " ++ toString workers ++ " workers"

variable {m : Type → Type} [Monad m] [Storage m]

def runPipeline (asked : Option Nat) (notes : List String) (p : Pipeline) : m Reply := do
  match ← p.inputFiles.run with
  | .error f   => return ⟨notes, "", some f⟩
  | .ok paths =>
    let notes := notes ++ [runNote p paths.length (workers asked p)]
    match ← p.runFiles paths with
    | .error f => return ⟨notes, "", some f⟩
    | .ok t    => return ⟨notes, totalsText t, if 0 < t.failed then some (.failedActions t.failed) else none⟩

def execute (path : Path) : Command → m Reply
  | validate => do
    let notes := ["Validating pipeline: " ++ path]
    match ← (Pipeline.ofFile path).run with
    | .error f => return ⟨notes, "", some f⟩
    | .ok p    => return ⟨notes ++ stageNotes p, "Pipeline '" ++ p.name ++ "' is valid\n", none⟩
  | display => do
    match ← (Pipeline.ofFile path).run with
    | .error f => return ⟨[], "", some f⟩
    | .ok p    => return ⟨[], settingsText p.config, none⟩
  | schemas =>
    match schemasText with
    | .error e => return ⟨[], "", some (.plain e)⟩
    | .ok text => return ⟨[], text, none⟩
  | run asked => do
    let notes := ["Loading pipeline from " ++ path]
    match ← (Pipeline.ofFile path).run with
    | .error f => return ⟨notes, "", some f⟩
    | .ok p    => runPipeline asked notes p

end Command

namespace Outcome

def version : String :=
  "metforge 0.1.0\n"

def usage : String :=
  "Usage: metforge [--config <CONFIG>] [--verbose] <validate|show|schemas|run [--workers <WORKERS>]>\n"

def ofReply (r : Reply) : Outcome :=
  ⟨if r.failure.isSome then 1 else 0, r.notes, r.output, r.failure.map (·.message)⟩

def ofWords {m : Type → Type} [Monad m] [Storage m] (words : List String) : m Outcome :=
  match Request.ofWords words with
  | .error .misuse  => return ⟨2, [], "", none⟩
  | .error .version => return ⟨0, [], version, none⟩
  | .error .help    => return ⟨0, [], usage, none⟩
  | .ok r           => ofReply <$> r.command.execute r.config

end Outcome
end BulletinPipeline
