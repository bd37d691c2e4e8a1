import BulletinPipeline.Value.Data
import BulletinPipeline.Yaml.Reading

namespace BulletinPipeline

structure ComponentSpec where
  type      : String
  name      : Option String
  condition : Option ComponentSpec
  config    : Entries Value

def ComponentSpec.label (c : ComponentSpec) : String :=
  c.name.getD c.type

structure PipelineDocument where
  name         : String
  settings     : Entries Value
  transformers : List ComponentSpec
  actions      : List ComponentSpec

namespace Yaml.Reading

def options (depth : Nat) (n : Node Nat) : Reading (Entries Value) :=
  return Value.ofDataEntries (← entries depth n)

def component (depth : Nat) (n : Node Nat) : Reading ComponentSpec :=
  match depth with
  | 0         => failure
  | depth + 1 =>
    record (depth + 1) ["type", "name", "when", "config"] (fun _ fields => do
      let type ← required "type" text fields
      let name ← optional "name" none (option text) fields
      let condition ← optional "when" none (option (component depth)) fields
      let config ← optional "config" [] (options depth) fields
      return ⟨type, name, condition, config⟩) n

def document (n : Node Nat) : Reading PipelineDocument :=
  record maxDepth ["name", "settings", "transformers", "actions"] (fun depth fields => do
    let name ← required "name" text fields
    let settings ← optional "settings" [] (options depth) fields
    let transformers ← optional "transformers" [] (list depth component) fields
    let actions ← optional "actions" [] (list depth component) fields
    return ⟨name, settings, transformers, actions⟩) n

end Yaml.Reading

def PipelineDocument.ofString? (s : String) : Option PipelineDocument := do
  let n ← Yaml.Node.ofString? s
  (Yaml.Reading.document n).run n

end BulletinPipeline
