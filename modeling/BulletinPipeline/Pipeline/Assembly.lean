import BulletinPipeline.Catalog
import BulletinPipeline.Document
import BulletinPipeline.Pipeline.Basic
import BulletinPipeline.Pipeline.Failure

namespace BulletinPipeline.Pipeline

def blame {α : Type} (f : Error → Failure) (r : Except Error α) : Except Failure α :=
  r.mapError f

def condition? (predicates : Registry Id Condition) (c : ComponentSpec) :
    Except Failure (Option Condition) :=
  match c.condition with
  | none   => return none
  | some p => some <$> blame (.predicate p.label c.label) (predicates.create p.type p.config).run

def stage {α : Type} (registry : Registry Id α) (predicates : Registry Id Condition)
    (f : String → Error → Failure) (c : ComponentSpec) : Except Failure (Stage α) := do
  let component ← blame (f c.label) (registry.create c.type c.config).run
  let condition ← condition? predicates c
  return ⟨c.label, component, condition⟩

def assemble (d : PipelineDocument) (base : Path) : Except Failure Pipeline := do
  let config ← blame .settings (PipelineSettings.materialize d.settings)
  let settings ← blame .plain (PipelineSettings.ofConfig config)
  let catalog ← blame .plain (Catalog.builtin (base.join settings.outputDirectory))
  let transformers ← d.transformers.mapM (stage catalog.transformers catalog.predicates .transformer)
  let actions ← d.actions.mapM (stage catalog.actions catalog.predicates .action)
  return ⟨d.name, config, settings, base.join settings.inputDirectory, transformers, actions⟩

end BulletinPipeline.Pipeline
