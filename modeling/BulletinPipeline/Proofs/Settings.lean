import BulletinPipeline.Proofs.Conversion.Basic
import BulletinPipeline.Proofs.Schema.Outcome
import BulletinPipeline.Settings

namespace BulletinPipeline

theorem RetrySettings.legal : descriptor.Legal :=
  (Schema.legal_of_ofDescriptor (s := descriptor.table) rfl).1

namespace PipelineSettings

theorem legal : descriptor.Legal :=
  (Schema.legal_of_ofDescriptor (s := descriptor.table) rfl).1

theorem namesUnique : environment.NamesUnique :=
  Environment.namesUnique_of_nodup (by decide)

theorem references_eq : descriptor.references = [⟨"RetrySettings", "RetrySettings"⟩] :=
  rfl

theorem valid_retry : environment.Valid RetrySettings.descriptor := by
  refine namesUnique.valid_of_edges (.tail _ List.mem_cons_self) RetrySettings.legal fun c hc => ?_
  obtain ⟨r, hr, _⟩ := hc
  cases hr

theorem valid : environment.Valid descriptor := by
  refine namesUnique.valid_of_edges List.mem_cons_self legal fun c hc => ?_
  obtain ⟨r, hr, rfl⟩ := hc
  rw [references_eq] at hr
  cases List.mem_singleton.mp hr
  exact valid_retry

theorem properties_eq : descriptor.table.properties =
    [⟨"extension", ⟨"PipelineSettings", "extension", [], .optional .string⟩⟩,
     ⟨"inputDirectory", ⟨"PipelineSettings", "getInputDirectory", [], .string⟩⟩,
     ⟨"outputDirectory", ⟨"PipelineSettings", "getOutputDirectory", [], .string⟩⟩,
     ⟨"retry", ⟨"PipelineSettings", "getRetry", [], .optional (.schema ⟨"RetrySettings", "RetrySettings"⟩)⟩⟩,
     ⟨"workers", ⟨"PipelineSettings", "workers", [], .optionalInt⟩⟩] :=
  rfl

-- What is not declared is left empty.
def ofDirectories (input output : String) : Config where
  schema     := "PipelineSettings"
  properties :=
    [("extension", .absent), ("inputDirectory", .string input), ("outputDirectory", .string output),
     ("retry", .absent), ("workers", .optionalInt none)]

theorem materialize_directories (input output : String) :
    materialize [("inputDirectory", .string input), ("outputDirectory", .string output)]
      = .ok (ofDirectories input output) := by
  have ht := Materializer.materialize_fst_eq_assemble namesUnique Memory.keeps_fresh valid List.mem_cons_self
    .standard [("inputDirectory", .string input), ("outputDirectory", .string output)]
  have hc (p : Property) (s : String) : p.Converts (.string s) := by simp [Property.Converts]
  have hi := Conversion.convert_string environment input
  have ho := Conversion.convert_string environment output
  refine ht.trans ((Schema.assemble_eq_ok_iff descriptor.ascending_optionNames).mpr ⟨?known, rfl, rfl, ?yields⟩)
  case known =>
    simp [Entries.keys, Schema.optionNames, properties_eq]
  case yields =>
    rw [properties_eq]
    simp only [List.forall_mem_cons]
    exact ⟨⟨_, rfl, .absent rfl rfl⟩, ⟨_, rfl, .converted rfl (hc _ _) hi⟩, ⟨_, rfl, .converted rfl (hc _ _) ho⟩,
      ⟨_, rfl, .absent rfl rfl⟩, ⟨_, rfl, .absent rfl rfl⟩, List.forall_mem_nil _⟩

theorem ofConfig_ofDirectories (input output : String) :
    ofConfig (ofDirectories input output) = .ok ⟨input, output, none, none, none⟩ :=
  rfl

end PipelineSettings
end BulletinPipeline
