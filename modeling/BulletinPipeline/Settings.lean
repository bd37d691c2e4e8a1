import BulletinPipeline.Extraction
import BulletinPipeline.Schema.Materializer

namespace BulletinPipeline

structure RetrySettings where
  maxAttempts : Int32
  delayMillis : Option Int64
  deriving DecidableEq, Repr

namespace RetrySettings

def descriptor : Descriptor :=
  .schema "RetrySettings" [("getMaxAttempts", .int), ("delayMillis", .optionalLong)]

def ofConfig (c : Config) : Except Error RetrySettings := do
  let maxAttempts ← c.get "maxAttempts" Extraction.int
  let delayMillis ← c.get "delayMillis" (Extraction.option Extraction.long)
  return ⟨maxAttempts, delayMillis⟩

def attempts (r : RetrySettings) : Nat :=
  max 1 r.maxAttempts.toInt.toNat

def delay (r : RetrySettings) : Nat :=
  (r.delayMillis.getD 0).toInt.toNat

end RetrySettings

structure PipelineSettings where
  inputDirectory  : String
  outputDirectory : String
  workers         : Option Int32
  extension       : Option String
  retry           : Option RetrySettings
  deriving DecidableEq, Repr

namespace PipelineSettings

def descriptor : Descriptor :=
  .schema "PipelineSettings"
    [("getInputDirectory", .string),
     ("getOutputDirectory", .string),
     ("workers", .optionalInt),
     ("extension", .optional .string),
     ("getRetry", .optional (.schema ⟨"RetrySettings", "RetrySettings"⟩))]

def environment : Environment :=
  ⟨[(descriptor.name, descriptor), (RetrySettings.descriptor.name, RetrySettings.descriptor)]⟩

def ofConfig (c : Config) : Except Error PipelineSettings := do
  let retry ← c.get "retry" (Extraction.option Extraction.config)
  let inputDirectory ← c.get "inputDirectory" Extraction.string
  let outputDirectory ← c.get "outputDirectory" Extraction.string
  let workers ← c.get "workers" (Extraction.option Extraction.int)
  let extension ← c.get "extension" (Extraction.option Extraction.string)
  let retry ← match retry with
    | some r => some <$> RetrySettings.ofConfig r
    | none   => pure none
  return ⟨inputDirectory, outputDirectory, workers, extension, retry⟩

def materialize (raw : Entries Value) : Except Error Config :=
  ((Materializer.materialize environment .standard descriptor raw).run .fresh).1

def workerCount (s : PipelineSettings) : Nat :=
  match s.workers with
  | some n => if 0 < n.toInt then n.toInt.toNat else 4
  | none   => 4

def inputExtension (s : PipelineSettings) : String :=
  s.extension.getD "txt"

end PipelineSettings
end BulletinPipeline
