import BulletinPipeline.Factory.Basic
import BulletinPipeline.Schema.Materializer

namespace BulletinPipeline

def Factory.ofDescriptor (env : Environment) (converter : Converter) (d : Descriptor) :
    Materializing (Factory (StateM Memory) Config) := do
  let s ← Materializer.validate env d
  return {
    name        := d.name
    optionNames := s.optionNames
    create      := Materializer.materialize env converter d }

end BulletinPipeline
