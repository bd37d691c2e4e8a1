import BulletinPipeline.Conversion.Converter

namespace BulletinPipeline.Materializer

def validate (env : Environment) (d : Descriptor) : Materializing Schema := fun m =>
  match BulletinPipeline.validate env d [] m with
  | (.ok s, m)    => (.ok s, m)
  | (.error e, m) => (.error (.schema e), m)

def isValid (env : Environment) (d : Descriptor) : StateM Memory Bool := fun m =>
  let (r, m) := validate env d m
  (r.isOk, m)

def materialize (env : Environment) (converter : Converter) (d : Descriptor) (raw : Entries Value) :
    Materializing Config := do
  let s ← validate env d
  s.build env (fun _ => True) (fun v _ accessor => converter.toResult env v accessor) raw
    (fun _ _ => trivial) []

end BulletinPipeline.Materializer
