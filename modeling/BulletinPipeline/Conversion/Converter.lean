import BulletinPipeline.Conversion.Basic

namespace BulletinPipeline

structure Converter where
  toResult    : Environment → Value → Signature → Except ConversionError Value
  toParameter : Environment → Value → Signature → Nat → Except ConversionError Value

namespace Converter

def standard : Converter where
  toResult env v s := Conversion.convert env v s.returns
  toParameter env v s i :=
    match s.params[i]? with
    | some t => Conversion.convert env v t
    | none   => .error (.noSuchParameter s i)

end Converter
end BulletinPipeline
