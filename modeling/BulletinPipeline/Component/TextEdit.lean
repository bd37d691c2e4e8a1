import BulletinPipeline.Bulletin.Basic
import BulletinPipeline.Regex.Basic
import BulletinPipeline.Text.Blank

namespace BulletinPipeline

inductive TextEdit
  | trim (collapse : Bool)
  | uppercase
  | replace (pattern : Regex) (replacement : String) (limit : Nat)

namespace TextEdit

def apply : TextEdit → String → String
  | trim collapse, s                     => if collapse then Text.collapse s else Text.trim s
  | uppercase, s                         => Text.upper s
  | replace pattern replacement limit, s => pattern.replace limit replacement s

def transform (e : TextEdit) (b : Bulletin) : Bulletin :=
  { b with text := e.apply b.text }

end TextEdit
end BulletinPipeline
