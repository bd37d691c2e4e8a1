import BulletinPipeline.Entries
import BulletinPipeline.Number.Double

namespace BulletinPipeline

inductive Data
  | null
  | bool (b : Bool)
  | integer (n : Int)
  | float (d : Double)
  | text (s : String)
  | list (items : List Data)
  | map (entries : List (String × Data))
  deriving Repr, Inhabited

end BulletinPipeline
