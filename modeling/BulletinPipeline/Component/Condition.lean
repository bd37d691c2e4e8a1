import BulletinPipeline.Bulletin.Basic
import BulletinPipeline.Text.Case

namespace BulletinPipeline

inductive Condition
  | station (stations : List String) (inverted : Bool)
  | kind (kinds : List String)
  deriving DecidableEq, Repr

namespace Condition

def ofStations (stations : List String) (inverted : Bool) : Condition :=
  station (stations.map Text.upper) inverted

def holds : Condition → Bulletin → Bool
  | station stations inverted, b => stations.contains b.station != inverted
  | kind kinds, b                => kinds.any fun k => Text.asciiLower k = Text.asciiLower b.kind

end Condition
end BulletinPipeline
