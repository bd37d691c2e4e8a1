import BulletinPipeline.Data
import BulletinPipeline.Json.Token

namespace BulletinPipeline.Json

inductive Frame
  | list (items : List Data)
  | map (entries : Entries Data) (key : String)

inductive State
  -- A value, or the end of the list at the top if nothing stands in it yet.
  | value (stack : List Frame) (empty : Bool)
  -- A name, or the end of the map if nothing stands in it yet.
  | key (stack : List Frame) (entries : Entries Data) (empty : Bool)
  | colon (stack : List Frame) (entries : Entries Data) (key : String)
  | next (stack : List Frame)
  | finished (d : Data)
  | failed

def maxDepth : Nat := 127

def State.take (d : Data) : List Frame → State
  | []                    => .finished d
  | .list items :: fs     => .next (.list (d :: items) :: fs)
  | .map es k :: fs       => .next (.map (Entries.insert k d es) k :: fs)

def State.open (stack : List Frame) : Token → State
  | .openList  => if stack.length < maxDepth then .value (.list [] :: stack) true else .failed
  | .openMap   => if stack.length < maxDepth then .key stack [] true else .failed
  | .null      => .take .null stack
  | .bool b    => .take (.bool b) stack
  | .integer n => .take (.integer n) stack
  | .float d   => .take (.float d) stack
  | .text s    => .take (.text (String.ofList s)) stack
  | _          => .failed

def State.step : State → Token → State
  | .value (.list [] :: fs) true, .closeList => .take (.list []) fs
  | .value stack _,               t          => .open stack t
  | .key fs es true,              .closeMap  => .take (.map es) fs
  | .key fs es _,                 .text s    => .colon fs es (String.ofList s)
  | .colon fs es k,               .colon     => .value (.map es k :: fs) false
  | .next (.list items :: fs),    .comma     => .value (.list items :: fs) false
  | .next (.list items :: fs),    .closeList => .take (.list items.reverse) fs
  | .next (.map es _ :: fs),      .comma     => .key fs es false
  | .next (.map es _ :: fs),      .closeMap  => .take (.map es) fs
  | _,                            _          => .failed

def read? (s : String) : Option Data := do
  let ts ← tokens? s.toList
  match ts.foldl State.step (.value [] false) with
  | .finished d => some d
  | _           => none

end BulletinPipeline.Json
