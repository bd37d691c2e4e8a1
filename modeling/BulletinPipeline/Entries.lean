-- Finite maps from names, as lists of entries in ascending order of the names. Names are ordered by their code
-- points. `List.lookup` is the view; `insert` keeps the order.
namespace BulletinPipeline

abbrev Entries (α : Type) := List (String × α)

namespace Entries

variable {α β : Type}

def keys (es : Entries α) : List String :=
  es.map Prod.fst

def Ascending (es : Entries α) : Prop :=
  (keys es).Pairwise (· < ·)

def alter (k : String) (f : Option α → α) : Entries α → Entries α
  | [] => [(k, f none)]
  | (k', a) :: es =>
    if k < k' then (k, f none) :: (k', a) :: es
    else if k = k' then (k, f (some a)) :: es
    else (k', a) :: alter k f es

def insert (k : String) (a : α) (es : Entries α) : Entries α :=
  alter k (fun _ => a) es

def ofList (es : List (String × α)) : Entries α :=
  es.foldl (fun es e => insert e.1 e.2 es) []

-- The elements under their names, those of one name in their order.
def groupBy (name : α → String) : List α → Entries (List α)
  | []      => []
  | a :: as => alter (name a) (fun group => a :: group.getD []) (groupBy name as)

def mapValues (f : α → β) (es : Entries α) : Entries β :=
  es.map fun e => (e.1, f e.2)

end Entries

def ascendingNames (names : List String) : List String :=
  Entries.keys (Entries.groupBy id names)

end BulletinPipeline
