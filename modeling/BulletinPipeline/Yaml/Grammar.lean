import BulletinPipeline.Yaml.Node
import BulletinPipeline.Yaml.Outline

namespace BulletinPipeline.Yaml

abbrev Handles := List (String × String)

def Handles.standard : Handles :=
  [("!", "!"), ("!!", "tag:yaml.org,2002:")]

def Handles.tag? (handles : Handles) (handle suffix : String) : Option String :=
  if handle.isEmpty then some suffix else (handles.lookup handle).map (· ++ suffix)

inductive Context
  | flow
  | block
  -- In a pair of a block, where the items of a sequence need no indentation of their own.
  | pair
  deriving DecidableEq

namespace Node

-- What is said of a scalar: a lone exclamation mark says nothing.
def scalarProperties (p : Properties String) : Properties String :=
  if p.tag = some "!" then { p with tag := none } else p

mutual

def ofTokens (handles : Handles) (context : Context) (p : Properties String) (ts : List Token) :
    Option (Node String × List Token) :=
  let leftOut := if p.isNone then none else some (empty p, ts)
  match _h : ts with
  | .alias name :: rest => if p.isNone then some (.alias name, rest) else leftOut
  | .anchor name :: rest =>
    if p.anchor.isNone then ofTokens handles context { p with anchor := some name } rest else leftOut
  | .tag handle suffix :: rest =>
    if p.tag.isNone then
      match handles.tag? handle suffix with
      | some tag => ofTokens handles context { p with tag := some tag } rest
      | none     => none
    else leftOut
  | .scalar isPlain text :: rest => some (.scalar (scalarProperties p) isPlain text, rest)
  | .flowSequence :: rest => (flowItems handles rest).map fun (ns, r) => (.sequence p ns, r)
  | .flowMapping :: rest  => (flowPairs handles rest).map fun (ps, r) => (.mapping p ps, r)
  | .blockSequence :: rest =>
    if context = .flow then leftOut
    else (blockItems handles rest).map fun (ns, r) => (.sequence p ns, r)
  | .blockMapping :: rest =>
    if context = .flow then leftOut
    else (blockPairs handles rest).map fun (ps, r) => (.mapping p ps, r)
  | .item :: rest =>
    if context = .pair then (looseItems handles rest).map fun (ns, r) => (.sequence p ns, r)
    else leftOut
  | _ => leftOut
termination_by (ts.length, 1)

def ofTokensUnless (stops : List Token) (handles : Handles) (context : Context) (ts : List Token) :
    Option (Node String × List Token) :=
  if ts.head?.any stops.contains then some (empty .none, ts)
  else ofTokens handles context .none ts
termination_by (ts.length, 2)

def blockItems (handles : Handles) : List Token → Option (List (Node String) × List Token)
  | .blockEnd :: ts => some ([], ts)
  | .item :: ts => do
    let (n, rest) ← ofTokensUnless [.item, .blockEnd] handles .block ts
    if _h : rest.length ≤ ts.length then
      let (ns, rest) ← blockItems handles rest
      return (n :: ns, rest)
    else none
  | _ => none
termination_by ts => (ts.length, 0)

-- The items of a sequence without indentation, behind the first mark and up to what has none.
def looseItems (handles : Handles) (ts : List Token) : Option (List (Node String) × List Token) := do
  let (n, rest) ← ofTokensUnless [.item, .key, .value, .blockEnd] handles .block ts
  match _h : rest with
  | .item :: more =>
    if _h' : rest.length ≤ ts.length then
      let (ns, rest) ← looseItems handles more
      return (n :: ns, rest)
    else none
  | rest => return ([n], rest)
termination_by (ts.length, 3)

def blockPairs (handles : Handles) :
    List Token → Option (List (Node String × Node String) × List Token)
  | .blockEnd :: ts => some ([], ts)
  | .key :: ts => do
    let (k, rest) ← ofTokensUnless [.key, .value, .blockEnd] handles .pair ts
    if _h : rest.length ≤ ts.length then
      let (v, rest) ← valueOf [.key, .value, .blockEnd] handles .pair rest
      if _h : rest.length ≤ ts.length then
        let (ps, rest) ← blockPairs handles rest
        return ((k, v) :: ps, rest)
      else none
    else none
  | _ => none
termination_by ts => (ts.length, 0)

def valueOf (stops : List Token) (handles : Handles) (context : Context) :
    List Token → Option (Node String × List Token)
  | .value :: ts => ofTokensUnless stops handles context ts
  | ts           => some (empty .none, ts)
termination_by ts => (ts.length, 0)

def flowItems (handles : Handles) (ts : List Token) : Option (List (Node String) × List Token) :=
  match ts with
  | .flowSequenceEnd :: rest => some ([], rest)
  | .key :: rest => do
    let (n, rest') ← flowPair handles rest
    if _h : rest'.length ≤ rest.length then moreItems handles n rest' else none
  | ts => do
    let (n, rest) ← ofTokens handles .flow .none ts
    if _h : rest.length < ts.length then moreItems handles n rest else none
termination_by (ts.length, 4)

def moreItems (handles : Handles) (n : Node String) :
    List Token → Option (List (Node String) × List Token)
  | .comma :: ts           => (flowItems handles ts).map fun (ns, r) => (n :: ns, r)
  | .flowSequenceEnd :: ts => some ([n], ts)
  | _                      => none
termination_by ts => (ts.length, 3)

-- A pair as an item between brackets. Where the key is left out, the token in its place is skipped.
def flowPair (handles : Handles) (ts : List Token) : Option (Node String × List Token) := do
  let (k, rest) ←
    if ts.head?.any [Token.value, .comma, .flowSequenceEnd].contains then some (empty .none, ts.tail)
    else ofTokens handles .flow .none ts
  if _h : rest.length < ts.length then
    let (v, rest) ← valueOf [.comma, .flowSequenceEnd] handles .flow rest
    return (.mapping .none [(k, v)], rest)
  else none
termination_by (ts.length, 2)

def flowPairs (handles : Handles) (ts : List Token) :
    Option (List (Node String × Node String) × List Token) :=
  match ts with
  | .flowMappingEnd :: rest => some ([], rest)
  | .key :: rest => do
    let (k, after) ← ofTokensUnless [.value, .comma, .flowMappingEnd] handles .flow rest
    if _h : after.length ≤ rest.length then
      let (v, after) ← valueOf [.comma, .flowMappingEnd] handles .flow after
      if _h : after.length ≤ rest.length then morePairs handles (k, v) after else none
    else none
  | ts => do
    let (k, rest) ← ofTokens handles .flow .none ts
    if _h : rest.length < ts.length then morePairs handles (k, empty .none) rest else none
termination_by (ts.length, 4)

def morePairs (handles : Handles) (p : Node String × Node String) :
    List Token → Option (List (Node String × Node String) × List Token)
  | .comma :: ts          => (flowPairs handles ts).map fun (ps, r) => (p :: ps, r)
  | .flowMappingEnd :: ts => some ([p], ts)
  | _                     => none
termination_by ts => (ts.length, 3)

end

-- The directives in front of a document, through the mark that ends them. A version is given once, and so is every
-- short form.
def directives (versioned : Bool) (handles : Handles) : List Token → Option (Handles × List Token)
  | .version major minor :: ts =>
    if versioned = false ∧ major = 1 ∧ (minor = 1 ∨ minor = 2) then directives true handles ts else none
  | .handle name start :: ts =>
    if (handles.lookup name).isSome then none else directives versioned (handles ++ [(name, start)]) ts
  | .documentStart :: ts => some (handles, ts)
  | _                    => none

def isBetweenDocuments : List Token → Bool
  | []      => true
  | t :: _  =>
    match t with
    | .version .. | .handle .. | .documentStart | .documentEnd => true
    | _                                                        => false

def document (ts : List Token) : Option (Node String × List Token) :=
  match ts with
  | .version .. :: _ | .handle .. :: _ | .documentStart :: _ => do
    let (handles, rest) ← directives false [] ts
    if isBetweenDocuments rest then return (empty .none, rest)
    else ofTokens (handles ++ Handles.standard) .block .none rest
  | [] => some (empty .none, [])
  | ts => ofTokens Handles.standard .block .none ts

def ofString? (s : String) : Option (Node Nat) := do
  let ts ← tokens? s
  let (n, rest) ← document ts
  if rest.all (· = .documentEnd) then
    let (n, _) ← (link n).run []
    return n
  else none

end Node
end BulletinPipeline.Yaml
