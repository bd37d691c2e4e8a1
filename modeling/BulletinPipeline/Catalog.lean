import BulletinPipeline.Component.Archive
import BulletinPipeline.Component.Condition
import BulletinPipeline.Component.TextEdit
import BulletinPipeline.Extraction
import BulletinPipeline.Factory.Object
import BulletinPipeline.Factory.Registry

namespace BulletinPipeline

abbrev ComponentFactory := Factory Id

structure Catalog where
  transformers : Registry Id TextEdit
  predicates   : Registry Id Condition
  actions      : Registry Id Archive

namespace Catalog

def construct {α : Type} (params : List ValueType)
    (take : StateT Arguments (Except ConversionError) (Except Cause α)) : Constructor Id α where
  params   := params
  isPublic := true
  invoke args :=
    match take.run args with
    | .ok (.ok a, _)    => pure a
    | .ok (.error c, _) => throw c
    | .error e          => throw (.conversion e)

def setter {α β : Type} (name : String) (param : ValueType)
    (extract : Value → Except ConversionError β) (set : α → β → Except Cause α) : Mutator Id α where
  name     := name
  param    := param
  isPublic := true
  mutate a v :=
    match extract v with
    | .error e => throw (.conversion e)
    | .ok b    =>
      match set a b with
      | .ok a    => pure a
      | .error c => throw c

def blueprint {α : Type} (name : String) (target : ObjectClass Id α) (slots : List Slot) :
    Blueprint Id α :=
  ⟨target, some name, .standard, slots⟩

def factory {α : Type} (b : Blueprint Id α) : Except Error (ComponentFactory α) :=
  b.resolve.map (·.toFactory .empty)

def trim : Blueprint Id Bool :=
  blueprint "trim"
    { name         := "TrimTransformer"
      constructors := [construct [] (pure (.ok false))]
      mutators     :=
        [setter "setCollapseWhitespace" .bool Extraction.bool fun _ collapse => .ok collapse] }
    []

def uppercase : Blueprint Id Unit :=
  blueprint "uppercase"
    { name         := "UppercaseTransformer"
      constructors := [construct [] (pure (.ok ()))]
      mutators     := [] }
    []

structure Replacement where
  pattern     : Regex
  replacement : String
  limit       : Nat

def Replacement.setLimit (r : Replacement) (limit : Int32) : Except Cause Replacement :=
  if limit.toInt < 0 then .error (.badCount .tooSmall)
  else .ok { r with limit := limit.toInt.toNat }

def regexReplace : Blueprint Id Replacement :=
  blueprint "regex_replace"
    { name         := "RegexReplaceTransformer"
      constructors := [construct [.string, .string] do
        let pattern ← Arguments.take Extraction.string 0
        let replacement ← Arguments.take Extraction.string 1
        match Regex.ofString? pattern with
        | some r => return .ok ⟨r, replacement, 0⟩
        | none   => return .error .badPattern]
      mutators     := [setter "setLimit" .int Extraction.int Replacement.setLimit] }
    [.option "pattern" .string, .option "replacement" .string]

structure StationList where
  stations : List String
  inverted : Bool

def station : Blueprint Id StationList :=
  blueprint "station"
    { name         := "StationPredicate"
      constructors := [construct [.list .string] do
        let stations ← Arguments.take (Extraction.list Extraction.string) 0
        return .ok ⟨stations, false⟩]
      mutators     :=
        [setter "setInvert" .bool Extraction.bool fun l inverted => .ok { l with inverted }] }
    [.option "stations" (.list .string)]

def kind : Blueprint Id (List String) :=
  blueprint "kind"
    { name         := "KindPredicate"
      constructors := [construct [.list .string] do
        let kinds ← Arguments.take (Extraction.list Extraction.string) 0
        return .ok kinds]
      mutators     := [] }
    [.option "kinds" (.list .string)]

def archive (root : Path) : Blueprint Id Archive :=
  blueprint "archive"
    { name         := "ArchiveAction"
      constructors := [construct [.string, .string] do
        let root ← Arguments.take Extraction.string 0
        let directory ← Arguments.take Extraction.string 1
        return .ok (.below root directory)]
      mutators     :=
        [setter "setExtension" .string Extraction.string fun a extension => .ok { a with extension }] }
    [.ofValue (.string root), .option "directory" .string]

-- Another name of `regex_replace`; the pattern is called `regex` there.
def replaceAlias : String :=
  "replace"

def builtin (root : Path) : Except Error Catalog := do
  let replace := (← factory regexReplace).map fun r => TextEdit.replace r.pattern r.replacement r.limit
  let transformers ← Registry.ofList
    [(← factory trim).map TextEdit.trim,
     (← factory uppercase).map fun _ => TextEdit.uppercase,
     replace,
     replace.renamed (.ofAliases [("regex", "pattern")]) (some replaceAlias)]
  let predicates ← Registry.ofList
    [(← factory station).map fun l => Condition.ofStations l.stations l.inverted,
     (← factory kind).map Condition.kind]
  let actions ← Registry.ofList [← factory (archive root)]
  return ⟨transformers, predicates, actions⟩

end Catalog
end BulletinPipeline
