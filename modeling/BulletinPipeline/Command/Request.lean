import BulletinPipeline.Command.Options
import BulletinPipeline.Number.Numeral
import BulletinPipeline.Path

namespace BulletinPipeline

inductive Command
  | validate
  | display
  | schemas
  | run (workers : Option Nat)
  deriving DecidableEq, Repr

structure Request where
  config  : Path
  verbose : Bool
  command : Command
  deriving DecidableEq, Repr

inductive Request.Stop
  | misuse | version | help
  deriving DecidableEq, Repr

namespace Request

def commonOptions : List CommandOption :=
  [⟨"config", 'c', true⟩, ⟨"verbose", 'v', false⟩, ⟨"help", 'h', false⟩, ⟨"version", 'V', false⟩]

def runOptions : List CommandOption :=
  [⟨"workers", 'w', true⟩, ⟨"help", 'h', false⟩]

def plainOptions : List CommandOption :=
  [⟨"help", 'h', false⟩]

def defaultConfig : Path :=
  "metforge.yaml"

def stop (name : String) : Option Stop :=
  if name = "help" then some .help
  else if name = "version" then some .version
  else none

def finish (options : List CommandOption) (words : List String) :
    Except Stop CommandOption.Values := do
  let (values, rest) ← CommandOption.read options stop .misuse [] words
  if rest = [] ∨ rest = ["--"] then return values else throw .misuse

def workers (values : CommandOption.Values) : Except Stop (Option Nat) :=
  match (values.lookup "workers").join with
  | none      => return none
  | some text =>
    match Numeral.readUnsigned (twoTo 64 - 1) text.toList with
    | .ok n    => return some n
    | .error _ => throw .misuse

def commandOf (name : String) (words : List String) : Except Stop Command := do
  match name with
  | "validate" => let _ ← finish plainOptions words; return .validate
  | "show"     => let _ ← finish plainOptions words; return .display
  | "schemas"  => let _ ← finish plainOptions words; return .schemas
  | "run"      => return .run (← workers (← finish runOptions words))
  | "help"     => if words.length ≤ 1 then throw .help else throw .misuse
  | _          => throw .misuse

def ofWords (words : List String) : Except Stop Request := do
  let (values, rest) ← CommandOption.read commonOptions stop .misuse [] words
  match rest with
  | []            => throw .misuse
  | name :: words =>
    let command ← commandOf name words
    return ⟨((values.lookup "config").join).getD defaultConfig, (values.lookup "verbose").isSome, command⟩

end Request
end BulletinPipeline
