-- Options on a command line. An option has a name behind two dashes and a letter behind one; letters may share a
-- dash. Its value follows an equals sign, or a letter directly, or is the next word.
namespace BulletinPipeline

structure CommandOption where
  name       : String
  letter     : Char
  takesValue : Bool
  deriving DecidableEq, Repr

namespace CommandOption

-- What a word gives. The option of a value that is still to come is given last.
inductive Given
  | flag (option : CommandOption)
  | value (option : CommandOption) (text : String)
  | pending (option : CommandOption)
  | unknown

def ofLetters (options : List CommandOption) : List Char → List Given
  | []      => []
  | c :: cs =>
    match options.find? (·.letter = c) with
    | none   => [.unknown]
    | some o =>
      if ¬ o.takesValue then .flag o :: ofLetters options cs
      else match cs with
        | []        => [.pending o]
        | '=' :: cs => [.value o (String.ofList cs)]
        | cs        => [.value o (String.ofList cs)]

def ofName (options : List CommandOption) (cs : List Char) : Given :=
  let name := String.ofList (cs.takeWhile (· ≠ '='))
  match options.find? (·.name = name), cs.dropWhile (· ≠ '=') with
  | none,   _       => .unknown
  | some o, []      => if o.takesValue then .pending o else .flag o
  | some o, _ :: cs => if o.takesValue then .value o (String.ofList cs) else .unknown

def ofWord? (options : List CommandOption) (word : String) : Option (List Given) :=
  match word.toList with
  | '-' :: '-' :: cs => if cs.isEmpty then none else some [ofName options cs]
  | '-' :: cs        => if cs.isEmpty then none else some (ofLetters options cs)
  | _                => none

def isValue (word : String) : Bool :=
  word.toList.head? ≠ some '-' || word = "-"

abbrev Values := List (String × Option String)

-- Takes up options in order. Each may be given once; `stop` says which of them end the reading.
def collect {ε : Type} (stop : String → Option ε) (misuse : ε) (values : Values) :
    List Given → Except ε (Values × Option CommandOption)
  | []                 => .ok (values, none)
  | .unknown :: _      => .error misuse
  | .pending o :: _    =>
    if (values.lookup o.name).isSome then .error misuse else .ok (values, some o)
  | .flag o :: gs      =>
    match stop o.name with
    | some e => .error e
    | none   =>
      if (values.lookup o.name).isSome then .error misuse
      else collect stop misuse ((o.name, none) :: values) gs
  | .value o text :: gs =>
    if (values.lookup o.name).isSome then .error misuse
    else collect stop misuse ((o.name, some text) :: values) gs

def read {ε : Type} (options : List CommandOption) (stop : String → Option ε) (misuse : ε)
    (values : Values) : List String → Except ε (Values × List String)
  | []            => .ok (values, [])
  | word :: words =>
    match ofWord? options word with
    | none    => .ok (values, word :: words)
    | some gs => do
      match ← collect stop misuse values gs, words with
      | (values, none),   words         => read options stop misuse values words
      | (values, some o), value :: words =>
        if isValue value then read options stop misuse ((o.name, some value) :: values) words
        else .error misuse
      | (_,      some _), []            => .error misuse

end CommandOption
end BulletinPipeline
