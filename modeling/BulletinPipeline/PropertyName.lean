import BulletinPipeline.Text.Case
import BulletinPipeline.Text.CharClass

namespace BulletinPipeline

open Text

inductive Verb
  | get | is | set
  deriving DecidableEq, Repr

namespace PropertyName

def capitalize : List Char → List Char
  | []      => []
  | c :: cs => upperChars c ++ cs

-- With a small letter in front, unless the second letter is a capital too: acronyms stay.
def decapitalize : List Char → List Char
  | []           => []
  | [c]          => lowerChars c
  | c :: d :: cs => if isCapital d then c :: d :: cs else lowerChars c ++ d :: cs

def after? (word name : List Char) : Option (List Char) :=
  match name.drop word.length with
  | c :: cs => if word.isPrefixOf name && isCapital c then some (c :: cs) else none
  | []      => none

end PropertyName

namespace Verb

open PropertyName

def word : Verb → List Char
  | get => ['g', 'e', 't']
  | is  => ['i', 's']
  | set => ['s', 'e', 't']

def all : List Verb :=
  [get, is, set]

def leads (v : Verb) (name : String) : Bool :=
  (after? v.word name.toList).isSome

def strip? (v : Verb) (name : String) : Option String :=
  (after? v.word name.toList).map fun cs => String.ofList (decapitalize cs)

def strip (v : Verb) (name : String) : String :=
  (v.strip? name).getD name

def attach (v : Verb) (property : String) : String :=
  String.ofList (v.word ++ capitalize property.toList)

end Verb

def propertyName (name : String) : String :=
  (Verb.all.findSome? (·.strip? name)).getD name

end BulletinPipeline
