import BulletinPipeline.Error
import BulletinPipeline.Path

namespace BulletinPipeline

inductive Failure
  | unreadable (path : Path)
  | malformedDocument
  | settings (source : Error)
  | transformer (label : String) (source : Error)
  | action (label : String) (source : Error)
  | predicate (label stage : String) (source : Error)
  | plain (source : Error)
  | noInputDirectory (path : Path)
  | failedActions (count : Nat)

namespace Failure

def message : Failure → String
  | unreadable path         => "Failed to read " ++ path
  | malformedDocument       => "Failed to parse pipeline document"
  | settings _              => "Invalid pipeline settings"
  | transformer label _     => "Failed to build transformer '" ++ label ++ "'"
  | action label _          => "Failed to build action '" ++ label ++ "'"
  | predicate label stage _ => "Failed to build predicate '" ++ label ++ "' for '" ++ stage ++ "'"
  | plain source            => source.message
  | noInputDirectory path   => "Input directory not found: " ++ path
  | failedActions count     => toString count ++ " post actions failed"

def source? : Failure → Option Error
  | settings e | transformer _ e | action _ e | predicate _ _ e | plain e => some e
  | _                                                                     => none

def chain : Failure → List String
  | plain e => e.message :: e.causes
  | f       => f.message :: (f.source?.map fun e => e.message :: e.causes).getD []

end Failure
end BulletinPipeline
