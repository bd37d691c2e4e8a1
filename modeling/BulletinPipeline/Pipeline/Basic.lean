import BulletinPipeline.Component.Archive
import BulletinPipeline.Component.Condition
import BulletinPipeline.Component.TextEdit
import BulletinPipeline.Settings

namespace BulletinPipeline

structure Stage (α : Type) where
  name      : String
  component : α
  condition : Option Condition

def Stage.isActive {α : Type} (s : Stage α) (b : Bulletin) : Bool :=
  s.condition.all (·.holds b)

structure Pipeline where
  name           : String
  config         : Config
  settings       : PipelineSettings
  inputDirectory : Path
  transformers   : List (Stage TextEdit)
  actions        : List (Stage Archive)

structure Delivery where
  applied : Nat
  failed  : Nat
  deriving DecidableEq, Repr

namespace Delivery

def none : Delivery :=
  ⟨0, 0⟩

def count {ε : Type} (d : Delivery) : Except ε Unit → Delivery
  | .ok _    => { d with applied := d.applied + 1 }
  | .error _ => { d with failed := d.failed + 1 }

end Delivery

namespace Pipeline

def transform (p : Pipeline) (b : Bulletin) : Bulletin :=
  p.transformers.foldl (fun b s => if s.isActive b then s.component.transform b else b) b

def activeActions (p : Pipeline) (b : Bulletin) : List (Stage Archive) :=
  p.actions.filter (·.isActive b)

def attempts (p : Pipeline) : Nat :=
  (p.settings.retry.map (·.attempts)).getD 1

def delay (p : Pipeline) : Nat :=
  (p.settings.retry.map (·.delay)).getD 0

section

variable {m : Type → Type} [Monad m] {ε : Type}

def tryAgain (pause : m Unit) (call : m (Except ε Unit)) : Nat → m (Except ε Unit)
  | 0     => call
  | n + 1 => do
    match ← call with
    | .ok u    => return .ok u
    | .error _ =>
      pause
      tryAgain pause call n

def deliverBy (call : Archive → Bulletin → m (Except ε Unit)) (pause : Nat → m Unit) (p : Pipeline)
    (b : Bulletin) : m Delivery :=
  (p.activeActions b).foldlM
    (fun d s => d.count <$> tryAgain (pause p.delay) (call s.component b) (p.attempts - 1)) Delivery.none

end

variable {m : Type → Type} [Monad m] [Storage m]

def deliver (p : Pipeline) (b : Bulletin) : m Delivery :=
  p.deliverBy Archive.apply Storage.pause b

end Pipeline
end BulletinPipeline
