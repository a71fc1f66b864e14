/-
The trail of a run: one step for every pass that was started, in that order,
and every event as it came.

An event that ends a pass goes to the first step with its id, whether or not
that step has ended before; where there is no such step it is only kept as
an event.
-/
import Obfuscator.Progress.Event
import Obfuscator.Time

namespace Obfuscator

/-- How far a step has come. -/
inductive StepStatus
  | pending
  | running
  | completed
  | error
  deriving DecidableEq, Repr

/-- The word for a status in reports. -/
def StepStatus.name : StepStatus → String
  | pending => "pending"
  | running => "running"
  | completed => "completed"
  | error => "error"

/-- What is known of one pass of a run. -/
structure Step where
  id : String
  name : String
  status : StepStatus
  message : String
  /-- When the status was set. -/
  stamp : Instant
  deriving DecidableEq, Repr

namespace Step

/-- The message of a step that has just started. -/
def startMessage (name : String) : String :=
  "Starting " ++ Text.lowercase name ++ "..."

/-- A step that has just started. -/
def start (now : Instant) (id name : String) : Step where
  id
  name
  status := .running
  message := startMessage name
  stamp := now

/-- A step with a new status. -/
def finish (s : Step) (now : Instant) (status : StepStatus)
    (message : String) : Step :=
  { s with status, message, stamp := now }

/-- Whether a step has ended. -/
def isFinished (s : Step) : Bool :=
  s.status = .completed || s.status = .error

end Step

/-- The steps of a run and the events they came from. -/
structure StepLog where
  steps : List Step := []
  events : List Event := []
  deriving DecidableEq, Repr

namespace StepLog

/-- Ends the first step with a given id. -/
def finishFirst (now : Instant) (id : String) (status : StepStatus)
    (message : String) :
    List Step → List Step
  | [] => []
  | s :: rest =>
    if s.id = id then s.finish now status message :: rest
    else s :: finishFirst now id status message rest

/-- Takes in one event. -/
def record (log : StepLog) (now : Instant) (e : Event) : StepLog where
  steps :=
    match e with
    | .started id label => log.steps ++ [Step.start now id label]
    | .completed id message => finishFirst now id .completed message log.steps
    | .failed id reason => finishFirst now id .error reason log.steps
  events := log.events ++ [e]

/-- Forgets everything that was taken in. -/
def reset (log : StepLog) : StepLog := { log with steps := [], events := [] }

/-- The first step with a given id. -/
def step? (log : StepLog) (id : String) : Option Step :=
  log.steps.find? fun s => s.id = id

/-- Whether some step has ended in an error. -/
def hasErrors (log : StepLog) : Bool :=
  log.steps.any fun s => s.status = .error

end StepLog

end Obfuscator
