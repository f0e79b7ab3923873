import Chronicle.Dict
import Chronicle.Names

/-!
# Progress through a scenario

A scenario is first started and then either waits for input or is completed, which ends it. Any
other change is refused; only a reset leads back to the beginning.
-/

namespace Chronicle

inductive Status where
  | notStarted
  /-- Being played, and waiting for input at a step if one is named. -/
  | started (pendingAt : Option StepId)
  | completed (resolution : String)
  deriving DecidableEq

structure Progress where
  scenario : ScenarioId
  /-- The name of a side scenario that the guide does not know. -/
  customName : Option String
  status : Status
  /-- The input steps answered, in the order they were reached. -/
  answered : List StepId
  /-- Experience earned in this scenario. It is credited only when the scenario ends. -/
  xpEarned : Dict InvestigatorId UInt32
  deriving DecidableEq

/-- A change that the status of a scenario does not allow. -/
inductive TransitionError where
  | notStarted (scenario : ScenarioId)
  | alreadyStarted (scenario : ScenarioId)
  | alreadyCompleted (scenario : ScenarioId)
  deriving DecidableEq

def TransitionError.message : TransitionError → String
  | .notStarted s => s!"scenario {s} has not been started"
  | .alreadyStarted s => s!"scenario {s} is already started"
  | .alreadyCompleted s => s!"scenario {s} is already completed"

namespace Progress

def new (s : ScenarioId) : Progress := ⟨s, none, .notStarted, [], .empty⟩

def start (p : Progress) : Except TransitionError Progress :=
  match p.status with
  | .notStarted => .ok { p with status := .started none }
  | .started _ => .error (.alreadyStarted p.scenario)
  | .completed _ => .error (.alreadyCompleted p.scenario)

/-- A change of status that only a started scenario allows. -/
def advance (p : Progress) (s : Status) : Except TransitionError Progress :=
  match p.status with
  | .notStarted => .error (.notStarted p.scenario)
  | .started _ => .ok { p with status := s }
  | .completed _ => .error (.alreadyCompleted p.scenario)

def await (p : Progress) (step : StepId) : Except TransitionError Progress :=
  p.advance (.started (some step))

def complete (p : Progress) (resolution : String) : Except TransitionError Progress :=
  p.advance (.completed resolution)

/-- Back to the beginning. -/
def reset (p : Progress) : Progress :=
  { p with status := .notStarted, answered := [], xpEarned := .empty }

def pendingAt (p : Progress) : Option StepId :=
  match p.status with
  | .started step => step
  | _ => none

def resolution? (p : Progress) : Option String :=
  match p.status with
  | .completed r => some r
  | _ => none

def isCompleted (p : Progress) : Bool := p.resolution?.isSome

end Progress
end Chronicle
