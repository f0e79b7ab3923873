import Chronicle.Dict
import Chronicle.Names

/-!
# Steps of a scenario

A scenario is a script of steps. A step tells a story, changes the campaign log, branches, asks
the players something or ends the scenario.
-/

namespace Chronicle

/-- A number in the script: written there, or counted by the players at an earlier step. -/
inductive Operand where
  | literal (n : Int32)
  | counted (step : StepId)
  deriving DecidableEq

inductive CountOperation where
  | set
  | add
  | subtract
  deriving DecidableEq

/-- `set` and `clear` are for achievements that are earned or not, `inc` and `dec` for those that
are counted. -/
inductive AchievementOperation where
  | set
  | clear
  | inc
  | dec
  deriving DecidableEq

/-- The investigators an effect or a test is about. -/
inductive Whom where
  | lead
  | all
  deriving DecidableEq

inductive Effect where
  /-- Records an entry or crosses it out; without an entry the section is only opened. -/
  | record (sectionId : SectionId) (entry : Option EntryId) (crossOut : Bool)
  /-- Records the text given at a step. -/
  | recordText (sectionId : SectionId) (source : StepId)
  /-- Records the selections made at a step, each as an entry. -/
  | recordCards (sectionId : SectionId) (source : StepId)
  | count (counter : CounterId) (operation : CountOperation) (value : Operand)
  | trauma (whom : Whom) (physical mental : UInt32) (killed insane : Bool)
  /-- Experience, credited when the scenario ends. -/
  | earnXp (whom : Whom) (amount : Operand)
  /-- Adds chaos tokens, or removes them where the number is negative. -/
  | chaosBag (tokens : Dict TokenId Int32)
  | achievement (id : AchievementId) (operation : AchievementOperation)
  | supplies (whom : Whom) (supply : SupplyId) (count : Int32)
  deriving DecidableEq

inductive Comparison where
  | atLeast
  | atMost
  | equals
  deriving DecidableEq

def Comparison.holds (c : Comparison) (actual expected : Int32) : Bool :=
  match c with
  | .atLeast => expected ≤ actual
  | .atMost => actual ≤ expected
  | .equals => actual = expected

/-- What the outcome of a branch is looked up in. -/
inductive Test where
  /-- Whether the lead investigator, or every investigator, is eliminated. -/
  | eliminated (whom : Whom)
  | recorded (sectionId : SectionId) (entry : EntryId)
  | count (counter : CounterId) (comparison : Comparison) (value : Int32)
  | decision (step : StepId)
  | choice (step : StepId)
  | achieved (id : AchievementId)
  deriving DecidableEq

inductive Verdict where
  | flag (b : Bool)
  | label (l : Label)
  deriving DecidableEq

/-- Where a verdict leads. -/
structure Route where
  verdict : Verdict
  target : StepId
  deriving DecidableEq

structure Condition where
  test : Test
  routes : List Route
  deriving DecidableEq

/-- The target of the first route for a verdict. -/
def Condition.target? (c : Condition) (v : Verdict) : Option StepId :=
  (c.routes.find? (·.verdict = v)).map (·.target)

inductive Prompt where
  | decision
  | count (min : Int32) (max : Option Int32)
  /-- Exactly one of the options. -/
  | choice (options : List Label)
  /-- Numbers for any of the options. -/
  | choiceList (options : List Label)
  /-- Texts, such as card codes, for any of the options. -/
  | stringChoices (options : List Label)
  | text
  | supplies (supplies : List SupplyId)
  /-- Trauma and experience spent between scenarios. -/
  | interScenarioTrauma
  /-- A decision made in another campaign. -/
  | campaignLink
  deriving DecidableEq

inductive Action where
  | story (text : String)
  | effects (effects : List Effect)
  | branch (condition : Condition)
  | input (prompt : Prompt)
  | resolution (resolution : String)
  deriving DecidableEq

/-- A step, and the step to go to after it instead of the following one. -/
structure Step where
  id : StepId
  next : Option StepId
  action : Action
  deriving DecidableEq

namespace Step

def prompt? (s : Step) : Option Prompt :=
  match s.action with
  | .input p => some p
  | _ => none

def isInput (s : Step) : Bool := s.prompt?.isSome

def effects (s : Step) : List Effect :=
  match s.action with
  | .effects es => es
  | _ => []

def condition? (s : Step) : Option Condition :=
  match s.action with
  | .branch c => some c
  | _ => none

end Step
end Chronicle
