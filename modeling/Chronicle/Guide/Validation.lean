import Chronicle.Guide.Basic

/-!
# Issues of a guide

A guide is checked scenario by scenario and step by step. Issues of the script itself, such as a
jump to nowhere, are fatal: such a guide is not loaded. References to sections, entries and
achievements that the guide does not declare are warnings, reported again for each step that is
played.
-/

namespace Chronicle

/-- A part of the campaign log that a script speaks of. -/
inductive LogReference where
  | sectionOf (id : SectionId)
  | entryOf (sectionId : SectionId) (id : EntryId)
  deriving DecidableEq

namespace LogReference

def text : LogReference → String
  | .sectionOf id => id
  | .entryOf s id => s ++ "/" ++ id

def isDeclared (g : Guide) : LogReference → Bool
  | .sectionOf id => (g.section? id).isSome
  | .entryOf s id => (g.entry? s id).isSome

end LogReference

inductive Issue where
  | duplicateScenario (scenario : ScenarioId)
  | emptyScenario (scenario : ScenarioId)
  | duplicateStep (scenario : ScenarioId) (step : StepId)
  | unknownTarget (scenario : ScenarioId) (step target : StepId)
  | unknownInputStep (scenario : ScenarioId) (step read : StepId)
  | unknownLogReference (scenario : ScenarioId) (step : StepId) (reference : LogReference)
  | unknownAchievement (scenario : ScenarioId) (step : StepId) (achievement : AchievementId)
  deriving DecidableEq

namespace Issue

def isFatal : Issue → Bool
  | .unknownLogReference .. | .unknownAchievement .. => false
  | _ => true

def message : Issue → String
  | .duplicateScenario s => s!"scenario {s} is declared more than once"
  | .emptyScenario s => s!"scenario {s} has no steps"
  | .duplicateStep s t => s!"scenario {s}: step {t} is declared more than once"
  | .unknownTarget s t x => s!"scenario {s}: step {t} jumps to unknown step {x}"
  | .unknownInputStep s t x => s!"scenario {s}: step {t} reads {x}, which is not an input step"
  | .unknownLogReference s t r =>
    s!"scenario {s}: step {t} references unknown campaign log {r.text}"
  | .unknownAchievement s t a => s!"scenario {s}: step {t} references unknown achievement {a}"

end Issue

/-! ### What a step refers to -/

def Operand.reads : Operand → List StepId
  | .literal _ => []
  | .counted step => [step]

/-- The steps whose answers an effect reads. -/
def Effect.reads : Effect → List StepId
  | .recordText _ source | .recordCards _ source => [source]
  | .count _ _ v | .earnXp _ v => v.reads
  | _ => []

def Effect.logReferences : Effect → List LogReference
  | .record s (some id) _ => [.entryOf s id]
  | .record s none _ | .recordText s _ | .recordCards s _ => [.sectionOf s]
  | _ => []

def Effect.achievements : Effect → List AchievementId
  | .achievement id _ => [id]
  | _ => []

def Test.reads : Test → List StepId
  | .decision step | .choice step => [step]
  | _ => []

def Test.logReferences : Test → List LogReference
  | .recorded s id => [.entryOf s id]
  | _ => []

def Test.achievements : Test → List AchievementId
  | .achieved id => [id]
  | _ => []

namespace Step

/-- The steps a step may jump to. -/
def targets (t : Step) : List StepId :=
  t.next.toList ++ t.condition?.toList.flatMap fun c => c.routes.map (·.target)

def reads (t : Step) : List StepId :=
  t.condition?.toList.flatMap (·.test.reads) ++ t.effects.flatMap (·.reads)

def logReferences (t : Step) : List LogReference :=
  t.condition?.toList.flatMap (·.test.logReferences) ++ t.effects.flatMap (·.logReferences)

def achievements (t : Step) : List AchievementId :=
  t.condition?.toList.flatMap (·.test.achievements) ++ t.effects.flatMap (·.achievements)

end Step

/-! ### Issues -/

/-- The elements of a list that stand there, or in `seen`, already before. -/
def repeats {α : Type} [DecidableEq α] (seen : List α) : List α → List α
  | [] => []
  | a :: rest => if a ∈ seen then a :: repeats seen rest else repeats (a :: seen) rest

namespace Scenario

def stepIds (s : Scenario) : List StepId := s.steps.map (·.id)

def inputStepIds (s : Scenario) : List StepId := (s.steps.filter (·.isInput)).map (·.id)

end Scenario

namespace Guide

def stepIssues (g : Guide) (s : Scenario) (t : Step) : List Issue :=
  (t.targets.filter (· ∉ s.stepIds)).map (.unknownTarget s.id t.id)
    ++ (t.reads.filter (· ∉ s.inputStepIds)).map (.unknownInputStep s.id t.id)
    ++ (t.logReferences.filter (¬ ·.isDeclared g)).map (.unknownLogReference s.id t.id)
    ++ (t.achievements.filter (fun a => (g.achievement? a).isNone)).map
      (.unknownAchievement s.id t.id)

def scenarioIssues (g : Guide) (s : Scenario) : List Issue :=
  if s.steps.isEmpty then [.emptyScenario s.id]
  else (repeats [] s.stepIds).map (.duplicateStep s.id) ++ s.steps.flatMap (g.stepIssues s)

def issuesFrom (g : Guide) (seen : List ScenarioId) : List Scenario → List Issue
  | [] => []
  | s :: rest =>
    (if s.id ∈ seen then [.duplicateScenario s.id] else []) ++ g.scenarioIssues s
      ++ g.issuesFrom (s.id :: seen) rest

/-- Every issue of a guide, in the order of the guide. -/
def issues (g : Guide) : List Issue := g.issuesFrom [] g.scenarios

def fatalIssues (g : Guide) : List Issue := g.issues.filter (·.isFatal)

end Guide
end Chronicle
