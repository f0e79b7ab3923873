import Chronicle.Difficulty
import Chronicle.Guide.Step

/-!
# Guides

A guide holds the rules of one campaign: its scenarios in the order they are played, the sections
of the campaign log, the achievements and the chaos bag each difficulty starts with. Where an id is
declared more than once, the first declaration counts.
-/

namespace Chronicle

structure LogEntry where
  id : EntryId
  text : String
  deriving DecidableEq

/-- A section of the campaign log and the entries it may hold. -/
structure LogSection where
  id : SectionId
  title : String
  entries : List LogEntry
  /-- Whether players write entries of their own. -/
  freeform : Bool
  deriving DecidableEq

inductive AchievementKind where
  | binary
  | count (max : Option UInt32)
  deriving DecidableEq

structure Achievement where
  id : AchievementId
  title : String
  kind : AchievementKind
  deriving DecidableEq

structure Scenario where
  id : ScenarioId
  name : String
  /-- Side scenarios are played only where players start them. -/
  side : Bool
  /-- Whether the scenario is played even if nobody starts it. -/
  implicitStart : Bool
  steps : List Step
  deriving DecidableEq

namespace Scenario

def step? (s : Scenario) (id : StepId) : Option Step := s.steps.find? (·.id = id)

def stepIndex? (s : Scenario) (id : StepId) : Option Nat := s.steps.findIdx? (·.id = id)

end Scenario

abbrev ChaosBag := Dict TokenId UInt32

structure Guide where
  id : GuideId
  name : String
  version : UInt32
  /-- The oldest version whose campaigns this guide can still play. -/
  minVersion : UInt32
  scenarios : List Scenario
  sections : List LogSection
  achievements : List Achievement
  chaosBags : Dict Difficulty ChaosBag
  deriving DecidableEq

namespace Guide

def scenario? (g : Guide) (id : ScenarioId) : Option Scenario := g.scenarios.find? (·.id = id)

def section? (g : Guide) (id : SectionId) : Option LogSection := g.sections.find? (·.id = id)

def entry? (g : Guide) (sectionId : SectionId) (id : EntryId) : Option LogEntry :=
  (g.section? sectionId).bind fun s => s.entries.find? (·.id = id)

def achievement? (g : Guide) (id : AchievementId) : Option Achievement :=
  g.achievements.find? (·.id = id)

/-- The chaos bag a difficulty starts with, empty if the guide has none for it. -/
def chaosBag (g : Guide) (d : Difficulty) : ChaosBag := (g.chaosBags.get? d).getD .empty

/-- Whether a campaign created against version `v` can be played with this guide. -/
def acceptsVersion (g : Guide) (v : UInt32) : Bool := g.minVersion ≤ v ∧ v ≤ g.version

end Guide
end Chronicle
