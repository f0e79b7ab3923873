import Chronicle.Guide.Basic
import Chronicle.Sample.Evening

/-!
# A guide with faults

The carousel never stops, and the second effect of the stall names a section that the guide does not
have. At night only the ghost train is left, which has no fault.
-/

namespace Chronicle.Sample

open Effect in
def carousel : Scenario where
  id := "carousel"
  name := "The Carousel"
  side := false
  implicitStart := true
  steps := [⟨"lap", some "lap", .effects [count "laps" .add (.literal 1)]⟩]

def prizeEffects : List Effect :=
  [.count "prizes" .add (.literal 1), .record "trophies" none false]

def prize : Step := ⟨"prize", none, .effects prizeEffects⟩

def throwsPrompt : Prompt := .count 0 (some 3)

def throws : Step := ⟨"throws", none, .input throwsPrompt⟩

def stall : Scenario where
  id := "stall"
  name := "The Stall"
  side := false
  implicitStart := true
  steps := [prize, throws]

def fairground : Guide where
  id := "fairground"
  name := "Fairground"
  version := 1
  minVersion := 1
  scenarios := [carousel, stall]
  sections := []
  achievements := []
  chaosBags := .empty

/-- More throws than the stall allows. -/
def tooMany : Record :=
  { victoryPoints with
    scenario := some "stall"
    step := some "throws"
    payload := .reply (.count 7) }

/-- A visit to the fairground. -/
def outing : Journal :=
  ⟨{ arkhamNights with guide := "fairground", guideVersion := 1 }, [.input tooMany]⟩

def frightEffects : List Effect := [.trauma .lead 0 1 false false]

def ghostTrain : Scenario where
  id := "ghost_train"
  name := "The Ghost Train"
  side := false
  implicitStart := true
  steps := [⟨"fright", none, .effects frightEffects⟩]

def nightFair : Guide := { fairground with scenarios := [ghostTrain] }

/-- The ghost train runs, and nobody is on it. -/
def emptyTrain : Journal := ⟨{ outing.setup with investigators := [] }, []⟩

end Chronicle.Sample
