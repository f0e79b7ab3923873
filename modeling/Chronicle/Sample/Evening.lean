import Chronicle.Journal.Basic

/-!
# A sample evening

Two investigators play the sample guide. The records of their evening are numbered by the minutes at
which they were made.
-/

namespace Chronicle.Sample

def arkhamNights : Setup where
  name := "Arkham nights"
  guide := "night_of_the_zealot"
  guideVersion := 2
  difficulty := .standard
  investigators := [⟨"roland", "Roland Banks", 9, 5⟩, ⟨"agnes", "Agnes Baker", 6, 8⟩]

/-- Some minutes past ten. -/
def pastTen (minute : Fin 60) : Instant :=
  ⟨2026, 1, 15, 10, minute, 0, 0, by simp [daysInMonth]⟩

def tenSharp : Instant := pastTen 0

def record (minute : Fin 60) (scenario : Option ScenarioId) (step : Option StepId)
    (payload : Payload) : Record :=
  ⟨.ofNat minute, currentSchema, scenario, step, payload, pastTen minute⟩

/-- The start of a custom side scenario that has its id as its name. -/
def customStart (minute : Fin 60) (id : ScenarioId) (after : Option ScenarioId) : Record :=
  record minute (some id) none (.start (.custom id after 0))

/-- The custom side scenario `x` is started to be played after `y`, and only then `y`. -/
def crossedStarts (after : Option ScenarioId) : Journal :=
  ⟨arkhamNights, [.input (customStart 1 "x" (some "y")), .input (customStart 2 "y" after)]⟩

def started : Record := record 1 (some "the_gathering") none (.start (.main none))

def decision : Record :=
  record 2 (some "the_gathering") (some "burn_house") (.reply (.decision true))

/-- A scenario is started and one of its prompts decided. -/
def decided : Journal := ⟨arkhamNights, [.input started, .input decision]⟩

/-- A decision in a scenario that is not started. -/
def idle : Record :=
  record 3 (some "the_midnight_masks") (some "burn_house") (.reply (.decision true))

/-- The decision is undone. -/
def undecided : Journal := decided.push (.undo (some "the_gathering"))

def elderSign : Record := record 3 none none (.achievement "elder_sign_count" .inc none)

/-- The prompt decided again, the other way. -/
def overruled : Record :=
  record 4 (some "the_gathering") (some "burn_house") (.reply (.decision false))

/-- The prompt decided again at the same minute, on another device. -/
def confirmed : Record := { overruled with id := .ofNat 5, payload := .reply (.decision true) }

/-- The custom side scenario `x` follows `y`, which follows the prologue, and `z` follows a scenario
that nobody has started. -/
def excursions : Journal :=
  ⟨arkhamNights, [.input started, .input (customStart 2 "x" (some "y")),
    .input (customStart 3 "y" (some "prologue")),
    .input (customStart 4 "z" (some "the_midnight_masks"))]⟩

/-- One device counts an elder sign, takes it back, counts it after all and decides again. -/
def firstDevice : Journal :=
  ((((decided.append elderSign).push (.undo none)).push (.redo none)).append overruled)

/-- The other device has undone the decision and made it again. -/
def secondDevice : Journal := undecided.append confirmed

/-- A device on which the scenario was started and the prompt only decided later. -/
def lateDevice : Journal := ⟨arkhamNights, [.input started, .input overruled]⟩

/-- The prompt was decided before the scenario was started. -/
def beforehand : Journal := ⟨arkhamNights, [.input overruled, .input started]⟩

/-- The custom side scenarios `x` and `y` are started, and then `x` again. -/
def restarted : Journal :=
  ⟨arkhamNights, [.input (customStart 1 "x" none), .input (customStart 2 "y" none),
    .input (customStart 3 "x" none)]⟩

/-- The same without the start that is superseded. -/
def startedLast : Journal :=
  ⟨arkhamNights, [.input (customStart 2 "y" none), .input (customStart 3 "x" none)]⟩

/-- The custom side scenarios `y` and `x` are started in turns. -/
def inTurns : Journal :=
  ⟨arkhamNights, [.input (customStart 1 "y" none), .input (customStart 2 "x" none),
    .input (customStart 3 "y" none), .input (customStart 4 "x" none)]⟩

/-- The same without the first start of `x`. -/
def inTurnsLess : Journal :=
  ⟨arkhamNights, [.input (customStart 1 "y" none), .input (customStart 3 "y" none),
    .input (customStart 4 "x" none)]⟩

def victoryPoints : Record :=
  record 6 (some "the_gathering") (some "victory_points") (.reply (.count 2))

/-- The decision is made after the points are counted and later overruled, but the points have the
latest time. -/
def belated : Journal :=
  ⟨arkhamNights, [.input started, .input victoryPoints, .input decision, .input overruled]⟩

/-- The decision comes last, but was recorded before the one that it supersedes. -/
def overtaken : Journal :=
  ⟨arkhamNights, [.input started, .input victoryPoints, .input overruled, .input decision]⟩

/-- A text where points are to be counted. -/
def miscounted : Record :=
  record 5 (some "the_gathering") (some "victory_points") (.reply (.text "two"))

/-- A scenario is started and waits, as what is recorded for its first prompt does not fit. -/
def halted : Journal := ⟨arkhamNights, [.input started, .input miscounted]⟩

/-- An elder sign counted up to five. -/
def extraSign (minute : Fin 60) : Record :=
  record minute none none (.achievement "elder_sign_count" .inc (some 5))

/-- An elder sign that is set, where it can only be counted. -/
def setSign : Record := record 11 none none (.achievement "elder_sign_count" .set none)

/-- Four elder signs are counted, one more than the guide declares, and one is set. -/
def manySigns : Journal :=
  ⟨arkhamNights, [.input started, .input (extraSign 7), .input (extraSign 8),
    .input (extraSign 9), .input (extraSign 10), .input setSign]⟩

def masksStarted : Record := record 12 (some "the_midnight_masks") none (.start (.main none))

def interrogation : Record :=
  record 13 (some "the_midnight_masks") (some "interrogated") (.reply (.choice 0))

/-- Agnes does not survive the night. -/
def mauled : Record :=
  record 14 (some "the_midnight_masks") (some "trauma")
    (.reply (.interScenarioTrauma (Dict.ofList [("agnes", ⟨0, 0, true, false, 0⟩)])))

/-- The start of a custom side scenario that costs three points of experience. -/
def wake : Record :=
  record 15 (some "wake") none (.start (.custom "The wake" (some "the_midnight_masks") 3))

/-- Agnes is killed before a custom side scenario is played. -/
def bereaved : Journal :=
  ⟨arkhamNights, [.input masksStarted, .input interrogation, .input mauled, .input wake]⟩

end Chronicle.Sample
