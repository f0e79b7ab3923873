import Chronicle.Guide.Basic
import Chronicle.Journal.Basic
import Chronicle.Number.Saturating

/-!
# The campaign log

What a campaign has come to: entries written into its sections, counters, achievements, the state
of the investigators, the chaos bag, how scenarios ended and what the players answered. Numbers
stay within their words: sums stop at the largest value, and supplies never fall below zero.
-/

namespace Chronicle

open Number

/-- An entry written into a section, with the players' own text in a freeform one. -/
structure Inscription where
  id : EntryId
  crossedOut : Bool
  text : Option String
  deriving DecidableEq

inductive AchievementValue where
  | binary (earned : Bool)
  | count (n : UInt32)
  deriving DecidableEq

def AchievementValue.isEarned : AchievementValue → Bool
  | .binary earned => earned
  | .count n => 0 < n

structure InvestigatorState where
  name : String
  health : UInt32
  sanity : UInt32
  physical : UInt32
  mental : UInt32
  killed : Bool
  insane : Bool
  spentXp : UInt32
  /-- Experience credited by completed scenarios. -/
  totalXp : UInt32
  supplies : Dict SupplyId Int32
  deriving DecidableEq

namespace InvestigatorState

def ofRoster (i : Investigator) : InvestigatorState where
  name := i.name
  health := i.health
  sanity := i.sanity
  physical := 0
  mental := 0
  killed := false
  insane := false
  spentXp := 0
  totalXp := 0
  supplies := .empty

/-- Killed, driven insane, or with trauma up to health or sanity. -/
def isEliminated (i : InvestigatorState) : Bool :=
  i.killed || i.insane || i.health ≤ i.physical || i.sanity ≤ i.mental

def suffer (i : InvestigatorState) (t : TraumaChange) : InvestigatorState :=
  { i with
    physical := satAdd i.physical t.physical
    mental := satAdd i.mental t.mental
    killed := i.killed || t.killed
    insane := i.insane || t.insane
    spentXp := satAdd i.spentXp t.spentXp }

def adjustSupply (i : InvestigatorState) (supply : SupplyId) (delta : Int32) :
    InvestigatorState :=
  { i with supplies := i.supplies.alter supply 0 fun n => max (satAddSigned n delta) 0 }

def spend (i : InvestigatorState) (xp : UInt32) : InvestigatorState :=
  { i with spentXp := satAdd i.spentXp xp }

def earn (i : InvestigatorState) (xp : UInt32) : InvestigatorState :=
  { i with totalXp := satAdd i.totalXp xp }

/-- Experience that is left to spend. -/
def availableXp (i : InvestigatorState) : UInt32 := satSub i.totalXp i.spentXp

end InvestigatorState

/-- An answer that was taken at an input step. -/
inductive Answer where
  | decision (yes : Bool)
  | count (n : Int32)
  | choice (index : UInt64) (label : Label)
  | choiceList (choices : Dict Label (List Int32))
  | stringChoices (choices : Dict Label (List String))
  | text (text : String)
  | supplies (supplies : Dict InvestigatorId (Dict SupplyId Int32))
  | interScenarioTrauma (changes : Dict InvestigatorId TraumaChange)
  | campaignLink (decision : String)
  deriving DecidableEq

structure CampaignLog where
  difficulty : Difficulty
  sections : Dict SectionId (List Inscription)
  counts : Dict CounterId Int32
  achievements : Dict AchievementId AchievementValue
  investigators : Dict InvestigatorId InvestigatorState
  chaosBag : ChaosBag
  /-- How each completed scenario ended. -/
  resolutions : Dict ScenarioId String
  leads : Dict ScenarioId InvestigatorId
  answers : Dict ScenarioId (Dict StepId Answer)
  deriving DecidableEq

/-- An operation that does not fit the kind of its achievement. -/
structure AchievementMismatch where
  achievement : AchievementId
  operation : AchievementOperation
  deriving DecidableEq

def AchievementOperation.title : AchievementOperation → String
  | .set => "Set"
  | .clear => "Clear"
  | .inc => "Inc"
  | .dec => "Dec"

def AchievementMismatch.message (m : AchievementMismatch) : String :=
  s!"achievement {m.achievement} does not support operation {m.operation.title}"

namespace CampaignLog

def new (difficulty : Difficulty) (chaosBag : ChaosBag) : CampaignLog where
  difficulty := difficulty
  sections := .empty
  counts := .empty
  achievements := .empty
  investigators := .empty
  chaosBag := chaosBag
  resolutions := .empty
  leads := .empty
  answers := .empty

def addInvestigator (l : CampaignLog) (i : Investigator) : CampaignLog :=
  { l with investigators := l.investigators.insert i.id (.ofRoster i) }

def modifyInvestigator (l : CampaignLog) (id : InvestigatorId)
    (f : InvestigatorState → InvestigatorState) : CampaignLog :=
  { l with investigators := l.investigators.modify id f }

/-! ### Sections -/

/-- Makes sure that a section is there, even if nothing is written into it. -/
def openSection (l : CampaignLog) (s : SectionId) : CampaignLog :=
  { l with sections := l.sections.alter s [] id }

/-- Changes the first inscription of an entry, or writes a new one at the end. -/
def inscribe (fresh : Inscription) (f : Inscription → Inscription) :
    List Inscription → List Inscription
  | [] => [fresh]
  | e :: rest => if e.id = fresh.id then f e :: rest else e :: inscribe fresh f rest

/-- Records an entry. One that was crossed out is restored, and its text is replaced. -/
def record (l : CampaignLog) (s : SectionId) (entry : EntryId) (text : Option String) :
    CampaignLog :=
  { l with sections := l.sections.alter s [] <| inscribe ⟨entry, false, text⟩ fun e =>
      { e with crossedOut := false, text := text } }

/-- Crosses an entry out, recording it first if need be. -/
def crossOut (l : CampaignLog) (s : SectionId) (entry : EntryId) : CampaignLog :=
  { l with sections := l.sections.alter s [] <| inscribe ⟨entry, true, none⟩ fun e =>
      { e with crossedOut := true } }

/-- Whether an entry is recorded and not crossed out. -/
def isRecorded (l : CampaignLog) (s : SectionId) (entry : EntryId) : Bool :=
  (l.sections.getD s []).any fun e => e.id = entry && !e.crossedOut

/-! ### Counters, achievements and the chaos bag -/

/-- Counters that were never touched are zero. -/
def count (l : CampaignLog) (c : CounterId) : Int32 := l.counts.getD c 0

def applyCount (l : CampaignLog) (c : CounterId) (operation : CountOperation) (n : Int32) :
    CampaignLog :=
  { l with counts := l.counts.alter c 0 fun current =>
      match operation with
      | .set => n
      | .add => satAddSigned current n
      | .subtract => satSubSigned current n }

def achievementCount (l : CampaignLog) (id : AchievementId) : UInt32 :=
  match l.achievements.get? id with
  | some (.count n) => n
  | _ => 0

def isEarned (l : CampaignLog) (id : AchievementId) : Bool :=
  (l.achievements.get? id).any (·.isEarned)

/-- One more, unless a maximum is reached already. -/
def increased (n : UInt32) (max : Option UInt32) : UInt32 :=
  if max.all (n < ·) then satAdd n 1 else n

/-- Applies an operation. The maximum `max`, if given, counts instead of the one declared. -/
def applyAchievement (l : CampaignLog) (a : Achievement) (operation : AchievementOperation)
    (max : Option UInt32) : Except AchievementMismatch CampaignLog :=
  let put (v : AchievementValue) : CampaignLog :=
    { l with achievements := l.achievements.insert a.id v }
  match a.kind, operation with
  | .binary, .set => .ok (put (.binary true))
  | .binary, .clear => .ok (put (.binary false))
  | .count declared, .inc =>
    .ok (put (.count (increased (l.achievementCount a.id) (max <|> declared))))
  | .count _, .dec => .ok (put (.count (satSub (l.achievementCount a.id) 1)))
  | _, _ => .error ⟨a.id, operation⟩

/-- Adds tokens to the bag or removes some. A token of which none is left is not in the bag. -/
def adjustChaosBag (l : CampaignLog) (token : TokenId) (delta : Int32) : CampaignLog :=
  let n := satMove (l.chaosBag.getD token 0) delta
  { l with chaosBag := if n = 0 then l.chaosBag.erase token else l.chaosBag.insert token n }

/-! ### Answers and leads -/

def answer? (l : CampaignLog) (s : ScenarioId) (t : StepId) : Option Answer :=
  (l.answers.get? s).bind (·.get? t)

def recordAnswer (l : CampaignLog) (s : ScenarioId) (t : StepId) (a : Answer) : CampaignLog :=
  { l with answers := l.answers.alter s .empty (·.insert t a) }

def lead? (l : CampaignLog) (s : ScenarioId) : Option InvestigatorId := l.leads.get? s

end CampaignLog
end Chronicle
