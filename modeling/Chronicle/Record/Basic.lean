import Chronicle.Guide.Step
import Chronicle.Instant.Basic
import Chronicle.Text.Blank
import Chronicle.Uuid

/-!
# Records

Players record what happens in a campaign: that a scenario starts, what they reply to a prompt, and
operations on achievements. Of the records with one identity only the last is in effect, except
that every operation on an achievement is.
-/

namespace Chronicle

/-- Trauma suffered and experience spent by an investigator between scenarios. -/
structure TraumaChange where
  physical : UInt32 := 0
  mental : UInt32 := 0
  killed : Bool := false
  insane : Bool := false
  spentXp : UInt32 := 0
  deriving DecidableEq

inductive Start where
  | main (lead : Option InvestigatorId)
  /-- A side scenario, and the scenario it is played after. -/
  | side (after : Option ScenarioId) (lead : Option InvestigatorId)
  /-- A side scenario that the guide does not know. Each investigator pays for it. -/
  | custom (name : String) (after : Option ScenarioId) (xpCost : UInt32)
  deriving DecidableEq

/-- The scenario a side scenario is to be played after. -/
def Start.after? : Start → Option ScenarioId
  | .main _ => none
  | .side after _ => after
  | .custom _ after _ => after

/-- The lead investigator a start names. -/
def Start.lead? : Start → Option InvestigatorId
  | .main lead => lead
  | .side _ lead => lead
  | .custom .. => none

inductive Reply where
  | decision (yes : Bool)
  | count (n : Int32)
  /-- The position of the option chosen. -/
  | choice (index : UInt64)
  | choiceList (choices : Dict Label (List Int32))
  | stringChoices (choices : Dict Label (List String))
  | text (text : String)
  | supplies (supplies : Dict InvestigatorId (Dict SupplyId Int32))
  | interScenarioTrauma (changes : Dict InvestigatorId TraumaChange)
  | campaignLink (decision : String)
  deriving DecidableEq

inductive Payload where
  | start (s : Start)
  | reply (r : Reply)
  /-- An operation on an achievement, with a maximum of its own for a counter. -/
  | achievement (id : AchievementId) (operation : AchievementOperation) (max : Option UInt32)
  deriving DecidableEq

/-! ### Kinds -/

inductive StartKind where
  | main
  | side
  | custom
  deriving DecidableEq

/-- The kinds of replies, one for each kind of prompt. -/
inductive ReplyKind where
  | decision
  | count
  | choice
  | choiceList
  | stringChoices
  | text
  | supplies
  | interScenarioTrauma
  | campaignLink
  deriving DecidableEq

inductive Kind where
  | start (k : StartKind)
  | reply (k : ReplyKind)
  | achievement
  deriving DecidableEq

def Start.kind : Start → StartKind
  | .main _ => .main
  | .side .. => .side
  | .custom .. => .custom

def Reply.kind : Reply → ReplyKind
  | .decision _ => .decision
  | .count _ => .count
  | .choice _ => .choice
  | .choiceList _ => .choiceList
  | .stringChoices _ => .stringChoices
  | .text _ => .text
  | .supplies _ => .supplies
  | .interScenarioTrauma _ => .interScenarioTrauma
  | .campaignLink _ => .campaignLink

def Payload.kind : Payload → Kind
  | .start s => .start s.kind
  | .reply r => .reply r.kind
  | .achievement .. => .achievement

/-- The kind of reply a prompt asks for. -/
def Prompt.replyKind : Prompt → ReplyKind
  | .decision => .decision
  | .count .. => .count
  | .choice _ => .choice
  | .choiceList _ => .choiceList
  | .stringChoices _ => .stringChoices
  | .text => .text
  | .supplies _ => .supplies
  | .interScenarioTrauma => .interScenarioTrauma
  | .campaignLink => .campaignLink

def StartKind.name : StartKind → String
  | .main => "start_scenario"
  | .side => "start_side_scenario"
  | .custom => "start_custom_side_scenario"

def ReplyKind.name : ReplyKind → String
  | .decision => "decision"
  | .count => "count"
  | .choice => "choice"
  | .choiceList => "choice_list"
  | .stringChoices => "string_choices"
  | .text => "text"
  | .supplies => "supplies"
  | .interScenarioTrauma => "inter_scenario_trauma"
  | .campaignLink => "campaign_link"

namespace Kind

def name : Kind → String
  | .start k => k.name
  | .reply k => k.name
  | .achievement => "achievement_op"

/-- Whether every record of the kind is in effect, and not only the last one of an identity. -/
def isCumulative : Kind → Bool
  | .achievement => true
  | _ => false

def isStart : Kind → Bool
  | .start _ => true
  | _ => false

/-- All kinds, in their order. -/
def all : List Kind :=
  [.start .main, .start .side, .start .custom, .reply .decision, .reply .count, .reply .choice,
    .reply .choiceList, .reply .stringChoices, .reply .text, .reply .supplies,
    .reply .interScenarioTrauma, .reply .campaignLink, .achievement]

theorem mem_all (k : Kind) : k ∈ all := by
  cases k with
  | start k => cases k <;> decide
  | reply k => cases k <;> decide
  | achievement => decide

end Kind

/-- Whether a payload starts a scenario under a blank name. -/
def Payload.isNameless : Payload → Bool
  | .start (.custom name _ _) => Text.blank name
  | _ => false

/-! ### Records -/

/-- What records supersede one another by. -/
structure Identity where
  scenario : Option ScenarioId
  step : Option StepId
  kind : Kind
  deriving DecidableEq

/-- The latest version of the written form of records. -/
def currentSchema : UInt16 := 1

structure Record where
  id : Uuid
  schema : UInt16
  /-- Records without a scenario belong to the campaign as a whole. -/
  scenario : Option ScenarioId
  step : Option StepId
  payload : Payload
  recordedAt : Instant
  deriving DecidableEq

namespace Record

def kind (r : Record) : Kind := r.payload.kind

def identity (r : Record) : Identity := ⟨r.scenario, r.step, r.kind⟩

def isCumulative (r : Record) : Bool := r.kind.isCumulative

def start? (r : Record) : Option Start :=
  match r.payload with
  | .start s => some s
  | _ => none

/-- What is wrong with the shape of a record. -/
inductive Flaw where
  | newerSchema (schema : UInt16)
  | noName
  | noScenario (kind : Kind)
  | namesStep (kind : Kind)
  | noScenarioOrStep (kind : Kind)
  deriving DecidableEq

def Flaw.message : Flaw → String
  | .newerSchema v =>
    s!"input record schema version {v.toNat} is newer than supported version {currentSchema.toNat}"
  | .noName => "start_custom_side_scenario record requires a name"
  | .noScenario k => s!"{k.name} record requires a scenario"
  | .namesStep k => s!"{k.name} record must not name a step"
  | .noScenarioOrStep k => s!"{k.name} record requires a scenario and a step"

/-- The first flaw of a record. A start names a scenario and no step, a reply names both. -/
def flaw? (r : Record) : Option Flaw :=
  if currentSchema < r.schema then some (.newerSchema r.schema)
  else if r.payload.isNameless then some .noName
  else
    match r.payload with
    | .achievement .. => none
    | .start _ =>
      if r.scenario.isNone then some (.noScenario r.kind)
      else if r.step.isSome then some (.namesStep r.kind)
      else none
    | .reply _ =>
      if r.scenario.isSome ∧ r.step.isSome then none else some (.noScenarioOrStep r.kind)

end Record
end Chronicle
