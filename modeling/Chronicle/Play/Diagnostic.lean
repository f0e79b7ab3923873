import Chronicle.CampaignLog.Basic
import Chronicle.Progress.Basic

/-!
# What can go wrong while a campaign is played

Nothing that goes wrong stops the play. A step that cannot do its work and a record that does not
fit are reported and passed over; a scenario that loops is undone as a whole.
-/

namespace Chronicle

/-- Why a step of the script cannot do its work. -/
inductive ScriptFault where
  | unknownSection (id : SectionId)
  | unknownEntry (sectionId : SectionId) (id : EntryId)
  | unknownAchievement (id : AchievementId)
  | unknownInvestigator (id : InvestigatorId)
  | unknownStep (id : StepId)
  | noLead (scenario : ScenarioId)
  | noInvestigators
  | notDecision (step : StepId)
  | notChoice (step : StepId)
  | noText (step : StepId)
  | noSelection (step : StepId)
  | noCount (step : StepId)
  | negativeXp (n : Int32)
  | achievementMismatch (m : AchievementMismatch)
  deriving DecidableEq

def ScriptFault.message : ScriptFault → String
  | .unknownSection id => s!"unknown campaign log section {id}"
  | .unknownEntry s id => s!"unknown campaign log entry {s}/{id}"
  | .unknownAchievement id => s!"unknown achievement {id}"
  | .unknownInvestigator id => s!"unknown investigator {id}"
  | .unknownStep id => s!"unknown step {id}"
  | .noLead s => s!"scenario {s} has no lead investigator"
  | .noInvestigators => "campaign has no investigators"
  | .notDecision t => s!"step {t} is not a decision"
  | .notChoice t => s!"step {t} is not a choice"
  | .noText t => s!"step {t} has no text answer"
  | .noSelection t => s!"step {t} has no choice list or string choices answer"
  | .noCount t => s!"step {t} has no count answer"
  | .negativeXp n => s!"experience cannot be negative: {n.toInt}"
  | .achievementMismatch m => m.message

/-- Why a record does not fit where it is used. -/
inductive RecordFault where
  | unknownAchievement (id : AchievementId)
  | achievementMismatch (m : AchievementMismatch)
  | unknownScenario (id : ScenarioId)
  | reusesScenario (id : ScenarioId)
  | unknownAnchor (id : ScenarioId)
  | unknownLead (id : InvestigatorId)
  | countOutside (n : Int32)
  | choiceOutside (index : UInt64)
  | unknownOption (label : Label)
  | blankText
  | unknownInvestigator (id : InvestigatorId)
  | unknownSupply (id : SupplyId)
  | negativeSupply (id : SupplyId) (n : Int32)
  | emptyLink
  | otherKind (kind : Kind)
  deriving DecidableEq

def RecordFault.message : RecordFault → String
  | .unknownAchievement id => s!"unknown achievement {id}"
  | .achievementMismatch m => m.message
  | .unknownScenario id => s!"unknown scenario {id}"
  | .reusesScenario id => s!"custom side scenario {id} reuses a guide scenario id"
  | .unknownAnchor id => s!"unknown anchor scenario {id}"
  | .unknownLead id => s!"unknown lead investigator {id}"
  | .countOutside n => s!"count {n.toInt} is outside the allowed range"
  | .choiceOutside i => s!"choice {i.toNat} is out of range"
  | .unknownOption l => s!"unknown option {l}"
  | .blankText => "text answer is empty"
  | .unknownInvestigator id => s!"unknown investigator {id}"
  | .unknownSupply id => s!"unknown supply {id}"
  | .negativeSupply id n => s!"supply {id} has negative count {n.toInt}"
  | .emptyLink => "campaign link decision is empty"
  | .otherKind k => s!"{k.name} record does not answer this prompt"

inductive Diagnostic where
  /-- A step could not do its work and was passed over. -/
  | script (scenario : ScenarioId) (step : StepId) (detail : String)
  /-- A record does not fit and counts as missing. -/
  | record (id : Uuid) (scenario : Option ScenarioId) (step : Option StepId) (detail : String)
  /-- A scenario looped, and all it had changed was taken back. -/
  | cyclic (scenario : ScenarioId) (step : StepId)
  | transition (scenario : ScenarioId) (detail : String)
  deriving DecidableEq

namespace Diagnostic

def ofScript (s : ScenarioId) (t : StepId) (f : ScriptFault) : Diagnostic := .script s t f.message

def ofRecord (r : Record) (f : RecordFault) : Diagnostic :=
  .record r.id r.scenario r.step f.message

def ofTransition (s : ScenarioId) (e : TransitionError) : Diagnostic := .transition s e.message

def message : Diagnostic → String
  | .script s t detail => s!"scenario {s}: step {t}: {detail}"
  | .record id _ _ detail => s!"input record {id.toText} is malformed: {detail}"
  | .cyclic s t => s!"scenario {s}: step {t} loops; scenario walk abandoned"
  | .transition s detail => s!"scenario {s}: {detail}"

end Diagnostic
end Chronicle
