import Chronicle.Play.Diagnostic

/-!
# Where a branch leads

A condition is judged by the campaign log as it stands. An answer that has not been given yet is no
fault: the branch waits for it.
-/

namespace Chronicle

inductive Judgement where
  | reached (verdict : Verdict) (target : Option StepId)
  | waiting (step : StepId)
  deriving DecidableEq

namespace CampaignLog

def isEliminated (l : CampaignLog) (s : ScenarioId) : Whom → Except ScriptFault Bool
  | .lead =>
    match l.lead? s with
    | none => .error (.noLead s)
    | some id =>
      match l.investigators.get? id with
      | none => .error (.unknownInvestigator id)
      | some i => .ok i.isEliminated
  | .all =>
    if l.investigators.entries.isEmpty then .error .noInvestigators
    else .ok (l.investigators.values.all (·.isEliminated))

/-- The verdict on a test in scenario `s`, or the step whose answer it needs. -/
def verdict (l : CampaignLog) (g : Guide) (s : ScenarioId) :
    Test → Except ScriptFault (Verdict ⊕ StepId)
  | .eliminated whom => (.inl ∘ .flag) <$> l.isEliminated s whom
  | .recorded sec entry =>
    if (g.entry? sec entry).isSome then .ok (.inl (.flag (l.isRecorded sec entry)))
    else .error (.unknownEntry sec entry)
  | .count c comparison n => .ok (.inl (.flag (comparison.holds (l.count c) n)))
  | .decision t =>
    match l.answer? s t with
    | none => .ok (.inr t)
    | some (.decision yes) => .ok (.inl (.flag yes))
    | some _ => .error (.notDecision t)
  | .choice t =>
    match l.answer? s t with
    | none => .ok (.inr t)
    | some (.choice _ label) => .ok (.inl (.label label))
    | some (.campaignLink decision) => .ok (.inl (.label decision))
    | some _ => .error (.notChoice t)
  | .achieved id =>
    if (g.achievement? id).isSome then .ok (.inl (.flag (l.isEarned id)))
    else .error (.unknownAchievement id)

def judge (l : CampaignLog) (g : Guide) (s : ScenarioId) (c : Condition) :
    Except ScriptFault Judgement :=
  (l.verdict g s c.test).map fun
    | .inl v => .reached v (c.target? v)
    | .inr t => .waiting t

end CampaignLog
end Chronicle
