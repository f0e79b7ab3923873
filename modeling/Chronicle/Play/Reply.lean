import Chronicle.Play.Diagnostic

/-!
# Taking a reply

Which record replies to a prompt, whether it fits, and what it changes. A record of another kind at
the step is looked at only if there is none of the kind the prompt asks for.
-/

namespace Chronicle

namespace Record

/-- The last record of an identity. -/
def lastOf (active : List Record) (i : Identity) : Option Record :=
  active.reverse.find? (·.identity = i)

/-- A record of any kind at a step, of the first kind of which there is one. -/
def anyAt (active : List Record) (s : ScenarioId) (t : StepId) : Option Record :=
  (Kind.all.filter (! ·.isCumulative)).findSome? fun k => lastOf active ⟨some s, some t, k⟩

/-- The record consulted for a prompt. -/
def consulted (active : List Record) (s : ScenarioId) (t : StepId) (p : Prompt) : Option Record :=
  (lastOf active ⟨some s, some t, .reply p.replyKind⟩).or (anyAt active s t)

end Record

/-- The first key that is not allowed. -/
def strayKey {α β : Type} [Ord α] [BEq α] (allowed : List α) (d : Dict α β) : Option α :=
  d.keys.find? (! allowed.contains ·)

/-- The first fault of the supplies of one investigator. -/
def suppliesFault (allowed : List SupplyId) (counts : Dict SupplyId Int32) : Option RecordFault :=
  ((strayKey allowed counts).map .unknownSupply).or
    ((counts.entries.find? fun e => e.2 < 0).map fun e => .negativeSupply e.1 e.2)

def answerOr (fault : Option RecordFault) (a : Answer) : Except RecordFault Answer :=
  match fault with
  | some f => .error f
  | none => .ok a

namespace Prompt

/-- The answer that a record gives to a prompt; `roster` are the investigators of the campaign. -/
def answer (p : Prompt) (roster : List InvestigatorId) (payload : Payload) :
    Except RecordFault Answer :=
  match p, payload with
  | .decision, .reply (.decision yes) => .ok (.decision yes)
  | .count min max, .reply (.count n) =>
    if n < min ∨ max.any (· < n) then .error (.countOutside n) else .ok (.count n)
  | .choice options, .reply (.choice index) =>
    match options[index.toNat]? with
    | some label => .ok (.choice index label)
    | none => .error (.choiceOutside index)
  | .choiceList options, .reply (.choiceList choices) =>
    answerOr ((strayKey options choices).map .unknownOption) (.choiceList choices)
  | .stringChoices options, .reply (.stringChoices choices) =>
    answerOr ((strayKey options choices).map .unknownOption) (.stringChoices choices)
  | .text, .reply (.text s) => if Text.blank s then .error .blankText else .ok (.text s)
  | .supplies allowed, .reply (.supplies given) =>
    answerOr (((strayKey roster given).map .unknownInvestigator).or
      (given.values.findSome? (suppliesFault allowed))) (.supplies given)
  | .interScenarioTrauma, .reply (.interScenarioTrauma changes) =>
    answerOr ((strayKey roster changes).map .unknownInvestigator) (.interScenarioTrauma changes)
  | .campaignLink, .reply (.campaignLink s) =>
    if s.isEmpty then .error .emptyLink else .ok (.campaignLink s)
  | _, payload => .error (.otherKind payload.kind)

end Prompt

namespace CampaignLog

/-- What an answer changes beside being remembered. -/
def heed (l : CampaignLog) : Answer → CampaignLog
  | .supplies supplies =>
    supplies.entries.foldl (fun l e => l.modifyInvestigator e.1 fun i =>
      e.2.entries.foldl (fun i c => i.adjustSupply c.1 c.2) i) l
  | .interScenarioTrauma changes =>
    changes.entries.foldl (fun l e => l.modifyInvestigator e.1 (·.suffer e.2)) l
  | _ => l

def take (l : CampaignLog) (s : ScenarioId) (t : StepId) (a : Answer) : CampaignLog :=
  (l.heed a).recordAnswer s t a

end CampaignLog
end Chronicle
