import Chronicle.Play.Basic

/-!
# Why a request fails
-/

namespace Chronicle

/-- What is wrong with a request in itself. -/
inductive Rejection where
  | record (f : Record.Flaw)
  | alreadyExists (campaign : Uuid)
  | blankName
  | noInvestigators
  | listedTwice (id : InvestigatorId)
  /-- An investigator without health or without sanity. -/
  | frail (id : InvestigatorId)
  deriving DecidableEq

def Rejection.message : Rejection → String
  | .record f => f.message
  | .alreadyExists id => s!"campaign {id.toText} already exists"
  | .blankName => "campaign name must not be empty"
  | .noInvestigators => "a campaign needs at least one investigator"
  | .listedTwice id => s!"investigator {id} is listed more than once"
  | .frail id => s!"investigator {id} needs positive health and sanity"

inductive Failure where
  | campaignNotFound (id : Uuid)
  | guideNotFound (id : GuideId)
  | incompatible (i : Incompatibility)
  /-- The stream has moved on since it was read. -/
  | conflict (campaign : Uuid) (expected found : Int)
  | rejected (r : Rejection)
  /-- The store does not answer. -/
  | unavailable
  /-- A stored event does not read as one. -/
  | undecodable
  deriving DecidableEq

def Failure.message : Failure → String
  | .campaignNotFound id => s!"campaign not found: {id.toText}"
  | .guideNotFound id => s!"campaign guide not found: {id}"
  | .incompatible i => s!"incompatible campaign guide: {i.message}"
  | .conflict id expected found =>
    s!"concurrency conflict on campaign {id.toText}: expected version {expected}, found {found}"
  | .rejected r => s!"validation error: {r.message}"
  | .unavailable => "infrastructure error: connection refused"
  | .undecodable => "infrastructure error: event deserialization failed"

end Chronicle
