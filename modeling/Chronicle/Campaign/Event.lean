import Chronicle.Journal.Json
import Chronicle.Record.Json

/-!
# Events

Everything that happens to a campaign is an event: its creation, and each mark made in its journal.
-/

namespace Chronicle

open Json

inductive Event where
  | created (campaign : Uuid) (setup : Setup)
  | recorded (record : Record)
  | undone (bucket : Bucket)
  | redone (bucket : Bucket)
  | reset (scenario : ScenarioId)
  deriving DecidableEq

namespace Event

/-- The name of an event's type, by which streams are searched. -/
def typeName : Event → String
  | .created .. => "campaign.created"
  | .recorded _ => "campaign.input_recorded"
  | .undone _ => "campaign.input_undone"
  | .redone _ => "campaign.input_redone"
  | .reset _ => "campaign.scenario_reset"

/-- An event is an object with one member, whose name tells what happened. -/
def toJson : Event → Json
  | .created campaign setup =>
    .obj [("CampaignCreated", .obj [("campaign_id", encode campaign), ("setup", encode setup)])]
  | .recorded record => .obj [("InputRecorded", .obj [("record", encode record)])]
  | .undone bucket => .obj [("InputUndone", .obj [("scenario", encode bucket)])]
  | .redone bucket => .obj [("InputRedone", .obj [("scenario", encode bucket)])]
  | .reset scenario => .obj [("ScenarioReset", .obj [("scenario", encode scenario)])]

def names : List String :=
  ["CampaignCreated", "InputRecorded", "InputUndone", "InputRedone", "ScenarioReset"]

def ofMember (o : Origin) (name : String) (d : Document) : Reading Event :=
  match name with
  | "CampaignCreated" => gather o ["campaign_id", "setup"] d fun f =>
    .created <$> f.need "campaign_id" <*> f.need "setup"
  | "InputRecorded" => gather o ["record"] d fun f => .recorded <$> f.need "record"
  | "InputUndone" => gather o ["scenario"] d fun f => .undone <$> f.option "scenario"
  | "InputRedone" => gather o ["scenario"] d fun f => .redone <$> f.option "scenario"
  | "ScenarioReset" => gather o ["scenario"] d fun f => .reset <$> f.need "scenario"
  | _ => .error .form

/-- What happened, given as a map; in a text it may also be a list. -/
def ofContent (o : Origin) (name : String) (d : Document) : Reading Event :=
  match o, d with
  | .tree, .list _ => .error .form
  | o, d => ofMember o.inner name d

def ofDocument (o : Origin) : Document → Reading Event
  | .map ((k, d) :: rest) => do
    let e ← ofContent o (← pick names id o k) d
    if rest.isEmpty then return e else throw .grammar
  | d => .error d.misfit

instance : Codec Event := ⟨toJson, ofDocument⟩

end Event
end Chronicle
