import Chronicle.Guide.Json
import Chronicle.Instant.Text
import Chronicle.Record.Basic

/-!
# Records as JSON

A record and its payload are one object, and the type of the record tells what the payload is.
-/

namespace Chronicle

open Json

def TraumaChange.ofDocument (o : Origin) (d : Document) : Reading TraumaChange :=
  gather o ["physical", "mental", "killed", "insane", "spent_xp"] d fun f =>
    TraumaChange.mk <$> f.orElse "physical" 0 <*> f.orElse "mental" 0 <*> f.orElse "killed" false
      <*> f.orElse "insane" false <*> f.orElse "spent_xp" 0

instance : Codec TraumaChange where
  encode t := .obj [("physical", encode t.physical), ("mental", encode t.mental),
    ("killed", encode t.killed), ("insane", encode t.insane), ("spent_xp", encode t.spentXp)]
  decode := TraumaChange.ofDocument

namespace Payload

def variants : List String := Kind.all.map (·.name)

def startMembers : Start → List (String × Json)
  | .main lead => optional "lead_investigator" lead
  | .side after lead => optional "after" after ++ optional "lead_investigator" lead
  | .custom name after xpCost =>
    ("name", encode name) :: (optional "after" after ++ [("xp_cost", encode xpCost)])

def replyMembers : Reply → List (String × Json)
  | .decision yes => [("decision", encode yes)]
  | .count n => [("count", encode n)]
  | .choice index => [("choice", encode index)]
  | .choiceList choices => [("choices", encode choices)]
  | .stringChoices choices => [("choices", encode choices)]
  | .text text => [("text", encode text)]
  | .supplies supplies => [("supplies", encode supplies)]
  | .interScenarioTrauma changes => [("investigators", encode changes)]
  | .campaignLink decision => [("decision", encode decision)]

def members (p : Payload) : List (String × Json) :=
  tag "type" p.kind.name <| match p with
    | .start s => startMembers s
    | .reply r => replyMembers r
    | .achievement id operation max =>
      ("achievement", encode id) :: ("operation", encode operation) :: optional "max" max

def ofVariant (v : String) (d : Document) : Reading Payload :=
  match v with
  | "start_scenario" => gather .part ["lead_investigator"] d fun f =>
    .start <$> .main <$> f.orElse "lead_investigator" none
  | "start_side_scenario" => gather .part ["after", "lead_investigator"] d fun f =>
    .start <$> (.side <$> f.orElse "after" none <*> f.orElse "lead_investigator" none)
  | "start_custom_side_scenario" => gather .part ["name", "after", "xp_cost"] d fun f =>
    .start <$> (.custom <$> f.need "name" <*> f.orElse "after" none <*> f.orElse "xp_cost" 0)
  | "decision" => gather .part ["decision"] d fun f => .reply <$> .decision <$> f.need "decision"
  | "count" => gather .part ["count"] d fun f => .reply <$> .count <$> f.need "count"
  | "choice" => gather .part ["choice"] d fun f => .reply <$> .choice <$> f.need "choice"
  | "choice_list" => gather .part ["choices"] d fun f => .reply <$> .choiceList <$> f.need "choices"
  | "string_choices" => gather .part ["choices"] d fun f =>
    .reply <$> .stringChoices <$> f.need "choices"
  | "text" => gather .part ["text"] d fun f => .reply <$> .text <$> f.need "text"
  | "supplies" => gather .part ["supplies"] d fun f => .reply <$> .supplies <$> f.need "supplies"
  | "inter_scenario_trauma" => gather .part ["investigators"] d fun f =>
    .reply <$> .interScenarioTrauma <$> f.need "investigators"
  | "campaign_link" => gather .part ["decision"] d fun f =>
    .reply <$> .campaignLink <$> f.need "decision"
  | "achievement_op" => gather .part ["achievement", "operation", "max"] d fun f =>
    .achievement <$> f.need "achievement" <*> f.need "operation" <*> f.orElse "max" none
  | _ => .error .form

def ofDocument (o : Origin) (d : Document) : Reading Payload :=
  gatherTagged o "type" variants d ofVariant

instance : Codec Payload := ⟨fun p => .obj p.members, ofDocument⟩

end Payload

def Record.ofDocument (o : Origin) (d : Document) : Reading Record :=
  gatherInlined o ["id", "schema_version", "scenario", "step", "recorded_at"] d fun f rest =>
    Record.mk <$> f.need "id" <*> f.orElse "schema_version" currentSchema <*> f.option "scenario"
      <*> f.option "step" <*> f.afterwards (Payload.ofDocument .part rest) <*> f.need "recorded_at"

instance : Codec Record where
  encode r := .obj (("id", encode r.id) :: ("schema_version", encode r.schema)
    :: (optional "scenario" r.scenario ++ optional "step" r.step ++ r.payload.members
      ++ [("recorded_at", encode r.recordedAt)]))
  decode := Record.ofDocument

end Chronicle
