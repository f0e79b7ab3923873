import Chronicle.CampaignLog.Basic
import Chronicle.Record.Json

/-!
# Campaign logs as JSON
-/

namespace Chronicle

open Json

def Inscription.ofDocument (o : Origin) (d : Document) : Reading Inscription :=
  gather o ["id", "crossed_out", "text"] d fun f =>
    Inscription.mk <$> f.need "id" <*> f.need "crossed_out" <*> f.orElse "text" none

instance : Codec Inscription where
  encode e := .obj (("id", encode e.id) :: ("crossed_out", encode e.crossedOut)
    :: optional "text" e.text)
  decode := Inscription.ofDocument

namespace AchievementValue

def variants : List String := ["binary", "count"]

def toJson : AchievementValue → Json
  | .binary earned => .obj (tag "type" "binary" [("value", encode earned)])
  | .count n => .obj (tag "type" "count" [("value", encode n)])

/-- The value stands in a member of its own beside the kind. -/
def ofDocument (o : Origin) (d : Document) : Reading AchievementValue := do
  let f ← fields o ["type", "value"] d
  match ← f.close (f.get "type" (decodeName variants id) (.error .form)) with
  | "binary" => f.close (.binary <$> f.need "value")
  | _ => f.close (.count <$> f.need "value")

instance : Codec AchievementValue := ⟨toJson, ofDocument⟩

end AchievementValue

def InvestigatorState.ofDocument (o : Origin) (d : Document) : Reading InvestigatorState :=
  gather o ["name", "health", "sanity", "physical", "mental", "killed", "insane", "spent_xp",
      "total_xp", "supplies"] d fun f =>
    InvestigatorState.mk <$> f.need "name" <*> f.need "health" <*> f.need "sanity"
      <*> f.need "physical" <*> f.need "mental" <*> f.need "killed" <*> f.need "insane"
      <*> f.need "spent_xp" <*> f.need "total_xp" <*> f.need "supplies"

instance : Codec InvestigatorState where
  encode i := .obj [("name", encode i.name), ("health", encode i.health),
    ("sanity", encode i.sanity), ("physical", encode i.physical), ("mental", encode i.mental),
    ("killed", encode i.killed), ("insane", encode i.insane), ("spent_xp", encode i.spentXp),
    ("total_xp", encode i.totalXp), ("supplies", encode i.supplies)]
  decode := InvestigatorState.ofDocument

namespace Answer

def variants : List String :=
  ["decision", "count", "choice", "choice_list", "string_choices", "text", "supplies",
    "inter_scenario_trauma", "campaign_link"]

def members : Answer → List (String × Json)
  | .decision yes => tag "type" "decision" [("value", encode yes)]
  | .count n => tag "type" "count" [("value", encode n)]
  | .choice index label => tag "type" "choice" [("index", encode index), ("label", encode label)]
  | .choiceList choices => tag "type" "choice_list" [("choices", encode choices)]
  | .stringChoices choices => tag "type" "string_choices" [("choices", encode choices)]
  | .text s => tag "type" "text" [("text", encode s)]
  | .supplies s => tag "type" "supplies" [("supplies", encode s)]
  | .interScenarioTrauma changes =>
    tag "type" "inter_scenario_trauma" [("investigators", encode changes)]
  | .campaignLink s => tag "type" "campaign_link" [("decision", encode s)]

def ofVariant (v : String) (d : Document) : Reading Answer :=
  match v with
  | "decision" => gather .part ["value"] d fun f => .decision <$> f.need "value"
  | "count" => gather .part ["value"] d fun f => .count <$> f.need "value"
  | "choice" => gather .part ["index", "label"] d fun f =>
    .choice <$> f.need "index" <*> f.need "label"
  | "choice_list" => gather .part ["choices"] d fun f => .choiceList <$> f.need "choices"
  | "string_choices" => gather .part ["choices"] d fun f => .stringChoices <$> f.need "choices"
  | "text" => gather .part ["text"] d fun f => .text <$> f.need "text"
  | "supplies" => gather .part ["supplies"] d fun f => .supplies <$> f.need "supplies"
  | "inter_scenario_trauma" => gather .part ["investigators"] d fun f =>
    .interScenarioTrauma <$> f.need "investigators"
  | "campaign_link" => gather .part ["decision"] d fun f => .campaignLink <$> f.need "decision"
  | _ => .error .form

def ofDocument (o : Origin) (d : Document) : Reading Answer :=
  gatherTagged o "type" variants d ofVariant

instance : Codec Answer := ⟨fun a => .obj a.members, ofDocument⟩

end Answer

def CampaignLog.ofDocument (o : Origin) (d : Document) : Reading CampaignLog :=
  gather o ["difficulty", "sections", "counts", "achievements", "investigators", "chaos_bag",
      "resolutions", "lead_investigators", "answers"] d fun f =>
    CampaignLog.mk <$> f.need "difficulty" <*> f.need "sections" <*> f.need "counts"
      <*> f.need "achievements" <*> f.need "investigators" <*> f.need "chaos_bag"
      <*> f.need "resolutions" <*> f.need "lead_investigators" <*> f.need "answers"

instance : Codec CampaignLog where
  encode l := .obj [("difficulty", encode l.difficulty), ("sections", encode l.sections),
    ("counts", encode l.counts), ("achievements", encode l.achievements),
    ("investigators", encode l.investigators), ("chaos_bag", encode l.chaosBag),
    ("resolutions", encode l.resolutions), ("lead_investigators", encode l.leads),
    ("answers", encode l.answers)]
  decode := CampaignLog.ofDocument

end Chronicle
