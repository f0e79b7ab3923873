import Chronicle.Guide.Basic

/-!
# Guides as JSON documents

The written form of a guide lists the fields of each record in a fixed order. A step and what it
does are one object, and so are a branch's test and its routes, and an achievement and its kind.
-/

namespace Chronicle

open Json

/-! ### Operands, verdicts and enumerations -/

def Operand.toJson : Operand → Json
  | .literal n => encode n
  | .counted step => .obj [("input_step", encode step)]

/-- An operand is told from its form: a number, or a map that names a step. -/
def Operand.ofPart : Document → Reading Operand
  | .map members => gather .part ["input_step"] (.map members) fun f =>
    .counted <$> f.need "input_step"
  | d => .literal <$> decode .part d

instance : Codec Operand := ⟨Operand.toJson, fun o d => do
  late (Operand.ofPart (← putAside o d))⟩

def Verdict.toJson : Verdict → Json
  | .flag b => encode b
  | .label l => encode l

def Verdict.ofDocument : Document → Reading Verdict
  | .bool b => .ok (.flag b)
  | .text (some s) => .ok (.label s)
  | d => .error d.misfit

instance : Codec Verdict := ⟨Verdict.toJson, fun _ => Verdict.ofDocument⟩

def CountOperation.all : List CountOperation := [.set, .add, .subtract]

def CountOperation.name : CountOperation → String
  | .set => "set"
  | .add => "add"
  | .subtract => "subtract"

instance : Codec CountOperation where
  encode c := .str c.name
  decode := decodeName CountOperation.all CountOperation.name

def AchievementOperation.all : List AchievementOperation := [.set, .clear, .inc, .dec]

def AchievementOperation.name : AchievementOperation → String
  | .set => "set"
  | .clear => "clear"
  | .inc => "inc"
  | .dec => "dec"

instance : Codec AchievementOperation where
  encode c := .str c.name
  decode := decodeName AchievementOperation.all AchievementOperation.name

def Whom.everyone : List Whom := [.lead, .all]

def Whom.name : Whom → String
  | .lead => "lead_investigator"
  | .all => "all"

instance : Codec Whom where
  encode w := .str w.name
  decode := decodeName Whom.everyone Whom.name

def Comparison.all : List Comparison := [.atLeast, .atMost, .equals]

def Comparison.name : Comparison → String
  | .atLeast => "at_least"
  | .atMost => "at_most"
  | .equals => "equals"

instance : Codec Comparison where
  encode c := .str c.name
  decode := decodeName Comparison.all Comparison.name

/-! ### Effects -/

namespace Effect

def variants : List String :=
  ["campaign_log", "freeform_campaign_log", "campaign_log_cards", "campaign_log_count", "trauma",
    "earn_xp", "chaos_bag", "achievement", "supplies"]

def members : Effect → List (String × Json)
  | .record s id crossOut => tag "type" "campaign_log"
    [("section", encode s), ("id", encode id), ("cross_out", encode crossOut)]
  | .recordText s source => tag "type" "freeform_campaign_log"
    [("section", encode s), ("input_step", encode source)]
  | .recordCards s source => tag "type" "campaign_log_cards"
    [("section", encode s), ("input_step", encode source)]
  | .count counter operation value => tag "type" "campaign_log_count"
    [("counter", encode counter), ("operation", encode operation), ("value", encode value)]
  | .trauma whom physical mental killed insane => tag "type" "trauma"
    [("investigator", encode whom), ("physical", encode physical), ("mental", encode mental),
      ("killed", encode killed), ("insane", encode insane)]
  | .earnXp whom amount => tag "type" "earn_xp"
    [("investigator", encode whom), ("amount", encode amount)]
  | .chaosBag tokens => tag "type" "chaos_bag" [("tokens", encode tokens)]
  | .achievement id operation => tag "type" "achievement"
    [("id", encode id), ("operation", encode operation)]
  | .supplies whom supply n => tag "type" "supplies"
    [("investigator", encode whom), ("supply", encode supply), ("count", encode n)]

def ofVariant (v : String) (d : Document) : Reading Effect :=
  match v with
  | "campaign_log" => gather .part ["section", "id", "cross_out"] d fun f =>
    .record <$> f.need "section" <*> f.orElse "id" none <*> f.orElse "cross_out" false
  | "freeform_campaign_log" => gather .part ["section", "input_step"] d fun f =>
    .recordText <$> f.need "section" <*> f.need "input_step"
  | "campaign_log_cards" => gather .part ["section", "input_step"] d fun f =>
    .recordCards <$> f.need "section" <*> f.need "input_step"
  | "campaign_log_count" => gather .part ["counter", "operation", "value"] d fun f =>
    .count <$> f.need "counter" <*> f.need "operation" <*> f.need "value"
  | "trauma" => gather .part ["investigator", "physical", "mental", "killed", "insane"] d fun f =>
    .trauma <$> f.need "investigator" <*> f.orElse "physical" 0 <*> f.orElse "mental" 0
      <*> f.orElse "killed" false <*> f.orElse "insane" false
  | "earn_xp" => gather .part ["investigator", "amount"] d fun f =>
    .earnXp <$> f.need "investigator" <*> f.need "amount"
  | "chaos_bag" => gather .part ["tokens"] d fun f => .chaosBag <$> f.need "tokens"
  | "achievement" => gather .part ["id", "operation"] d fun f =>
    .achievement <$> f.need "id" <*> f.need "operation"
  | "supplies" => gather .part ["investigator", "supply", "count"] d fun f =>
    .supplies <$> f.need "investigator" <*> f.need "supply" <*> f.need "count"
  | _ => .error .form

def ofDocument (o : Origin) (d : Document) : Reading Effect :=
  gatherTagged o "type" variants d ofVariant

instance : Codec Effect := ⟨fun e => .obj e.members, ofDocument⟩

end Effect

/-! ### Conditions -/

namespace Test

def variants : List String :=
  ["trauma", "campaign_log", "campaign_log_count", "decision", "choice", "achievement"]

def members : Test → List (String × Json)
  | .eliminated whom => tag "type" "trauma" [("investigator", encode whom)]
  | .recorded s id => tag "type" "campaign_log" [("section", encode s), ("id", encode id)]
  | .count counter comparison value => tag "type" "campaign_log_count"
    [("counter", encode counter), ("comparison", encode comparison), ("value", encode value)]
  | .decision step => tag "type" "decision" [("step", encode step)]
  | .choice step => tag "type" "choice" [("step", encode step)]
  | .achieved id => tag "type" "achievement" [("id", encode id)]

def ofVariant (v : String) (d : Document) : Reading Test :=
  match v with
  | "trauma" => gather .part ["investigator"] d fun f => .eliminated <$> f.need "investigator"
  | "campaign_log" => gather .part ["section", "id"] d fun f =>
    .recorded <$> f.need "section" <*> f.need "id"
  | "campaign_log_count" => gather .part ["counter", "comparison", "value"] d fun f =>
    .count <$> f.need "counter" <*> f.need "comparison" <*> f.need "value"
  | "decision" => gather .part ["step"] d fun f => .decision <$> f.need "step"
  | "choice" => gather .part ["step"] d fun f => .choice <$> f.need "step"
  | "achievement" => gather .part ["id"] d fun f => .achieved <$> f.need "id"
  | _ => .error .form

def ofPart (d : Document) : Reading Test :=
  gatherTagged .part "type" variants d ofVariant

end Test

def Route.ofDocument (o : Origin) (d : Document) : Reading Route :=
  gather o ["when", "goto"] d fun f =>
    Route.mk <$> f.need "when" <*> f.need "goto"

instance : Codec Route where
  encode r := .obj [("when", encode r.verdict), ("goto", encode r.target)]
  decode := Route.ofDocument

def Condition.ofDocument (o : Origin) (d : Document) : Reading Condition :=
  gatherInlined o ["options"] d fun f rest =>
    Condition.mk <$> f.afterwards (Test.ofPart rest) <*> f.orElse "options" []

instance : Codec Condition where
  encode c := .obj (c.test.members ++ [("options", encode c.routes)])
  decode := Condition.ofDocument

/-! ### Prompts -/

namespace Prompt

def variants : List String :=
  ["decision", "count", "choice", "choice_list", "string_choices", "text", "supplies",
    "inter_scenario_trauma", "campaign_link"]

def members : Prompt → List (String × Json)
  | .decision => tag "kind" "decision" []
  | .count min max => tag "kind" "count" [("min", encode min), ("max", encode max)]
  | .choice options => tag "kind" "choice" [("options", encode options)]
  | .choiceList options => tag "kind" "choice_list" [("options", encode options)]
  | .stringChoices options => tag "kind" "string_choices" [("options", encode options)]
  | .text => tag "kind" "text" []
  | .supplies names => tag "kind" "supplies" [("supplies", encode names)]
  | .interScenarioTrauma => tag "kind" "inter_scenario_trauma" []
  | .campaignLink => tag "kind" "campaign_link" []

def ofVariant (v : String) (d : Document) : Reading Prompt :=
  match v with
  | "decision" => do
    bare d
    return .decision
  | "count" => gather .part ["min", "max"] d fun f =>
    .count <$> f.orElse "min" 0 <*> f.orElse "max" none
  | "choice" => gather .part ["options"] d fun f => .choice <$> f.need "options"
  | "choice_list" => gather .part ["options"] d fun f => .choiceList <$> f.need "options"
  | "string_choices" => gather .part ["options"] d fun f => .stringChoices <$> f.need "options"
  | "text" => do
    bare d
    return .text
  | "supplies" => gather .part ["supplies"] d fun f => .supplies <$> f.need "supplies"
  | "inter_scenario_trauma" => do
    bare d
    return .interScenarioTrauma
  | "campaign_link" => do
    bare d
    return .campaignLink
  | _ => .error .form

def ofDocument (o : Origin) (d : Document) : Reading Prompt :=
  gatherTagged o "kind" variants d ofVariant

instance : Codec Prompt := ⟨fun p => .obj p.members, ofDocument⟩

end Prompt

/-! ### Steps and scenarios -/

namespace Action

def variants : List String := ["story", "effects", "branch", "input", "resolution"]

def members : Action → List (String × Json)
  | .story text => tag "type" "story" [("text", encode text)]
  | .effects es => tag "type" "effects" [("effects", encode es)]
  | .branch condition => tag "type" "branch" [("condition", encode condition)]
  | .input prompt => tag "type" "input" [("prompt", encode prompt)]
  | .resolution r => tag "type" "resolution" [("resolution", encode r)]

def ofVariant (v : String) (d : Document) : Reading Action :=
  match v with
  | "story" => gather .part ["text"] d fun f => .story <$> f.need "text"
  | "effects" => gather .part ["effects"] d fun f => .effects <$> f.need "effects"
  | "branch" => gather .part ["condition"] d fun f => .branch <$> f.need "condition"
  | "input" => gather .part ["prompt"] d fun f => .input <$> f.need "prompt"
  | "resolution" => gather .part ["resolution"] d fun f => .resolution <$> f.need "resolution"
  | _ => .error .form

def ofPart (d : Document) : Reading Action :=
  gatherTagged .part "type" variants d ofVariant

end Action

def Step.ofDocument (o : Origin) (d : Document) : Reading Step :=
  gatherInlined o ["id", "next"] d fun f rest =>
    Step.mk <$> f.need "id" <*> f.option "next" <*> f.afterwards (Action.ofPart rest)

instance : Codec Step where
  encode s := .obj (("id", encode s.id) :: (optional "next" s.next ++ s.action.members))
  decode := Step.ofDocument

def Scenario.ofDocument (o : Origin) (d : Document) : Reading Scenario :=
  gather o ["id", "name", "side", "implicit_start", "steps"] d fun f =>
    Scenario.mk <$> f.need "id" <*> f.need "name" <*> f.orElse "side" false
      <*> f.orElse "implicit_start" false <*> f.need "steps"

instance : Codec Scenario where
  encode s := .obj [("id", encode s.id), ("name", encode s.name), ("side", encode s.side),
    ("implicit_start", encode s.implicitStart), ("steps", encode s.steps)]
  decode := Scenario.ofDocument

/-! ### Sections, achievements and guides -/

def LogEntry.ofDocument (o : Origin) (d : Document) : Reading LogEntry :=
  gather o ["id", "text"] d fun f =>
    LogEntry.mk <$> f.need "id" <*> f.need "text"

instance : Codec LogEntry where
  encode e := .obj [("id", encode e.id), ("text", encode e.text)]
  decode := LogEntry.ofDocument

def LogSection.ofDocument (o : Origin) (d : Document) : Reading LogSection :=
  gather o ["id", "title", "entries", "freeform"] d fun f =>
    LogSection.mk <$> f.need "id" <*> f.need "title" <*> f.orElse "entries" []
      <*> f.orElse "freeform" false

instance : Codec LogSection where
  encode s := .obj [("id", encode s.id), ("title", encode s.title), ("entries", encode s.entries),
    ("freeform", encode s.freeform)]
  decode := LogSection.ofDocument

namespace AchievementKind

def variants : List String := ["binary", "count"]

def members : AchievementKind → List (String × Json)
  | .binary => tag "type" "binary" []
  | .count max => tag "type" "count" [("max", encode max)]

def ofVariant (v : String) (d : Document) : Reading AchievementKind :=
  match v with
  | "binary" => do
    bare d
    return .binary
  | "count" => gather .part ["max"] d fun f => .count <$> f.orElse "max" none
  | _ => .error .form

def ofPart (d : Document) : Reading AchievementKind :=
  gatherTagged .part "type" variants d ofVariant

end AchievementKind

def Achievement.ofDocument (o : Origin) (d : Document) : Reading Achievement :=
  gatherInlined o ["id", "title"] d fun f rest =>
    Achievement.mk <$> f.need "id" <*> f.need "title"
      <*> f.afterwards (AchievementKind.ofPart rest)

instance : Codec Achievement where
  encode a := .obj (("id", encode a.id) :: ("title", encode a.title) :: a.kind.members)
  decode := Achievement.ofDocument

def Guide.ofDocument (o : Origin) (d : Document) : Reading Guide :=
  gather o ["id", "name", "version", "min_compatible_version", "scenarios", "log_sections",
      "achievements", "chaos_bags"] d fun f =>
    Guide.mk <$> f.need "id" <*> f.need "name" <*> f.need "version"
      <*> f.orElse "min_compatible_version" 0 <*> f.need "scenarios" <*> f.orElse "log_sections" []
      <*> f.orElse "achievements" [] <*> f.orElse "chaos_bags" .empty

instance : Codec Guide where
  encode g := .obj [("id", encode g.id), ("name", encode g.name), ("version", encode g.version),
    ("min_compatible_version", encode g.minVersion), ("scenarios", encode g.scenarios),
    ("log_sections", encode g.sections), ("achievements", encode g.achievements),
    ("chaos_bags", encode g.chaosBags)]
  decode := Guide.ofDocument

end Chronicle
