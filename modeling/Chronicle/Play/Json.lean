import Chronicle.CampaignLog.Json
import Chronicle.Play.Basic
import Chronicle.Progress.Json

/-!
# Outcomes as JSON
-/

namespace Chronicle

open Json

namespace Diagnostic

def variants : List String :=
  ["script_reference", "malformed_input", "cyclic_script", "invalid_transition"]

def members : Diagnostic → List (String × Json)
  | .script s t detail => tag "kind" "script_reference"
    [("scenario", encode s), ("step", encode t), ("detail", encode detail)]
  | .record id s t detail => tag "kind" "malformed_input"
    [("record_id", encode id), ("scenario", encode s), ("step", encode t),
      ("detail", encode detail)]
  | .cyclic s t => tag "kind" "cyclic_script" [("scenario", encode s), ("step", encode t)]
  | .transition s detail => tag "kind" "invalid_transition"
    [("scenario", encode s), ("detail", encode detail)]

def ofVariant (v : String) (d : Document) : Reading Diagnostic :=
  match v with
  | "script_reference" => gather .part ["scenario", "step", "detail"] d fun f =>
    .script <$> f.need "scenario" <*> f.need "step" <*> f.need "detail"
  | "malformed_input" => gather .part ["record_id", "scenario", "step", "detail"] d fun f =>
    .record <$> f.need "record_id" <*> f.option "scenario" <*> f.option "step" <*> f.need "detail"
  | "cyclic_script" => gather .part ["scenario", "step"] d fun f =>
    .cyclic <$> f.need "scenario" <*> f.need "step"
  | "invalid_transition" => gather .part ["scenario", "detail"] d fun f =>
    .transition <$> f.need "scenario" <*> f.need "detail"
  | _ => .error .form

def ofDocument (o : Origin) (d : Document) : Reading Diagnostic :=
  gatherTagged o "kind" variants d ofVariant

instance : Codec Diagnostic := ⟨fun d => .obj d.members, ofDocument⟩

end Diagnostic

namespace Playthrough

def members (p : Playthrough) : List (String × Json) :=
  [("guide_id", encode p.guide), ("guide_version", encode p.guideVersion),
    ("campaign_log", encode p.log), ("scenarios", encode p.scenarios),
    ("diagnostics", encode p.diagnostics)]

def ofDocument (o : Origin) (d : Document) : Reading Playthrough :=
  gather o ["guide_id", "guide_version", "campaign_log", "scenarios", "diagnostics"] d fun f =>
    Playthrough.mk <$> f.need "guide_id" <*> f.need "guide_version" <*> f.need "campaign_log"
      <*> f.need "scenarios" <*> f.need "diagnostics"

instance : Codec Playthrough := ⟨fun p => .obj p.members, ofDocument⟩

end Playthrough
end Chronicle
