import Chronicle.Json.Codec
import Chronicle.Progress.Basic

/-!
# Progress as JSON

The status of a scenario stands inside its progress.
-/

namespace Chronicle

open Json

namespace Status

def variants : List String := ["not_started", "started", "completed"]

def members : Status → List (String × Json)
  | .notStarted => tag "state" "not_started" []
  | .started pendingAt => tag "state" "started" [("pending_at", encode pendingAt)]
  | .completed r => tag "state" "completed" [("resolution", encode r)]

def ofVariant (v : String) (d : Document) : Reading Status :=
  match v with
  | "not_started" => do
    bare d
    return .notStarted
  | "started" => gather .part ["pending_at"] d fun f => .started <$> f.option "pending_at"
  | "completed" => gather .part ["resolution"] d fun f => .completed <$> f.need "resolution"
  | _ => .error .form

def ofPart (d : Document) : Reading Status :=
  gatherTagged .part "state" variants d ofVariant

end Status

def Progress.ofDocument (o : Origin) (d : Document) : Reading Progress :=
  gatherInlined o ["scenario_id", "custom_name", "answered_steps", "xp_earned"] d fun f rest =>
    Progress.mk <$> f.need "scenario_id" <*> f.option "custom_name"
      <*> f.afterwards (Status.ofPart rest) <*> f.need "answered_steps" <*> f.need "xp_earned"

instance : Codec Progress where
  encode p := .obj (("scenario_id", encode p.scenario) :: (optional "custom_name" p.customName
    ++ p.status.members
    ++ [("answered_steps", encode p.answered), ("xp_earned", encode p.xpEarned)]))
  decode := Progress.ofDocument

end Chronicle
