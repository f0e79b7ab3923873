import Chronicle.Web.Body
import Chronicle.Web.Message

/-!
# Resources

The things a path can name. A part of a path that names a campaign or a guide is kept as it was
written, still encoded.
-/

namespace Chronicle.Web

/-- What can be done to a campaign. -/
inductive Change where
  | input
  | undo
  | redo
  | reset
  deriving DecidableEq

inductive Resource where
  | health
  | guides
  | guide (id : String)
  | campaigns
  | campaign (id : String)
  | records (id : String)
  | change (id : String) (c : Change)
  deriving DecidableEq

def Change.ofName? : String → Option Change
  | "inputs" => some .input
  | "undo" => some .undo
  | "redo" => some .redo
  | "reset" => some .reset
  | _ => none

def Change.command (c : Change) (campaign : Uuid) (d : Json.Document) :
    Json.Reading Command :=
  match c with
  | .input => inputOfDocument campaign d
  | .undo => undoOfDocument campaign d
  | .redo => redoOfDocument campaign d
  | .reset => resetOfDocument campaign d

namespace Resource

/-- A resource below a thing that has an id, which cannot be empty. -/
def below (id : String) (r : Resource) : Option Resource := if id.isEmpty then none else some r

def ofPath? : List String → Option Resource
  | ["", "health"] | ["", "api", "v1", "health"] => some .health
  | ["", "api", "v1", "guides"] => some .guides
  | ["", "api", "v1", "guides", id] => below id (.guide id)
  | ["", "api", "v1", "campaigns"] => some .campaigns
  | ["", "api", "v1", "campaigns", id] => below id (.campaign id)
  | ["", "api", "v1", "campaigns", id, "records"] => below id (.records id)
  | ["", "api", "v1", "campaigns", id, name] =>
    (Change.ofName? name).bind fun c => below id (.change id c)
  | _ => none

/-- The one method a resource answers to. -/
def method : Resource → Method
  | campaigns | change .. => .post
  | _ => .get

end Resource
end Chronicle.Web
