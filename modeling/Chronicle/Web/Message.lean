import Chronicle.Campaign.Failure
import Chronicle.Json.Codec

/-!
# Requests and responses
-/

namespace Chronicle.Web

open Json

inductive Method where
  | get
  /-- As `get`, but only the head of the response is sent. -/
  | head
  | post
  | options
  | other (name : String)
  deriving DecidableEq

def Method.ofText : String → Method
  | "GET" => .get
  | "HEAD" => .head
  | "POST" => .post
  | "OPTIONS" => .options
  | name => .other name

structure Request where
  method : Method
  target : String
  contentType : Option String
  body : String

structure Response where
  status : Nat
  /-- Only JSON documents are sent. -/
  body : Option Json

namespace Response

def ofJson (status : Nat) (j : Json) : Response := ⟨status, some j⟩

def bare (status : Nat) : Response := ⟨status, none⟩

def withoutBody (r : Response) : Response := { r with body := none }

end Response
end Chronicle.Web

namespace Chronicle.Failure

def status : Failure → Nat
  | campaignNotFound _ | guideNotFound _ => 404
  | incompatible _ | conflict .. => 409
  | rejected _ => 400
  | unavailable | undecodable => 500

/-- The name by which a client knows a failure. -/
def code : Failure → String
  | campaignNotFound _ => "campaign_not_found"
  | guideNotFound _ => "guide_not_found"
  | incompatible _ => "incompatible_guide"
  | conflict .. => "concurrency_conflict"
  | rejected _ => "validation_error"
  | unavailable | undecodable => "infrastructure_error"

def response (f : Failure) : Web.Response :=
  .ofJson f.status (.obj [("error", .str f.code), ("message", .str f.message)])

end Chronicle.Failure
