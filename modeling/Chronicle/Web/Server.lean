import Chronicle.Service.Query
import Chronicle.Web.MediaType
import Chronicle.Web.Resource
import Chronicle.Web.Target

/-!
# The server

Answers requests one after the other. A request is refused before it is read any further when its
path names nothing, when the method is not the one for that path, when the id in the path is none,
when the body is not declared to be JSON or too long, and when the body does not read as what is
due.
-/

namespace Chronicle.Web

open Json

structure Server where
  library : Library
  store : Store
  cache : Cache
  supply : Supply

def version : String := "0.1.0"

/-! ### Documents sent -/

def scenarioSummary (s : Scenario) : Json :=
  .obj [("id", encode s.id), ("name", encode s.name), ("side", encode s.side)]

def guideSummary (v : Volume) : Json :=
  .obj [("id", encode v.guide.id), ("name", encode v.guide.name),
    ("version", encode v.guide.version), ("min_compatible_version", encode v.guide.minVersion),
    ("version_hash", encode v.fingerprint),
    ("scenarios", .arr (v.guide.scenarios.map scenarioSummary))]

def eventIds (r : Receipt) : Json := encode (r.events.map (·.id))

def created (r : Receipt) : Response :=
  .ofJson 201 (.obj [("campaign_id", encode r.campaign), ("event_ids", eventIds r)])

/-- `applied` says whether there was anything to do. -/
def changed (r : Receipt) : Response :=
  .ofJson 200 (.obj [("event_ids", eventIds r), ("applied", .bool !r.events.isEmpty)])

def ofReading {α : Type} (r : Except Failure α) (k : α → Json) : Response :=
  match r with
  | .ok a => .ofJson 200 (k a)
  | .error f => f.response

/-! ### What is read from a request -/

def idOfPath? (s : String) : Option Uuid := (pathText? s).bind Uuid.ofText?

/-- The bucket asked for, unless it is asked for more than once. -/
def bucketOfQuery? (query : List (String × String)) : Option Bucket :=
  match query.filter (·.1 = "scenario") with
  | [] => some none
  | [(_, id)] => some (some id)
  | _ => none

def Request.hasJson (r : Request) : Bool :=
  (r.contentType.bind MediaType.ofText?).any (·.isJson)

def faultStatus : Fault → Nat
  | .grammar => 400
  | .form => 422

namespace Server

/-- The most octets a body may have. -/
def bodyLimit : Nat := 2097152

/-- Carries out the command in a body. -/
def execute (s : Server) (r : Request) (read : Document → Reading Command)
    (answer : Receipt → Response) : Response × Server :=
  if !r.hasJson then (.bare 415, s)
  else if bodyLimit < r.body.utf8ByteSize then (.bare 413, s)
  else match readText read r.body with
    | .error f => (.bare (faultStatus f), s)
    | .ok command =>
      let (result, supply) := s.store.handle s.library .nil s.supply command
      match result with
      | .ok (receipt, store) => (answer receipt, { s with store, supply })
      | .error f => (f.response, { s with supply })

def respondTo (s : Server) (r : Request) (query : List (String × String)) :
    Resource → Response × Server
  | .health => (.ofJson 200 (.obj [("status", .str "ok"), ("version", .str version),
      ("guides", .int s.library.entries.length)]), s)
  | .guides => (.ofJson 200 (.arr (s.library.values.map guideSummary)), s)
  | .guide part =>
    match pathText? part with
    | none => (.bare 400, s)
    | some id =>
      match s.library.guide? id with
      | some g => (.ofJson 200 (encode g), s)
      | none => ((Failure.guideNotFound id).response, s)
  | .campaigns => s.execute r creationOfDocument created
  | .campaign part =>
    match idOfPath? part with
    | none => (.bare 400, s)
    | some id =>
      match s.store.view s.library s.cache id with
      | .ok (v, cache) => (.ofJson 200 v.toJson, { s with cache })
      | .error f => (f.response, s)
  | .records part =>
    match idOfPath? part, bucketOfQuery? query with
    | some id, some b => (ofReading (s.store.records id b) (·.toJson), s)
    | _, _ => (.bare 400, s)
  | .change part c =>
    match idOfPath? part with
    | none => (.bare 400, s)
    | some id => s.execute r (c.command id) changed

/-- Any method may be asked about anywhere. -/
def respond (s : Server) (r : Request) : Response × Server :=
  let target := Target.ofText r.target
  match r.method, Resource.ofPath? target.path with
  | .options, _ => (.bare 200, s)
  | _, none => (.bare 404, s)
  | m, some resource =>
    if m = resource.method then s.respondTo r target.query resource
    else if m = .head ∧ resource.method = .get then
      let (response, s) := s.respondTo r target.query resource
      (response.withoutBody, s)
    else (.bare 405, s)

end Server
end Chronicle.Web
