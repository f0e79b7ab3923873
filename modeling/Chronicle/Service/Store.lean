import Chronicle.Campaign.Basic

/-!
# Event stores

A store keeps the stream of events of each campaign. Events are appended under a check: whoever
appends says how far the stream went when it was read, and is refused if it has gone further since.
-/

namespace Chronicle

open Json

/-- An event as it is stored: what happened is kept as a JSON document. -/
structure Stored where
  id : Uuid
  campaign : Uuid
  typeName : String
  payload : Json
  sequence : Int
  correlation : Uuid
  causation : Uuid
  time : Instant

def Raised.toStored (r : Raised) : Stored where
  id := r.stamp.event
  campaign := r.campaign
  typeName := r.event.typeName
  payload := encode r.event
  sequence := r.sequence
  correlation := r.stamp.correlation
  causation := r.stamp.correlation
  time := r.stamp.time

/-- The streams of all campaigns. -/
abbrev Streams := Dict Uuid (List Stored)

namespace Streams

def stream (s : Streams) (id : Uuid) : List Stored := s.getD id []

/-- How far a stream goes: the number of its last event. -/
def head (es : List Stored) : Int := (es.getLast?.map (·.sequence)).getD 0

def append (s : Streams) (id : Uuid) (expected : Int) (es : List Stored) :
    Except Failure Streams :=
  let found := head (s.stream id)
  if found = expected then .ok (s.insert id (s.stream id ++ es))
  else .error (.conflict id expected found)

end Streams

/-- An append that a store was asked for. -/
structure Appended where
  campaign : Uuid
  expected : Int
  events : List Stored

inductive Store where
  | memory (streams : Streams)
  /-- Knows no campaign and forgets what is appended. -/
  | empty
  /-- Never answers. -/
  | failing
  /-- Has one stream for every campaign, and notes what it is asked to append. -/
  | recording (stream : List Stored) (appended : List Appended)

namespace Store

def load (st : Store) (id : Uuid) : Except Failure (List Stored) :=
  match st with
  | .memory streams => .ok (streams.stream id)
  | .empty => .ok []
  | .failing => .error .unavailable
  | .recording stream _ => .ok stream

def append (st : Store) (id : Uuid) (expected : Int) (es : List Stored) : Except Failure Store :=
  match st with
  | .memory streams => .memory <$> streams.append id expected es
  | .empty => .ok .empty
  | .failing => .error .unavailable
  | .recording stream appended => .ok (.recording stream (appended ++ [⟨id, expected, es⟩]))

end Store

/-- Goes through the events of a stream. -/
def Campaign.ofStored (id : Uuid) (es : List Stored) : Except Failure Campaign :=
  es.foldlM (fun c e =>
    match (Json.ofJson e.payload : Reading Event) with
    | .ok event => .ok (c.apply event)
    | .error _ => .error .undecodable) (.new id)

/-- The campaign as it is stored. One without events does not exist. -/
def Store.campaign (st : Store) (id : Uuid) : Except Failure Campaign :=
  match st.load id with
  | .error f => .error f
  | .ok es => if es.isEmpty then .error (.campaignNotFound id) else Campaign.ofStored id es

end Chronicle
