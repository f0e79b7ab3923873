import Chronicle.Guide.Library
import Chronicle.Service.Store

/-!
# Commands

A command changes one campaign. It is carried out on the campaign as it is stored, and the events
it raises are appended to the stream the campaign was read from. Ids and times that the client does
not choose are taken from a supply.
-/

namespace Chronicle

/-- A source of fresh ids and of times. Each reading moves the clock on by `tick` minutes. -/
structure Supply where
  nextId : Nat
  clock : Instant
  tick : Int

namespace Supply

def id (s : Supply) : Uuid × Supply := (.ofNat s.nextId, { s with nextId := s.nextId + 1 })

def time (s : Supply) : Instant × Supply :=
  (s.clock, { s with clock := (s.clock.addMinutes? s.tick).getD s.clock })

/-- The stamp of an event. -/
def stamp (s : Supply) (correlation : Uuid) : Stamp × Supply :=
  let (event, s) := s.id
  let (time, s) := s.time
  (⟨event, correlation, time⟩, s)

/-- A value the client has chosen, or else one from the supply. -/
def choose {α : Type} (s : Supply) (chosen : Option α) (fresh : Supply → α × Supply) : α × Supply :=
  match chosen with
  | some a => (a, s)
  | none => fresh s

end Supply

inductive Command where
  | create (name : String) (guide : GuideId) (difficulty : Difficulty)
      (investigators : List Investigator)
  | record (campaign : Uuid) (scenario : Option ScenarioId) (step : Option StepId)
      (payload : Payload) (id : Option Uuid) (recordedAt : Option Instant)
  | undo (campaign : Uuid) (bucket : Bucket)
  | redo (campaign : Uuid) (bucket : Bucket)
  | reset (campaign : Uuid) (scenario : ScenarioId)

namespace Command

def typeName : Command → String
  | .create .. => "create_campaign"
  | .record .. => "record_input"
  | .undo .. => "undo_input"
  | .redo .. => "redo_input"
  | .reset .. => "reset_scenario"

/-- The campaign a command is for, unless it makes a new one. -/
def campaign? : Command → Option Uuid
  | .create .. => none
  | .record c .. | .undo c _ | .redo c _ | .reset c _ => some c

end Command

/-- The events that a command has added to a campaign. There are none if it had nothing to do. -/
structure Receipt where
  campaign : Uuid
  events : List Stored

namespace Store

/-- Stores the pending events of a campaign. -/
def persist (st : Store) (c : Campaign) : Except Failure (Receipt × Store) :=
  let events := c.pending.map (·.toStored)
  if events.isEmpty then .ok (⟨c.id, []⟩, st)
  else (st.append c.id c.version events).map fun st => (⟨c.id, events⟩, st)

/-- Stores what an operation made of a campaign. The stamp it used is spent only if it succeeded. -/
def settle (st : Store) (before after : Supply) :
    Except Failure Campaign → Except Failure (Receipt × Store) × Supply
  | .ok c => (st.persist c, after)
  | .error f => (.error f, before)

/-- As `settle`, where an operation may find nothing to do. -/
def settle? (st : Store) (before after : Supply) (c : Campaign) :
    Except Failure (Option Campaign) → Except Failure (Receipt × Store) × Supply
  | .ok (some c) => (st.persist c, after)
  | .ok none => (st.persist c, before)
  | .error f => (.error f, before)

/-- Carries a command out. A store that is not returned has not changed. -/
def handle (st : Store) (library : Library) (correlation : Uuid) (s : Supply) :
    Command → Except Failure (Receipt × Store) × Supply
  | .create name guide difficulty investigators =>
    match library.guide? guide with
    | none => (.error (.guideNotFound guide), s)
    | some g =>
      let (id, s) := s.id
      let (stamp, s') := s.stamp correlation
      st.settle s s' ((Campaign.new id).create stamp
        ⟨name, g.id, g.version, difficulty, investigators⟩)
  | .record campaign scenario step payload id recordedAt =>
    match st.campaign campaign with
    | .error f => (.error f, s)
    | .ok c =>
      let (id, s) := s.choose id (·.id)
      let (recordedAt, s) := s.choose recordedAt (·.time)
      let (stamp, s') := s.stamp correlation
      st.settle s s' (c.record stamp ⟨id, currentSchema, scenario, step, payload, recordedAt⟩)
  | .undo campaign bucket =>
    match st.campaign campaign with
    | .error f => (.error f, s)
    | .ok c =>
      let (stamp, s') := s.stamp correlation
      st.settle? s s' c (c.undo stamp bucket)
  | .redo campaign bucket =>
    match st.campaign campaign with
    | .error f => (.error f, s)
    | .ok c =>
      let (stamp, s') := s.stamp correlation
      st.settle? s s' c (c.redo stamp bucket)
  | .reset campaign scenario =>
    match st.campaign campaign with
    | .error f => (.error f, s)
    | .ok c =>
      let (stamp, s') := s.stamp correlation
      st.settle s s' (c.reset stamp scenario)

end Store
end Chronicle
