import Chronicle.Campaign.Event
import Chronicle.Campaign.Failure

/-!
# Campaigns

A campaign is its journal, once it has been created. Every change is an event: an operation checks
whether it may be done, raises the event and lets it take effect. Events that are not stored yet
are kept beside the campaign.
-/

namespace Chronicle

/-- What marks an event as one of its own: an id, the request it belongs to and the time. -/
structure Stamp where
  event : Uuid
  correlation : Uuid
  time : Instant

/-- An event at its place in the stream of a campaign. -/
structure Raised where
  event : Event
  campaign : Uuid
  sequence : Nat
  stamp : Stamp

structure Campaign where
  id : Uuid
  /-- How many stored events the campaign has gone through. -/
  version : Nat
  journal : Option Journal
  pending : List Raised

namespace Campaign

def new (id : Uuid) : Campaign := ⟨id, 0, none, []⟩

/-- The journal after an event. Before the creation nothing else has an effect, and an undo or redo
without anything to work on has none. -/
def mutate (journal : Option Journal) : Event → Option Journal
  | .created _ setup => some (.new setup)
  | .recorded r => journal.map (·.append r)
  | .undone b => journal.map fun j => (j.undo? b).getD j
  | .redone b => journal.map fun j => (j.redo? b).getD j
  | .reset s => journal.map (·.reset s)

/-- Goes through a stored event. -/
def apply (c : Campaign) (e : Event) : Campaign :=
  { c with journal := mutate c.journal e, version := c.version + 1 }

def ofEvents (id : Uuid) (es : List Event) : Campaign := es.foldl apply (new id)

def raise (c : Campaign) (s : Stamp) (e : Event) : Campaign :=
  { c with
    journal := mutate c.journal e
    pending := c.pending ++ [⟨e, c.id, c.version + c.pending.length + 1, s⟩] }

def clear (c : Campaign) : Campaign := { c with pending := [] }

/-- The first thing wrong with a roster whose earlier members have the ids `seen`. -/
def rosterFlaw (seen : List InvestigatorId) : List Investigator → Option Rejection
  | [] => none
  | i :: rest =>
    if i.id ∈ seen then some (.listedTwice i.id)
    else if i.health = 0 ∨ i.sanity = 0 then some (.frail i.id)
    else rosterFlaw (i.id :: seen) rest

def setupFlaw (s : Setup) : Option Rejection :=
  if Text.blank s.name then some .blankName
  else if s.investigators.isEmpty then some .noInvestigators
  else rosterFlaw [] s.investigators

/-- A change to a campaign. It answers or is refused, and either way it leaves a campaign. -/
abbrev Change (α : Type) := ExceptT Failure (StateM Campaign) α

namespace Change

/-- What a change answers on a campaign, and the campaign that it leaves. -/
def on {α : Type} (x : Change α) (c : Campaign) : Except Failure α × Campaign :=
  (x.run.run c).run

def create (s : Stamp) (setup : Setup) : Change Unit := do
  let c ← get
  if c.journal.isSome then throw (.rejected (.alreadyExists c.id))
  else
    match setupFlaw setup with
    | some r => throw (.rejected r)
    | none => modify (·.raise s (.created c.id setup))

def created : Change Journal := do
  let c ← get
  match c.journal with
  | some j => return j
  | none => throw (.campaignNotFound c.id)

def record (s : Stamp) (r : Record) : Change Unit := do
  let _ ← created
  match r.flaw? with
  | some f => throw (.rejected (.record f))
  | none => modify (·.raise s (.recorded r))

/-- Raises an event if there is something for it to work on, and answers whether there was. -/
def raiseIf (s : Stamp) (can : Journal → Bool) (e : Event) : Change Bool := do
  let j ← created
  if can j then
    modify (·.raise s e)
    return true
  else return false

def undo (s : Stamp) (b : Bucket) : Change Bool := raiseIf s (·.canUndo b) (.undone b)

def redo (s : Stamp) (b : Bucket) : Change Bool := raiseIf s (·.canRedo b) (.redone b)

def reset (s : Stamp) (scenario : ScenarioId) : Change Unit := do
  let _ ← created
  modify (·.raise s (.reset scenario))

/-- What a change leaves, unless it is refused. -/
def made (x : Change Unit) (c : Campaign) : Except Failure Campaign :=
  (x.on c).1.map fun _ => (x.on c).2

/-- What a change leaves that may find nothing to do; `none` if it does not. -/
def made? (x : Change Bool) (c : Campaign) : Except Failure (Option Campaign) :=
  (x.on c).1.map fun done => if done then some (x.on c).2 else none

end Change

def create (c : Campaign) (s : Stamp) (setup : Setup) : Except Failure Campaign :=
  (Change.create s setup).made c

def record (c : Campaign) (s : Stamp) (r : Record) : Except Failure Campaign :=
  (Change.record s r).made c

def undo (c : Campaign) (s : Stamp) (b : Bucket) : Except Failure (Option Campaign) :=
  (Change.undo s b).made? c

def redo (c : Campaign) (s : Stamp) (b : Bucket) : Except Failure (Option Campaign) :=
  (Change.redo s b).made? c

def reset (c : Campaign) (s : Stamp) (scenario : ScenarioId) : Except Failure Campaign :=
  (Change.reset s scenario).made c

end Campaign
end Chronicle
