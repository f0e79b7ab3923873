import Chronicle.Difficulty
import Chronicle.Record.Basic

/-!
# Journals

A journal holds what players recorded, in the order they recorded it. Nothing is ever taken out:
undoing, redoing and resetting are marks of their own, and which records are in effect is found by
replaying the marks. Undo and redo work on one bucket, that is on the records of one scenario or
on those of the campaign as a whole.
-/

namespace Chronicle

/-- A member of the roster. Trauma up to health or sanity eliminates the investigator. -/
structure Investigator where
  id : InvestigatorId
  name : String
  health : UInt32
  sanity : UInt32
  deriving DecidableEq

/-- What is settled when a campaign is created. -/
structure Setup where
  name : String
  guide : GuideId
  guideVersion : UInt32
  difficulty : Difficulty
  investigators : List Investigator
  deriving DecidableEq

abbrev Bucket := Option ScenarioId

inductive Mark where
  | input (record : Record)
  /-- Takes the latest record of a bucket out of effect. -/
  | undo (bucket : Bucket)
  /-- Brings the record undone last in a bucket back. -/
  | redo (bucket : Bucket)
  /-- Takes the records of a scenario out of effect, operations on achievements excepted. -/
  | reset (scenario : ScenarioId)
  deriving DecidableEq

/-- A record and where in the journal it stands. -/
structure Placed where
  position : Nat
  record : Record
  deriving DecidableEq

/-- The records in effect in the order of the journal, and the undone ones that can come back, the
one undone last first. -/
structure Replay where
  length : Nat
  active : List Placed
  undone : List Placed
  deriving DecidableEq

namespace Replay

def start : Replay := ⟨0, [], []⟩

def inBucket (b : Bucket) (p : Placed) : Bool := p.record.scenario = b

/-- Puts a record back between those before it and those after it. -/
def restore (p : Placed) (active : List Placed) : List Placed :=
  active.takeWhile (·.position < p.position) ++ p :: active.dropWhile (·.position < p.position)

def input (r : Replay) (record : Record) : Replay where
  length := r.length + 1
  active := r.active ++ [⟨r.length, record⟩]
  undone := r.undone.filter (! inBucket record.scenario ·)

def undo (r : Replay) (b : Bucket) : Replay :=
  match r.active.reverse.find? (inBucket b) with
  | some p =>
    ⟨r.length + 1, (r.active.reverse.eraseP (inBucket b)).reverse, p :: r.undone⟩
  | none => { r with length := r.length + 1 }

def redo (r : Replay) (b : Bucket) : Replay :=
  match r.undone.find? (inBucket b) with
  | some p => ⟨r.length + 1, restore p r.active, r.undone.eraseP (inBucket b)⟩
  | none => { r with length := r.length + 1 }

def reset (r : Replay) (s : ScenarioId) : Replay where
  length := r.length + 1
  active := r.active.filter fun p => ! inBucket (some s) p || p.record.isCumulative
  undone := r.undone.filter (! inBucket (some s) ·)

def step (r : Replay) : Mark → Replay
  | .input record => r.input record
  | .undo b => r.undo b
  | .redo b => r.redo b
  | .reset s => r.reset s

def run (entries : List Mark) : Replay := entries.foldl step start

theorem run_concat (entries : List Mark) (m : Mark) :
    run (entries ++ [m]) = (run entries).step m := by
  simp [run]

def canUndo (r : Replay) (b : Bucket) : Bool := r.active.any (inBucket b)

def canRedo (r : Replay) (b : Bucket) : Bool := r.undone.any (inBucket b)

end Replay

structure Journal where
  setup : Setup
  entries : List Mark
  deriving DecidableEq

namespace Journal

def new (setup : Setup) : Journal := ⟨setup, []⟩

def replay (j : Journal) : Replay := Replay.run j.entries

/-- The records in effect. -/
def active (j : Journal) : List Record := j.replay.active.map (·.record)

def recordsFor (j : Journal) (b : Bucket) : List Record := j.active.filter (·.scenario = b)

def canUndo (j : Journal) (b : Bucket) : Bool := j.replay.canUndo b

def canRedo (j : Journal) (b : Bucket) : Bool := j.replay.canRedo b

def push (j : Journal) (m : Mark) : Journal := { j with entries := j.entries ++ [m] }

def append (j : Journal) (r : Record) : Journal := j.push (.input r)

/-- Undoes in a bucket, if there is anything to undo. -/
def undo? (j : Journal) (b : Bucket) : Option Journal :=
  if j.canUndo b then some (j.push (.undo b)) else none

/-- Redoes in a bucket, if anything was undone since the last record. -/
def redo? (j : Journal) (b : Bucket) : Option Journal :=
  if j.canRedo b then some (j.push (.redo b)) else none

def reset (j : Journal) (s : ScenarioId) : Journal := j.push (.reset s)

/-- The records that were ever written. -/
def inputs (j : Journal) : List Record :=
  j.entries.filterMap fun
    | .input r => some r
    | _ => none

/-- The ids that were written and of which no record is in effect, in their order. -/
def retractedIds (j : Journal) : List Uuid :=
  let active := j.active.map (·.id)
  (((j.inputs.map (·.id)).filter (· ∉ active)).eraseDups).mergeSort
    fun a b => a.value ≤ b.value

end Journal
end Chronicle
