import Chronicle.Play.Json
import Chronicle.Service.Command

/-!
# Queries

A campaign is played anew whenever it is asked for, unless the last outcome still holds: it was
computed for the same number of events and with the same guide.
-/

namespace Chronicle

open Json

/-- An outcome, and what it was computed from. -/
structure Cached where
  version : Nat
  fingerprint : String
  playthrough : Playthrough

/-- The last outcome of each campaign. -/
abbrev Cache := Dict Uuid Cached

namespace Cache

def find (c : Cache) (id : Uuid) (version : Nat) (fingerprint : String) : Option Playthrough :=
  match c.get? id with
  | some e => if e.version = version ∧ e.fingerprint = fingerprint then some e.playthrough else none
  | none => none

def store (c : Cache) (id : Uuid) (version : Nat) (fingerprint : String) (p : Playthrough) :
    Cache :=
  c.insert id ⟨version, fingerprint, p⟩

end Cache

/-- What a campaign has come to, as shown to its players. -/
structure CampaignView where
  campaign : Uuid
  name : String
  difficulty : Difficulty
  version : Nat
  fingerprint : String
  playthrough : Playthrough

def CampaignView.toJson (v : CampaignView) : Json :=
  .obj ([("campaign_id", encode v.campaign), ("name", encode v.name),
    ("difficulty", encode v.difficulty), ("version", .int v.version),
    ("guide_hash", encode v.fingerprint)] ++ v.playthrough.members)

/-- The records in effect in one bucket. -/
structure RecordsView where
  campaign : Uuid
  bucket : Bucket
  records : List Record
  canUndo : Bool
  canRedo : Bool
  version : Nat

def RecordsView.toJson (v : RecordsView) : Json :=
  .obj [("campaign_id", encode v.campaign), ("scenario", encode v.bucket),
    ("records", encode v.records), ("can_undo", encode v.canUndo), ("can_redo", encode v.canRedo),
    ("version", .int v.version)]

namespace Store

/-- A stored campaign and its journal. -/
def journal (st : Store) (id : Uuid) : Except Failure (Campaign × Journal) :=
  match st.campaign id with
  | .error f => .error f
  | .ok c =>
    match c.journal with
    | some j => .ok (c, j)
    | none => .error (.campaignNotFound id)

/-- The outcome of a journal, from the cache if it is there. -/
def outcome (cache : Cache) (id : Uuid) (version : Nat) (v : Volume) (j : Journal) :
    Except Failure (Playthrough × Cache) :=
  match cache.find id version v.fingerprint with
  | some p => .ok (p, cache)
  | none =>
    match v.guide.play j with
    | .ok p => .ok (p, cache.store id version v.fingerprint p)
    | .error i => .error (.incompatible i)

def view (st : Store) (library : Library) (cache : Cache) (id : Uuid) :
    Except Failure (CampaignView × Cache) := do
  let (c, j) ← st.journal id
  match library.get? j.setup.guide with
  | none => throw (.guideNotFound j.setup.guide)
  | some v =>
    let (p, cache) ← outcome cache id c.version v j
    return (⟨id, j.setup.name, j.setup.difficulty, c.version, v.fingerprint, p⟩, cache)

def records (st : Store) (id : Uuid) (b : Bucket) : Except Failure RecordsView := do
  let (c, j) ← st.journal id
  return ⟨id, b, j.recordsFor b, j.canUndo b, j.canRedo b, c.version⟩

end Store
end Chronicle
