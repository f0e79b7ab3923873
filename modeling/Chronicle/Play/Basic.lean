import Chronicle.Play.Order
import Chronicle.Play.Walk

/-!
# Playing a campaign

A campaign is played from the beginning each time: first the operations on achievements, then one
scenario after the other in the order of play. The outcome depends on nothing but the guide and the
journal.
-/

namespace Chronicle

/-- What a campaign has come to. -/
structure Playthrough where
  guide : GuideId
  guideVersion : UInt32
  log : CampaignLog
  /-- The scenarios played, and then the others in the order of the guide. -/
  scenarios : List Progress
  diagnostics : List Diagnostic
  deriving DecidableEq

/-- Why a guide cannot be used for a campaign. -/
inductive Incompatibility where
  | otherGuide (campaign guide : GuideId)
  | otherVersion (guide : GuideId) (version minVersion campaignVersion : UInt32)
  deriving DecidableEq

def Incompatibility.message : Incompatibility → String
  | .otherGuide campaign guide =>
    s!"campaign uses guide {campaign}, but guide {guide} was supplied"
  | .otherVersion guide version minVersion campaignVersion =>
    s!"guide {guide} version {version.toNat} (compatible from {minVersion.toNat}) " ++
      s!"cannot replay a campaign created against version {campaignVersion.toNat}"

namespace Guide

def incompatibility? (g : Guide) (setup : Setup) : Option Incompatibility :=
  if g.id ≠ setup.guide then some (.otherGuide setup.guide g.id)
  else if ¬ g.acceptsVersion setup.guideVersion then
    some (.otherVersion g.id g.version g.minVersion setup.guideVersion)
  else none

end Guide

namespace Table

/-- The beginning of a campaign. -/
def deal (g : Guide) (setup : Setup) : Table where
  log := setup.investigators.foldl .addInvestigator
    (.new setup.difficulty (g.chaosBag setup.difficulty))
  reports := []

/-- Applies an operation on an achievement; other records change nothing here. -/
def applyOperation (g : Guide) (t : Table) (r : Record) : Table :=
  match r.payload with
  | .achievement id operation max =>
    match g.achievement? id with
    | none => t.report (.ofRecord r (.unknownAchievement id))
    | some a =>
      match t.log.applyAchievement a operation max with
      | .ok log => { t with log }
      | .error m => t.report (.ofRecord r (.achievementMismatch m))
  | _ => t

def play (g : Guide) (setup : Setup) (active : List Record) (t : Table) : Played → Table × Progress
  | .scripted s start => t.playScripted g setup active s start
  | .custom id name xpCost => t.playCustom id name xpCost

/-- Plays scenarios one after the other. -/
def playAll (g : Guide) (setup : Setup) (active : List Record) (t : Table) :
    List Played → Table × List Progress
  | [] => (t, [])
  | p :: rest =>
    let (t, progress) := t.play g setup active p
    let (t, others) := playAll g setup active t rest
    (t, progress :: others)

/-- The table when the first scenario is about to be played. -/
def prepare (g : Guide) (setup : Setup) (active : List Record) : Table :=
  let t := active.foldl (applyOperation g) (deal g setup)
  let starts := Starts.ofRecords g active
  { t with reports := t.reports ++ starts.refused ++ starts.strayAnchors g }

end Table

/-- The scenarios of the guide that are not yet in a list, in the order of the guide. -/
def Guide.unplayed (g : Guide) (done : List ScenarioId) : List Progress :=
  ((g.scenarios.map (·.id)).filter (· ∉ done)).eraseDups.map .new

/-- The outcome of the records in effect. -/
def Guide.outcome (g : Guide) (setup : Setup) (active : List Record) : Playthrough :=
  let (t, played) := (Table.prepare g setup active).playAll g setup active
    ((Starts.ofRecords g active).played g)
  { guide := g.id
    guideVersion := g.version
    log := t.log
    scenarios := played ++ g.unplayed (played.map (·.scenario))
    diagnostics := t.reports }

/-- Plays a journal with a guide. -/
def Guide.play (g : Guide) (j : Journal) : Except Incompatibility Playthrough :=
  match g.incompatibility? j.setup with
  | some i => .error i
  | none => .ok (g.outcome j.setup j.active)

end Chronicle
