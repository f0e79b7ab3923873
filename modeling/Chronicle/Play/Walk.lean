import Chronicle.Play.Branch
import Chronicle.Play.Effect
import Chronicle.Play.Reply

/-!
# Walking through a scenario

A walk visits the steps of a scenario, each followed by the step it jumps to or by the next one. It
ends at a resolution, at a step that waits for input, or behind the last step. A walk that visits
more steps than the scenario has goes in circles, and is given up.
-/

namespace Chronicle

/-- The campaign log and the reports, while a campaign is played. -/
structure Table where
  log : CampaignLog
  reports : List Diagnostic
  deriving DecidableEq

namespace Table

def report (t : Table) (d : Diagnostic) : Table := { t with reports := t.reports ++ [d] }

/-- Reports a change of status that was refused. -/
def attempt (t : Table) (p : Progress) (r : Except TransitionError Progress) : Table × Progress :=
  match r with
  | .ok p => (t, p)
  | .error e => (t.report (.ofTransition p.scenario e), p)

end Table

/-- What a walk reads and does not change. -/
structure Script where
  guide : Guide
  active : List Record
  scenario : Scenario

/-- What a walk changes. -/
structure Walk where
  table : Table
  xp : Dict InvestigatorId UInt32
  answered : List StepId
  deriving DecidableEq

/-- How a step is left. -/
inductive Turn where
  | go (jump : Option StepId)
  | wait
  | finish (resolution : String)
  deriving DecidableEq

inductive Ending where
  | resolved (resolution : String)
  | waiting (step : StepId)
  | circling (step : StepId)
  | ranOff
  deriving DecidableEq

namespace Walk

def report (w : Walk) (d : Diagnostic) : Walk := { w with table := w.table.report d }

def scene (w : Walk) : Scene := ⟨w.table.log, w.xp⟩

def withScene (w : Walk) (s : Scene) : Walk :=
  { w with table := { w.table with log := s.log }, xp := s.xp }

variable (c : Script)

def reportScript (w : Walk) (t : Step) (f : ScriptFault) : Walk :=
  w.report (.ofScript c.scenario.id t.id f)

/-- A step with effects. If one of them fails, the walk goes on without them. -/
def doEffects (w : Walk) (t : Step) (es : List Effect) : Walk :=
  match w.scene.applyAll c.guide c.scenario.id es with
  | .ok s => w.withScene s
  | .error f => reportScript c w t f

/-- A step that asks for input, and whether there is an answer that fits. -/
def doInput (w : Walk) (t : Step) (p : Prompt) : Walk × Turn :=
  match Record.consulted c.active c.scenario.id t.id p with
  | none => (w, .wait)
  | some r =>
    match p.answer w.table.log.investigators.keys r.payload with
    | .error f => (w.report (.ofRecord r f), .wait)
    | .ok a =>
      ({ w with
          table := { w.table with log := w.table.log.take c.scenario.id t.id a }
          answered := w.answered ++ [t.id] }, .go none)

def doBranch (w : Walk) (t : Step) (cond : Condition) : Walk × Turn :=
  match w.table.log.judge c.guide c.scenario.id cond with
  | .ok (.reached _ target) => (w, .go target)
  | .ok (.waiting _) => (w, .wait)
  | .error f => (reportScript c w t f, .go none)

def visit (w : Walk) (t : Step) : Walk × Turn :=
  match t.action with
  | .story _ => (w, .go none)
  | .effects es => (doEffects c w t es, .go none)
  | .input p => doInput c w t p
  | .branch cond => doBranch c w t cond
  | .resolution r => (w, .finish r)

/-- Where the walk goes on after the step at `cursor`. A jump to a step that does not exist is
reported, and the following step is taken. -/
def follow (w : Walk) (t : Step) (cursor : Nat) (jump : Option StepId) : Walk × Nat :=
  match jump.or t.next with
  | none => (w, cursor + 1)
  | some target =>
    match c.scenario.stepIndex? target with
    | some i => (w, i)
    | none => (reportScript c w t (.unknownStep target), cursor + 1)

/-- Walks on from `cursor`, visiting at most `visits` steps. -/
def run : (visits : Nat) → (cursor : Nat) → Walk → Walk × Ending
  | visits, cursor, w =>
    match c.scenario.steps[cursor]? with
    | none => (w, .ranOff)
    | some t =>
      match visits with
      | 0 => (w, .circling t.id)
      | visits + 1 =>
        match visit c w t with
        | (w, .finish r) => (w, .resolved r)
        | (w, .wait) => (w, .waiting t.id)
        | (w, .go jump) =>
          let next := follow c w t cursor jump
          run visits next.2 next.1

end Walk

/-- The lead investigator named when the scenario was started, or else the first of the roster. -/
def Setup.lead (setup : Setup) (roster : List InvestigatorId) (requested : Option InvestigatorId) :
    Option InvestigatorId :=
  match requested with
  | some id => if id ∈ roster then some id else setup.investigators.head?.map (·.id)
  | none => setup.investigators.head?.map (·.id)

namespace Table

/-- Credits what investigators earned in a scenario. -/
def credit (l : CampaignLog) (xp : Dict InvestigatorId UInt32) : CampaignLog :=
  xp.entries.foldl (fun l e => l.modifyInvestigator e.1 (·.earn e.2)) l

/-- Names the lead investigator of a scenario that starts. -/
def seatLead (t : Table) (setup : Setup) (s : ScenarioId) (start : Option Record) : Table :=
  let roster := t.log.investigators.keys
  let requested := (start.bind (·.start?)).bind (·.lead?)
  let t := match start, requested with
    | some r, some id => if id ∈ roster then t else t.report (.ofRecord r (.unknownLead id))
    | _, _ => t
  match setup.lead roster requested with
  | some id => { t with log := { t.log with leads := t.log.leads.insert s id } }
  | none => t

/-- What a finished walk leaves behind. `before` is the campaign log from before the walk. -/
def conclude (before : CampaignLog) (p : Progress) (w : Walk) (e : Ending) : Table × Progress :=
  let p := { p with answered := w.answered }
  let t := w.table
  match e with
  | .ranOff => (t, { p with xpEarned := w.xp })
  | .waiting step =>
    let (t, p) := t.attempt p (p.await step)
    (t, { p with xpEarned := w.xp })
  | .circling step =>
    ({ log := before, reports := t.reports ++ [.cyclic p.scenario step] },
      { Progress.new p.scenario with status := .started none })
  | .resolved r =>
    let log := { t.log with resolutions := t.log.resolutions.insert p.scenario r }
    let (t, p) := { t with log := credit log w.xp }.attempt p (p.complete r)
    (t, { p with xpEarned := w.xp })

/-- Plays a scenario of the guide. -/
def playScripted (t : Table) (g : Guide) (setup : Setup) (active : List Record) (s : Scenario)
    (start : Option Record) : Table × Progress :=
  match (Progress.new s.id).start with
  | .error e => (t.report (.ofTransition s.id e), Progress.new s.id)
  | .ok p =>
    let seated := t.seatLead setup s.id start
    let (w, e) := Walk.run ⟨g, active, s⟩ s.steps.length 0 ⟨seated, .empty, []⟩
    conclude t.log p w e

/-- How a custom side scenario ends. -/
def customResolution : String := "played"

/-- Plays a custom side scenario: it ends at once, and every investigator who is not eliminated
pays for it. -/
def playCustom (t : Table) (id : ScenarioId) (name : String) (xpCost : UInt32) :
    Table × Progress :=
  let p := { Progress.new id with customName := some name }
  let (t, p) := t.attempt p p.start
  let log := { t.log with
    investigators := t.log.investigators.mapValues fun _ i =>
      if i.isEliminated then i else i.spend xpCost
    resolutions := t.log.resolutions.insert id customResolution }
  { t with log }.attempt p (p.complete customResolution)

end Table
end Chronicle
