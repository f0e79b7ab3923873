import Chronicle.Play.Diagnostic

/-!
# The order of play

Main scenarios are played in the order of the guide, each followed by the side scenarios that were
started after it and by those started after these. Side scenarios whose anchor is not played come
last, in the order they were started.
-/

namespace Chronicle

/-- The starts of a campaign: the last record for each scenario that starts, the side scenarios
in the order of their first records, and the records refused. -/
structure Starts where
  records : Dict ScenarioId Record
  sides : List ScenarioId
  refused : List Diagnostic
  deriving DecidableEq

/-- Whether a scenario may be started in such a way, and if so whether it is a side scenario. A
custom scenario may not take the id of a scenario of the guide. -/
def Guide.admits (g : Guide) (id : ScenarioId) (s : Start) : Except RecordFault Bool :=
  match g.scenario? id, s with
  | some _, .custom .. => .error (.reusesScenario id)
  | some sc, _ => .ok sc.side
  | none, .custom .. => .ok true
  | none, _ => .error (.unknownScenario id)

namespace Starts

def none : Starts := ⟨.empty, [], []⟩

def add (g : Guide) (st : Starts) (r : Record) : Starts :=
  match r.start?, r.scenario with
  | some s, some id =>
    match g.admits id s with
    | .ok side =>
      { st with
        records := st.records.insert id r
        sides := if side ∧ id ∉ st.sides then st.sides ++ [id] else st.sides }
    | .error f => { st with refused := st.refused ++ [.ofRecord r f] }
  | _, _ => st

def ofRecords (g : Guide) (active : List Record) : Starts := active.foldl (add g) none

def start? (st : Starts) (id : ScenarioId) : Option Start :=
  (st.records.get? id).bind (·.start?)

/-- What a side scenario names to be played after. -/
def after? (st : Starts) (side : ScenarioId) : Option ScenarioId :=
  (st.start? side).bind (·.after?)

/-- Whether `after` is a scenario that `side` can be played after. -/
def isAnchor (g : Guide) (st : Starts) (side after : ScenarioId) : Bool :=
  ((g.scenario? after).isSome || st.records.contains after) && after ≠ side

/-- The side scenarios that are to be played right after a scenario. -/
def followers (g : Guide) (st : Starts) (id : ScenarioId) : List ScenarioId :=
  st.sides.filter fun side => st.after? side = some id ∧ st.isAnchor g side id

/-- A report for each side scenario that is to be played after one that does not exist. -/
def strayAnchors (g : Guide) (st : Starts) : List Diagnostic :=
  st.sides.filterMap fun side =>
    match st.records.get? side, st.after? side with
    | some r, some after =>
      if st.isAnchor g side after then Option.none else some (.ofRecord r (.unknownAnchor after))
    | _, _ => Option.none

/-- The main scenarios that are played. -/
def mains (g : Guide) (st : Starts) : List ScenarioId :=
  (g.scenarios.filter fun s => !s.side && (s.implicitStart || st.records.contains s.id)).map (·.id)

/-- Walks through `work`, putting behind each scenario its followers. A scenario is taken only
while it is in `pool`, and so only once. -/
def arrange (followers : ScenarioId → List ScenarioId) (pool : List ScenarioId) :
    List ScenarioId → List ScenarioId
  | [] => []
  | id :: work =>
    if id ∈ pool then
      id :: arrange followers (pool.erase id) (followers id ++ work)
    else arrange followers pool work
termination_by work => (pool.length, work.length)
decreasing_by
  · have := List.length_erase_of_mem ‹id ∈ pool›
    have := List.length_pos_of_mem ‹id ∈ pool›
    exact Prod.Lex.left _ _ (by omega)
  · exact Prod.Lex.right _ (by simp)

/-- The ids of the scenarios played, in the order of play. -/
def order (g : Guide) (st : Starts) : List ScenarioId :=
  let candidates := st.mains g ++ st.sides
  arrange (st.followers g) candidates.eraseDups candidates

end Starts

/-- A scenario to be played. -/
inductive Played where
  /-- One of the guide, and the record that started it. -/
  | scripted (scenario : Scenario) (start : Option Record)
  | custom (id : ScenarioId) (name : String) (xpCost : UInt32)
  deriving DecidableEq

def Played.id : Played → ScenarioId
  | .scripted s _ => s.id
  | .custom id _ _ => id

namespace Starts

def played? (g : Guide) (st : Starts) (id : ScenarioId) : Option Played :=
  match g.scenario? id with
  | some s => some (.scripted s (st.records.get? id))
  | Option.none =>
    match st.start? id with
    | some (.custom name _ xpCost) => some (.custom id name xpCost)
    | _ => Option.none

def played (g : Guide) (st : Starts) : List Played := (st.order g).filterMap (st.played? g)

end Starts
end Chronicle
