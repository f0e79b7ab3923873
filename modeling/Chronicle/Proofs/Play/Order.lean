import Chronicle.Play.Basic
import Chronicle.Proofs.Play.Arrange
import Chronicle.Proofs.Play.Starts
import Chronicle.Sample.Evening
import Chronicle.Sample.NightOfTheZealot
import Mathlib.Data.List.Nodup
import Mathlib.Data.List.Permutation

/-!
# The order of play

The candidates are the main scenarios that are played and then the side scenarios that are started.
All of them are played, each once, and a playthrough lists them in the order in which they are
walked through, before the scenarios that are not played.
-/

namespace Chronicle

/-- Of things with different ids the one with the id of `a` is `a`. -/
theorem find?_eq_some_of_nodup {α β : Type} [DecidableEq β] {id : α → β} {l : List α}
    (hids : (l.map id).Nodup) {a : α} (ha : a ∈ l) : l.find? (id · = id a) = some a := by
  cases hf : l.find? (id · = id a) with
  | none => simpa using List.find?_eq_none.mp hf a ha
  | some b =>
      have hid : id b = id a := by simpa using List.find?_some hf
      rw [List.inj_on_of_nodup_map hids (List.mem_of_find?_eq_some hf) ha hid]

namespace Guide

/-- The ids of the scenarios that are played, in the order in which they are. -/
def playOrder (g : Guide) (active : List Record) : List ScenarioId :=
  ((Starts.ofRecords g active).played g).map Played.id

variable {g : Guide} {active : List Record}

theorem scenario?_eq_some_of_mem (hids : (g.scenarios.map (·.id)).Nodup) {s : Scenario}
    (hs : s ∈ g.scenarios) : g.scenario? s.id = some s :=
  find?_eq_some_of_nodup hids hs

theorem id_of_scenario?_eq_some {id : ScenarioId} {s : Scenario} (h : g.scenario? id = some s) :
    s.id = id := by
  simpa using List.find?_some h

theorem isSide_of_mem_sidesStarted {id : ScenarioId} (h : id ∈ g.sidesStarted active) :
    g.isSide id = true := by
  rw [sidesStarted, List.mem_eraseDups, List.mem_filterMap] at h
  obtain ⟨r, -, hr⟩ := h
  simp only [sideOf?, Option.filter_eq_some_iff, Bool.and_eq_true] at hr
  exact hr.2.2

theorem isSome_startRecord?_of_mem_sidesStarted {id : ScenarioId}
    (h : id ∈ g.sidesStarted active) : (g.startRecord? active id).isSome = true := by
  rw [sidesStarted, List.mem_eraseDups, List.mem_filterMap] at h
  obtain ⟨r, hmem, hr⟩ := h
  simp only [sideOf?, Option.filter_eq_some_iff, Bool.and_eq_true] at hr
  have hstart : r ∈ active.filter (g.allowsStart · id) := List.mem_filter.mpr ⟨hmem, hr.2.1⟩
  rw [startRecord?, List.getLast?_isSome]
  exact List.ne_nil_of_mem hstart

end Guide

namespace Starts

variable {g : Guide} {active : List Record}

theorem mem_mains_iff (hids : (g.scenarios.map (·.id)).Nodup) {id : ScenarioId} {st : Starts} :
    id ∈ st.mains g ↔
      g.isSide id = false ∧ ∃ s, g.scenario? id = some s ∧
        (s.implicitStart = true ∨ st.records.contains id = true) := by
  simp only [mains, List.mem_map, List.mem_filter, Bool.and_eq_true, Bool.not_eq_true',
    Bool.or_eq_true]
  constructor
  · rintro ⟨s, ⟨hs, hside, hstart⟩, rfl⟩
    have hfind := Guide.scenario?_eq_some_of_mem hids hs
    exact ⟨by simp [Guide.isSide, hfind, hside], s, hfind, hstart⟩
  · rintro ⟨hside, s, hfind, hstart⟩
    have hid := Guide.id_of_scenario?_eq_some hfind
    refine ⟨s, ⟨List.mem_of_find?_eq_some hfind, ?_, by rwa [hid]⟩, hid⟩
    simpa [Guide.isSide, hfind] using hside

/-! ## The order of play -/

/-- What the order of play is made of: the main scenarios that are played and then the side
scenarios that are started. -/
def candidates (g : Guide) (st : Starts) : List ScenarioId := st.mains g ++ st.sides

theorem order_eq (st : Starts) :
    st.order g = arrange (st.followers g) (st.candidates g).eraseDups (st.candidates g) := rfl

theorem mem_order_iff {st : Starts} {id : ScenarioId} :
    id ∈ st.order g ↔ id ∈ st.candidates g := by
  rw [order_eq]
  constructor
  · intro h
    exact List.mem_eraseDups.mp (mem_pool_of_mem_arrange h)
  · intro h
    exact mem_arrange h (List.mem_eraseDups.mpr h)

theorem nodup_order (st : Starts) : (st.order g).Nodup :=
  nodup_arrange (nodup_eraseDups _)

theorem played?_eq_some_of_mem_order {id : ScenarioId}
    (h : id ∈ (ofRecords g active).order g) :
    ((ofRecords g active).played? g id).map Played.id = some id := by
  unfold played?
  cases hs : g.scenario? id with
  | some s => simp [Played.id, Guide.id_of_scenario?_eq_some hs]
  | none =>
      rw [mem_order_iff, candidates, List.mem_append, sides_ofRecords] at h
      rcases h with h | h
      · obtain ⟨s, hs', rfl⟩ := List.mem_map.mp h
        have hnone := List.find?_eq_none.mp hs s (List.mem_of_mem_filter hs')
        simp at hnone
      · obtain ⟨r, hr⟩ := Option.isSome_iff_exists.mp
          (Guide.isSome_startRecord?_of_mem_sidesStarted h)
        have hallow : g.allowsStart r id = true :=
          (List.mem_filter.mp (List.mem_of_getLast? hr)).2
        -- The guide does not have the scenario, so it is a custom one that the record starts.
        obtain ⟨name, after, cost, hstart⟩ : ∃ name after cost,
            r.start? = some (.custom name after cost) := by
          unfold Guide.allowsStart at hallow
          rcases hk : r.start? with _ | _ | _ | _ <;> simp_all [Start.kind]
        simp [start?, get?_records_ofRecords, hr, hstart, Played.id]

/-- What is played is a scenario of the guide, or a custom one by the record that starts it. -/
theorem played_cases {st : Starts} {p : Played} (h : p ∈ st.played g) :
    (∃ s, g.scenario? s.id = some s ∧ p = .scripted s (st.records.get? s.id)) ∨
      ∃ id r name after cost, g.scenario? id = Option.none ∧ st.records.get? id = some r ∧
        r.payload = .start (.custom name after cost) ∧ p = .custom id name cost := by
  obtain ⟨id, -, hplayed⟩ := List.mem_filterMap.mp h
  unfold played? at hplayed
  split at hplayed
  next s hs =>
      cases hplayed
      obtain rfl := Guide.id_of_scenario?_eq_some hs
      exact Or.inl ⟨s, hs, rfl⟩
  next hnone =>
      split at hplayed <;> cases hplayed
      next name after cost hstart =>
          obtain ⟨r, hr, hstart⟩ := Option.bind_eq_some_iff.mp hstart
          refine Or.inr ⟨id, r, name, after, cost, hnone, hr, ?_, rfl⟩
          unfold Record.start? at hstart
          split at hstart <;> cases hstart
          assumption

end Starts

namespace Guide

variable {g : Guide} {active : List Record}

theorem playOrder_eq : g.playOrder active = (Starts.ofRecords g active).order g := by
  unfold playOrder Starts.played
  rw [List.map_filterMap]
  refine (List.filterMap_congr fun id hid => ?_).trans List.filterMap_some
  exact Starts.played?_eq_some_of_mem_order hid

/-- The main scenarios that are played and the side scenarios that are started make up the order of
play. -/
theorem mem_playOrder_iff {id : ScenarioId} :
    id ∈ g.playOrder active ↔
      id ∈ (Starts.ofRecords g active).mains g ∨ id ∈ g.sidesStarted active := by
  rw [playOrder_eq, Starts.mem_order_iff, Starts.candidates, List.mem_append,
    Starts.sides_ofRecords]

theorem nodup_playOrder : (g.playOrder active).Nodup := by
  rw [playOrder_eq]
  exact Starts.nodup_order _

end Guide

namespace Table

theorem scenario_attempt (t : Table) (p : Progress) (s : Status) :
    (t.attempt p (p.advance s)).2.scenario = p.scenario := by
  unfold attempt Progress.advance
  cases p.status <;> rfl

theorem scenario_conclude (before : CampaignLog) (p : Progress) (w : Walk) (e : Ending) :
    (conclude before p w e).2.scenario = p.scenario := by
  cases e with
  | ranOff => rfl
  | waiting step => exact scenario_attempt _ { p with answered := w.answered } _
  | circling step => rfl
  | resolved r => exact scenario_attempt _ { p with answered := w.answered } _

theorem scenario_play (g : Guide) (setup : Setup) (active : List Record) (t : Table) (p : Played) :
    (t.play g setup active p).2.scenario = p.id := by
  cases p with
  | scripted s start => exact scenario_conclude _ _ _ _
  | custom id name xpCost => rfl

/-- Scenarios are walked through in the order in which they are given. -/
theorem scenarios_playAll (g : Guide) (setup : Setup) (active : List Record) (t : Table)
    (ps : List Played) :
    (t.playAll g setup active ps).2.map (·.scenario) = ps.map Played.id := by
  induction ps generalizing t with
  | nil => rfl
  | cons p rest ih =>
      simp only [playAll, List.map_cons, scenario_play]
      rw [ih]

end Table

/-- The ids of the scenarios of a playthrough. -/
def Playthrough.order (p : Playthrough) : List ScenarioId := p.scenarios.map (·.scenario)

namespace Guide

variable (g : Guide) (setup : Setup) (active : List Record)

/-- The progress of the scenarios that are played. -/
def walked : List Progress :=
  ((Table.prepare g setup active).playAll g setup active ((Starts.ofRecords g active).played g)).2

theorem map_scenario_walked : (g.walked setup active).map (·.scenario) = g.playOrder active :=
  Table.scenarios_playAll ..

theorem scenarios_outcome :
    (g.outcome setup active).scenarios =
      g.walked setup active ++ g.unplayed (g.playOrder active) := by
  rw [← g.map_scenario_walked setup active]
  rfl

theorem order_outcome :
    (g.outcome setup active).order =
      g.playOrder active ++ (g.unplayed (g.playOrder active)).map (·.scenario) := by
  rw [Playthrough.order, scenarios_outcome, List.map_append, map_scenario_walked]

/-- What comes of playing some scenarios one after the other. -/
def outcomeOf (ps : List Played) : Playthrough :=
  let (t, played) := (Table.prepare g setup active).playAll g setup active ps
  { guide := g.id
    guideVersion := g.version
    log := t.log
    scenarios := played ++ g.unplayed (played.map (·.scenario))
    diagnostics := t.reports }

theorem outcome_eq_outcomeOf :
    g.outcome setup active = g.outcomeOf setup active ((Starts.ofRecords g active).played g) :=
  rfl

variable {g}

/-- A guide that can play a journal plays what is in effect in it. -/
theorem play_eq_ok_iff {j : Journal} {p : Playthrough} :
    g.play j = .ok p ↔ g.incompatibility? j.setup = none ∧ p = g.outcome j.setup j.active := by
  unfold play
  cases g.incompatibility? j.setup with
  | some i => simp
  | none => simp [eq_comm]

theorem order_of_play {j : Journal} {p : Playthrough} (h : g.play j = .ok p) :
    ∃ unplayed, p.order = g.playOrder j.active ++ unplayed := by
  rw [(play_eq_ok_iff.mp h).2]
  exact ⟨_, g.order_outcome j.setup j.active⟩

end Guide

namespace Sample

/-- If nothing but the gathering is started, it is played after the prologue. -/
theorem played_of_started {active : List Record}
    (h : active.filter (·.kind.isStart) = [started]) :
    (Starts.ofRecords nightOfTheZealot active).played nightOfTheZealot =
      [.scripted prologue none, .scripted gathering (some started)] := by
  rw [← Starts.ofRecords_filter_isStart, h]
  cbv

theorem outcome_of_started (setup : Setup) {active : List Record}
    (h : active.filter (·.kind.isStart) = [started]) :
    nightOfTheZealot.outcome setup active = nightOfTheZealot.outcomeOf setup active
      [.scripted prologue none, .scripted gathering (some started)] := by
  rw [Guide.outcome_eq_outcomeOf, played_of_started h]

end Sample
end Chronicle
