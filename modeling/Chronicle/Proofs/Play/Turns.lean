import Chronicle.Proofs.Play.Causality
import Chronicle.Proofs.Play.Reports

/-!
# The turn of a scenario

A scenario has one turn in the order of play. What a playthrough says of it is what its turn has
left behind, and what was reported before makes no difference to that.
-/

namespace Chronicle

namespace Table

variable {g : Guide} {setup : Setup} {active : List Record}

/-- The play goes on by the campaign log alone. -/
theorem playAll_of_log {t t' : Table} (h : t'.log = t.log) (ps : List Played) :
    (t'.playAll g setup active ps).1.log = (t.playAll g setup active ps).1.log ∧
      (t'.playAll g setup active ps).2 = (t.playAll g setup active ps).2 := by
  have hplay : ∀ t : Table, t.playAll g setup active ps =
      Prod.map (behind t.reports) id (playAll g setup active ⟨t.log, []⟩ ps) := by
    intro t
    have hbehind := playAll_behind t.reports g setup (Played.alike_refl ps)
      (fun s _ _ => Record.SameReplies.refl active s.id) ⟨t.log, []⟩
    rwa [behind_reports] at hbehind
  rw [hplay t', hplay t, h]
  exact ⟨rfl, rfl⟩

end Table

namespace Guide

variable {g : Guide} {active : List Record}

/-- The turn of a scenario, when those in `before` have had theirs. -/
abbrev turn (g : Guide) (setup : Setup) (active : List Record) (before : List Played) (p : Played) :
    Table × Progress :=
  ((Table.prepare g setup active).playAll g setup active before).1.play g setup active p

theorem exists_turn {id : ScenarioId} (h : id ∈ g.playOrder active) :
    ∃ before p after, (Starts.ofRecords g active).played g = before ++ p :: after ∧ p.id = id := by
  obtain ⟨p, hp, hid⟩ := List.mem_map.mp h
  obtain ⟨before, after, hsplit⟩ := List.append_of_mem hp
  exact ⟨before, p, after, hsplit, hid⟩

section Turn

variable {before after : List Played} {p : Played}
  (hturn : (Starts.ofRecords g active).played g = before ++ p :: after)
include hturn

/-- No scenario has two turns. -/
theorem ne_of_turn : (∀ p' ∈ before, p'.id ≠ p.id) ∧ ∀ p' ∈ after, p'.id ≠ p.id := by
  have hnodup : (g.playOrder active).Nodup := nodup_playOrder
  rw [playOrder, hturn, List.map_append, List.map_cons, List.nodup_append, List.nodup_cons]
    at hnodup
  obtain ⟨-, ⟨hafter, -⟩, hbefore⟩ := hnodup
  constructor
  · intro p' hp'
    exact hbefore _ (List.mem_map_of_mem hp') _ List.mem_cons_self
  · intro p' hp' hid
    exact hafter (hid ▸ List.mem_map_of_mem hp')

theorem walked_of_turn (setup : Setup) :
    g.walked setup active =
      ((Table.prepare g setup active).playAll g setup active before).2 ++
        (g.turn setup active before p).2 ::
          ((g.turn setup active before p).1.playAll g setup active after).2 := by
  rw [walked, hturn, Table.playAll_append]
  rfl

/-- The progress of a scenario is what its turn has left. -/
theorem progress?_of_turn (setup : Setup) :
    (g.outcome setup active).progress? p.id = some (g.turn setup active before p).2 := by
  have hbefore : (((Table.prepare g setup active).playAll g setup active before).2.find?
      (·.scenario = p.id)) = none := by
    rw [List.find?_eq_none]
    intro q hq
    have hid : q.scenario ∈ before.map Played.id := by
      rw [← Table.scenarios_playAll g setup active (Table.prepare g setup active)]
      exact List.mem_map_of_mem hq
    obtain ⟨p', hp', hp'id⟩ := List.mem_map.mp hid
    simpa [← hp'id] using (ne_of_turn hturn).1 p' hp'
  rw [Playthrough.progress?, scenarios_outcome, walked_of_turn hturn, List.append_assoc,
    List.find?_append, hbefore, Option.none_or, List.cons_append, List.find?_cons_of_pos]
  simp [Table.scenario_play]

/-- What is reported at a turn stays reported. -/
theorem reports_of_turn (setup : Setup) :
    (g.turn setup active before p).1.reports <+: (g.outcome setup active).diagnostics := by
  have hall : (g.outcome setup active).diagnostics =
      ((Table.prepare g setup active).playAll g setup active (before ++ p :: after)).1.reports := by
    rw [← hturn]
    rfl
  rw [hall, Table.playAll_append]
  exact Table.reports_playAll g setup active _ after

end Turn

/-- Only scenarios of the guide are played and not completed. -/
theorem exists_turn_of_started {setup : Setup} {id : ScenarioId} {q : Progress}
    {pending : Option StepId} (hq : (g.outcome setup active).progress? id = some q)
    (hstarted : q.status = .started pending) :
    ∃ before sc start after,
      (Starts.ofRecords g active).played g = before ++ .scripted sc start :: after ∧
      sc.id = id ∧ g.scenario? id = some sc ∧
      q = (g.turn setup active before (.scripted sc start)).2 := by
  have hid : q.scenario = id := by simpa using List.find?_some hq
  have hmem := List.mem_of_find?_eq_some hq
  rw [scenarios_outcome, List.mem_append] at hmem
  rcases hmem with hmem | hmem
  · have hplayed : id ∈ g.playOrder active := by
      rw [← g.map_scenario_walked setup active, ← hid]
      exact List.mem_map_of_mem hmem
    obtain ⟨before, p, after, hturn, rfl⟩ := exists_turn hplayed
    have hlast := progress?_of_turn hturn setup
    rw [hq, Option.some.injEq] at hlast
    cases p with
    | scripted sc start =>
        have hsc : .scripted sc start ∈ (Starts.ofRecords g active).played g := by
          rw [hturn]
          exact List.mem_append_right _ List.mem_cons_self
        exact ⟨before, sc, start, after, hturn, rfl, (g.scenario?_of_mem_played hsc).1, hlast⟩
    | custom id name xpCost =>
        rw [hlast] at hstarted
        cases hstarted
  · obtain ⟨_, -, rfl⟩ := List.mem_map.mp hmem
    cases hstarted

/-- What is reported of a scenario as a whole is reported at its turn. Nothing else is left of the
turn. -/
theorem exists_turn_of_cyclic {setup : Setup} {id : ScenarioId} {step : StepId}
    (h : .cyclic id step ∈ (g.outcome setup active).diagnostics) :
    ∃ before p after, (Starts.ofRecords g active).played g = before ++ p :: after ∧ p.id = id ∧
      (g.turn setup active before p).1.log =
        ((Table.prepare g setup active).playAll g setup active before).1.log ∧
      (g.turn setup active before p).2 = ⟨id, none, .started none, [], .empty⟩ := by
  rcases Table.mem_reports_playAll h with hprepare | hlocal |
    ⟨before, p, after, step', hturn, hcyclic, hlog, hprogress⟩
  · exact (Table.isLocal_of_mem_prepare hprepare).elim
  · exact hlocal.elim
  · cases hcyclic
    exact ⟨before, p, after, hturn, rfl, hlog, hprogress⟩

end Guide
end Chronicle
