import Chronicle.Proofs.Play.Causality
import Chronicle.Proofs.Play.Reports

/-!
# Progress and the campaign log agree

How a scenario ended is told twice, by its progress and in the campaign log. The two agree after
every play: a scenario is completed exactly where the log has a resolution for it, whatever was
walked through, resolved or undone in between. No change of status is ever refused.
-/

namespace Chronicle

open Relation

/-! ## What playing a scenario leaves behind -/

namespace Table

variable {g : Guide} {setup : Setup} {active : List Record}

/-- What is played is started at least. -/
theorem status_play (t : Table) (p : Played) :
    (t.play g setup active p).2.status ≠ .notStarted := by
  cases p with
  | scripted s start =>
      obtain ⟨w, -, ⟨pending, h⟩ | ⟨step, h⟩ | ⟨r, investigators, h⟩⟩ :=
        playScripted_cases g setup active t s start
      all_goals
        rw [play, h]
        exact Status.noConfusion
  | custom id name xpCost => exact Status.noConfusion

/-- Custom side scenarios have the names they were started with, and no other scenario has one. -/
theorem customName_play (t : Table) (p : Played) :
    (t.play g setup active p).2.customName =
      match p with
      | .scripted .. => none
      | .custom _ name _ => some name := by
  cases p with
  | scripted s start =>
      obtain ⟨w, -, ⟨pending, h⟩ | ⟨step, h⟩ | ⟨r, investigators, h⟩⟩ :=
        playScripted_cases g setup active t s start
      all_goals rw [play, h]
  | custom id name xpCost => rfl

/-! ### Resolutions -/

theorem resolutions_of_moves {c : Script} {t t' : Table} (h : Moves c t t') :
    t'.log.resolutions = t.log.resolutions := by
  apply h.log_eq
  intro l l' hedit
  cases hedit with
  | achievement he ha hop =>
      obtain ⟨achievements, rfl⟩ := CampaignLog.applyAchievement_eq hop
      rfl
  | _ => rfl

theorem resolutions_seatLead (t : Table) (s : ScenarioId) (start : Option Record) :
    (t.seatLead setup s start).log.resolutions = t.log.resolutions := by
  obtain ⟨leads, reports, h, -⟩ := t.seatLead_eq setup s start
  rw [h]

/-- The only resolution that is written is that of the scenario played, if it is completed. -/
theorem get?_resolutions_play (t : Table) (p : Played) (id : ScenarioId) :
    (t.play g setup active p).1.log.resolutions.get? id =
      if id = p.id then
        (t.play g setup active p).2.resolution?.or (t.log.resolutions.get? id)
      else t.log.resolutions.get? id := by
  cases p with
  | scripted s start =>
      obtain ⟨w, hmoves, hcases⟩ := playScripted_cases g setup active t s start
      have hsame : w.table.log.resolutions = t.log.resolutions := by
        rw [resolutions_of_moves hmoves, resolutions_seatLead]
      rcases hcases with ⟨pending, h⟩ | ⟨step, h⟩ | ⟨r, investigators, h⟩
      · rw [play, h]
        simp [hsame, Progress.resolution?]
      · rw [play, h]
        simp [Progress.resolution?]
      · rw [play, h]
        by_cases hid : id = s.id <;> simp [hid, hsame, Progress.resolution?, Played.id]
  | custom s name xpCost =>
      have h : t.playCustom s name xpCost = ((t.playCustom s name xpCost).1,
          ⟨s, some name, .completed customResolution, [], .empty⟩) := rfl
      have hlog : (t.playCustom s name xpCost).1.log.resolutions =
          t.log.resolutions.insert s customResolution := rfl
      rw [play, h, hlog, Dict.get?_insert]
      rfl

/-- A scenario that is not played keeps the resolution it had, if any. -/
theorem get?_resolutions_playAll_of_notMem {ps : List Played} {id : ScenarioId}
    (h : id ∉ ps.map Played.id) (t : Table) :
    (t.playAll g setup active ps).1.log.resolutions.get? id = t.log.resolutions.get? id := by
  induction ps generalizing t with
  | nil => rfl
  | cons p ps ih =>
      rw [List.map_cons, List.mem_cons, not_or] at h
      simp only [playAll]
      rw [ih h.2, get?_resolutions_play, if_neg h.1]

/-- A scenario that is played has the resolution that its progress says, if it had none before. -/
theorem get?_resolutions_playAll {ps : List Played} (hps : (ps.map Played.id).Nodup) {t : Table}
    (ht : ∀ p ∈ ps, t.log.resolutions.get? p.id = none) {q : Progress}
    (hq : q ∈ (t.playAll g setup active ps).2) :
    (t.playAll g setup active ps).1.log.resolutions.get? q.scenario = q.resolution? := by
  induction ps generalizing t with
  | nil => cases hq
  | cons p ps ih =>
      rw [List.map_cons, List.nodup_cons] at hps
      obtain ⟨hp, hrest⟩ := List.forall_mem_cons.mp ht
      simp only [playAll, List.mem_cons] at hq ⊢
      rcases hq with rfl | hq
      · -- No later scenario has this id, so what is written now stays.
        rw [scenario_play, get?_resolutions_playAll_of_notMem hps.1, get?_resolutions_play,
          if_pos rfl, hp, Option.or_none]
      · refine ih hps.2 (fun p' hp' => ?_) hq
        have hne : p'.id ≠ p.id := by
          intro h
          exact hps.1 (h ▸ List.mem_map_of_mem hp')
        rw [get?_resolutions_play, if_neg hne, hrest p' hp']

/-! ### Reports -/

/-- No change of status was refused. -/
def Smooth (t : Table) : Prop := ∀ s detail, Diagnostic.transition s detail ∉ t.reports

theorem Smooth.playAll {t : Table} (h : t.Smooth) (ps : List Played) :
    (t.playAll g setup active ps).1.Smooth := by
  intro s detail hd
  rcases mem_reports_playAll hd with hd | hlocal | ⟨_, _, _, _, _, hcyclic, _⟩
  · exact h s detail hd
  · exact hlocal
  · cases hcyclic

/-- The progress of a play comes from its scenarios. -/
theorem exists_play_of_mem_playAll {ps : List Played} {t : Table} {q : Progress}
    (hq : q ∈ (t.playAll g setup active ps).2) :
    ∃ p ∈ ps, ∃ t', q = (play g setup active t' p).2 := by
  induction ps generalizing t with
  | nil => cases hq
  | cons p ps ih =>
      simp only [playAll, List.mem_cons] at hq
      rcases hq with rfl | hq
      · exact ⟨p, List.mem_cons_self, t, rfl⟩
      · obtain ⟨p', hp', t', rfl⟩ := ih hq
        exact ⟨p', List.mem_cons_of_mem _ hp', t', rfl⟩

/-! ## Before the first scenario -/

/-- No scenario is resolved before the first is played. -/
theorem resolutions_prepare : (prepare g setup active).log.resolutions = .empty := by
  obtain ⟨investigators, hdeal⟩ := log_deal g setup
  obtain ⟨achievements, hprepare⟩ := log_prepare g setup active
  rw [hprepare, hdeal]
  rfl

theorem smooth_prepare : (prepare g setup active).Smooth := fun _ _ hd => isLocal_of_mem_prepare hd

end Table

/-! ## The outcome -/

namespace Guide

variable (g : Guide) (setup : Setup) (active : List Record)

section Unplayed

variable (done : List ScenarioId)

theorem map_scenario_unplayed :
    (g.unplayed done).map (·.scenario) =
      ((g.scenarios.map (·.id)).filter (· ∉ done)).eraseDups := by
  rw [unplayed, List.map_map]
  exact List.map_id _

/-- The scenarios that are left over are those of the guide that are not played yet, as new. -/
theorem mem_unplayed_iff {q : Progress} :
    q ∈ g.unplayed done ↔ ∃ s ∈ g.scenarios, s.id ∉ done ∧ q = .new s.id := by
  simp only [unplayed, List.mem_map, List.mem_eraseDups, List.mem_filter, decide_eq_true_eq]
  constructor
  · rintro ⟨_, ⟨⟨s, hs, rfl⟩, hid⟩, rfl⟩
    exact ⟨s, hs, hid, rfl⟩
  · rintro ⟨s, hs, hid, rfl⟩
    exact ⟨s.id, ⟨⟨s, hs, rfl⟩, hid⟩, rfl⟩

theorem map_scenario_unplayed_sublist :
    ((g.unplayed done).map (·.scenario)).Sublist (g.scenarios.map (·.id)) := by
  rw [map_scenario_unplayed]
  exact (eraseDups_sublist _).trans List.filter_sublist

end Unplayed

theorem nodup_order_outcome : (g.outcome setup active).order.Nodup := by
  rw [order_outcome, List.nodup_append]
  refine ⟨nodup_playOrder, ?_, ?_⟩
  · rw [map_scenario_unplayed]
    exact nodup_eraseDups _
  · rintro id hid _ hid' rfl
    obtain ⟨q, hq, rfl⟩ := List.mem_map.mp hid'
    obtain ⟨s, -, hs, rfl⟩ := (g.mem_unplayed_iff _).mp hq
    exact hs hid

theorem mem_order_outcome {s : Scenario} (hs : s ∈ g.scenarios) :
    s.id ∈ (g.outcome setup active).order := by
  rw [order_outcome, List.mem_append]
  by_cases hid : s.id ∈ g.playOrder active
  · exact Or.inl hid
  · right
    exact List.mem_map.mpr ⟨.new s.id, (g.mem_unplayed_iff _).mpr ⟨s, hs, hid, rfl⟩, rfl⟩

/-- What is not played has no resolution. -/
theorem get?_resolutions_outcome_of_notMem {id : ScenarioId} (h : id ∉ g.playOrder active) :
    (g.outcome setup active).log.resolutions.get? id = none := by
  have hsame : (g.outcome setup active).log.resolutions.get? id =
      (Table.prepare g setup active).log.resolutions.get? id :=
    Table.get?_resolutions_playAll_of_notMem h _
  rw [hsame, Table.resolutions_prepare, Dict.get?_empty]

/-- The log has the resolution of a scenario that its progress says. -/
theorem get?_resolutions_outcome {q : Progress} (hq : q ∈ (g.outcome setup active).scenarios) :
    (g.outcome setup active).log.resolutions.get? q.scenario = q.resolution? := by
  rw [scenarios_outcome, List.mem_append] at hq
  rcases hq with hq | hq
  · refine Table.get?_resolutions_playAll (nodup_playOrder) (fun p _ => ?_) hq
    rw [Table.resolutions_prepare, Dict.get?_empty]
  · obtain ⟨s, -, hs, rfl⟩ := (g.mem_unplayed_iff _).mp hq
    exact g.get?_resolutions_outcome_of_notMem setup active hs

variable {g active}

/-- A scenario that is played and not in the guide was started as a custom one. -/
theorem exists_custom_of_mem_played {p : Played}
    (hp : p ∈ (Starts.ofRecords g active).played g) (hid : ∀ s ∈ g.scenarios, s.id ≠ p.id) :
    ∃ r ∈ active, ∃ name after cost, r.scenario = some p.id ∧
      r.payload = .start (.custom name after cost) ∧ p = .custom p.id name cost := by
  obtain ⟨s, hs, rfl⟩ | ⟨id, r, name, after, cost, -, hr, hpayload, rfl⟩ := Starts.played_cases hp
  · exact absurd rfl (hid s (List.mem_of_find?_eq_some hs))
  · rw [Starts.get?_records_ofRecords] at hr
    obtain ⟨hmem, hallows⟩ := List.mem_filter.mp (List.mem_of_getLast? hr)
    exact ⟨r, hmem, name, after, cost, g.scenario_of_allowsStart hallows, hpayload, rfl⟩

theorem customName_outcome {q : Progress} (hq : q ∈ (g.outcome setup active).scenarios)
    (hother : ∀ s ∈ g.scenarios, s.id ≠ q.scenario) :
    ∃ r ∈ active, ∃ name after cost, r.scenario = some q.scenario ∧
      r.payload = .start (.custom name after cost) ∧ q.customName = some name := by
  rw [scenarios_outcome, List.mem_append] at hq
  rcases hq with hq | hq
  · obtain ⟨p, hp, t, rfl⟩ := Table.exists_play_of_mem_playAll hq
    rw [Table.scenario_play] at hother ⊢
    obtain ⟨r, hr, name, after, cost, hscenario, hpayload, hcustom⟩ :=
      exists_custom_of_mem_played hp hother
    refine ⟨r, hr, name, after, cost, hscenario, hpayload, ?_⟩
    rw [Table.customName_play, hcustom]
  · obtain ⟨s, hs, -, rfl⟩ := (g.mem_unplayed_iff _).mp hq
    exact absurd rfl (hother s hs)

/-- **Progress and the campaign log agree.** With any guide, and whatever was recorded, the
scenarios of a playthrough are distinct, all of the guide are among them, and every other one is a
custom side scenario with its name. A scenario is completed with a resolution exactly if the log has
the resolution for it, and the log has none for anything else. First come the scenarios that are
played, all of them started, and then the others in the order of the guide, as new. No change of
status is ever refused. -/
theorem play_agrees (g : Guide) (j : Journal) (p : Playthrough) (h : g.play j = .ok p) :
    p.order.Nodup ∧
      (∀ s ∈ g.scenarios, s.id ∈ p.order) ∧
      (∀ q ∈ p.scenarios, (∀ s ∈ g.scenarios, s.id ≠ q.scenario) →
        ∃ r ∈ j.active, ∃ name after cost, r.scenario = some q.scenario ∧
          r.payload = .start (.custom name after cost) ∧ q.customName = some name) ∧
      (∀ q ∈ p.scenarios, ∀ r,
        q.status = .completed r ↔ p.log.resolutions.get? q.scenario = some r) ∧
      (∀ id r, p.log.resolutions.get? id = some r → id ∈ p.order) ∧
      (∃ played unplayed, p.scenarios = played ++ unplayed ∧
        played.map (·.scenario) = g.playOrder j.active ∧
        (∀ q ∈ played, q.status ≠ .notStarted) ∧
        (∀ q ∈ unplayed, q.status = .notStarted ∧ q.answered = [] ∧ q.xpEarned = .empty) ∧
        (unplayed.map (·.scenario)).Sublist (g.scenarios.map (·.id))) ∧
      ∀ s detail, Diagnostic.transition s detail ∉ p.diagnostics := by
  obtain ⟨-, rfl⟩ := play_eq_ok_iff.mp h
  refine ⟨?_, ?_, ?_, ?_, ?_, ?_, ?_⟩
  · exact g.nodup_order_outcome j.setup j.active
  · intro s hs
    exact g.mem_order_outcome j.setup j.active hs
  · intro q hq hother
    exact customName_outcome j.setup hq hother
  · intro q hq r
    rw [g.get?_resolutions_outcome j.setup j.active hq, Progress.resolution?]
    cases q.status <;> simp
  · intro id r hr
    rw [order_outcome, List.mem_append]
    left
    by_contra hid
    rw [g.get?_resolutions_outcome_of_notMem j.setup j.active hid] at hr
    cases hr
  · refine ⟨g.walked j.setup j.active, g.unplayed (g.playOrder j.active),
      g.scenarios_outcome j.setup j.active, g.map_scenario_walked j.setup j.active, ?_, ?_,
      g.map_scenario_unplayed_sublist _⟩
    · intro q hq
      obtain ⟨p, -, t, rfl⟩ := Table.exists_play_of_mem_playAll hq
      exact Table.status_play t p
    · intro q hq
      obtain ⟨s, -, -, rfl⟩ := (g.mem_unplayed_iff _).mp hq
      exact ⟨rfl, rfl, rfl⟩
  · exact Table.smooth_prepare.playAll _

open Sample

/-- The gathering is resolved, so its progress says that it is completed. -/
theorem play_agrees_of_overtaken :
    ∃ p, nightOfTheZealot.play overtaken = .ok p ∧ p.order.Nodup ∧
      p.log.resolutions.get? "the_gathering" = some "R1" ∧
      ∃ q ∈ p.scenarios, q.scenario = "the_gathering" ∧ q.status = .completed "R1" := by
  obtain ⟨hnodup, -, -, hstatus, hkeys, -, -⟩ := nightOfTheZealot.play_agrees overtaken _ rfl
  have hresolution : (nightOfTheZealot.outcome overtaken.setup
      overtaken.active).log.resolutions.get? "the_gathering" = some "R1" := by
    rw [outcome_of_started _ (by rfl)]
    rfl
  obtain ⟨q, hq, hid⟩ := List.mem_map.mp (hkeys "the_gathering" "R1" hresolution)
  refine ⟨_, rfl, hnodup, hresolution, q, hq, hid, (hstatus q hq "R1").mpr ?_⟩
  rw [hid]
  exact hresolution

end Guide
end Chronicle
