import Chronicle.Proofs.Play.Agreement
import Chronicle.Proofs.Play.Turns
import Chronicle.Sample.Fairground

/-!
# What fails leaves no trace but its report

A step whose effects fail changes nothing, an answer that does not fit is not taken, and a scenario
that goes in circles is taken back as a whole. So the rest of the campaign is played as if the
scenario had no turn.
-/

namespace Chronicle

/-! ## Effects that fail -/

/-- One of the effects fails when those before it have taken place. -/
def Scene.FailsIn (g : Guide) (s : ScenarioId) (scene : Scene) (es : List Effect)
    (f : ScriptFault) : Prop :=
  ∃ before e after mid, es = before ++ e :: after ∧ scene.applyAll g s before = .ok mid ∧
    e.apply g s mid = .error f

theorem Scene.applyAll_eq_error_iff {g : Guide} {s : ScenarioId} {scene : Scene} {es : List Effect}
    {f : ScriptFault} : scene.applyAll g s es = .error f ↔ scene.FailsIn g s es f := by
  constructor
  · intro h
    induction es generalizing scene with
    | nil => cases h
    | cons e es ih =>
        rw [applyAll, List.foldlM_cons] at h
        cases hone : e.apply g s scene with
        | error f' =>
            rw [hone] at h
            cases h
            exact ⟨[], e, es, scene, rfl, rfl, hone⟩
        | ok mid =>
            rw [hone] at h
            obtain ⟨before, e', after, last, rfl, hbefore, hfails⟩ := ih h
            refine ⟨e :: before, e', after, last, rfl, ?_, hfails⟩
            rw [applyAll, List.foldlM_cons, hone]
            exact hbefore
  · rintro ⟨before, e, after, mid, rfl, hbefore, hfails⟩
    rw [applyAll] at hbefore ⊢
    rw [List.foldlM_append, hbefore]
    change e.apply g s mid >>= _ = _
    rw [hfails]
    rfl

namespace Walk

variable {c : Script} {t : Step}

/-- If an effect of a step fails, none takes place. -/
theorem visit_of_failsIn {es : List Effect} (ht : t.action = .effects es) {w : Walk}
    {f : ScriptFault} (h : w.scene.FailsIn c.guide c.scenario.id es f) :
    visit c w t = (w.report (.ofScript c.scenario.id t.id f), .go none) := by
  rw [visit, ht]
  simp only [doEffects, Scene.applyAll_eq_error_iff.mpr h, reportScript]

/-- An answer that does not fit is not taken. -/
theorem visit_of_rejected {p : Prompt} (ht : t.action = .input p) {w : Walk} {r : Record}
    (hr : Record.consulted c.active c.scenario.id t.id p = some r) {f : RecordFault}
    (hf : p.answer w.table.log.investigators.keys r.payload = .error f) :
    visit c w t = (w.report (.ofRecord r f), .wait) := by
  rw [visit, ht]
  simp only [doInput, hr, hf]

end Walk

/-! ## Scenarios that go in circles -/

namespace Guide

variable (g : Guide) (setup : Setup) (active : List Record)

/-- What would come of a campaign if a scenario were skipped in the order of play. -/
def outcomeSkipping (s : ScenarioId) : Playthrough :=
  g.outcomeOf setup active (((Starts.ofRecords g active).played g).filter (·.id ≠ s))

theorem find?_unplayed (done : List ScenarioId) (id : ScenarioId) :
    (g.unplayed done).find? (·.scenario = id) =
      if id ∈ g.scenarios.map (·.id) ∧ id ∉ done then some (.new id) else none := by
  split
  next h =>
      obtain ⟨hid, hdone⟩ := h
      obtain ⟨s, hs, rfl⟩ := List.mem_map.mp hid
      have hmem : Progress.new s.id ∈ g.unplayed done :=
        (g.mem_unplayed_iff done).mpr ⟨s, hs, hdone, rfl⟩
      cases hfind : (g.unplayed done).find? (·.scenario = s.id) with
      | none =>
          have := List.find?_eq_none.mp hfind _ hmem
          simp [Progress.new] at this
      | some q =>
          obtain ⟨s', -, -, rfl⟩ :=
            (g.mem_unplayed_iff done).mp (List.mem_of_find?_eq_some hfind)
          have hid : (Progress.new s'.id).scenario = s.id := by
            simpa using List.find?_some hfind
          exact congrArg (some ∘ Progress.new) hid
  next h =>
      rw [List.find?_eq_none]
      intro q hq hqid
      obtain ⟨s, hs, hdone, rfl⟩ := (g.mem_unplayed_iff done).mp hq
      have hid : s.id = id := of_decide_eq_true hqid
      exact h ⟨hid ▸ List.mem_map_of_mem hs, hid ▸ hdone⟩

variable {g setup active}

/-- A turn of which nothing is left makes no difference to the others. -/
theorem outcomeOf_skip {before : List Played} {p : Played} (after : List Played)
    (hlog : (g.turn setup active before p).1.log =
      ((Table.prepare g setup active).playAll g setup active before).1.log) :
    (g.outcomeOf setup active (before ++ p :: after)).log =
        (g.outcomeOf setup active (before ++ after)).log ∧
      ∀ id, id ≠ p.id → (g.outcomeOf setup active (before ++ p :: after)).progress? id =
        (g.outcomeOf setup active (before ++ after)).progress? id := by
  obtain ⟨hrest, hprogress⟩ := Table.playAll_of_log hlog after
  simp only [outcomeOf, Playthrough.progress?, Table.playAll_append, Table.playAll]
  refine ⟨hrest, fun id hid => ?_⟩
  rw [hprogress]
  have hne : ¬ (g.turn setup active before p).2.scenario = id := by
    rw [Table.scenario_play]
    exact hid.symm
  rw [List.find?_append, List.find?_append, List.find?_append, List.find?_append,
    List.find?_cons_of_neg (by simpa using hne), find?_unplayed, find?_unplayed]
  simp [Table.scenario_play, hid]

/-- **Failures are contained.** Whatever is being played:

* a step of which an effect fails leaves the campaign log and the experience as they are and adds
  one report. The way on from there changes nothing either and adds at most a report of its jump;
* a record that does not fit the prompt leaves all as it is and adds one report;
* a walk that goes in circles leaves the campaign log as it was before the walk, and of the
  scenario nothing but that it was started;
* so the campaign log and the other scenarios are what they would be if a scenario that is reported
  to go in circles had been skipped in the order of play. -/
theorem play_contains_failures (g : Guide) :
    (∀ (active : List Record) (sc : Scenario) (w : Walk) (t : Step) (es : List Effect),
      t.action = .effects es → ∀ f, w.scene.FailsIn g sc.id es f →
        Walk.visit ⟨g, active, sc⟩ w t =
            (⟨⟨w.table.log, w.table.reports ++ [.script sc.id t.id f.message]⟩, w.xp, w.answered⟩,
              .go none) ∧
          ∀ w' cursor, (Walk.follow ⟨g, active, sc⟩ w' t cursor none).1 = w' ∨
            ∃ target, t.next = some target ∧ sc.stepIndex? target = none ∧
              (Walk.follow ⟨g, active, sc⟩ w' t cursor none).1 =
                ⟨⟨w'.table.log, w'.table.reports ++
                  [.script sc.id t.id (ScriptFault.unknownStep target).message]⟩,
                  w'.xp, w'.answered⟩) ∧
      (∀ (active : List Record) (sc : Scenario) (w : Walk) (t : Step) (p : Prompt),
        t.action = .input p → ∀ r, Record.consulted active sc.id t.id p = some r → ∀ f,
          p.answer w.table.log.investigators.keys r.payload = .error f →
            Walk.visit ⟨g, active, sc⟩ w t =
              (⟨⟨w.table.log, w.table.reports ++ [.record r.id r.scenario r.step f.message]⟩,
                w.xp, w.answered⟩, .wait)) ∧
      (∀ (setup : Setup) (active : List Record) (t : Table) (sc : Scenario)
        (start : Option Record), ∃ added,
          (t.playScripted g setup active sc start).1.reports = t.reports ++ added ∧
            ∀ id step, .cyclic id step ∈ added → id = sc.id ∧
              (t.playScripted g setup active sc start).1.log = t.log ∧
              (t.playScripted g setup active sc start).2 =
                ⟨sc.id, none, .started none, [], .empty⟩) ∧
      ∀ (j : Journal) (p : Playthrough), g.play j = .ok p →
        ∀ s step, .cyclic s step ∈ p.diagnostics →
          p.progress? s = some ⟨s, none, .started none, [], .empty⟩ ∧
            p.log = (g.outcomeSkipping j.setup j.active s).log ∧
            ∀ id, id ≠ s →
              p.progress? id = (g.outcomeSkipping j.setup j.active s).progress? id := by
  refine ⟨?_, ?_, ?_, ?_⟩
  · intro active sc w t es ht f hf
    refine ⟨Walk.visit_of_failsIn ht hf, fun w' cursor => ?_⟩
    exact Walk.follow_cases ⟨g, active, sc⟩ w' t cursor none
  · intro active sc w t p ht r hr f hf
    exact Walk.visit_of_rejected ht hr hf
  · intro setup active t sc start
    obtain ⟨added, hadded, hreports⟩ := Table.reports_play g setup active t (.scripted sc start)
    refine ⟨added, hadded, fun id step hmem => ?_⟩
    rcases hreports _ hmem with hlocal | ⟨step', hcyclic, hlog, hprogress⟩
    · exact hlocal.elim
    · cases hcyclic
      exact ⟨rfl, hlog, hprogress⟩
  · intro j p hp s step hcyclic
    obtain ⟨-, rfl⟩ := play_eq_ok_iff.mp hp
    obtain ⟨before, x, after, hturn, rfl, hlog, hprogress⟩ := exists_turn_of_cyclic hcyclic
    have hskip : ((Starts.ofRecords g j.active).played g).filter (·.id ≠ x.id) =
        before ++ after := by
      obtain ⟨hbefore, hafter⟩ := ne_of_turn hturn
      rw [hturn, List.filter_append, List.filter_cons_of_neg (by simp),
        List.filter_eq_self.mpr fun p' hp' => decide_eq_true (hbefore p' hp'),
        List.filter_eq_self.mpr fun p' hp' => decide_eq_true (hafter p' hp')]
    obtain ⟨hsame, hothers⟩ := outcomeOf_skip after hlog
    rw [outcomeSkipping, hskip]
    refine ⟨?_, ?_, ?_⟩
    · rw [progress?_of_turn hturn, hprogress]
    · rw [outcome_eq_outcomeOf, hturn]
      exact hsame
    · intro id hid
      rw [outcome_eq_outcomeOf, hturn]
      exact hothers id hid

open Sample

/-- The carousel never stops, the prize names no section of the guide, and more is thrown than the
stall allows. -/
theorem play_contains_failures_of_outing :
    (∃ p, fairground.play outing = .ok p ∧ .cyclic "carousel" "lap" ∈ p.diagnostics ∧
      p.progress? "carousel" = some ⟨"carousel", none, .started none, [], .empty⟩ ∧
      p.log = (fairground.outcomeSkipping outing.setup outing.active "carousel").log ∧
      p.progress? "stall" =
        (fairground.outcomeSkipping outing.setup outing.active "carousel").progress? "stall") ∧
      (∃ t t' : Table, ∃ q, t.playScripted fairground outing.setup outing.active carousel none =
          (t', q) ∧ t'.reports = t.reports ++ [.cyclic "carousel" "lap"] ∧ t'.log = t.log) ∧
      ∃ w : Walk,
        w.scene.FailsIn fairground "stall" prizeEffects (.unknownSection "trophies") ∧
        (Walk.visit ⟨fairground, outing.active, stall⟩ w prize).1.table.log = w.table.log ∧
        Record.consulted outing.active "stall" "throws" throwsPrompt = some tooMany ∧
        (Walk.visit ⟨fairground, outing.active, stall⟩ w throws).1.table.log = w.table.log := by
  obtain ⟨heffects, hinput, hwalk, hcampaign⟩ := fairground.play_contains_failures
  let w : Walk := ⟨Table.deal fairground outing.setup, .empty, []⟩
  have hfails : w.scene.FailsIn fairground "stall" prizeEffects (.unknownSection "trophies") :=
    ⟨[.count "prizes" .add (.literal 1)], .record "trophies" none false, [],
      ⟨w.table.log.applyCount "prizes" .add 1, .empty⟩, rfl, rfl, rfl⟩
  have hconsulted : Record.consulted outing.active "stall" "throws" throwsPrompt =
      some tooMany := by
    decide
  have hrejected : throwsPrompt.answer w.table.log.investigators.keys tooMany.payload =
      .error (.countOutside 7) := by
    decide
  have hcyclic : .cyclic "carousel" "lap" ∈
      (fairground.outcome outing.setup outing.active).diagnostics := by
    have hturn : (Starts.ofRecords fairground outing.active).played fairground =
        [] ++ .scripted carousel none :: [.scripted stall none] := by
      cbv
    have hreports : (fairground.turn outing.setup outing.active []
        (.scripted carousel none)).1.reports = [.cyclic "carousel" "lap"] := by
      rfl
    apply (reports_of_turn hturn outing.setup).subset
    rw [hreports]
    exact List.mem_singleton_self _
  obtain ⟨hstarted, hlog, hothers⟩ := hcampaign outing _ rfl "carousel" "lap" hcyclic
  have hreports : ((Table.deal fairground outing.setup).playScripted fairground outing.setup
      outing.active carousel none).1.reports = [.cyclic "carousel" "lap"] := by
    rfl
  obtain ⟨added, hadded, hcircles⟩ := hwalk outing.setup outing.active
    (Table.deal fairground outing.setup) carousel none
  have hmem : .cyclic "carousel" "lap" ∈ added := by
    have hall : added = [.cyclic "carousel" "lap"] := hadded.symm.trans hreports
    rw [hall]
    exact List.mem_singleton_self _
  refine ⟨⟨_, rfl, hcyclic, hstarted, hlog, hothers "stall" (by decide)⟩,
    ⟨_, _, _, rfl, hreports, (hcircles _ _ hmem).2.1⟩, w, hfails, ?_, hconsulted, ?_⟩
  · rw [(heffects outing.active stall w prize prizeEffects rfl _ hfails).1]
  · rw [hinput outing.active stall w throws throwsPrompt rfl tooMany hconsulted _ hrejected]

end Guide
end Chronicle
