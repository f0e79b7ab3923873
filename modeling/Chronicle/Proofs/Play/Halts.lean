import Chronicle.Proofs.Play.Advance
import Chronicle.Proofs.Play.Answers
import Chronicle.Proofs.Play.Course

/-!
# Why a scenario stops where it does

The status of a scenario that was played says how its walk ended, and the campaign log, the reports
and the records say why. It waits at a prompt for want of a record that fits, or at a branch for
want of an answer. It is completed by one of its resolutions. Otherwise it went in circles or ran
past its last step.
-/

namespace Chronicle

/-! ## What a walk waits for -/

/-- If nothing is consulted, then there are only operations on achievements at the step. -/
theorem Record.isCumulative_of_consulted_eq_none {active : List Record} {s : ScenarioId}
    {t : StepId} {p : Prompt} (h : consulted active s t p = none) {r : Record} (hr : r ∈ active)
    (hs : r.scenario = some s) (ht : r.step = some t) : r.isCumulative = true := by
  by_contra hcumulative
  have hkind : r.kind ∈ Kind.all.filter (! ·.isCumulative) :=
    List.mem_filter.mpr ⟨r.kind.mem_all, by simpa [isCumulative] using hcumulative⟩
  have hlast : lastOf active ⟨some s, some t, r.kind⟩ = none :=
    List.findSome?_eq_none_iff.mp (Option.or_eq_none_iff.mp h).2 r.kind hkind
  rw [lastOf, List.find?_eq_none] at hlast
  refine hlast r (List.mem_reverse.mpr hr) (decide_eq_true ?_)
  rw [identity, hs, ht]

/-- The only tests that wait are those of a decision or a choice that the scenario has not made. -/
theorem CampaignLog.test_of_judge_eq_waiting {l : CampaignLog} {g : Guide} {s : ScenarioId}
    {c : Condition} {read : StepId} (h : l.judge g s c = .ok (.waiting read)) :
    (c.test = .decision read ∨ c.test = .choice read) ∧ l.answer? s read = none := by
  have hverdict : l.verdict g s c.test = .ok (.inr read) := by
    rw [judge] at h
    cases hverdict : l.verdict g s c.test with
    | error f =>
        rw [hverdict] at h
        cases h
    | ok verdict =>
        rw [hverdict] at h
        cases verdict with
        | inl v => cases h
        | inr t =>
            cases h
            rfl
  cases htest : c.test with
  | eliminated whom =>
      rw [htest, verdict] at hverdict
      cases helim : l.isEliminated s whom <;> rw [helim] at hverdict <;> cases hverdict
  | count counter comparison n =>
      rw [htest, verdict] at hverdict
      cases hverdict
  | recorded sec entry | achieved id =>
      rw [htest, verdict] at hverdict
      split at hverdict <;> cases hverdict
  | decision t | choice t =>
      rw [htest, verdict] at hverdict
      split at hverdict <;> cases hverdict
      exact ⟨by simp, by assumption⟩

/-- Why a scenario goes no further at a step: nothing was recorded for its prompt, or what was
recorded does not fit and is reported, or its branch needs an answer that the scenario does not
have. -/
inductive Step.Blocked (active : List Record) (s : ScenarioId) (l : CampaignLog)
    (reports : List Diagnostic) (t : Step) : Prop where
  | unanswered {p : Prompt} (ht : t.action = .input p)
      (hnone : ∀ r ∈ active, r.scenario = some s → r.step = some t.id → r.isCumulative = true)
  | rejected {p : Prompt} (ht : t.action = .input p) {r : Record}
      (hr : Record.consulted active s t.id p = some r) {f : RecordFault}
      (hreport : .ofRecord r f ∈ reports)
  | undecided {c : Condition} (ht : t.action = .branch c) {read : StepId}
      (htest : c.test = .decision read ∨ c.test = .choice read) (hnone : l.answer? s read = none)

/-- A step stays blocked as long as the scenario gets no more answers. -/
theorem Step.Blocked.mono {active : List Record} {s : ScenarioId} {l l' : CampaignLog}
    {reports reports' : List Diagnostic} {t : Step} (h : t.Blocked active s l reports)
    (hanswers : ∀ read, l.answer? s read = none → l'.answer? s read = none)
    (hreports : reports ⊆ reports') : t.Blocked active s l' reports' := by
  cases h with
  | unanswered ht hnone => exact .unanswered ht hnone
  | rejected ht hr hreport => exact .rejected ht hr (hreports hreport)
  | undecided ht htest hnone => exact .undecided ht htest (hanswers _ hnone)

namespace Walk

variable {c : Script} {cursor : Nat} {w left : Walk} {trail : List Nat}

/-- A visit that waits leaves the step blocked. -/
theorem blocked_of_wait {t : Step} (h : visit c w t = (left, .wait)) :
    t.Blocked c.active c.scenario.id left.table.log left.table.reports := by
  have hvisited := visited c w t
  rw [h] at hvisited
  cases hvisited with
  | unanswered ht hr =>
      exact .unanswered ht fun _ => Record.isCumulative_of_consulted_eq_none hr
  | rejected ht hr _ =>
      exact .rejected ht hr (List.mem_append_right _ (List.mem_singleton_self _))
  | undecided ht hj =>
      obtain ⟨htest, hnone⟩ := CampaignLog.test_of_judge_eq_waiting hj
      exact .undecided ht htest hnone

/-- A course ends at the step that its ending tells of. -/
theorem Course.blocked {id : StepId} (h : Course c cursor w trail (left, .waiting id)) :
    ∃ t ∈ c.scenario.steps, t.id = id ∧
      t.Blocked c.active c.scenario.id left.table.log left.table.reports := by
  generalize hlast : (left, Ending.waiting id) = last at h
  induction h with
  | waiting hstep hwait =>
      cases hlast
      exact ⟨_, List.mem_of_getElem? hstep, rfl, blocked_of_wait hwait⟩
  | go _ _ _ ih => exact ih hlast
  | ranOff | circling | resolved => cases hlast

theorem Course.exists_resolution {r : String}
    (h : Course c cursor w trail (left, .resolved r)) :
    ∃ t ∈ c.scenario.steps, t.action = .resolution r := by
  generalize hlast : (left, Ending.resolved r) = last at h
  induction h with
  | @resolved _ w _ t _ hstep hfinish =>
      cases hlast
      have hvisited := visited c w t
      rw [hfinish] at hvisited
      cases hvisited with
      | resolved ht => exact ⟨t, List.mem_of_getElem? hstep, ht⟩
  | go _ _ _ ih => exact ih hlast
  | ranOff | circling | waiting => cases hlast

end Walk

/-! ## What the turn of a scenario leaves -/

/-- An answer that has its record answers the prompt. -/
theorem Answer.Justified.answeredIn {active : List Record} {roster : List InvestigatorId}
    {sc : Scenario} (hids : sc.stepIds.Nodup) {t : StepId} {a : Answer}
    (h : a.Justified active roster sc t) :
    ∃ step p, step.id = t ∧ sc.Asks step p ∧ p.AnsweredIn roster active sc.id t := by
  obtain ⟨step, hstep, rfl, p, haction, hfits, r, hlast, hpayload⟩ := h
  refine ⟨step, p, rfl, Scenario.asks_of_nodup hids hstep haction, r, a, ?_,
    Prompt.answer_eq_ok_iff.mpr ⟨hpayload, hfits⟩⟩
  rw [Record.consulted, Record.lastOf_eq_getLast?, hlast, Option.some_or]

namespace Table

variable (g : Guide) (setup : Setup) (active : List Record)

/-- The status after a turn says how the walk ended. -/
theorem status_turn (t : Table) (sc : Scenario) (start : Option Record) :
    (∀ id, (t.play g setup active (.scripted sc start)).2.status = .started (some id) →
      ∃ step ∈ sc.steps, step.id = id ∧
        (walkThrough g setup active t sc start).2 = .waiting id ∧
        step.Blocked active sc.id (t.play g setup active (.scripted sc start)).1.log
          (t.play g setup active (.scripted sc start)).1.reports) ∧
      (∀ r, (t.play g setup active (.scripted sc start)).2.status = .completed r →
        ∃ step ∈ sc.steps, step.action = .resolution r) ∧
      ((t.play g setup active (.scripted sc start)).2.status = .started none →
        (∃ step, .cyclic sc.id step ∈ (t.play g setup active (.scripted sc start)).1.reports) ∨
          (walkThrough g setup active t sc start).2 = .ranOff) := by
  obtain ⟨trail, hcourse, -, -⟩ := Walk.exists_course ⟨g, active, sc⟩ sc.steps.length 0
    ⟨t.seatLead setup sc.id start, .empty, []⟩
  change Walk.Course _ _ _ _ (walkThrough g setup active t sc start) at hcourse
  simp only [play, playScripted_eq]
  generalize walkThrough g setup active t sc start = left at hcourse ⊢
  obtain ⟨w, e⟩ := left
  -- Each ending leaves one status, and the others are out of the question.
  refine ⟨fun id h => ?_, fun r h => ?_, fun h => ?_⟩
  · cases e with
    | waiting step =>
        cases h
        obtain ⟨step, hstep, hid, hblocked⟩ := hcourse.blocked
        exact ⟨step, hstep, hid, rfl, hblocked⟩
    | _ => cases h
  · cases e with
    | resolved r' =>
        cases h
        exact hcourse.exists_resolution
    | _ => cases h
  · cases e with
    | ranOff => exact Or.inr rfl
    | circling step =>
        exact Or.inl ⟨step, List.mem_append_right _ (List.mem_singleton_self _)⟩
    | _ => cases h

end Table

/-! ## The records that are reported -/

/-- A report about a record names one that is in effect. -/
def Diagnostic.Attested (active : List Record) : Diagnostic → Prop
  | .record id scenario step _ => ∃ r ∈ active, r.id = id ∧ r.scenario = scenario ∧ r.step = step
  | _ => True

theorem Diagnostic.attested_ofRecord {active : List Record} {r : Record} (hr : r ∈ active)
    (f : RecordFault) : (ofRecord r f).Attested active :=
  ⟨r, hr, rfl, rfl, rfl⟩

/-- The records that start what is played are in effect. -/
theorem Guide.mem_of_scripted_mem_played {g : Guide} {active : List Record} {sc : Scenario}
    {r : Record} (h : .scripted sc (some r) ∈ (Starts.ofRecords g active).played g) :
    r ∈ active := by
  obtain ⟨s, -, heq⟩ | ⟨_, _, _, _, _, -, -, -, heq⟩ := Starts.played_cases h
  · exact Starts.mem_of_get?_records (Played.scripted.inj heq).2.symm
  · cases heq

namespace Table

/-- Every record that is reported is in effect. -/
def Attested (active : List Record) (t : Table) : Prop := ∀ d ∈ t.reports, d.Attested active

theorem Attested.report {active : List Record} {t : Table} (h : t.Attested active) {d : Diagnostic}
    (hd : d.Attested active) : (t.report d).Attested active :=
  List.forall_mem_append.mpr ⟨h, List.forall_mem_singleton.mpr hd⟩

theorem Moves.attested {c : Script} {t t' : Table} (h : Moves c t t')
    (ht : t.Attested c.active) : t'.Attested c.active := by
  induction h with
  | refl => exact ht
  | tail _ hmove ih =>
      cases hmove with
      | edit reports hedit => exact ih
      | script t hstep f => exact ih.report trivial
      | record t hr _ _ _ f => exact ih.report (Diagnostic.attested_ofRecord hr f)

variable {g : Guide} {setup : Setup} {active : List Record}

theorem attested_play {t : Table} (ht : t.Attested active) {p : Played}
    (hp : p ∈ (Starts.ofRecords g active).played g) :
    (t.play g setup active p).1.Attested active := by
  cases p with
  | custom id name xpCost => exact ht
  | scripted sc start =>
      have hseated : (t.seatLead setup sc.id start).Attested active := by
        obtain ⟨leads, asked, hseat, hasked⟩ := t.seatLead_eq setup sc.id start
        rw [hseat]
        refine List.forall_mem_append.mpr ⟨ht, fun d hd => ?_⟩
        obtain ⟨r, f, rfl, rfl⟩ := hasked d hd
        exact Diagnostic.attested_ofRecord (Guide.mem_of_scripted_mem_played hp) f
      have hwalked := (moves_walkThrough g setup active t sc start).attested hseated
      exact forall_mem_reports_playScripted g setup active hwalked fun _ => trivial

theorem attested_playAll {ps : List Played} (hps : ps ⊆ (Starts.ofRecords g active).played g)
    {t : Table} (ht : t.Attested active) : (t.playAll g setup active ps).1.Attested active := by
  induction ps generalizing t with
  | nil => exact ht
  | cons p ps ih =>
      obtain ⟨hp, hrest⟩ := List.cons_subset.mp hps
      exact ih hrest (attested_play ht hp)

theorem attested_prepare (g : Guide) (setup : Setup) (active : List Record) :
    (prepare g setup active).Attested active := by
  intro d hd
  obtain ⟨r, hr, f, rfl⟩ := exists_ofRecord_of_mem_prepare hd
  exact Diagnostic.attested_ofRecord hr f

end Table

/-! ## The outcome -/

namespace Guide

variable {g : Guide} {active : List Record}

/-- A scenario of the guide that is played has its turn with its script. -/
theorem exists_turn_of_scenario? {s : ScenarioId} (hs : s ∈ g.playOrder active) {sc : Scenario}
    (hsc : g.scenario? s = some sc) :
    ∃ before start after,
      (Starts.ofRecords g active).played g = before ++ .scripted sc start :: after := by
  obtain ⟨before, p, after, hturn, rfl⟩ := exists_turn hs
  have hp : p ∈ (Starts.ofRecords g active).played g := by
    rw [hturn]
    exact List.mem_append_right _ List.mem_cons_self
  obtain ⟨sc', hsc', rfl⟩ | ⟨id, _, _, _, _, hnone, -, -, rfl⟩ := Starts.played_cases hp
  · rw [Played.id, hsc'] at hsc
    cases hsc
    exact ⟨before, _, after, hturn⟩
  · rw [Played.id, hnone] at hsc
    cases hsc

section Turn

variable {before after : List Played} {p : Played}
  (hturn : (Starts.ofRecords g active).played g = before ++ p :: after) (setup : Setup)
include hturn

/-- A scenario has no answers before its turn. -/
theorem answer?_before_turn (t : StepId) :
    ((Table.prepare g setup active).playAll g setup active before).1.log.answer? p.id t = none := by
  have hnodup : (([] : List Progress).map (·.scenario) ++ before.map Played.id).Nodup := by
    have hall : (g.playOrder active).Nodup := nodup_playOrder
    rw [playOrder, hturn, List.map_append] at hall
    exact (List.nodup_append.mp hall).1
  have hprepare : (Table.prepare g setup active).log.Accounted setup active before [] := .prepare
  have haccounted := hprepare.playAll (g := g) (fun _ hp => hp) hnodup
  rw [Option.eq_none_iff_forall_ne_some]
  intro a ha
  have hmem := (haccounted.justified _ _ _ ha).1
  rw [List.nil_append, Table.scenarios_playAll] at hmem
  obtain ⟨p', hp', hid⟩ := List.mem_map.mp hmem
  exact (ne_of_turn hturn).1 p' hp' hid

/-- After its turn a scenario gets no more answers. -/
theorem answer?_after_turn {t : StepId}
    (h : (g.turn setup active before p).1.log.answer? p.id t = none) :
    (g.outcome setup active).log.answer? p.id t = none := by
  have hmem := List.mem_of_find?_eq_some (progress?_of_turn hturn setup)
  have houtcome := g.mem_answered_outcome_iff setup active hmem t
  obtain ⟨-, hanswered, -⟩ := Table.answer?_play g active
    (Table.manned_playAll (Table.manned_prepare g setup active) before)
    (answer?_before_turn hturn setup)
  rw [hanswered, h, Table.scenario_play] at houtcome
  simpa using houtcome

end Turn

/-- When a scenario has its turn, the walk through it runs past the last step. -/
def RunsOff (g : Guide) (setup : Setup) (active : List Record) (sc : Scenario) : Prop :=
  ∃ before start after,
    (Starts.ofRecords g active).played g = before ++ .scripted sc start :: after ∧
      (Table.walkThrough g setup active
        ((Table.prepare g setup active).playAll g setup active before).1 sc start).2 = .ranOff

/-- **The status of a scenario says why its walk stopped.** Let a guide have no fatal issue. A
scenario of it that is played waits only at a step of its own that it has no answer for and that
holds it up: a prompt for which nothing is recorded, a prompt whose record is reported, or a branch
that reads an answer the scenario does not have. It is completed only with a resolution of one of
its steps. If it is started and waits nowhere, then it is reported to go in circles or its walk ran
past the last step. And the records that are reported are records in effect. -/
theorem play_explains_status (g : Guide) (hvalid : g.fatalIssues = []) (j : Journal)
    (p : Playthrough) (h : g.play j = .ok p) :
    (∀ s ∈ g.playOrder j.active, ∀ sc, g.scenario? s = some sc → ∃ q, p.progress? s = some q ∧
      q.status ≠ .notStarted ∧
      (∀ id, q.status = .started (some id) → p.log.answer? s id = none ∧
        ∃ t ∈ sc.steps, t.id = id ∧ t.Blocked j.active s p.log p.diagnostics) ∧
      (∀ r, q.status = .completed r → ∃ t ∈ sc.steps, t.action = .resolution r) ∧
      (q.status = .started none →
        (∃ step, .cyclic s step ∈ p.diagnostics) ∨ g.RunsOff j.setup j.active sc)) ∧
      ∀ id scenario step detail, .record id scenario step detail ∈ p.diagnostics →
        ∃ r ∈ j.active, r.id = id ∧ r.scenario = scenario ∧ r.step = step := by
  obtain ⟨-, rfl⟩ := play_eq_ok_iff.mp h
  constructor
  · intro s hs sc hsc
    obtain ⟨before, start, after, hturn⟩ := exists_turn_of_scenario? hs hsc
    obtain rfl : sc.id = s := id_of_scenario?_eq_some hsc
    have hreports := (reports_of_turn hturn j.setup).subset
    obtain ⟨hwaits, hresolved, hends⟩ := Table.status_turn g j.setup j.active
      ((Table.prepare g j.setup j.active).playAll g j.setup j.active before).1 sc start
    refine ⟨_, progress?_of_turn hturn j.setup, Table.status_play _ _, ?_, hresolved, ?_⟩
    · intro id hstarted
      obtain ⟨t, ht, hid, hwaiting, hblocked⟩ := hwaits id hstarted
      refine ⟨?_, t, ht, hid, hblocked.mono (fun _ => answer?_after_turn hturn j.setup) hreports⟩
      -- If there were an answer, its record would answer the prompt, and the walk would go on.
      rw [Option.eq_none_iff_forall_ne_some]
      intro a ha
      obtain ⟨-, sc', start', hmem, hsame, hjustified⟩ :=
        (g.accounted_outcome j.setup j.active).justified _ _ _ ha
      obtain ⟨hscenario, -⟩ := g.scenario?_of_mem_played hmem
      rw [hsame, hsc, Option.some.injEq] at hscenario
      subst hscenario
      have hids := nodup_stepIds hvalid (List.mem_of_find?_eq_some hsc)
      obtain ⟨t', prompt, rfl, hasks, hanswered⟩ := hjustified.answeredIn hids
      have htable : ((Table.prepare g j.setup j.active).playAll g j.setup j.active
          before).1.log.Manned j.setup :=
        Table.manned_playAll (Table.manned_prepare g j.setup j.active) before
      exact Walk.run_ne_waiting (Table.manned_seatLead htable sc.id start) hasks hanswered _ _
        hwaiting
    · intro hstarted
      rcases hends hstarted with ⟨step, hcyclic⟩ | hranOff
      · exact Or.inl ⟨step, hreports hcyclic⟩
      · exact Or.inr ⟨before, start, after, hturn, hranOff⟩
  · intro id scenario step detail hd
    have hprepared := Table.attested_prepare g j.setup j.active
    exact Table.attested_playAll (List.Subset.refl _) hprepared _ hd

open Sample

/-- The gathering waits as its points were written down in words. -/
theorem play_explains_status_of_halted :
    nightOfTheZealot.fatalIssues = [] ∧ ∃ p q, nightOfTheZealot.play halted = .ok p ∧
      "the_gathering" ∈ nightOfTheZealot.playOrder halted.active ∧
      p.progress? "the_gathering" = some q ∧ q.status = .started (some "victory_points") ∧
      p.log.answer? "the_gathering" "victory_points" = none ∧
      (∃ t ∈ gathering.steps, t.id = "victory_points" ∧
        t.Blocked halted.active "the_gathering" p.log p.diagnostics) ∧
      .ofRecord miscounted (.otherKind (.reply .text)) ∈ p.diagnostics ∧
      ∃ r ∈ halted.active, r.id = miscounted.id := by
  have hvalid : nightOfTheZealot.fatalIssues = [] := rfl
  obtain ⟨hexplained, hattested⟩ := nightOfTheZealot.play_explains_status hvalid halted _ rfl
  have hplayed : (Starts.ofRecords nightOfTheZealot halted.active).played nightOfTheZealot =
      [.scripted prologue none] ++ .scripted gathering (some started) :: [] :=
    played_of_started rfl
  have horder : "the_gathering" ∈ nightOfTheZealot.playOrder halted.active := by
    rw [playOrder, hplayed]
    decide
  have hprogress : (nightOfTheZealot.outcome halted.setup halted.active).progress?
      "the_gathering" =
        some ⟨"the_gathering", none, .started (some "victory_points"), [], .empty⟩ :=
    progress?_of_turn hplayed halted.setup
  have hreports : (nightOfTheZealot.turn halted.setup halted.active [.scripted prologue none]
      (.scripted gathering (some started))).1.reports =
        [.ofRecord miscounted (.otherKind (.reply .text))] := rfl
  have hreport : .ofRecord miscounted (.otherKind (.reply .text)) ∈
      (nightOfTheZealot.outcome halted.setup halted.active).diagnostics := by
    apply (reports_of_turn hplayed halted.setup).subset
    rw [hreports]
    exact List.mem_singleton_self _
  obtain ⟨q, hq, -, hwaits, -, -⟩ := hexplained "the_gathering" horder gathering rfl
  obtain rfl := Option.some.inj (hprogress.symm.trans hq)
  obtain ⟨hanswer, hblocked⟩ := hwaits "victory_points" rfl
  obtain ⟨r, hr, hid, -, -⟩ := hattested _ _ _ _ hreport
  exact ⟨hvalid, _, _, rfl, horder, hprogress, rfl, hanswer, hblocked, hreport, r, hr, hid⟩

end Guide
end Chronicle
