import Chronicle.Proofs.Guide.Issues
import Chronicle.Proofs.Play.Fitting
import Chronicle.Proofs.Play.Roster
import Chronicle.Proofs.Play.Turns

/-!
# Answering the prompt that a scenario waits at

A walk that waits at a prompt goes on as soon as there is a record that fits the prompt. Up to the
prompt it is the walk from before. From there on it may come to the prompt again, but it does not
wait there.
-/

namespace Chronicle

/-! ## The record of an answer -/

namespace Record

variable {active : List Record} {s : ScenarioId} {t : StepId} {r : Record} {p : Prompt}

theorem lastOf_concat (active : List Record) (r : Record) (i : Identity) :
    lastOf (active ++ [r]) i = if r.identity = i then some r else lastOf active i := by
  rw [lastOf, List.reverse_append, List.reverse_singleton, List.singleton_append,
    List.find?_cons, lastOf]
  by_cases h : r.identity = i <;> simp [h]

/-- The answer that is given last is consulted, whatever other records there are at the step. -/
theorem consulted_concat (hs : r.scenario = some s) (ht : r.step = some t)
    (hkind : r.kind = .reply p.replyKind) : consulted (active ++ [r]) s t p = some r := by
  have hidentity : r.identity = ⟨some s, some t, .reply p.replyKind⟩ := by
    rw [identity, hs, ht, hkind]
  rw [consulted, lastOf_concat, if_pos hidentity, Option.some_or]

/-- At other steps the same is consulted. -/
theorem consulted_concat_of_ne (active : List Record) (p : Prompt) (ht : r.step ≠ some t) :
    consulted (active ++ [r]) s t p = consulted active s t p := by
  have hlast : ∀ k, lastOf (active ++ [r]) ⟨some s, some t, k⟩ =
      lastOf active ⟨some s, some t, k⟩ := by
    intro k
    rw [lastOf_concat, if_neg fun h => ht (congrArg Identity.step h)]
  simp only [consulted, anyAt, hlast]

end Record

/-- The records hold an answer to a prompt that fits it. -/
def Prompt.AnsweredIn (p : Prompt) (roster : List InvestigatorId) (active : List Record)
    (s : ScenarioId) (t : StepId) : Prop :=
  ∃ r a, Record.consulted active s t p = some r ∧ p.answer roster r.payload = .ok a

/-- A step of a scenario that is known by its id and asks for input. -/
structure Scenario.Asks (sc : Scenario) (t : Step) (p : Prompt) : Prop where
  mem : t ∈ sc.steps
  action : t.action = .input p
  eq_of_id : ∀ t' ∈ sc.steps, t'.id = t.id → t' = t

theorem Scenario.asks_of_nodup {sc : Scenario} (hids : sc.stepIds.Nodup) {t : Step}
    (ht : t ∈ sc.steps) {p : Prompt} (haction : t.action = .input p) : sc.Asks t p :=
  ⟨ht, haction, fun _ ht' => List.inj_on_of_nodup_map hids ht' ht⟩

/-! ## The walk that goes on -/

namespace Walk

/-- What a walk has taken it does not give back. -/
theorem answered_run (c : Script) (visits cursor : Nat) (w : Walk) :
    w.answered <+: (run c visits cursor w).1.answered := by
  apply run_invariant (P := fun w' => w.answered <+: w'.answered)
  · intro w' hw' t ht
    have hvisited := visited c w' t
    generalize visit c w' t = left at hvisited ⊢
    cases hvisited with
    | answered _ _ _ => exact hw'.trans (List.prefix_append _ _)
    | _ => exact hw'
  · intro w' hw' t ht f
    exact hw'
  · exact List.prefix_rfl

theorem manned_follow {setup : Setup} {c : Script} {w left : Walk} {t : Step}
    (hw : w.table.log.Manned setup) (ht : t ∈ c.scenario.steps) {jump : Option StepId}
    (h : visit c w t = (left, .go jump)) (cursor : Nat) :
    (follow c left t cursor jump).1.table.log.Manned setup := by
  have hmoves := moves_visit ht w
  rw [h] at hmoves
  rw [log_follow]
  exact hmoves.manned hw

variable {sc : Scenario} {setup : Setup} {active active' : List Record} {t : Step} {p : Prompt}

/-- A step is visited the same with records of which it consults the same. -/
theorem visit_congr (g : Guide) (h : ∀ p, Record.consulted active' sc.id t.id p =
    Record.consulted active sc.id t.id p) (w : Walk) :
    visit ⟨g, active', sc⟩ w t = visit ⟨g, active, sc⟩ w t := by
  unfold visit
  cases t.action with
  | input p => simp only [doInput, h]
  | _ => rfl

variable {g : Guide} {w : Walk} (hw : w.table.log.Manned setup)
include hw

/-- At a prompt that is answered a walk takes the answer and goes on. -/
theorem visit_of_answeredIn (haction : t.action = .input p)
    (h : p.AnsweredIn setup.roster active sc.id t.id) :
    ∃ a, visit ⟨g, active, sc⟩ w t = (w.take sc.id t.id a, .go none) := by
  obtain ⟨r, a, hr, ha⟩ := h
  refine ⟨a, ?_⟩
  rw [visit, haction]
  simp only [doInput, hr, (Prompt.answer_congr hw.investigators).mpr ha]
  rfl

/-- At any other prompt a walk waits with what it has. -/
theorem visit_of_not_answeredIn (haction : t.action = .input p)
    (h : ¬ p.AnsweredIn setup.roster active sc.id t.id) :
    ∃ left, visit ⟨g, active, sc⟩ w t = (left, .wait) ∧ left.answered = w.answered := by
  rw [visit, haction]
  simp only [doInput]
  cases hr : Record.consulted active sc.id t.id p with
  | none => exact ⟨w, rfl, rfl⟩
  | some r =>
      simp only
      cases ha : p.answer w.table.log.investigators.keys r.payload with
      | ok a => exact absurd ⟨r, a, hr, (Prompt.answer_congr hw.investigators).mp ha⟩ h
      | error f => exact ⟨w.report (.ofRecord r f), rfl, rfl⟩

/-- A walk does not wait at a prompt that is answered, however often it comes there. -/
theorem run_ne_waiting (ht : sc.Asks t p) (h : p.AnsweredIn setup.roster active sc.id t.id)
    (visits cursor : Nat) : (run ⟨g, active, sc⟩ visits cursor w).2 ≠ .waiting t.id := by
  intro hwaiting
  obtain ⟨w', hw', t', ht', hid, hvisit⟩ := exists_visit_of_waiting
    (P := fun w => w.table.log.Manned setup)
    (fun w hw t ht => (moves_visit ht w).manned hw) (fun w hw _ _ _ => hw) hw hwaiting
  obtain ⟨a, hgoes⟩ := visit_of_answeredIn (g := g) hw' ht.action h
  rw [ht.eq_of_id t' ht' hid, hgoes] at hvisit
  cases congrArg Prod.snd hvisit

/-- **The walk that waited at a prompt takes the answer.** With the prompt answered and otherwise
the same consulted, the walk comes to the prompt with what it had, and from there on has the answer
as well. -/
theorem answered_run_of_waiting (ht : sc.Asks t p)
    (hother : ∀ t' : Step, t'.id ≠ t.id → ∀ p',
      Record.consulted active' sc.id t'.id p' = Record.consulted active sc.id t'.id p')
    (h : p.AnsweredIn setup.roster active' sc.id t.id) {visits cursor : Nat}
    (hwaiting : (run ⟨g, active, sc⟩ visits cursor w).2 = .waiting t.id) :
    (run ⟨g, active, sc⟩ visits cursor w).1.answered ++ [t.id] <+:
      (run ⟨g, active', sc⟩ visits cursor w).1.answered := by
  have hunanswered : ¬ p.AnsweredIn setup.roster active sc.id t.id :=
    fun hanswered => run_ne_waiting hw ht hanswered visits cursor hwaiting
  -- The two walks are the same up to the prompt, so the induction is on the steps before it.
  induction visits generalizing cursor w with
  | zero =>
      unfold run at hwaiting
      cases hstep : sc.steps[cursor]? <;> simp [hstep] at hwaiting
  | succ visits ih =>
      cases hstep : sc.steps[cursor]? with
      | none =>
          rw [run_of_none hstep] at hwaiting
          cases hwaiting
      | some t' =>
          have ht' : t' ∈ sc.steps := List.mem_of_getElem? hstep
          by_cases hid : t'.id = t.id
          · obtain rfl := ht.eq_of_id t' ht' hid
            obtain ⟨left, hleft, hsame⟩ := visit_of_not_answeredIn (g := g) hw ht.action hunanswered
            obtain ⟨a, hgoes⟩ := visit_of_answeredIn (g := g) hw ht.action h
            have hprefix := answered_run ⟨g, active', sc⟩ visits
              (follow ⟨g, active', sc⟩ (w.take sc.id t'.id a) t' cursor none).2
              (follow ⟨g, active', sc⟩ (w.take sc.id t'.id a) t' cursor none).1
            rw [answered_follow] at hprefix
            rw [run_of_wait (c := ⟨g, active, sc⟩) hstep visits hleft, hsame,
              run_of_go (c := ⟨g, active', sc⟩) hstep visits hgoes]
            exact hprefix
          · have hvisit := visit_congr g (hother t' hid) w
            cases hleft : visit ⟨g, active, sc⟩ w t' with
            | mk left turn =>
                rw [hleft] at hvisit
                cases turn with
                | finish r =>
                    rw [run_of_finish (c := ⟨g, active, sc⟩) hstep visits hleft] at hwaiting
                    cases hwaiting
                | wait =>
                    rw [run_of_wait (c := ⟨g, active, sc⟩) hstep visits hleft] at hwaiting
                    exact absurd (Ending.waiting.inj hwaiting) hid
                | go jump =>
                    rw [run_of_go (c := ⟨g, active, sc⟩) hstep visits hleft] at hwaiting ⊢
                    rw [run_of_go (c := ⟨g, active', sc⟩) hstep visits hvisit]
                    exact ih (manned_follow hw ht' hleft cursor) hwaiting

end Walk

/-! ## The scenario that goes on -/

namespace Table

/-- The scenario that waited at a prompt takes the answer, unless it goes in circles now. -/
theorem play_of_waiting {g : Guide} {sc : Scenario} {setup : Setup} {active active' : List Record}
    {t : Step} {p : Prompt} (ht : sc.Asks t p)
    (hother : ∀ t' : Step, t'.id ≠ t.id → ∀ p',
      Record.consulted active' sc.id t'.id p' = Record.consulted active sc.id t'.id p')
    (h : p.AnsweredIn setup.roster active' sc.id t.id) {table : Table}
    (htable : table.log.Manned setup) {start : Option Record}
    (hpending : (table.play g setup active (.scripted sc start)).2.status =
      .started (some t.id)) :
    (∃ step, .cyclic sc.id step ∈ (table.play g setup active' (.scripted sc start)).1.reports) ∨
      ((table.play g setup active' (.scripted sc start)).2.status ≠ .started (some t.id) ∧
        (table.play g setup active (.scripted sc start)).2.answered ++ [t.id] <+:
          (table.play g setup active' (.scripted sc start)).2.answered) := by
  have hseated := manned_seatLead htable sc.id start
  have hgoes : (walkThrough g setup active' table sc start).2 ≠ .waiting t.id :=
    Walk.run_ne_waiting hseated ht h _ _
  have hanswered : (walkThrough g setup active table sc start).2 = .waiting t.id →
      (walkThrough g setup active table sc start).1.answered ++ [t.id] <+:
        (walkThrough g setup active' table sc start).1.answered :=
    Walk.answered_run_of_waiting hseated ht hother h
  simp only [play, playScripted_eq] at hpending ⊢
  generalize walkThrough g setup active table sc start = old at hpending hanswered ⊢
  generalize walkThrough g setup active' table sc start = new at hgoes hanswered ⊢
  obtain ⟨w, e⟩ := old
  obtain ⟨w', e'⟩ := new
  cases e with
  | waiting step =>
      cases hpending
      have hprefix := hanswered rfl
      cases e' with
      | circling step => exact Or.inl ⟨step, List.mem_append_right _ (List.mem_singleton_self _)⟩
      | waiting step =>
          refine Or.inr ⟨fun heq => hgoes ?_, hprefix⟩
          cases heq
          rfl
      | ranOff =>
          refine Or.inr ⟨fun heq => ?_, hprefix⟩
          cases heq
      | resolved resolution =>
          refine Or.inr ⟨fun heq => ?_, hprefix⟩
          cases heq
  | _ => cases hpending

end Table

namespace Guide

/-- **Answering the prompt makes progress.** Let a scenario wait at a prompt, and let a record be
added that the prompt accepts. Then the same scenarios are played in the same order, those before
this one with the same progress, and this one has what it had answered and the prompt as well and
does not wait there again, unless it is reported to go in circles. -/
theorem play_advances (g : Guide) (hvalid : g.fatalIssues = []) (j : Journal) (p : Playthrough)
    (h : g.play j = .ok p) (s : ScenarioId) (sc : Scenario) (hs : g.scenario? s = some sc)
    (t : Step) (ht : t ∈ sc.steps) (prompt : Prompt) (haction : t.action = .input prompt)
    (q : Progress) (hq : p.progress? s = some q) (hpending : q.status = .started (some t.id))
    (r : Record) (hscenario : r.scenario = some s) (hstep : r.step = some t.id) (a : Answer)
    (ha : prompt.answer p.log.investigators.keys r.payload = .ok a) :
    ∃ p' q', g.play (j.append r) = .ok p' ∧
      g.playOrder (j.append r).active = g.playOrder j.active ∧ p'.order = p.order ∧
      (∀ id ∈ g.playOrder j.active,
        (g.playOrder j.active).idxOf id < (g.playOrder j.active).idxOf s →
        p'.progress? id = p.progress? id) ∧
      p'.progress? s = some q' ∧
      ((∃ step, .cyclic s step ∈ p'.diagnostics) ∨
        (q'.status ≠ .started (some t.id) ∧ q.answered ++ [t.id] <+: q'.answered)) := by
  obtain ⟨hnone, rfl⟩ := play_eq_ok_iff.mp h
  obtain ⟨before, sc', start, after, hturn, rfl, hs', hlast⟩ := exists_turn_of_started hq hpending
  obtain rfl : sc' = sc := Option.some.inj (hs'.symm.trans hs)
  -- The record is a reply to the scenario, so all before the scenario stays as it is.
  have hkind := Record.kind_of_answer ha
  have hreply : r.isReply = true := Record.isReply_iff.mpr ⟨_, hkind⟩
  obtain ⟨-, hapart⟩ := (Journal.Revises.append (j := j) hreply hscenario).apartFrom
  have hturn' : (Starts.ofRecords g (j.append r).active).played g =
      before ++ .scripted sc' start :: after := by
    rw [g.ofRecords_of_apartFrom hapart, hturn]
  have hother : ∀ sc start, .scripted sc start ∈ before → sc.id ≠ sc'.id :=
    fun sc start hmem => (ne_of_turn hturn).1 _ hmem
  have hbefore : (Table.prepare g j.setup (j.append r).active).playAll g j.setup
      (j.append r).active before =
        (Table.prepare g j.setup j.active).playAll g j.setup j.active before := by
    rw [g.prepare_of_apartFrom hapart, g.playAll_of_apartFrom hapart j.setup before hother]
  have hasks : sc'.Asks t prompt :=
    Scenario.asks_of_nodup (nodup_stepIds hvalid (List.mem_of_find?_eq_some hs)) ht haction
  have hanswered : prompt.AnsweredIn j.setup.roster (j.append r).active sc'.id t.id := by
    rw [Journal.active_append]
    exact ⟨r, a, Record.consulted_concat hscenario hstep hkind,
      (Prompt.answer_congr (g.manned_outcome j.setup j.active).investigators).mp ha⟩
  have hsame : ∀ t' : Step, t'.id ≠ t.id → ∀ p',
      Record.consulted (j.append r).active sc'.id t'.id p' =
        Record.consulted j.active sc'.id t'.id p' := by
    intro t' ht' p'
    rw [Journal.active_append]
    exact Record.consulted_concat_of_ne j.active p' (by simpa [hstep] using Ne.symm ht')
  -- At its turn the scenario finds the same table as before.
  have hplay := Table.play_of_waiting hasks hsame hanswered
    (Table.manned_playAll (Table.manned_prepare g j.setup j.active) before) (hlast ▸ hpending)
  rw [← hlast] at hplay
  have hdiagnostics := reports_of_turn hturn' j.setup
  have hprogress := progress?_of_turn hturn' j.setup
  rw [turn, hbefore] at hdiagnostics hprogress
  refine ⟨g.outcome j.setup (j.append r).active, _, play_eq_ok_iff.mpr ⟨hnone, rfl⟩, ?_, ?_, ?_,
    hprogress, hplay.imp_left ?_⟩
  · rw [playOrder, playOrder, g.ofRecords_of_apartFrom hapart]
  · exact g.order_outcome_of_apartFrom hapart j.setup
  · exact fun id _ hid => g.progress?_of_apartFrom hapart j.setup hid
  · rintro ⟨step, hcyclic⟩
    exact ⟨step, hdiagnostics.subset hcyclic⟩

open Sample

/-- The gathering goes on when the points are counted, whatever was recorded for the prompt
before. -/
theorem play_advances_of_halted :
    nightOfTheZealot.fatalIssues = [] ∧
      ∃ p p' q', nightOfTheZealot.play halted = .ok p ∧
        p.progress? "the_gathering" =
          some ⟨"the_gathering", none, .started (some "victory_points"), [], .empty⟩ ∧
        nightOfTheZealot.play (halted.append victoryPoints) = .ok p' ∧
        p'.progress? "prologue" = p.progress? "prologue" ∧
        p'.progress? "the_gathering" = some q' ∧
        q'.status ≠ .started (some "victory_points") ∧ ["victory_points"] <+: q'.answered := by
  have hvalid : nightOfTheZealot.fatalIssues = [] := rfl
  have hplayed : (Starts.ofRecords nightOfTheZealot halted.active).played nightOfTheZealot =
      [.scripted prologue none] ++ .scripted gathering (some started) :: [] :=
    played_of_started rfl
  have hprogress : (nightOfTheZealot.outcome halted.setup halted.active).progress?
      "the_gathering" =
        some ⟨"the_gathering", none, .started (some "victory_points"), [], .empty⟩ :=
    progress?_of_turn hplayed halted.setup
  obtain ⟨p', q', hp', -, -, hearlier, hq', hgoes⟩ := nightOfTheZealot.play_advances hvalid halted
    _ rfl "the_gathering" gathering rfl ⟨"victory_points", none, .input (.count 0 (some 20))⟩
    (by decide) _ rfl _ hprogress rfl victoryPoints rfl rfl (.count 2) rfl
  have hnone : p'.diagnostics = [] := by
    rw [(play_eq_ok_iff.mp hp').2, outcome_of_started _ (by rfl)]
    rfl
  have hstill : ¬ ∃ step, .cyclic "the_gathering" step ∈ p'.diagnostics := by
    rintro ⟨step, hcyclic⟩
    rw [hnone] at hcyclic
    cases hcyclic
  obtain ⟨hstatus, hanswered⟩ := hgoes.resolve_left hstill
  refine ⟨hvalid, _, p', q', rfl, hprogress, hp', hearlier "prologue" ?_ ?_, hq', hstatus,
    hanswered⟩
  · rw [playOrder, hplayed]
    decide
  · rw [playOrder, hplayed]
    decide

end Guide
end Chronicle
