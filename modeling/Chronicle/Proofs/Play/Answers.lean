import Chronicle.Proofs.Play.Agreement
import Chronicle.Proofs.Play.Fitting
import Chronicle.Proofs.Play.Roster
import Chronicle.Proofs.Play.Turns

/-!
# Where answers come from

Each answer in the campaign log was taken at an input step of a scenario that was played, from the
last record in effect for its prompt, and it fits the prompt. The progress of a scenario lists the
same answers as the log has for it.
-/

namespace Chronicle

/-! ## What is consulted -/

/-- A record that answers a prompt is the last of its identity. -/
theorem Record.lastOf_of_consulted {active : List Record} {s : ScenarioId} {t : StepId} {p : Prompt}
    {r : Record} (hr : consulted active s t p = some r) (hkind : r.kind = .reply p.replyKind) :
    lastOf active ⟨some s, some t, .reply p.replyKind⟩ = some r := by
  obtain ⟨hmem, hscenario, hstep⟩ := mem_of_consulted hr
  rcases Option.or_eq_some_iff.mp hr with hlast | ⟨hnone, -⟩
  · exact hlast
  · -- A record of another kind is consulted only if there is none of this kind.
    rw [lastOf, List.find?_eq_none] at hnone
    have hidentity : r.identity = ⟨some s, some t, .reply p.replyKind⟩ := by
      rw [identity, hscenario, hstep, hkind]
    exact absurd (decide_eq_true hidentity) (hnone r (List.mem_reverse.mpr hmem))

/-- An answer at an input step of a scenario that says what the last record for the prompt says, and
fits the prompt. -/
def Answer.Justified (active : List Record) (roster : List InvestigatorId) (sc : Scenario)
    (t : StepId) (a : Answer) : Prop :=
  ∃ step ∈ sc.steps, step.id = t ∧ ∃ p, step.action = .input p ∧ p.Fits roster a ∧
    ∃ r, (active.filter (·.identity = ⟨some sc.id, some t, .reply p.replyKind⟩)).getLast? =
      some r ∧ r.payload = .reply a.reply

/-! ## What a walk remembers -/

namespace CampaignLog

/-- What an answer does to the investigators leaves the answers as they are. -/
theorem answers_heed (l : CampaignLog) (a : Answer) : (l.heed a).answers = l.answers := by
  cases a with
  | supplies given =>
      exact List.foldlRecOn (motive := fun l' : CampaignLog => l'.answers = l.answers) _ _ rfl
        fun _ h _ _ => h
  | interScenarioTrauma changes =>
      exact List.foldlRecOn (motive := fun l' : CampaignLog => l'.answers = l.answers) _ _ rfl
        fun _ h _ _ => h
  | _ => rfl

theorem answers_take (l : CampaignLog) (s : ScenarioId) (t : StepId) (a : Answer) :
    (l.take s t a).answers = l.answers.alter s .empty (·.insert t a) := by
  rw [take, recordAnswer, answers_heed]

theorem answer?_take (l : CampaignLog) (s s' : ScenarioId) (t t' : StepId) (a : Answer) :
    (l.take s t a).answer? s' t' = if s' = s ∧ t' = t then some a else l.answer? s' t' := by
  rw [answer?, answers_take, Dict.alter, Dict.get?_insert]
  by_cases hs : s' = s
  · rw [if_pos hs, Option.bind_some, Dict.get?_insert, Dict.getD, answer?, hs]
    cases l.answers.get? s <;> simp
  · rw [if_neg hs, if_neg fun h => hs h.1, answer?]

end CampaignLog

/-- The answers that a walk through a scenario has taken so far: they are listed, each has its
record, and those of other scenarios are as they were. -/
structure Walk.Accounted (c : Script) (setup : Setup) (before : CampaignLog) (w : Walk) : Prop where
  manned : w.table.log.Manned setup
  others : ∀ s, s ≠ c.scenario.id → ∀ t, w.table.log.answer? s t = before.answer? s t
  answered : ∀ t, t ∈ w.answered ↔ (w.table.log.answer? c.scenario.id t).isSome = true
  justified : ∀ t a, w.table.log.answer? c.scenario.id t = some a →
    a.Justified c.active setup.roster c.scenario t

namespace Walk.Accounted

variable {c : Script} {setup : Setup} {before : CampaignLog} {w : Walk}

theorem congr (h : Accounted c setup before w) {w' : Walk} (hmanned : w'.table.log.Manned setup)
    (hanswers : w'.table.log.answers = w.table.log.answers) (hanswered : w'.answered = w.answered) :
    Accounted c setup before w' := by
  have hanswer : ∀ s t, w'.table.log.answer? s t = w.table.log.answer? s t := by
    intro s t
    rw [CampaignLog.answer?, hanswers, CampaignLog.answer?]
  constructor
  · exact hmanned
  · intro s hs t
    rw [hanswer, h.others s hs]
  · intro t
    rw [hanswer, hanswered, h.answered]
  · intro t a ha
    rw [hanswer] at ha
    exact h.justified t a ha

theorem take (h : Accounted c setup before w) {t : Step} (ht : t ∈ c.scenario.steps) {p : Prompt}
    (haction : t.action = .input p) {r : Record}
    (hr : Record.consulted c.active c.scenario.id t.id p = some r) {a : Answer}
    (ha : p.answer w.table.log.investigators.keys r.payload = .ok a)
    (hmanned : (w.take c.scenario.id t.id a).table.log.Manned setup) :
    Accounted c setup before (w.take c.scenario.id t.id a) := by
  obtain ⟨hpayload, hfits⟩ := Prompt.answer_eq_ok_iff.mp ha
  have hlast := Record.lastOf_of_consulted hr (Record.kind_of_answer ha)
  rw [Record.lastOf_eq_getLast?] at hlast
  constructor
  · exact hmanned
  · intro s hs t'
    rw [Walk.take, CampaignLog.answer?_take, if_neg fun heq => hs heq.1, h.others s hs]
  · intro t'
    rw [Walk.take, CampaignLog.answer?_take, List.mem_append, List.mem_singleton, h.answered]
    by_cases ht' : t' = t.id <;> simp [ht']
  · intro t' a' ha'
    rw [Walk.take, CampaignLog.answer?_take] at ha'
    split at ha'
    next heq =>
        cases ha'
        exact ⟨t, ht, heq.2.symm, p, haction, hfits.congr h.manned.investigators, r, heq.2 ▸ hlast,
          hpayload⟩
    next => exact h.justified t' a' ha'

theorem run (h : Accounted c setup before w) (visits cursor : Nat) :
    Accounted c setup before (Walk.run c visits cursor w).1 := by
  apply run_invariant (P := Accounted c setup before)
  · intro w hw t ht
    have hvisited := visited c w t
    have hmanned := (moves_visit ht w).manned hw.manned
    generalize visit c w t = left at hvisited hmanned ⊢
    cases hvisited with
    | done _ hs =>
        exact hw.congr hmanned (Scene.edits_applyAll (List.Subset.refl _) hs).answers_eq rfl
    | answered haction hr ha => exact hw.take ht haction hr ha hmanned
    | _ => exact hw.congr hmanned rfl rfl
  · intro w hw t ht f
    exact hw.congr hw.manned rfl rfl
  · exact h

end Walk.Accounted

/-! ## What a campaign remembers -/

namespace Table

variable (g : Guide) {setup : Setup} (active : List Record)

/-- A walk through a scenario that has no answers yet accounts for all of them. -/
theorem accounted_walkThrough {t : Table} (ht : t.log.Manned setup) {sc : Scenario}
    (hnew : ∀ step, t.log.answer? sc.id step = none) (start : Option Record) :
    (walkThrough g setup active t sc start).1.Accounted ⟨g, active, sc⟩ setup t.log := by
  have hanswer : ∀ s step,
      (t.seatLead setup sc.id start).log.answer? s step = t.log.answer? s step := by
    intro s step
    obtain ⟨leads, reports, hseat, -⟩ := t.seatLead_eq setup sc.id start
    rw [hseat]
    rfl
  apply Walk.Accounted.run
  constructor
  · exact manned_seatLead ht sc.id start
  · exact fun s _ step => hanswer s step
  · intro step
    simp only [hanswer, hnew step]
    exact iff_of_false List.not_mem_nil Bool.false_ne_true
  · intro step a ha
    rw [hanswer, hnew step] at ha
    cases ha

/-- In its turn a scenario that has no answers yet takes those that it lists. -/
theorem answer?_play {t : Table} (ht : t.log.Manned setup) {p : Played}
    (hnew : ∀ step, t.log.answer? p.id step = none) :
    (∀ s, s ≠ p.id → ∀ step,
        (t.play g setup active p).1.log.answer? s step = t.log.answer? s step) ∧
      (∀ step, step ∈ (t.play g setup active p).2.answered ↔
        ((t.play g setup active p).1.log.answer? p.id step).isSome = true) ∧
      ∀ step a, (t.play g setup active p).1.log.answer? p.id step = some a →
        ∃ sc start, p = .scripted sc start ∧ a.Justified active setup.roster sc step := by
  cases p with
  | scripted sc start =>
      have hwalk := accounted_walkThrough g active ht hnew start
      rw [play, playScripted_eq]
      generalize walkThrough g setup active t sc start = left at hwalk
      obtain ⟨w, e⟩ := left
      have hjustified : ∀ step a, w.table.log.answer? sc.id step = some a → ∃ sc' start',
          Played.scripted sc start = .scripted sc' start' ∧
            a.Justified active setup.roster sc' step :=
        fun step a ha => ⟨sc, start, rfl, hwalk.justified step a ha⟩
      cases e with
      | circling step =>
          -- All is taken back, so there are no answers as before.
          refine ⟨fun _ _ _ => rfl, fun step => ?_, fun step a ha => ?_⟩
          · rw [leave, hnew step]
            exact iff_of_false List.not_mem_nil Bool.false_ne_true
          · exact absurd (ha.symm.trans (hnew step)) (Option.some_ne_none a)
      | ranOff => exact ⟨hwalk.others, hwalk.answered, hjustified⟩
      | waiting step => exact ⟨hwalk.others, hwalk.answered, hjustified⟩
      | resolved r =>
          obtain ⟨investigators, hcredit⟩ := credit_eq
            { w.table.log with resolutions := w.table.log.resolutions.insert sc.id r } w.xp
          rw [leave, hcredit]
          exact ⟨hwalk.others, hwalk.answered, hjustified⟩
  | custom id name xpCost =>
      refine ⟨fun _ _ _ => rfl, fun step => ?_, fun step a ha => ?_⟩
      · have hnone : (t.playCustom id name xpCost).1.log.answer? id step = none := hnew step
        simp only [play, Played.id, hnone]
        exact iff_of_false List.not_mem_nil Bool.false_ne_true
      · exact absurd (ha.symm.trans (hnew step)) (Option.some_ne_none a)

end Table

/-- The answers of a campaign log when of the scenarios `ps` some have been played, with the
progress `qs`. -/
structure CampaignLog.Accounted (setup : Setup) (active : List Record) (ps : List Played)
    (qs : List Progress) (l : CampaignLog) : Prop where
  manned : l.Manned setup
  answered : ∀ q ∈ qs, ∀ t, t ∈ q.answered ↔ (l.answer? q.scenario t).isSome = true
  justified : ∀ s t a, l.answer? s t = some a → s ∈ qs.map (·.scenario) ∧
    ∃ sc start, .scripted sc start ∈ ps ∧ sc.id = s ∧ a.Justified active setup.roster sc t

namespace CampaignLog.Accounted

variable {g : Guide} {setup : Setup} {active : List Record} {ps : List Played}

theorem prepare : (Table.prepare g setup active).log.Accounted setup active ps [] := by
  have hnone : ∀ s t, (Table.prepare g setup active).log.answer? s t = none := by
    intro s t
    obtain ⟨achievements, hprepare⟩ := Table.log_prepare g setup active
    obtain ⟨investigators, hdeal⟩ := Table.log_deal g setup
    rw [hprepare, hdeal]
    rfl
  constructor
  · exact Table.manned_prepare g setup active
  · exact fun q hq => nomatch hq
  · intro s t a ha
    rw [hnone] at ha
    cases ha

theorem play {t : Table} {qs : List Progress} (h : t.log.Accounted setup active ps qs) {p : Played}
    (hp : p ∈ ps) (hnew : p.id ∉ qs.map (·.scenario)) :
    (t.play g setup active p).1.log.Accounted setup active ps
      (qs ++ [(t.play g setup active p).2]) := by
  have hnone : ∀ step, t.log.answer? p.id step = none := by
    intro step
    rw [Option.eq_none_iff_forall_ne_some]
    intro a ha
    exact hnew (h.justified _ _ _ ha).1
  obtain ⟨hothers, hanswered, hjustified⟩ := Table.answer?_play g active h.manned hnone
  constructor
  · exact Table.manned_play h.manned p
  · intro q hq step
    rcases List.mem_append.mp hq with hq | hq
    · have hne : q.scenario ≠ p.id := fun heq => hnew (heq ▸ List.mem_map_of_mem hq)
      rw [hothers _ hne, h.answered q hq]
    · rw [List.mem_singleton.mp hq, hanswered, Table.scenario_play]
  · intro s step a ha
    rw [List.map_append, List.mem_append]
    by_cases hs : s = p.id
    · rw [hs] at ha ⊢
      obtain ⟨sc, start, hscripted, hjust⟩ := hjustified step a ha
      refine ⟨Or.inr ?_, sc, start, hscripted ▸ hp, by rw [hscripted]; rfl, hjust⟩
      simp [Table.scenario_play]
    · rw [hothers s hs] at ha
      obtain ⟨hmem, hjust⟩ := h.justified s step a ha
      exact ⟨Or.inl hmem, hjust⟩

theorem playAll {rest : List Played} (hrest : ∀ p ∈ rest, p ∈ ps) {t : Table} {qs : List Progress}
    (hnodup : (qs.map (·.scenario) ++ rest.map Played.id).Nodup)
    (h : t.log.Accounted setup active ps qs) :
    (t.playAll g setup active rest).1.log.Accounted setup active ps
      (qs ++ (t.playAll g setup active rest).2) := by
  induction rest generalizing t qs with
  | nil => simpa [Table.playAll] using h
  | cons p rest ih =>
      have hnew : p.id ∉ qs.map (·.scenario) := by
        intro hmem
        exact (List.nodup_append.mp hnodup).2.2 _ hmem _ List.mem_cons_self rfl
      have hfirst := h.play (g := g) (hrest p List.mem_cons_self) hnew
      have hothers := ih (fun p' hp' => hrest p' (List.mem_cons_of_mem _ hp'))
        (by simpa [Table.scenario_play] using hnodup) hfirst
      rwa [List.append_assoc] at hothers

end CampaignLog.Accounted

namespace Guide

variable (g : Guide) (setup : Setup) (active : List Record)

theorem accounted_outcome : (g.outcome setup active).log.Accounted setup active
    ((Starts.ofRecords g active).played g) (g.walked setup active) := by
  have hnodup : (([] : List Progress).map (·.scenario) ++
      ((Starts.ofRecords g active).played g).map Played.id).Nodup := nodup_playOrder
  exact CampaignLog.Accounted.prepare.playAll (fun _ hp => hp) hnodup

/-- What a scenario lists as answered are the answers that the log has for it. -/
theorem mem_answered_outcome_iff {q : Progress} (hq : q ∈ (g.outcome setup active).scenarios)
    (t : StepId) :
    t ∈ q.answered ↔ ((g.outcome setup active).log.answer? q.scenario t).isSome = true := by
  have haccounted := g.accounted_outcome setup active
  rw [scenarios_outcome, List.mem_append] at hq
  rcases hq with hq | hq
  · exact haccounted.answered q hq t
  · obtain ⟨s, -, hs, rfl⟩ := (g.mem_unplayed_iff _).mp hq
    refine iff_of_false List.not_mem_nil fun hsome => ?_
    obtain ⟨a, ha⟩ := Option.isSome_iff_exists.mp hsome
    exact hs (map_scenario_walked g setup active ▸ (haccounted.justified _ _ _ ha).1)

/-- **Every answer has its record.** An answer in the campaign log was taken at an input step of a
scenario of the guide that was played and did not go in circles. It says what the last record for
the prompt of this step says, and it fits the prompt. And what a scenario lists as answered are
exactly the answers that the log has for it. -/
theorem play_justifies_answers (g : Guide) (j : Journal) (p : Playthrough)
    (h : g.play j = .ok p) :
    (∀ s t a, p.log.answer? s t = some a → s ∈ g.playOrder j.active ∧
      (∀ step, .cyclic s step ∉ p.diagnostics) ∧
      ∃ sc, g.scenario? s = some sc ∧
        a.Justified j.active (j.setup.investigators.map (·.id)) sc t) ∧
      ∀ q ∈ p.scenarios, ∀ t,
        t ∈ q.answered ↔ (p.log.answer? q.scenario t).isSome = true := by
  obtain ⟨-, rfl⟩ := play_eq_ok_iff.mp h
  have hanswered : ∀ q ∈ (g.outcome j.setup j.active).scenarios, ∀ t, t ∈ q.answered ↔
      ((g.outcome j.setup j.active).log.answer? q.scenario t).isSome = true :=
    fun q hq t => g.mem_answered_outcome_iff j.setup j.active hq t
  refine ⟨?_, hanswered⟩
  intro s t a ha
  obtain ⟨-, sc, start, hsc, rfl, hjustified⟩ :=
    (g.accounted_outcome j.setup j.active).justified s t a ha
  obtain ⟨hscenario, hplayed⟩ := g.scenario?_of_mem_played hsc
  refine ⟨hplayed, ?_, sc, hscenario, hjustified⟩
  intro step hcyclic
  obtain ⟨before, p, after, hturn, hid, -, hprogress⟩ := exists_turn_of_cyclic hcyclic
  have hfound := progress?_of_turn hturn j.setup
  rw [hprogress] at hfound
  -- A scenario that goes in circles lists no answers.
  have hmem := hanswered _ (List.mem_of_find?_eq_some hfound) t
  rw [ha] at hmem
  exact List.not_mem_nil (hmem.mpr rfl)

open Sample

/-- The house is burned down by the decision that was recorded last. -/
theorem play_justifies_answers_of_overtaken :
    ∃ p, nightOfTheZealot.play overtaken = .ok p ∧
      p.log.answer? "the_gathering" "burn_house" = some (.decision true) ∧
      (Answer.decision true).Justified overtaken.active ["roland", "agnes"] gathering
        "burn_house" ∧
      ∀ q ∈ p.scenarios, q.scenario = "the_gathering" → "burn_house" ∈ q.answered := by
  obtain ⟨hjustified, hlisted⟩ := nightOfTheZealot.play_justifies_answers overtaken _ rfl
  have hanswer : (nightOfTheZealot.outcome overtaken.setup overtaken.active).log.answer?
      "the_gathering" "burn_house" = some (.decision true) := by
    rw [outcome_of_started _ (by rfl)]
    rfl
  obtain ⟨-, -, sc, hsc, hdecision⟩ := hjustified _ _ _ hanswer
  cases hsc
  refine ⟨_, rfl, hanswer, hdecision, fun q hq hscenario => ?_⟩
  rw [hlisted q hq, hscenario, hanswer]
  rfl

end Guide
end Chronicle
