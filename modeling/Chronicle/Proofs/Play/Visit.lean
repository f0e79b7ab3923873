import Chronicle.Guide.Validation
import Chronicle.Play.Walk

/-!
# What a visit to a step can do

A visit to a step tells a story, takes effect as a whole or not at all, takes an answer or waits for
one, leads somewhere, or ends the scenario. Beside this it only reports, and so does the way on to
the next step. A walk is a sequence of such visits, so it keeps what each of them keeps.
-/

namespace Chronicle

namespace Walk

/-- A walk when an answer was taken at a step. -/
def take (w : Walk) (s : ScenarioId) (t : StepId) (a : Answer) : Walk where
  table := { w.table with log := w.table.log.take s t a }
  xp := w.xp
  answered := w.answered ++ [t]

/-- What a visit to the step `t` makes of a walk, and how it leaves the step. -/
inductive Visited (c : Script) (w : Walk) (t : Step) : Walk × Turn → Prop where
  | story {text : String} (ht : t.action = .story text) : Visited c w t (w, .go none)
  | done {es : List Effect} (ht : t.action = .effects es) {s : Scene}
      (hs : w.scene.applyAll c.guide c.scenario.id es = .ok s) :
      Visited c w t (w.withScene s, .go none)
  | failed {es : List Effect} (ht : t.action = .effects es) {f : ScriptFault}
      (hf : w.scene.applyAll c.guide c.scenario.id es = .error f) :
      Visited c w t (reportScript c w t f, .go none)
  | unanswered {p : Prompt} (ht : t.action = .input p)
      (hr : Record.consulted c.active c.scenario.id t.id p = none) : Visited c w t (w, .wait)
  | rejected {p : Prompt} (ht : t.action = .input p) {r : Record}
      (hr : Record.consulted c.active c.scenario.id t.id p = some r) {f : RecordFault}
      (hf : p.answer w.table.log.investigators.keys r.payload = .error f) :
      Visited c w t (w.report (.ofRecord r f), .wait)
  | answered {p : Prompt} (ht : t.action = .input p) {r : Record}
      (hr : Record.consulted c.active c.scenario.id t.id p = some r) {a : Answer}
      (ha : p.answer w.table.log.investigators.keys r.payload = .ok a) :
      Visited c w t (w.take c.scenario.id t.id a, .go none)
  | branched {cond : Condition} (ht : t.action = .branch cond) {v : Verdict}
      {target : Option StepId}
      (hj : w.table.log.judge c.guide c.scenario.id cond = .ok (.reached v target)) :
      Visited c w t (w, .go target)
  | undecided {cond : Condition} (ht : t.action = .branch cond) {read : StepId}
      (hj : w.table.log.judge c.guide c.scenario.id cond = .ok (.waiting read)) :
      Visited c w t (w, .wait)
  | misjudged {cond : Condition} (ht : t.action = .branch cond) {f : ScriptFault}
      (hf : w.table.log.judge c.guide c.scenario.id cond = .error f) :
      Visited c w t (reportScript c w t f, .go none)
  | resolved {r : String} (ht : t.action = .resolution r) : Visited c w t (w, .finish r)

theorem visited (c : Script) (w : Walk) (t : Step) : Visited c w t (visit c w t) := by
  unfold visit
  cases ht : t.action with
  | story text => exact .story ht
  | effects es =>
      simp only [doEffects]
      cases hs : w.scene.applyAll c.guide c.scenario.id es with
      | ok s => exact .done ht hs
      | error f => exact .failed ht hs
  | input p =>
      simp only [doInput]
      cases hr : Record.consulted c.active c.scenario.id t.id p with
      | none => exact .unanswered ht hr
      | some r =>
          simp only
          cases ha : p.answer w.table.log.investigators.keys r.payload with
          | ok a => exact .answered ht hr ha
          | error f => exact .rejected ht hr ha
  | branch cond =>
      simp only [doBranch]
      cases hj : w.table.log.judge c.guide c.scenario.id cond with
      | ok judgement =>
          cases judgement with
          | reached v target => exact .branched ht hj
          | waiting read => exact .undecided ht hj
      | error f => exact .misjudged ht hj
  | resolution r => exact .resolved ht

/-- A step jumps to a target of its own. -/
theorem mem_targets_of_visit {c : Script} {w left : Walk} {t : Step} {jump : Option StepId}
    (h : visit c w t = (left, .go jump)) {target : StepId}
    (htarget : jump.or t.next = some target) : target ∈ t.targets := by
  rcases Option.or_eq_some_iff.mp htarget with rfl | ⟨-, hnext⟩
  · have hvisited := visited c w t
    rw [h] at hvisited
    cases hvisited with
    | @branched cond ht v _ hj =>
        rw [CampaignLog.judge] at hj
        cases hverdict : w.table.log.verdict c.guide c.scenario.id cond.test with
        | error f =>
            rw [hverdict] at hj
            cases hj
        | ok verdict =>
            rw [hverdict] at hj
            cases verdict with
            | inr read => cases hj
            | inl v =>
                have hroute : cond.target? v = some target := by
                  simpa [Except.map] using (Judgement.reached.inj (Except.ok.inj hj)).2
                obtain ⟨route, hfound, rfl⟩ := Option.map_eq_some_iff.mp hroute
                have hmem := List.mem_map_of_mem (f := (·.target))
                  (List.mem_of_find?_eq_some hfound)
                simp only [Step.targets, Step.condition?, ht]
                exact List.mem_append_right _ (by simpa using hmem)
  · rw [Step.targets, hnext]
    exact List.mem_append_left _ (List.mem_singleton.mpr rfl)

/-- On the way to the next step nothing is done but to report a jump to nowhere. -/
theorem follow_cases (c : Script) (w : Walk) (t : Step) (cursor : Nat) (jump : Option StepId) :
    (follow c w t cursor jump).1 = w ∨
      ∃ target, jump.or t.next = some target ∧ c.scenario.stepIndex? target = none ∧
        (follow c w t cursor jump).1 = reportScript c w t (.unknownStep target) := by
  unfold follow
  cases jump.or t.next with
  | none => exact Or.inl rfl
  | some target =>
      cases hindex : c.scenario.stepIndex? target with
      | none =>
          right
          exact ⟨target, rfl, hindex, by simp [hindex]⟩
      | some i =>
          left
          simp [hindex]

theorem log_follow (c : Script) (w : Walk) (t : Step) (cursor : Nat) (jump : Option StepId) :
    (follow c w t cursor jump).1.table.log = w.table.log := by
  rcases follow_cases c w t cursor jump with h | ⟨_, -, -, h⟩ <;> rw [h]
  rfl

theorem answered_follow (c : Script) (w : Walk) (t : Step) (cursor : Nat) (jump : Option StepId) :
    (follow c w t cursor jump).1.answered = w.answered := by
  rcases follow_cases c w t cursor jump with h | ⟨_, -, -, h⟩ <;> rw [h]
  rfl

theorem run_of_none {c : Script} {cursor : Nat} (hstep : c.scenario.steps[cursor]? = none)
    (visits : Nat) (w : Walk) : run c visits cursor w = (w, .ranOff) := by
  rw [run]
  simp only [hstep]

section Run

variable {c : Script} {cursor : Nat} {w left : Walk} {t : Step}
  (hstep : c.scenario.steps[cursor]? = some t) (visits : Nat)
include hstep

theorem run_of_finish {r : String} (h : visit c w t = (left, .finish r)) :
    run c (visits + 1) cursor w = (left, .resolved r) := by
  rw [run]
  simp only [hstep, h]

theorem run_of_wait (h : visit c w t = (left, .wait)) :
    run c (visits + 1) cursor w = (left, .waiting t.id) := by
  rw [run]
  simp only [hstep, h]

theorem run_of_go {jump : Option StepId} (h : visit c w t = (left, .go jump)) :
    run c (visits + 1) cursor w =
      run c visits (follow c left t cursor jump).2 (follow c left t cursor jump).1 := by
  rw [run]
  simp only [hstep, h]

end Run

/-- A walk keeps what is kept by every visit and on the way from it to the next step. -/
theorem run_keeps {c : Script} {P : Walk → Prop}
    (hvisit : ∀ w, P w → ∀ t ∈ c.scenario.steps, P (visit c w t).1)
    (hfollow : ∀ w, P w → ∀ t ∈ c.scenario.steps, ∀ left jump, visit c w t = (left, .go jump) →
      ∀ cursor, P (follow c left t cursor jump).1) (visits cursor : Nat) {w : Walk} (h : P w) :
    P (run c visits cursor w).1 := by
  -- A walk goes on from the step it was led to, so the induction is for every step and walk.
  induction visits generalizing cursor w with
  | zero =>
      unfold run
      cases c.scenario.steps[cursor]? <;> exact h
  | succ visits ih =>
      cases hstep : c.scenario.steps[cursor]? with
      | none =>
          rw [run_of_none hstep]
          exact h
      | some t =>
          have ht : t ∈ c.scenario.steps := List.mem_of_getElem? hstep
          cases hleft : visit c w t with
          | mk left turn =>
              have hvisited := hvisit w h t ht
              rw [hleft] at hvisited
              cases turn with
              | finish r =>
                  rw [run_of_finish hstep visits hleft]
                  exact hvisited
              | wait =>
                  rw [run_of_wait hstep visits hleft]
                  exact hvisited
              | go jump =>
                  rw [run_of_go hstep visits hleft]
                  exact ih _ (hfollow w h t ht left jump hleft cursor)

section Invariant

variable {c : Script} {P : Walk → Prop}
  (hvisit : ∀ w, P w → ∀ t ∈ c.scenario.steps, P (visit c w t).1)
  (hreport : ∀ w, P w → ∀ t ∈ c.scenario.steps, ∀ f, P (reportScript c w t f))
include hvisit hreport

/-- One step of a walk keeps it, with the way on to the next. -/
theorem follow_invariant {w left : Walk} (h : P w) {t : Step} (ht : t ∈ c.scenario.steps)
    {jump : Option StepId} (hleft : visit c w t = (left, .go jump)) (cursor : Nat) :
    P (follow c left t cursor jump).1 := by
  have hvisited := hvisit w h t ht
  rw [hleft] at hvisited
  rcases follow_cases c left t cursor jump with heq | ⟨target, -, -, heq⟩
  · rw [heq]
    exact hvisited
  · rw [heq]
    exact hreport left hvisited t ht _

/-- **A walk keeps what every visit keeps**, as far as it does not depend on the reports of the
steps. -/
theorem run_invariant (visits cursor : Nat) {w : Walk} (h : P w) :
    P (run c visits cursor w).1 :=
  run_keeps hvisit (fun _ hw _ ht _ _ hleft => follow_invariant hvisit hreport hw ht hleft) visits
    cursor h

/-- A walk that waits has come to a step that waits. -/
theorem exists_visit_of_waiting {visits cursor : Nat} {w : Walk} {id : StepId} (h : P w)
    (hwaiting : (run c visits cursor w).2 = .waiting id) :
    ∃ w', P w' ∧ ∃ t ∈ c.scenario.steps, t.id = id ∧
      visit c w' t = ((run c visits cursor w).1, .wait) := by
  induction visits generalizing cursor w with
  | zero =>
      unfold run at hwaiting
      cases hstep : c.scenario.steps[cursor]? <;> simp [hstep] at hwaiting
  | succ visits ih =>
      cases hstep : c.scenario.steps[cursor]? with
      | none =>
          rw [run_of_none hstep] at hwaiting
          cases hwaiting
      | some t =>
          have ht : t ∈ c.scenario.steps := List.mem_of_getElem? hstep
          cases hleft : visit c w t with
          | mk left turn =>
              cases turn with
              | finish r =>
                  rw [run_of_finish hstep visits hleft] at hwaiting
                  cases hwaiting
              | wait =>
                  rw [run_of_wait hstep visits hleft] at hwaiting ⊢
                  cases hwaiting
                  exact ⟨w, h, t, ht, rfl, hleft⟩
              | go jump =>
                  rw [run_of_go hstep visits hleft] at hwaiting ⊢
                  exact ih (follow_invariant hvisit hreport h ht hleft cursor) hwaiting

end Invariant

end Walk
end Chronicle
