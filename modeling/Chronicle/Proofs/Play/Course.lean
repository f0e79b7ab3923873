import Chronicle.Proofs.Play.Reports
import Chronicle.Sample.Fairground
import Chronicle.Sample.NightOfTheZealot
import Mathlib.Data.List.Perm.Subperm

/-!
# The course of a walk

The course of a walk is the steps that it comes to, one after the other. A walk that is given up has
come to more steps than its scenario has, so it has come to one of them twice. Where no step leads
back to an earlier one, the course goes through the script in its order and no walk is given up.
-/

namespace Chronicle

/-- No step leads back: the first step of an id that it names, if there is one, stands behind it. -/
def Scenario.Forward (s : Scenario) : Prop :=
  ∀ i, ∀ h : i < s.steps.length, ∀ target ∈ s.steps[i].targets, ∀ k ∈ s.stepIndex? target, i < k

instance (s : Scenario) : Decidable s.Forward :=
  inferInstanceAs (Decidable (∀ i, ∀ h : i < s.steps.length, ∀ target ∈ s.steps[i].targets,
    ∀ k ∈ s.stepIndex? target, i < k))

namespace Walk

/-- The walk `w`, before the step at a position, comes to the steps at the positions listed, and
ends in this way. It may be given up at any step. -/
inductive Course (c : Script) : Nat → Walk → List Nat → Walk × Ending → Prop where
  | ranOff {cursor : Nat} {w : Walk} (hstep : c.scenario.steps[cursor]? = none) :
      Course c cursor w [] (w, .ranOff)
  | circling {cursor : Nat} {w : Walk} {t : Step} (hstep : c.scenario.steps[cursor]? = some t) :
      Course c cursor w [cursor] (w, .circling t.id)
  | resolved {cursor : Nat} {w left : Walk} {t : Step} {r : String}
      (hstep : c.scenario.steps[cursor]? = some t) (h : visit c w t = (left, .finish r)) :
      Course c cursor w [cursor] (left, .resolved r)
  | waiting {cursor : Nat} {w left : Walk} {t : Step}
      (hstep : c.scenario.steps[cursor]? = some t) (h : visit c w t = (left, .wait)) :
      Course c cursor w [cursor] (left, .waiting t.id)
  | go {cursor : Nat} {w left : Walk} {t : Step} {jump : Option StepId} {trail : List Nat}
      {last : Walk × Ending} (hstep : c.scenario.steps[cursor]? = some t)
      (h : visit c w t = (left, .go jump))
      (hrest : Course c (follow c left t cursor jump).2 (follow c left t cursor jump).1 trail
        last) : Course c cursor w (cursor :: trail) last

variable {c : Script} {cursor : Nat} {w : Walk} {trail : List Nat} {last : Walk × Ending}

/-- A walk that may visit some steps comes to one more at the most, and is given up only there. -/
theorem exists_course (c : Script) (visits cursor : Nat) (w : Walk) :
    ∃ trail, Course c cursor w trail (run c visits cursor w) ∧ trail.length ≤ visits + 1 ∧
      ∀ id, (run c visits cursor w).2 = .circling id → trail.length = visits + 1 := by
  induction visits generalizing cursor w with
  | zero =>
      unfold run
      cases hstep : c.scenario.steps[cursor]? with
      | none =>
          refine ⟨[], .ranOff hstep, Nat.zero_le _, ?_⟩
          intro id h
          cases h
      | some t => exact ⟨[cursor], .circling hstep, Nat.le_refl _, fun _ _ => rfl⟩
  | succ visits ih =>
      cases hstep : c.scenario.steps[cursor]? with
      | none =>
          rw [run_of_none hstep]
          refine ⟨[], .ranOff hstep, Nat.zero_le _, ?_⟩
          intro id h
          cases h
      | some t =>
          cases hleft : visit c w t with
          | mk left turn =>
              cases turn with
              | finish r =>
                  rw [run_of_finish hstep visits hleft]
                  refine ⟨[cursor], .resolved hstep hleft, by simp, ?_⟩
                  intro id h
                  cases h
              | wait =>
                  rw [run_of_wait hstep visits hleft]
                  refine ⟨[cursor], .waiting hstep hleft, by simp, ?_⟩
                  intro id h
                  cases h
              | go jump =>
                  rw [run_of_go hstep visits hleft]
                  obtain ⟨trail, hcourse, hlength, hcircling⟩ :=
                    ih (follow c left t cursor jump).2 (follow c left t cursor jump).1
                  refine ⟨cursor :: trail, .go hstep hleft hcourse, by simpa using hlength, ?_⟩
                  intro id h
                  rw [List.length_cons, hcircling id h]

/-- A walk comes to steps of its scenario only. -/
theorem Course.lt_length (h : Course c cursor w trail last) :
    ∀ i ∈ trail, i < c.scenario.steps.length := by
  induction h with
  | ranOff => exact fun i hi => nomatch hi
  | circling hstep | resolved hstep | waiting hstep =>
      exact List.forall_mem_singleton.mpr (List.getElem?_eq_some_iff.mp hstep).1
  | go hstep _ _ ih =>
      exact List.forall_mem_cons.mpr ⟨(List.getElem?_eq_some_iff.mp hstep).1, ih⟩

/-- A course that is longer than the script comes to some step twice. -/
theorem Course.not_nodup (h : Course c cursor w trail last)
    (hlength : c.scenario.steps.length < trail.length) : ¬ trail.Nodup := by
  intro hnodup
  have hrange : trail ⊆ List.range c.scenario.steps.length :=
    fun i hi => List.mem_range.mpr (h.lt_length i hi)
  have hle := (hnodup.subperm hrange).length_le
  rw [List.length_range] at hle
  omega

/-- A visit answers its own step, if it asks for input, and no other. -/
theorem answered_visit (c : Script) (w : Walk) (t : Step) :
    ∃ added, (visit c w t).1.answered = w.answered ++ added ∧
      added.Sublist (([t].filter (·.isInput)).map (·.id)) := by
  have hvisited := visited c w t
  generalize visit c w t = left at hvisited ⊢
  cases hvisited with
  | answered ht _ _ =>
      have hinput : t.isInput = true := by
        rw [Step.isInput, Step.prompt?, ht]
        rfl
      exact ⟨[t.id], rfl, by simp [hinput]⟩
  | _ => exact ⟨[], (List.append_nil _).symm, List.nil_sublist _⟩

section Forward

variable (hforward : c.scenario.Forward)
include hforward

theorem lt_follow {t : Step} (hstep : c.scenario.steps[cursor]? = some t) {left : Walk}
    {jump : Option StepId} (h : visit c w t = (left, .go jump)) :
    cursor < (follow c left t cursor jump).2 := by
  unfold follow
  cases htarget : jump.or t.next with
  | none => exact Nat.lt_succ_self cursor
  | some target =>
      cases hindex : c.scenario.stepIndex? target with
      | none =>
          simp only [hindex]
          exact Nat.lt_succ_self cursor
      | some k =>
          simp only [hindex]
          obtain ⟨hlt, rfl⟩ := List.getElem?_eq_some_iff.mp hstep
          exact hforward cursor hlt target (mem_targets_of_visit h htarget) k hindex

theorem Course.pairwise_lt (h : Course c cursor w trail last) :
    trail.Pairwise (· < ·) ∧ ∀ i ∈ trail, cursor ≤ i := by
  induction h with
  | ranOff => exact ⟨.nil, fun i hi => nomatch hi⟩
  | circling | resolved | waiting =>
      exact ⟨List.pairwise_singleton _ _, List.forall_mem_singleton.mpr (Nat.le_refl _)⟩
  | go hstep hgo _ ih =>
      have hlt := lt_follow hforward hstep hgo
      obtain ⟨hpairwise, hle⟩ := ih
      have hrest : ∀ i ∈ _, _ < i := fun i hi => Nat.lt_of_lt_of_le hlt (hle i hi)
      exact ⟨hpairwise.cons hrest,
        List.forall_mem_cons.mpr ⟨Nat.le_refl _, fun i hi => Nat.le_of_lt (hrest i hi)⟩⟩

/-- What is answered is answered in the order of the script. -/
theorem Course.answered_sublist (h : Course c cursor w trail last) :
    ∃ added, last.1.answered = w.answered ++ added ∧
      added.Sublist (((c.scenario.steps.drop cursor).filter (·.isInput)).map (·.id)) := by
  -- The steps from a position on are the one that stands there and those behind it.
  have hdrop : ∀ {cursor : Nat} {t : Step}, c.scenario.steps[cursor]? = some t →
      ((c.scenario.steps.drop cursor).filter (·.isInput)).map (·.id) =
        ([t].filter (·.isInput)).map (·.id) ++
          ((c.scenario.steps.drop (cursor + 1)).filter (·.isInput)).map (·.id) := by
    intro cursor t hstep
    rw [List.drop_eq_getElem?_toList_append, hstep, Option.toList_some, List.filter_append,
      List.map_append]
  induction h with
  | ranOff | circling => exact ⟨[], (List.append_nil _).symm, List.nil_sublist _⟩
  | @resolved _ w _ t _ hstep hleft | @waiting _ w _ t hstep hleft =>
      obtain ⟨added, hadded, hsublist⟩ := answered_visit c w t
      rw [hleft] at hadded
      rw [hdrop hstep]
      exact ⟨added, hadded, hsublist.trans (List.sublist_append_left _ _)⟩
  | @go cursor w left t jump _ _ hstep hgo _ ih =>
      obtain ⟨added, hadded, hsublist⟩ := answered_visit c w t
      rw [hgo] at hadded
      obtain ⟨others, hothers, hrest⟩ := ih
      rw [answered_follow, hadded, List.append_assoc] at hothers
      rw [hdrop hstep]
      refine ⟨added ++ others, hothers, hsublist.append (hrest.trans ?_)⟩
      have hlt := lt_follow hforward hstep hgo
      exact ((List.drop_sublist_drop_left _ hlt).filter _).map _

end Forward
end Walk

namespace Table

variable (g : Guide) (setup : Setup) (active : List Record)

/-- A scenario is reported to go in circles only if the walk through it is given up. -/
theorem reports_playScripted (t : Table) (s : Scenario) (start : Option Record) :
    ∃ added, (t.playScripted g setup active s start).1.reports = t.reports ++ added ∧
      ∀ id step, .cyclic id step ∈ added →
        id = s.id ∧ (walkThrough g setup active t s start).2 = .circling step := by
  have hwalk := reports_walkThrough g setup active t s start
  rw [playScripted_eq]
  generalize walkThrough g setup active t s start = left at hwalk ⊢
  obtain ⟨w, e⟩ := left
  obtain ⟨added, hreports, hlocal⟩ := hwalk
  cases e with
  | circling step =>
      refine ⟨added ++ [.cyclic s.id step], by rw [leave, hreports, List.append_assoc], ?_⟩
      intro id step' hmem
      rcases List.mem_append.mp hmem with hmem | hmem
      · exact (hlocal _ hmem).elim
      · cases List.mem_singleton.mp hmem
        exact ⟨rfl, rfl⟩
  | _ => exact ⟨added, hreports, fun id step hmem => (hlocal _ hmem).elim⟩

/-- **Every walk comes to an end.** Whatever the scenario, the records and the campaign log, the
walk comes to one step more than the scenario has, at the most. It is reported to go in circles only
if it has come to that many, and so to one of them twice. Where no step leads back, nothing is
reported, no step is come to twice, and the input steps that are answered are some of those of the
scenario in their order, none of them twice if the steps have different ids. -/
theorem playScripted_comes_to_end (t : Table) (s : Scenario) (start : Option Record) :
    ∃ trail added,
      Walk.Course ⟨g, active, s⟩ 0 ⟨t.seatLead setup s.id start, .empty, []⟩ trail
        (walkThrough g setup active t s start) ∧
      trail.length ≤ s.steps.length + 1 ∧
      (t.playScripted g setup active s start).1.reports = t.reports ++ added ∧
      (∀ id step, .cyclic id step ∈ added →
        id = s.id ∧ trail.length = s.steps.length + 1 ∧ ¬ trail.Nodup) ∧
      (s.Forward → (∀ id step, .cyclic id step ∉ added) ∧ trail.Nodup ∧
        (t.playScripted g setup active s start).2.answered.Sublist s.inputStepIds ∧
        (s.stepIds.Nodup → (t.playScripted g setup active s start).2.answered.Nodup)) := by
  obtain ⟨trail, hcourse, hlength, hcircling⟩ := Walk.exists_course ⟨g, active, s⟩ s.steps.length 0
    ⟨t.seatLead setup s.id start, .empty, []⟩
  obtain ⟨added, hadded, hcyclic⟩ := reports_playScripted g setup active t s start
  have htwice : ∀ id step, .cyclic id step ∈ added →
      id = s.id ∧ trail.length = s.steps.length + 1 ∧ ¬ trail.Nodup := by
    intro id step hmem
    obtain ⟨hid, hgiven⟩ := hcyclic id step hmem
    have hmany := hcircling step hgiven
    refine ⟨hid, hmany, hcourse.not_nodup ?_⟩
    rw [hmany]
    exact Nat.lt_succ_self _
  refine ⟨trail, added, hcourse, hlength, hadded, htwice, fun hforward => ?_⟩
  have hnodup : trail.Nodup :=
    (hcourse.pairwise_lt hforward).1.imp fun hlt => Nat.ne_of_lt hlt
  have hsublist : (t.playScripted g setup active s start).2.answered.Sublist s.inputStepIds := by
    obtain ⟨answered, hanswered, hsublist⟩ := hcourse.answered_sublist hforward
    replace hanswered : (walkThrough g setup active t s start).1.answered = answered := hanswered
    rw [← hanswered] at hsublist
    rw [playScripted_eq]
    generalize walkThrough g setup active t s start = left at hsublist
    obtain ⟨w, e⟩ := left
    cases e with
    | circling step => exact List.nil_sublist _
    | _ => exact hsublist
  refine ⟨fun id step hmem => (htwice id step hmem).2.2 hnodup, hnodup, hsublist, fun hids => ?_⟩
  exact hsublist.nodup (hids.sublist (List.filter_sublist.map _))

open Sample

/-- The carousel comes to its only step a second time. The gathering leads forward, and both of its
prompts are answered, in the order of the script. -/
theorem playScripted_comes_to_end_of_carousel :
    (∃ trail, Walk.Course ⟨fairground, [], carousel⟩ 0
        ⟨(deal fairground arkhamNights).seatLead arkhamNights "carousel" none, .empty, []⟩ trail
        (walkThrough fairground arkhamNights [] (deal fairground arkhamNights) carousel none) ∧
      trail.length = 2 ∧ ¬ trail.Nodup) ∧
      gathering.Forward ∧
      ((deal nightOfTheZealot arkhamNights).playScripted nightOfTheZealot arkhamNights
        overtaken.active gathering none).2.answered = ["victory_points", "burn_house"] ∧
      ["victory_points", "burn_house"].Sublist gathering.inputStepIds ∧
      ["victory_points", "burn_house"].Nodup := by
  obtain ⟨trail, added, hcourse, -, hadded, hcyclic, -⟩ := playScripted_comes_to_end fairground
    arkhamNights [] (deal fairground arkhamNights) carousel none
  have hreports : ((deal fairground arkhamNights).playScripted fairground arkhamNights []
      carousel none).1.reports = [.cyclic "carousel" "lap"] := by
    rfl
  have hmem : .cyclic "carousel" "lap" ∈ added := by
    have hall : added = [.cyclic "carousel" "lap"] := hadded.symm.trans hreports
    rw [hall]
    exact List.mem_singleton_self _
  obtain ⟨-, hlength, htwice⟩ := hcyclic _ _ hmem
  have hforward : gathering.Forward := by decide
  obtain ⟨trail', added', -, -, -, -, hgathering⟩ := playScripted_comes_to_end nightOfTheZealot
    arkhamNights overtaken.active (deal nightOfTheZealot arkhamNights) gathering none
  obtain ⟨-, -, hsublist, hnodup⟩ := hgathering hforward
  have hanswered : ((deal nightOfTheZealot arkhamNights).playScripted nightOfTheZealot arkhamNights
      overtaken.active gathering none).2.answered = ["victory_points", "burn_house"] := by
    rfl
  rw [hanswered] at hsublist hnodup
  exact ⟨⟨trail, hcourse, hlength, htwice⟩, hforward, hanswered, hsublist, hnodup (by decide)⟩

end Table
end Chronicle
