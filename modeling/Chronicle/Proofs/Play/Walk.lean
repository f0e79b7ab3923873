import Chronicle.Play.Basic
import Chronicle.Proofs.Play.Alike

/-!
# What the play of a scenario depends on

A scenario is played by the campaign log as it stands and by what the records reply. What has been
reported before is never looked at, so the reports of a play stand behind those that were there,
and replies that say the same lead to the same play.
-/

namespace Chronicle

/-! ## Earlier reports -/

/-- A table with some reports before its own. -/
def Table.behind (before : List Diagnostic) (t : Table) : Table :=
  { t with reports := before ++ t.reports }

/-- A walk with some reports before its own. -/
def Walk.behind (before : List Diagnostic) (w : Walk) : Walk :=
  { w with table := w.table.behind before }

section Behind

variable (before : List Diagnostic) {active active' : List Record} (g : Guide) (sc : Scenario)

namespace Table

@[simp] theorem log_behind (t : Table) : (t.behind before).log = t.log := rfl

@[simp] theorem behind_nil (t : Table) : t.behind [] = t := rfl

theorem behind_reports (t : Table) : (⟨t.log, []⟩ : Table).behind t.reports = t := by
  simp [behind]

theorem report_behind (t : Table) (d : Diagnostic) :
    (t.behind before).report d = (t.report d).behind before := by
  simp [report, behind]

theorem attempt_behind (t : Table) (p : Progress) (r : Except TransitionError Progress) :
    (t.behind before).attempt p r = Prod.map (behind before) id (t.attempt p r) := by
  cases r with
  | ok p => rfl
  | error e => simp [attempt, report_behind]

end Table

namespace Walk

@[simp] theorem table_behind (w : Walk) : (w.behind before).table = w.table.behind before := rfl

@[simp] theorem xp_behind (w : Walk) : (w.behind before).xp = w.xp := rfl

@[simp] theorem answered_behind (w : Walk) : (w.behind before).answered = w.answered := rfl

@[simp] theorem scene_behind (w : Walk) : (w.behind before).scene = w.scene := rfl

theorem report_behind (w : Walk) (d : Diagnostic) :
    (w.behind before).report d = (w.report d).behind before := by
  simp [report, behind, Table.report_behind]

theorem doEffects_behind (w : Walk) (t : Step) (es : List Effect) :
    doEffects ⟨g, active', sc⟩ (w.behind before) t es =
      (doEffects ⟨g, active, sc⟩ w t es).behind before := by
  unfold doEffects
  simp only [scene_behind]
  cases w.scene.applyAll g sc.id es with
  | ok s => rfl
  | error f => exact report_behind ..

theorem doInput_behind (h : Record.SameRepliesIn sc.id active' active) (w : Walk) (t : Step)
    (p : Prompt) :
    doInput ⟨g, active', sc⟩ (w.behind before) t p =
      Prod.map (behind before) id (doInput ⟨g, active, sc⟩ w t p) := by
  have hreply := h t.id p
  unfold doInput
  simp only [table_behind, Table.log_behind]
  generalize Record.consulted active' sc.id t.id p = a, Record.consulted active sc.id t.id p = b
    at hreply
  cases hreply with
  | none => rfl
  | @some r s hreply =>
      simp only [hreply.payload]
      cases p.answer w.table.log.investigators.keys s.payload with
      | error f => simp [hreply.diagnostic, report_behind]
      | ok a => rfl

theorem doBranch_behind (w : Walk) (t : Step) (cond : Condition) :
    doBranch ⟨g, active', sc⟩ (w.behind before) t cond =
      Prod.map (behind before) id (doBranch ⟨g, active, sc⟩ w t cond) := by
  unfold doBranch
  simp only [table_behind, Table.log_behind]
  cases w.table.log.judge g sc.id cond with
  | ok j => cases j <;> rfl
  | error f => simp [reportScript, report_behind]

theorem visit_behind (h : Record.SameRepliesIn sc.id active' active) (w : Walk) (t : Step) :
    visit ⟨g, active', sc⟩ (w.behind before) t =
      Prod.map (behind before) id (visit ⟨g, active, sc⟩ w t) := by
  unfold visit
  cases t.action with
  | story text => rfl
  | effects es => exact congrArg (·, Turn.go none) (doEffects_behind before g sc w t es)
  | input p => exact doInput_behind before g sc h w t p
  | branch cond => exact doBranch_behind before g sc w t cond
  | resolution r => rfl

theorem follow_behind (w : Walk) (t : Step) (cursor : Nat) (jump : Option StepId) :
    follow ⟨g, active', sc⟩ (w.behind before) t cursor jump =
      Prod.map (behind before) id (follow ⟨g, active, sc⟩ w t cursor jump) := by
  unfold follow
  cases jump.or t.next with
  | none => rfl
  | some target =>
      cases hindex : sc.stepIndex? target with
      | none => simp [hindex, reportScript, report_behind]
      | some i => simp [hindex]

/-- A walk is the same whatever was reported before, and with any records that reply the same. -/
theorem run_behind (h : Record.SameRepliesIn sc.id active' active) (visits cursor : Nat)
    (w : Walk) :
    run ⟨g, active', sc⟩ visits cursor (w.behind before) =
      Prod.map (behind before) id (run ⟨g, active, sc⟩ visits cursor w) := by
  -- A walk goes on from the step it was led to, so the induction is for every step and walk.
  induction visits generalizing cursor w with
  | zero =>
      unfold run
      cases sc.steps[cursor]? <;> simp
  | succ visits ih =>
      unfold run
      cases sc.steps[cursor]? with
      | none => simp
      | some t =>
          simp only [visit_behind before g sc h]
          obtain ⟨w, turn⟩ := visit ⟨g, active, sc⟩ w t
          cases turn with
          | finish r => rfl
          | wait => rfl
          | go jump =>
              have hfollow : follow ⟨g, active', sc⟩ (w.behind before) t cursor jump =
                  Prod.map (behind before) id (follow ⟨g, active, sc⟩ w t cursor jump) :=
                follow_behind before g sc w t cursor jump
              simp only [Prod.map, id, hfollow]
              exact ih ..

end Walk

namespace Table

theorem seatLead_behind (t : Table) (setup : Setup) (s : ScenarioId) {start start' : Option Record}
    (h : Record.BothAlike start' start) :
    (t.behind before).seatLead setup s start' = (t.seatLead setup s start).behind before := by
  unfold seatLead
  simp only [h.bind_start?, log_behind]
  generalize (start.bind (·.start?)).bind (·.lead?) = requested
  -- Only a lead that is not in the roster is reported, whoever takes the seat then.
  cases h with
  | none => cases setup.lead t.log.investigators.keys requested <;> rfl
  | some h =>
      cases requested with
      | none => cases setup.lead t.log.investigators.keys none <;> rfl
      | some id =>
          simp only [h.diagnostic, report_behind]
          by_cases hid : id ∈ t.log.investigators.keys
          · simp only [hid, if_true]
            cases setup.lead t.log.investigators.keys (some id) <;> rfl
          · simp only [hid, if_false]
            cases setup.lead t.log.investigators.keys (some id) <;> rfl

theorem conclude_behind (l : CampaignLog) (p : Progress) (w : Walk) (e : Ending) :
    conclude l p (w.behind before) e = Prod.map (behind before) id (conclude l p w e) := by
  cases e with
  | ranOff => rfl
  | waiting step => simp [conclude, attempt_behind]
  | circling step => simp [conclude, behind]
  | resolved r =>
      simp only [conclude, Walk.table_behind, Walk.xp_behind, Walk.answered_behind, log_behind]
      cases Progress.complete _ r with
      | ok p => rfl
      | error e => simp [attempt, report, behind]

theorem playScripted_behind (h : Record.SameRepliesIn sc.id active' active) (t : Table)
    (setup : Setup) {start start' : Option Record} (hstart : Record.BothAlike start' start) :
    (t.behind before).playScripted g setup active' sc start' =
      Prod.map (behind before) id (t.playScripted g setup active sc start) := by
  unfold playScripted
  cases (Progress.new sc.id).start with
  | error e => simp [report_behind]
  | ok p =>
      have hrun := Walk.run_behind before g sc h sc.steps.length 0
        ⟨t.seatLead setup sc.id start, .empty, []⟩
      simp only [seatLead_behind before t setup sc.id hstart]
      simp only [Walk.behind] at hrun
      simp only [hrun, Prod.map, id]
      exact conclude_behind before t.log p _ _

theorem playCustom_behind (t : Table) (s : ScenarioId) (name : String) (xpCost : UInt32) :
    (t.behind before).playCustom s name xpCost =
      Prod.map (behind before) id (t.playCustom s name xpCost) := by
  -- Both changes of status are allowed, so nothing is reported.
  rfl

theorem play_behind (t : Table) (setup : Setup) {p p' : Played} (hp : p'.Alike p)
    (h : ∀ s start, p = .scripted s start → Record.SameRepliesIn s.id active' active) :
    (t.behind before).play g setup active' p' =
      Prod.map (behind before) id (t.play g setup active p) := by
  cases hp with
  | scripted s hstart => exact playScripted_behind before g s (h s _ rfl) t setup hstart
  | custom id name xpCost => exact playCustom_behind before t id name xpCost

/-- **The play of a campaign is the same whatever was reported before**, with any records that
reply the same to the scenarios that are played, and any that say the same as starts. -/
theorem playAll_behind (setup : Setup) {ps ps' : List Played}
    (hps : List.Forall₂ Played.Alike ps' ps)
    (h : ∀ s start, .scripted s start ∈ ps → Record.SameRepliesIn s.id active' active) (t : Table) :
    (t.behind before).playAll g setup active' ps' =
      Prod.map (behind before) id (t.playAll g setup active ps) := by
  induction hps generalizing t with
  | nil => rfl
  | cons hp _ ih =>
      have hfirst := play_behind before g t setup hp fun s start hs => h s start (by simp [hs])
      have hrest := ih fun s start hs => h s start (List.mem_cons_of_mem _ hs)
      simp only [playAll, hfirst, Prod.map, id, hrest]

end Table

/-! ## Before the first scenario -/

namespace Table

/-- Only cumulative records are operations. -/
theorem applyOperation_of_not_isCumulative (t : Table) {r : Record} (h : r.isCumulative = false) :
    t.applyOperation g r = t := by
  unfold applyOperation
  unfold Record.isCumulative Record.kind at h
  cases hr : r.payload <;> simp_all [Payload.kind, Kind.isCumulative]

/-- The table when the operations on achievements are done. -/
def operated (setup : Setup) (active : List Record) : Table :=
  (active.filter (·.isCumulative)).foldl (applyOperation g) (deal g setup)

/-- What the table is before the first scenario is told by the operations, the records that are
refused and the anchors that do not exist. -/
theorem prepare_eq (setup : Setup) (active : List Record) :
    prepare g setup active = { operated g setup active with
      reports := (operated g setup active).reports ++
        (active.filterMap g.refusal? ++ (Starts.ofRecords g active).strayAnchors g) } := by
  have hfold : active.foldl (applyOperation g) (deal g setup) = operated g setup active := by
    rw [operated, List.foldl_filter]
    refine List.foldl_ext _ _ _ fun t r _ => ?_
    cases hr : r.isCumulative with
    | true => rfl
    | false => exact applyOperation_of_not_isCumulative g t hr
  simp only [prepare, hfold, Starts.refused_ofRecords, List.append_assoc]

end Table

namespace Guide

/-- **What the outcome of a campaign depends on**: the table when the first scenario is about to be
played, what is replied to each prompt, and the scenarios that are played. -/
theorem outcome_congr (h : Record.SameReplies active' active) (setup : Setup)
    (hprepare : Table.prepare g setup active' = Table.prepare g setup active)
    (hplayed : List.Forall₂ Played.Alike ((Starts.ofRecords g active').played g)
      ((Starts.ofRecords g active).played g)) :
    g.outcome setup active' = g.outcome setup active := by
  have hplay := Table.playAll_behind [] g setup hplayed (fun s _ _ => h s.id)
    (Table.prepare g setup active)
  rw [Table.behind_nil] at hplay
  unfold outcome
  rw [hprepare, hplay]
  rfl

/-- The reports of a play stand behind those from before the first scenario. -/
theorem diagnostics_outcome (active : List Record) (setup : Setup) :
    (g.outcome setup active).diagnostics = (Table.prepare g setup active).reports ++
      (Table.playAll g setup active ⟨(Table.prepare g setup active).log, []⟩
        ((Starts.ofRecords g active).played g)).1.reports := by
  have hplay := Table.playAll_behind (Table.prepare g setup active).reports g setup
    ((Starts.Alike.refl (Starts.ofRecords g active)).played g)
    (fun s _ _ => Record.SameReplies.refl active s.id) ⟨(Table.prepare g setup active).log, []⟩
  rw [Table.behind_reports] at hplay
  simp only [outcome, hplay, Prod.map_fst, Table.behind]

/-- Where the first scenario finds the same campaign log and the same is played, the outcome is the
same exactly if the same has been reported before. -/
theorem outcome_eq_iff (h : Record.SameReplies active' active) (setup : Setup)
    (hlog : (Table.prepare g setup active').log = (Table.prepare g setup active).log)
    (hplayed : List.Forall₂ Played.Alike ((Starts.ofRecords g active').played g)
      ((Starts.ofRecords g active).played g)) :
    g.outcome setup active' = g.outcome setup active ↔
      (Table.prepare g setup active').reports = (Table.prepare g setup active).reports := by
  constructor
  · intro houtcome
    have hplay := Table.playAll_behind [] g setup hplayed (fun s _ _ => h s.id)
      ⟨(Table.prepare g setup active).log, []⟩
    rw [Table.behind_nil] at hplay
    have hdiagnostics := congrArg Playthrough.diagnostics houtcome
    rw [diagnostics_outcome, diagnostics_outcome, hlog, hplay] at hdiagnostics
    exact List.append_cancel_right hdiagnostics
  · intro hreports
    refine outcome_congr g h setup ?_ hplayed
    rw [← Table.behind_reports (Table.prepare g setup active'), hlog, hreports,
      Table.behind_reports]

end Guide
end Behind
end Chronicle
