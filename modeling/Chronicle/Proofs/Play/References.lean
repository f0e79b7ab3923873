import Chronicle.Proofs.Guide.Issues
import Chronicle.Proofs.Play.Causality
import Chronicle.Proofs.Play.Containment
import Chronicle.Proofs.Play.Reports
import Chronicle.Proofs.Play.Roster

/-!
# What a checked script can still miss

Whatever a step of a guide without issues refers to is there: the steps it goes to, and the
sections, entries and achievements it speaks of. An investigator that a test looks up is the lead of
the scenario, who is one of the roster. So a step that cannot do its work is reported for the
answers that it reads, for experience below zero, for an operation that does not fit its
achievement, or because nobody takes part in the campaign.
-/

namespace Chronicle

/-! ## Faults -/

/-- The faults that a step may have though everything it refers to is there. -/
inductive ScriptFault.Left (setup : Setup) : ScriptFault → Prop where
  | noLead (s : ScenarioId) (h : setup.investigators = []) : Left setup (.noLead s)
  | noInvestigators (h : setup.investigators = []) : Left setup .noInvestigators
  | notDecision (t : StepId) : Left setup (.notDecision t)
  | notChoice (t : StepId) : Left setup (.notChoice t)
  | noText (t : StepId) : Left setup (.noText t)
  | noSelection (t : StepId) : Left setup (.noSelection t)
  | noCount (t : StepId) : Left setup (.noCount t)
  | negativeXp {n : Int32} (h : n < 0) : Left setup (.negativeXp n)
  | achievementMismatch (m : AchievementMismatch) : Left setup (.achievementMismatch m)

theorem head?_toList_append {a : String} {c : Char} (h : a.toList.head? = some c) (b : String) :
    (a ++ b).toList.head? = some c := by
  rw [String.toList_append, List.head?_append, h]
  rfl

/-- None of their messages begins like those about what is not there. -/
theorem ScriptFault.Left.not_prefix_message {setup : Setup} {f : ScriptFault} (h : f.Left setup) :
    ¬ "unknown".toList <+: f.message.toList := by
  -- The first character tells the messages apart already.
  have hfirst : ∃ c, f.message.toList.head? = some c ∧ 'u' ≠ c := by
    cases h with
    | noLead s => exact ⟨_, head?_toList_append (head?_toList_append rfl s) _, by decide⟩
    | noInvestigators => exact ⟨_, rfl, by decide⟩
    | notDecision t | notChoice t | noText t | noSelection t | noCount t =>
        exact ⟨_, head?_toList_append (head?_toList_append rfl t) _, by decide⟩
    | negativeXp h => exact ⟨_, head?_toList_append rfl _, by decide⟩
    | achievementMismatch m =>
        have hname := head?_toList_append (a := "achievement ") rfl m.achievement
        exact ⟨_, head?_toList_append (head?_toList_append hname _) _, by decide⟩
  obtain ⟨c, hc, hne⟩ := hfirst
  rintro ⟨rest, heq⟩
  rw [← heq] at hc
  exact hne (Option.some.inj hc)

theorem eq_error_of_bind {ε α β : Type} {x : Except ε α} {f : α → Except ε β} {e : ε}
    (h : x.bind f = .error e) : x = .error e ∨ ∃ a, x = .ok a ∧ f a = .error e := by
  cases x with
  | error e' =>
      cases h
      exact Or.inl rfl
  | ok a => exact Or.inr ⟨a, rfl, h⟩

/-! ## What the campaign log gives -/

namespace CampaignLog

/-- The investigators are those of the setup, and one of them leads the scenario `s`, if there are
any. -/
structure Led (setup : Setup) (s : ScenarioId) (l : CampaignLog) : Prop extends
    Manned setup l where
  lead : l.lead? s = none → setup.investigators = []

variable {setup : Setup} {g : Guide} {es : List Effect} {s : ScenarioId} {l l' : CampaignLog}
  {f : ScriptFault}

theorem Led.edits (hl : l.Led setup s) (h : Edits g es l l') : l'.Led setup s where
  toManned := hl.toManned.edits h
  lead := by
    have hleads : l'.leads = l.leads := by
      induction h with
      | refl => rfl
      | tail _ hedit ih => rw [hedit.leads, ih]
    rw [lead?, hleads]
    exact hl.lead

theorem left_of_operand {v : Operand} (h : l.operand s v = .error f) : f.Left setup := by
  unfold operand at h
  repeat' split at h
  all_goals cases h
  exact .noCount _

theorem left_of_text {t : StepId} (h : l.text s t = .error f) : f.Left setup := by
  unfold text at h
  split at h <;> cases h
  exact .noText t

theorem left_of_selection {t : StepId} (h : l.selection s t = .error f) : f.Left setup := by
  unfold selection at h
  split at h <;> cases h
  exact .noSelection t

theorem Led.left_of_targets (hl : l.Led setup s) {whom : Whom}
    (h : l.targets s whom = .error f) : f.Left setup := by
  cases whom with
  | all => cases h
  | lead =>
      simp only [targets] at h
      split at h
      next => cases h
      next hnone =>
          cases h
          exact .noLead s (hl.lead hnone)

/-- The lead is looked up among the investigators and found. -/
theorem Led.left_of_isEliminated (hl : l.Led setup s) {whom : Whom}
    (h : l.isEliminated s whom = .error f) : f.Left setup := by
  cases whom with
  | lead =>
      simp only [isEliminated] at h
      cases hlead : l.lead? s with
      | none =>
          simp only [hlead] at h
          cases h
          exact .noLead s (hl.lead hlead)
      | some id =>
          have hkey := (hl.investigators id).mpr (hl.leads s id hlead)
          obtain ⟨i, hi⟩ := Option.isSome_iff_exists.mp (Dict.mem_keys_iff.mp hkey)
          simp only [hlead, hi] at h
          cases h
  | all =>
      simp only [isEliminated] at h
      split at h
      next hempty =>
          cases h
          refine .noInvestigators ?_
          have hroster : setup.roster = [] := by
            rw [List.eq_nil_iff_forall_not_mem]
            intro id hid
            have hkey := (hl.investigators id).mpr hid
            rw [Dict.keys, List.isEmpty_iff.mp hempty] at hkey
            exact List.not_mem_nil hkey
          exact List.map_eq_nil_iff.mp hroster
      next => cases h

theorem Led.left_of_verdict (hl : l.Led setup s) {test : Test}
    (hreferences : ∀ r ∈ test.logReferences, r.isDeclared g = true)
    (hachievements : ∀ id ∈ test.achievements, (g.achievement? id).isSome = true)
    (h : l.verdict g s test = .error f) : f.Left setup := by
  cases test with
  | eliminated whom =>
      rw [verdict] at h
      cases he : l.isEliminated s whom with
      | ok b =>
          rw [he] at h
          cases h
      | error f' =>
          rw [he] at h
          cases h
          exact hl.left_of_isEliminated he
  | recorded sec entry =>
      have hentry : (g.entry? sec entry).isSome = true := hreferences _ (List.mem_singleton.mpr rfl)
      rw [verdict, if_pos hentry] at h
      cases h
  | count c comparison n => cases h
  | decision t =>
      rw [verdict] at h
      split at h <;> cases h
      exact .notDecision t
  | choice t =>
      rw [verdict] at h
      split at h <;> cases h
      exact .notChoice t
  | achieved id =>
      have hid : (g.achievement? id).isSome = true := hachievements _ (List.mem_singleton.mpr rfl)
      rw [verdict, if_pos hid] at h
      cases h

end CampaignLog

/-! ## Effects -/

section Effects

variable {setup : Setup} {g : Guide} {s : ScenarioId} {f : ScriptFault}

theorem Guide.requireSection_of_isDeclared {r : SectionId}
    (h : (LogReference.sectionOf r).isDeclared g = true) : g.requireSection r = .ok () :=
  if_pos h

theorem Guide.requireEntry_of_isDeclared {sec : SectionId} {id : EntryId}
    (h : (LogReference.entryOf sec id).isDeclared g = true) :
    g.requireSection sec = .ok () ∧ g.requireEntry sec id = .ok () := by
  refine ⟨if_pos ?_, if_pos h⟩
  replace h : (g.entry? sec id).isSome = true := h
  unfold Guide.entry? at h
  cases hsection : g.section? sec with
  | some found => rfl
  | none =>
      rw [hsection] at h
      cases h

theorem Effect.left_of_xpAmount {n : Int32} (h : xpAmount n = .error f) : f.Left setup := by
  unfold xpAmount at h
  split at h
  next hneg =>
      cases h
      exact .negativeXp hneg
  next => cases h

/-- An effect that refers to nothing but what the guide declares. -/
theorem Effect.left_of_apply {e : Effect} {scene : Scene}
    (hreferences : ∀ r ∈ e.logReferences, r.isDeclared g = true)
    (hachievements : ∀ id ∈ e.achievements, (g.achievement? id).isSome = true)
    (hled : scene.log.Led setup s) (h : e.apply g s scene = .error f) : f.Left setup := by
  cases e with
  | record sec entry crossOut =>
      cases entry with
      | none =>
          have hsection := Guide.requireSection_of_isDeclared
            (hreferences _ (List.mem_singleton.mpr rfl))
          simp only [apply, hsection] at h
          cases h
      | some id =>
          obtain ⟨hsection, hentry⟩ := Guide.requireEntry_of_isDeclared
            (hreferences _ (List.mem_singleton.mpr rfl))
          simp only [apply, hsection, hentry] at h
          cases h
  | recordText sec source =>
      have hsection := Guide.requireSection_of_isDeclared
        (hreferences _ (List.mem_singleton.mpr rfl))
      simp only [apply, hsection] at h
      rcases eq_error_of_bind h with hnone | ⟨_, -, h⟩
      · cases hnone
      · rcases eq_error_of_bind h with htext | ⟨_, -, h⟩
        · exact CampaignLog.left_of_text htext
        · cases h
  | recordCards sec source =>
      have hsection := Guide.requireSection_of_isDeclared
        (hreferences _ (List.mem_singleton.mpr rfl))
      simp only [apply, hsection] at h
      rcases eq_error_of_bind h with hnone | ⟨_, -, h⟩
      · cases hnone
      · rcases eq_error_of_bind h with hids | ⟨_, -, h⟩
        · exact CampaignLog.left_of_selection hids
        · cases h
  | count counter operation value =>
      rcases eq_error_of_bind h with hvalue | ⟨_, -, h⟩
      · exact CampaignLog.left_of_operand hvalue
      · cases h
  | trauma whom physical mental killed insane =>
      rcases eq_error_of_bind h with htargets | ⟨_, -, h⟩
      · exact hled.left_of_targets htargets
      · cases h
  | earnXp whom amount =>
      rcases eq_error_of_bind h with hamount | ⟨n, -, h⟩
      · exact CampaignLog.left_of_operand hamount
      · rcases eq_error_of_bind h with hxp | ⟨_, -, h⟩
        · exact left_of_xpAmount hxp
        · rcases eq_error_of_bind h with htargets | ⟨_, -, h⟩
          · exact hled.left_of_targets htargets
          · cases h
  | chaosBag tokens => cases h
  | achievement id operation =>
      have hid : (g.achievement? id).isSome = true := hachievements _ (List.mem_singleton.mpr rfl)
      obtain ⟨a, ha⟩ := Option.isSome_iff_exists.mp hid
      have hfound : g.requireAchievement id = .ok a := by
        rw [Guide.requireAchievement, ha]
      rcases eq_error_of_bind h with hnone | ⟨_, -, h⟩
      · rw [hfound] at hnone
        cases hnone
      · split at h <;> cases h
        exact .achievementMismatch _
  | supplies whom supply n =>
      rcases eq_error_of_bind h with htargets | ⟨_, -, h⟩
      · exact hled.left_of_targets htargets
      · cases h

/-- The effects of a step are carried out on a campaign log that stays led. -/
theorem Scene.left_of_applyAll {effects : List Effect}
    (hreferences : ∀ r ∈ effects.flatMap (·.logReferences), r.isDeclared g = true)
    (hachievements : ∀ id ∈ effects.flatMap (·.achievements), (g.achievement? id).isSome = true)
    {scene : Scene} (hled : scene.log.Led setup s) (h : scene.applyAll g s effects = .error f) :
    f.Left setup := by
  unfold applyAll at h
  induction effects generalizing scene with
  | nil => cases h
  | cons e effects ih =>
      rw [List.flatMap_cons, List.forall_mem_append] at hreferences hachievements
      rw [List.foldlM_cons] at h
      rcases eq_error_of_bind h with hone | ⟨next, hone, hrest⟩
      · exact Effect.left_of_apply hreferences.1 hachievements.1 hled hone
      · have hedits : CampaignLog.QuietEdits g [e] scene.log next.log :=
          Effect.edits_apply (List.mem_singleton.mpr rfl) hone
        exact ih hreferences.2 hachievements.2 (hled.edits hedits.edits) hrest

end Effects

/-! ## Walks -/

/-- A report about a step names a fault that the step may have though everything it refers to is
there. -/
def Diagnostic.Leaves (setup : Setup) : Diagnostic → Prop
  | .script _ _ detail => ∃ f : ScriptFault, f.Left setup ∧ detail = f.message
  | _ => True

namespace Walk

variable {setup : Setup} {c : Script} {w : Walk} {t : Step}

/-- A walk in a scenario with a lead, of which nothing is reported but what is left. -/
structure Checked (setup : Setup) (c : Script) (w : Walk) : Prop where
  led : w.table.log.Led setup c.scenario.id
  reports : ∀ d ∈ w.table.reports, d.Leaves setup

theorem Checked.report (h : w.Checked setup c) {d : Diagnostic} (hd : d.Leaves setup) :
    (w.report d).Checked setup c where
  led := h.led
  reports := List.forall_mem_append.mpr ⟨h.reports, List.forall_mem_singleton.mpr hd⟩

theorem Checked.visit (h : w.Checked setup c) (ht : t.Declared c.guide c.scenario) :
    (visit c w t).1.Checked setup c := by
  have hvisited := visited c w t
  generalize Walk.visit c w t = left at hvisited ⊢
  cases hvisited with
  | @done es haction s hs =>
      exact ⟨h.led.edits (Scene.edits_applyAll (List.Subset.refl es) hs).edits, h.reports⟩
  | @failed es haction f hf =>
      have hreferences := ht.references
      have hachievements := ht.achievements
      simp only [Step.logReferences, Step.achievements, Step.condition?, Step.effects, haction,
        Option.toList_none, List.flatMap_nil, List.nil_append] at hreferences hachievements
      exact h.report ⟨f, Scene.left_of_applyAll hreferences hachievements h.led hf, rfl⟩
  | rejected haction hr hf => exact h.report trivial
  | @answered _ haction _ hr a ha =>
      have hedits : CampaignLog.Edits c.guide [] w.table.log
          (w.table.log.take c.scenario.id t.id a) :=
        CampaignLog.edits_take _ _ _ _
      exact ⟨h.led.edits hedits, h.reports⟩
  | @misjudged cond haction f hf =>
      have hreferences := ht.references
      have hachievements := ht.achievements
      simp only [Step.logReferences, Step.achievements, Step.condition?, Step.effects, haction,
        Option.toList_some, List.flatMap_singleton, List.flatMap_nil, List.append_nil]
        at hreferences hachievements
      have hverdict : w.table.log.verdict c.guide c.scenario.id cond.test = .error f := by
        rw [CampaignLog.judge] at hf
        cases hverdict : w.table.log.verdict c.guide c.scenario.id cond.test with
        | ok verdict =>
            rw [hverdict] at hf
            cases hf
        | error f' =>
            rw [hverdict] at hf
            cases hf
            rfl
      exact h.report ⟨f, h.led.left_of_verdict hreferences hachievements hverdict, rfl⟩
  | story | unanswered | branched | undecided | resolved => exact h

/-- Where every step is declared a walk never jumps to nowhere. -/
theorem Checked.run (hdeclared : ∀ t ∈ c.scenario.steps, t.Declared c.guide c.scenario)
    (visits cursor : Nat) (h : w.Checked setup c) : (run c visits cursor w).1.Checked setup c := by
  apply run_keeps (P := (·.Checked setup c))
  · intro w hw t ht
    exact hw.visit (hdeclared t ht)
  · intro w hw t ht left jump hleft cursor
    have hvisited := hw.visit (hdeclared t ht)
    rw [hleft] at hvisited
    rcases follow_cases c left t cursor jump with heq | ⟨target, htarget, hnone, -⟩
    · rw [heq]
      exact hvisited
    · have hmem := (hdeclared t ht).targets target (mem_targets_of_visit hleft htarget)
      rw [Scenario.stepIndex?, List.findIdx?_eq_none_iff] at hnone
      obtain ⟨step, hstep, hid⟩ := List.mem_map.mp hmem
      exact absurd hid (by simpa using hnone step hstep)
  · exact h

end Walk

/-! ## Campaigns -/

namespace Table

variable {setup : Setup} {g : Guide} {active : List Record}

/-- The scenario that starts has a lead, if there is anybody. -/
theorem led_seatLead {t : Table} (ht : t.log.Manned setup) (s : ScenarioId)
    (start : Option Record) : (t.seatLead setup s start).log.Led setup s where
  toManned := manned_seatLead ht s start
  lead := by
    intro hnone
    have hlead : ∃ requested, setup.lead t.log.investigators.keys requested = none := by
      unfold seatLead at hnone
      dsimp only at hnone
      split at hnone
      next id hid => simp [CampaignLog.lead?] at hnone
      next hid => exact ⟨_, hid⟩
    obtain ⟨requested, hlead⟩ := hlead
    have hfirst : setup.investigators.head?.map (·.id) = none := by
      unfold Setup.lead at hlead
      repeat' split at hlead
      all_goals first
        | cases hlead
        | exact hlead
    rwa [Option.map_eq_none_iff, List.head?_eq_none_iff] at hfirst

theorem leaves_play {t : Table} (ht : t.log.Manned setup)
    (hreports : ∀ d ∈ t.reports, d.Leaves setup) {p : Played}
    (hdeclared : ∀ s start, p = .scripted s start → ∀ step ∈ s.steps, step.Declared g s) :
    ∀ d ∈ (t.play g setup active p).1.reports, d.Leaves setup := by
  cases p with
  | custom id name xpCost => exact hreports
  | scripted s start =>
      have hseated : Walk.Checked setup ⟨g, active, s⟩
          ⟨t.seatLead setup s.id start, .empty, []⟩ := by
        refine ⟨led_seatLead ht s.id start, ?_⟩
        obtain ⟨leads, asked, hseat, hasked⟩ := t.seatLead_eq setup s.id start
        rw [hseat]
        refine List.forall_mem_append.mpr ⟨hreports, fun d hd => ?_⟩
        obtain ⟨r, f, -, rfl⟩ := hasked d hd
        trivial
      have hwalked := hseated.run (hdeclared s start rfl) s.steps.length 0
      exact forall_mem_reports_playScripted g setup active hwalked.reports fun _ => trivial

theorem leaves_playAll {ps : List Played}
    (hdeclared : ∀ s start, .scripted s start ∈ ps → ∀ step ∈ s.steps, step.Declared g s)
    {t : Table} (ht : t.log.Manned setup) (hreports : ∀ d ∈ t.reports, d.Leaves setup) :
    ∀ d ∈ (t.playAll g setup active ps).1.reports, d.Leaves setup := by
  induction ps generalizing t with
  | nil => exact hreports
  | cons p ps ih =>
      refine ih (fun s start hs => hdeclared s start (List.mem_cons_of_mem _ hs))
        (manned_play ht p) (leaves_play ht hreports ?_)
      intro s start hp
      exact hdeclared s start (hp ▸ List.mem_cons_self)

end Table

namespace Guide

/-- **What a checked guide can still miss.** When a campaign is played with a guide that has no
issues at all, a step is reported only for an answer that is missing or of another kind, for
experience below zero, for an operation that does not fit its achievement, or for want of
investigators in a campaign that has none. No such report is about an unknown step, section, entry,
achievement or investigator. -/
theorem play_misses_no_reference (g : Guide) (hvalid : g.issues = []) (j : Journal)
    (p : Playthrough) (h : g.play j = .ok p) (s : ScenarioId) (t : StepId) (detail : String)
    (hreport : .script s t detail ∈ p.diagnostics) :
    ¬ "unknown".toList <+: detail.toList ∧
      ∃ f : ScriptFault, f.Left j.setup ∧ detail = f.message := by
  obtain ⟨-, rfl⟩ := play_eq_ok_iff.mp h
  have hdeclared : ∀ sc start, .scripted sc start ∈ (Starts.ofRecords g j.active).played g →
      ∀ step ∈ sc.steps, step.Declared g sc := by
    intro sc start hsc step hstep
    obtain ⟨hscenario, -⟩ := g.scenario?_of_mem_played hsc
    exact declared_of_issues hvalid (List.mem_of_find?_eq_some hscenario) hstep
  have hprepare : ∀ d ∈ (Table.prepare g j.setup j.active).reports, d.Leaves j.setup := by
    intro d hd
    obtain ⟨r, -, f, rfl⟩ := Table.exists_ofRecord_of_mem_prepare hd
    trivial
  obtain ⟨f, hleft, hdetail⟩ := Table.leaves_playAll hdeclared
    (Table.manned_prepare g j.setup j.active) hprepare _ hreport
  refine ⟨?_, f, hleft, hdetail⟩
  rw [hdetail]
  exact hleft.not_prefix_message

open Sample

/-- Nobody is there to be frightened. -/
theorem play_misses_no_reference_of_emptyTrain :
    nightFair.issues = [] ∧ ∃ p, nightFair.play emptyTrain = .ok p ∧
      .script "ghost_train" "fright" "scenario ghost_train has no lead investigator" ∈
        p.diagnostics ∧
      ¬ "unknown".toList <+: "scenario ghost_train has no lead investigator".toList ∧
      ∃ f : ScriptFault, f.Left emptyTrain.setup ∧
        "scenario ghost_train has no lead investigator" = f.message := by
  have hvalid : nightFair.issues = [] := by decide
  have hturn : (Starts.ofRecords nightFair emptyTrain.active).played nightFair =
      [] ++ .scripted ghostTrain none :: [] := by
    cbv
  let w : Walk :=
    ⟨(Table.prepare nightFair emptyTrain.setup []).seatLead emptyTrain.setup "ghost_train" none,
      .empty, []⟩
  have hfails : w.scene.FailsIn nightFair "ghost_train" frightEffects (.noLead "ghost_train") :=
    ⟨[], .trauma .lead 0 1 false false, [], w.scene, rfl, rfl, rfl⟩
  have hwalk : Walk.run ⟨nightFair, [], ghostTrain⟩ 1 0 w =
      (w.report (.ofScript "ghost_train" "fright" (.noLead "ghost_train")), .ranOff) := by
    rw [Walk.run_of_go rfl 0 (Walk.visit_of_failsIn rfl hfails)]
    rfl
  have hreports : (nightFair.turn emptyTrain.setup [] [] (.scripted ghostTrain none)).1.reports =
      w.table.reports ++ [.ofScript "ghost_train" "fright" (.noLead "ghost_train")] := by
    rw [turn, Table.play, Table.playScripted_eq, Table.walkThrough]
    exact congrArg (fun left : Walk × Ending =>
      (Table.leave _ "ghost_train" left).1.reports) hwalk
  have hreport : .script "ghost_train" "fright" "scenario ghost_train has no lead investigator" ∈
      (nightFair.outcome emptyTrain.setup emptyTrain.active).diagnostics := by
    apply (reports_of_turn hturn emptyTrain.setup).subset
    change _ ∈ (nightFair.turn emptyTrain.setup [] [] (.scripted ghostTrain none)).1.reports
    rw [hreports]
    exact List.mem_append_right _ (List.mem_singleton_self _)
  exact ⟨hvalid, _, rfl, hreport,
    nightFair.play_misses_no_reference hvalid emptyTrain _ rfl _ _ _ hreport⟩

end Guide

end Chronicle
