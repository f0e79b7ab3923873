import Chronicle.Play.Basic
import Chronicle.Proofs.Play.Visit
import Mathlib.Logic.Relation

/-!
# What a walk does to the table

The steps of a walk change the campaign log by small edits, and beside them they only report. What
no edit changes is the same after the walk as before it.
-/

namespace Chronicle

open Relation

/-! ## Edits of the campaign log -/

/-- One change of the state of an investigator. -/
inductive InvestigatorState.Edit : InvestigatorState → InvestigatorState → Prop where
  | suffer (i : InvestigatorState) (t : TraumaChange) : Edit i (i.suffer t)
  | adjustSupply (i : InvestigatorState) (supply : SupplyId) (delta : Int32) :
      Edit i (i.adjustSupply supply delta)

/-- One change that a step may make to the campaign log, where the script holds the effects `es`. -/
inductive CampaignLog.Edit (g : Guide) (es : List Effect) : CampaignLog → CampaignLog → Prop where
  | openSection (l : CampaignLog) {s : SectionId} (hs : (g.section? s).isSome = true) :
      Edit g es l (l.openSection s)
  | record (l : CampaignLog) {s : SectionId} (hs : (g.section? s).isSome = true) (entry : EntryId)
      (text : Option String) : Edit g es l (l.record s entry text)
  | crossOut (l : CampaignLog) {s : SectionId} (hs : (g.section? s).isSome = true)
      (entry : EntryId) : Edit g es l (l.crossOut s entry)
  | count (l : CampaignLog) (c : CounterId) (operation : CountOperation) (n : Int32) :
      Edit g es l (l.applyCount c operation n)
  | investigator (l : CampaignLog) (id : InvestigatorId) {f : InvestigatorState → InvestigatorState}
      (hf : ∀ i, ReflTransGen InvestigatorState.Edit i (f i)) :
      Edit g es l (l.modifyInvestigator id f)
  | chaosBag (l : CampaignLog) (token : TokenId) (delta : Int32) :
      Edit g es l (l.adjustChaosBag token delta)
  | achievement {l l' : CampaignLog} {id : AchievementId} {operation : AchievementOperation}
      {a : Achievement} (he : .achievement id operation ∈ es) (ha : g.achievement? id = some a)
      (h : l.applyAchievement a operation none = .ok l') : Edit g es l l'
  | answer (l : CampaignLog) (s : ScenarioId) (t : StepId) (a : Answer) :
      Edit g es l (l.recordAnswer s t a)

/-- Changes made one after the other. -/
abbrev CampaignLog.Edits (g : Guide) (es : List Effect) : CampaignLog → CampaignLog → Prop :=
  ReflTransGen (Edit g es)

/-- A change that leaves the answers as they are, as all changes of effects do. -/
def CampaignLog.QuietEdit (g : Guide) (es : List Effect) (l l' : CampaignLog) : Prop :=
  Edit g es l l' ∧ l'.answers = l.answers

abbrev CampaignLog.QuietEdits (g : Guide) (es : List Effect) : CampaignLog → CampaignLog → Prop :=
  ReflTransGen (QuietEdit g es)

theorem reflTransGen_foldl {α σ : Type} {R : σ → σ → Prop} {f : σ → α → σ}
    (h : ∀ s a, ReflTransGen R s (f s a)) (as : List α) (s : σ) :
    ReflTransGen R s (as.foldl f s) := by
  induction as generalizing s with
  | nil => exact .refl
  | cons a as ih => exact (h s a).trans (ih (f s a))

section Edits

variable {g : Guide} {es : List Effect}

namespace CampaignLog

theorem edits_modifyAll {f : InvestigatorState → InvestigatorState}
    (hf : ∀ i, ReflTransGen InvestigatorState.Edit i (f i)) (l : CampaignLog)
    (ids : List InvestigatorId) : QuietEdits g es l (l.modifyAll ids f) := by
  apply reflTransGen_foldl
  intro l id
  exact .single ⟨.investigator l id hf, rfl⟩

/-- An operation on an achievement changes nothing but the achievements. -/
theorem applyAchievement_eq {l l' : CampaignLog} {a : Achievement}
    {operation : AchievementOperation} {max : Option UInt32}
    (h : l.applyAchievement a operation max = .ok l') :
    ∃ achievements, l' = { l with achievements } := by
  unfold applyAchievement at h
  split at h <;> cases h <;> exact ⟨_, rfl⟩

theorem QuietEdits.edits {l l' : CampaignLog} (h : QuietEdits g es l l') : Edits g es l l' :=
  ReflTransGen.mono (fun _ _ hedit => hedit.1) _ _ h

theorem QuietEdits.answers_eq {l l' : CampaignLog} (h : QuietEdits g es l l') :
    l'.answers = l.answers := by
  induction h with
  | refl => rfl
  | tail _ hedit ih => rw [hedit.2, ih]

theorem edits_heed (l : CampaignLog) (a : Answer) : Edits g es l (l.heed a) := by
  cases a with
  | supplies supplies =>
      apply reflTransGen_foldl
      intro l e
      refine .single (.investigator l e.1 fun i => ?_)
      apply reflTransGen_foldl
      intro i c
      exact .single (.adjustSupply i c.1 c.2)
  | interScenarioTrauma changes =>
      apply reflTransGen_foldl
      intro l e
      exact .single (.investigator l e.1 fun i => .single (.suffer i e.2))
  | _ => exact .refl

theorem edits_take (l : CampaignLog) (s : ScenarioId) (t : StepId) (a : Answer) :
    Edits g es l (l.take s t a) :=
  (edits_heed l a).tail (.answer _ s t a)

end CampaignLog

theorem Guide.isSome_section?_of_requireSection {s : SectionId} {u : Unit}
    (h : g.requireSection s = .ok u) : (g.section? s).isSome = true := by
  unfold requireSection at h
  split at h
  · assumption
  · cases h

theorem Effect.edits_apply {s : ScenarioId} {scene next : Scene} {e : Effect} (he : e ∈ es)
    (h : e.apply g s scene = .ok next) : CampaignLog.QuietEdits g es scene.log next.log := by
  unfold Effect.apply at h
  simp only [bind, Except.bind, pure, Except.pure] at h
  cases e with
  | record sec entry crossOut =>
      simp only at h
      split at h
      next => cases h
      next hsec =>
          have hs := Guide.isSome_section?_of_requireSection hsec
          cases entry with
          | none =>
              cases h
              exact .single ⟨.openSection _ hs, rfl⟩
          | some entry =>
              simp only at h
              split at h <;> cases h
              cases crossOut with
              | true => exact .single ⟨.crossOut _ hs entry, rfl⟩
              | false => exact .single ⟨.record _ hs entry none, rfl⟩
  | recordText sec source =>
      simp only at h
      split at h
      next => cases h
      next hsec =>
          split at h <;> cases h
          exact .single ⟨.record _ (Guide.isSome_section?_of_requireSection hsec) source _, rfl⟩
  | recordCards sec source =>
      simp only at h
      split at h
      next => cases h
      next hsec =>
          split at h <;> cases h
          apply reflTransGen_foldl
          intro l entry
          exact .single ⟨.record l (Guide.isSome_section?_of_requireSection hsec) entry none, rfl⟩
  | count counter operation value =>
      simp only at h
      split at h <;> cases h
      exact .single ⟨.count _ counter operation _, rfl⟩
  | trauma whom physical mental killed insane =>
      simp only at h
      split at h <;> cases h
      exact CampaignLog.edits_modifyAll (fun i => .single (.suffer i _)) _ _
  | earnXp whom amount =>
      -- What is earned is set aside, and the campaign log stays as it is.
      simp only at h
      repeat' split at h
      all_goals cases h
      exact .refl
  | chaosBag tokens =>
      cases h
      apply reflTransGen_foldl
      intro l token
      exact .single ⟨.chaosBag l token.1 token.2, rfl⟩
  | achievement id operation =>
      simp only [Guide.requireAchievement] at h
      cases ha : g.achievement? id with
      | none => simp [ha] at h
      | some a =>
          simp only [ha] at h
          split at h
          next l hl =>
              cases h
              obtain ⟨achievements, hachievements⟩ := CampaignLog.applyAchievement_eq hl
              exact .single ⟨.achievement he ha hl, by rw [hachievements]⟩
          next => cases h
  | supplies whom supply n =>
      simp only at h
      split at h <;> cases h
      exact CampaignLog.edits_modifyAll (fun i => .single (.adjustSupply i supply n)) _ _

theorem Scene.edits_applyAll {s : ScenarioId} {effects : List Effect} (hes : effects ⊆ es)
    {scene next : Scene} (h : scene.applyAll g s effects = .ok next) :
    CampaignLog.QuietEdits g es scene.log next.log := by
  unfold applyAll at h
  induction effects generalizing scene with
  | nil =>
      cases h
      exact .refl
  | cons e effects ih =>
      obtain ⟨he, hrest⟩ := List.cons_subset.mp hes
      rw [List.foldlM_cons] at h
      cases hone : e.apply g s scene with
      | error f =>
          rw [hone] at h
          cases h
      | ok mid =>
          rw [hone] at h
          exact (Effect.edits_apply he hone).trans (ih hrest h)

end Edits

/-! ## Moves of a walk -/

/-- All effects of a scenario. -/
def Scenario.effects (s : Scenario) : List Effect := s.steps.flatMap (·.effects)

theorem Record.mem_of_lastOf {active : List Record} {i : Identity} {r : Record}
    (h : lastOf active i = some r) : r ∈ active ∧ r.identity = i := by
  have hfound := List.find?_some h
  exact ⟨List.mem_reverse.mp (List.mem_of_find?_eq_some h), by simpa using hfound⟩

/-- A record that is consulted is in effect, at the step that consults it. -/
theorem Record.mem_of_consulted {active : List Record} {s : ScenarioId} {t : StepId} {p : Prompt}
    {r : Record} (h : consulted active s t p = some r) :
    r ∈ active ∧ r.scenario = some s ∧ r.step = some t := by
  obtain ⟨k, hk⟩ : ∃ k, lastOf active ⟨some s, some t, k⟩ = some r := by
    rcases Option.or_eq_some_iff.mp h with h | ⟨-, h⟩
    · exact ⟨_, h⟩
    · obtain ⟨k, -, hk⟩ := List.exists_of_findSome?_eq_some h
      exact ⟨k, hk⟩
  obtain ⟨hmem, hidentity⟩ := mem_of_lastOf hk
  exact ⟨hmem, congrArg Identity.scenario hidentity, congrArg Identity.step hidentity⟩

/-- One thing that a walk may do to the table: edit the campaign log, or report a step that cannot
do its work or a record that does not fit. -/
inductive Table.Move (c : Script) : Table → Table → Prop where
  | edit {l l' : CampaignLog} (reports : List Diagnostic)
      (h : CampaignLog.Edit c.guide c.scenario.effects l l') : Move c ⟨l, reports⟩ ⟨l', reports⟩
  | script (t : Table) {step : Step} (hstep : step ∈ c.scenario.steps) (f : ScriptFault) :
      Move c t (t.report (.ofScript c.scenario.id step.id f))
  | record (t : Table) {r : Record} (hr : r ∈ c.active)
      (hscenario : r.scenario = some c.scenario.id) {step : Step}
      (hstep : step ∈ c.scenario.steps) (hat : r.step = some step.id) (f : RecordFault) :
      Move c t (t.report (.ofRecord r f))

/-- Moves made one after the other. -/
abbrev Table.Moves (c : Script) : Table → Table → Prop := ReflTransGen (Move c)

theorem Table.moves_of_edits {c : Script} {l l' : CampaignLog} (reports : List Diagnostic)
    (h : CampaignLog.Edits c.guide c.scenario.effects l l') :
    Moves c ⟨l, reports⟩ ⟨l', reports⟩ := by
  induction h with
  | refl => exact .refl
  | tail _ hedit ih => exact ih.tail (.edit reports hedit)

/-- What every edit of the campaign log keeps, moves keep. -/
theorem Table.Moves.keeps {c : Script} {P : CampaignLog → Prop}
    (hedit : ∀ {l l'}, CampaignLog.Edit c.guide c.scenario.effects l l' → P l → P l') {t t' : Table}
    (h : Moves c t t') (ht : P t.log) : P t'.log := by
  induction h with
  | refl => exact ht
  | tail _ hmove ih =>
      cases hmove with
      | edit reports he => exact hedit he ih
      | script _ _ _ => exact ih
      | record _ _ _ _ _ _ => exact ih

/-- What no edit changes, no moves change. -/
theorem Table.Moves.log_eq {β : Type} {c : Script} {f : CampaignLog → β}
    (hf : ∀ {l l'}, CampaignLog.Edit c.guide c.scenario.effects l l' → f l' = f l) {t t' : Table}
    (h : Moves c t t') : f t'.log = f t.log :=
  h.keeps (P := fun l => f l = f t.log) (fun hedit hl => (hf hedit).trans hl) rfl

namespace Walk

variable {c : Script} {t : Step}

theorem moves_visit (ht : t ∈ c.scenario.steps) (w : Walk) :
    Table.Moves c w.table (visit c w t).1.table := by
  have hvisited := visited c w t
  generalize visit c w t = left at hvisited ⊢
  cases hvisited with
  | @done es haction s hs =>
      have hes : es ⊆ c.scenario.effects := by
        intro e he
        refine List.mem_flatMap.mpr ⟨t, ht, ?_⟩
        rw [Step.effects, haction]
        exact he
      exact Table.moves_of_edits _ (Scene.edits_applyAll hes hs).edits
  | rejected _ hr _ =>
      obtain ⟨hmem, hscenario, hstep⟩ := Record.mem_of_consulted hr
      exact .single (.record _ hmem hscenario ht hstep _)
  | answered _ _ _ => exact Table.moves_of_edits _ (CampaignLog.edits_take _ _ _ _)
  | failed _ _ => exact .single (.script _ ht _)
  | misjudged _ _ => exact .single (.script _ ht _)
  | story | unanswered | branched | undecided | resolved => exact .refl

/-- **A walk is a sequence of moves.** -/
theorem moves_run (c : Script) (visits cursor : Nat) (w : Walk) :
    Table.Moves c w.table (run c visits cursor w).1.table := by
  apply run_invariant (P := fun w' => Table.Moves c w.table w'.table)
  · intro w' hw' t ht
    exact hw'.trans (moves_visit ht w')
  · intro w' hw' t ht f
    exact hw'.tail (.script _ ht f)
  · exact .refl

end Walk

/-! ## What playing a scenario leaves behind -/

namespace Table

/-- What every single credit keeps, crediting experience keeps. -/
theorem credit_keeps {P : CampaignLog → Prop}
    (hearn : ∀ {l : CampaignLog} id xp, P l → P (l.modifyInvestigator id (·.earn xp)))
    {l : CampaignLog} (hl : P l) (xp : Dict InvestigatorId UInt32) : P (credit l xp) := by
  apply List.foldlRecOn (motive := P)
  · exact hl
  · intro l hl e _
    exact hearn e.1 e.2 hl

/-- Crediting experience changes nothing but the investigators. -/
theorem credit_eq (l : CampaignLog) (xp : Dict InvestigatorId UInt32) :
    ∃ investigators, credit l xp = { l with investigators } := by
  apply credit_keeps (P := fun l' => ∃ investigators, l' = { l with investigators })
  · rintro _ id xp ⟨investigators, rfl⟩
    exact ⟨_, rfl⟩
  · exact ⟨l.investigators, rfl⟩

/-- Naming the lead investigator changes nothing but the leads, and may report the record that asks
for one. -/
theorem seatLead_eq (t : Table) (setup : Setup) (s : ScenarioId) (start : Option Record) :
    ∃ leads reports, t.seatLead setup s start = ⟨{ t.log with leads }, t.reports ++ reports⟩ ∧
      ∀ d ∈ reports, ∃ r f, start = some r ∧ d = .ofRecord r f := by
  unfold seatLead
  dsimp only
  repeat' split
  -- Only a record that asks for an investigator who is not there is reported.
  all_goals first
    | exact ⟨_, [_], rfl, fun d hd => ⟨_, _, rfl, List.mem_singleton.mp hd⟩⟩
    | exact ⟨_, [], (congrArg (Table.mk _) (List.append_nil _)).symm, fun d hd => nomatch hd⟩

variable (g : Guide) (setup : Setup) (active : List Record)

/-- The walk through a scenario, with its lead seated, from the first step on. -/
def walkThrough (t : Table) (s : Scenario) (start : Option Record) : Walk × Ending :=
  Walk.run ⟨g, active, s⟩ s.steps.length 0 ⟨t.seatLead setup s.id start, .empty, []⟩

/-- What a walk leaves behind, by how it ended. -/
def leave (before : CampaignLog) (s : ScenarioId) : Walk × Ending → Table × Progress
  | (w, .ranOff) => (w.table, ⟨s, none, .started none, w.answered, w.xp⟩)
  | (w, .waiting step) => (w.table, ⟨s, none, .started (some step), w.answered, w.xp⟩)
  | (w, .circling step) =>
    (⟨before, w.table.reports ++ [.cyclic s step]⟩, ⟨s, none, .started none, [], .empty⟩)
  | (w, .resolved r) =>
    (⟨credit { w.table.log with resolutions := w.table.log.resolutions.insert s r } w.xp,
        w.table.reports⟩,
      ⟨s, none, .completed r, w.answered, w.xp⟩)

/-- No change of status is refused when a scenario is played. -/
theorem playScripted_eq (t : Table) (s : Scenario) (start : Option Record) :
    t.playScripted g setup active s start =
      leave t.log s.id (walkThrough g setup active t s start) := by
  have hstart : (Progress.new s.id).start =
      .ok { Progress.new s.id with status := .started none } := rfl
  simp only [playScripted, hstart, walkThrough]
  generalize Walk.run _ _ _ _ = left
  obtain ⟨w, e⟩ := left
  cases e <;> rfl

theorem moves_walkThrough (t : Table) (s : Scenario) (start : Option Record) :
    Moves ⟨g, active, s⟩ (t.seatLead setup s.id start)
      (walkThrough g setup active t s start).1.table :=
  Walk.moves_run ⟨g, active, s⟩ s.steps.length 0 ⟨t.seatLead setup s.id start, .empty, []⟩

/-- A scenario that is walked through stays started, or goes in circles and all is taken back, or is
completed with the resolution that the log has for it from then on. -/
theorem playScripted_cases (t : Table) (s : Scenario) (start : Option Record) :
    ∃ w : Walk, Moves ⟨g, active, s⟩ (t.seatLead setup s.id start) w.table ∧
      ((∃ pending, t.playScripted g setup active s start =
          (w.table, ⟨s.id, none, .started pending, w.answered, w.xp⟩)) ∨
        (∃ step, t.playScripted g setup active s start =
          (⟨t.log, w.table.reports ++ [.cyclic s.id step]⟩,
            ⟨s.id, none, .started none, [], .empty⟩)) ∨
        (∃ r investigators, t.playScripted g setup active s start =
          (⟨{ w.table.log with
              resolutions := w.table.log.resolutions.insert s.id r
              investigators }, w.table.reports⟩,
            ⟨s.id, none, .completed r, w.answered, w.xp⟩))) := by
  have hmoves := moves_walkThrough g setup active t s start
  rw [playScripted_eq]
  generalize walkThrough g setup active t s start = left at hmoves
  obtain ⟨w, e⟩ := left
  refine ⟨w, hmoves, ?_⟩
  cases e with
  | ranOff => exact Or.inl ⟨none, rfl⟩
  | waiting step => exact Or.inl ⟨some step, rfl⟩
  | circling step => exact Or.inr (Or.inl ⟨step, rfl⟩)
  | resolved r =>
      obtain ⟨investigators, hcredit⟩ :=
        credit_eq { w.table.log with resolutions := w.table.log.resolutions.insert s.id r } w.xp
      exact Or.inr (Or.inr ⟨r, investigators, by rw [leave, hcredit]⟩)

variable {g setup active}

/-- Beside what the walk does to the campaign log, the end of a scenario writes a resolution and
credits experience, or takes all of it back. -/
theorem playScripted_keeps {P : CampaignLog → Prop} {t : Table} {s : Scenario}
    {start : Option Record} (ht : P t.log)
    (hwalk : P (walkThrough g setup active t s start).1.table.log)
    (hresolved : ∀ (l : CampaignLog) resolutions xp, P l → P (credit { l with resolutions } xp)) :
    P (t.playScripted g setup active s start).1.log := by
  rw [playScripted_eq]
  generalize walkThrough g setup active t s start = left at hwalk ⊢
  obtain ⟨w, e⟩ := left
  cases e with
  | ranOff => exact hwalk
  | waiting step => exact hwalk
  | circling step => exact ht
  | resolved r => exact hresolved _ _ _ hwalk

end Table

/-! ## What a campaign keeps -/

namespace CampaignLog

/-- What investigators who are not eliminated pay for a custom side scenario. -/
def pay (l : CampaignLog) (cost : UInt32) : CampaignLog :=
  { l with investigators := l.investigators.mapValues fun _ i =>
      if i.isEliminated then i else i.spend cost }

/-- A property of the campaign log is kept by whatever may change the log while scenarios are
played. -/
structure Kept (g : Guide) (P : CampaignLog → Prop) : Prop where
  edit : ∀ {es : List Effect} {l l' : CampaignLog}, Edit g es l l' → P l → P l'
  leads : ∀ {l : CampaignLog} leads, P l → P { l with leads }
  resolutions : ∀ {l : CampaignLog} resolutions, P l → P { l with resolutions }
  earn : ∀ {l : CampaignLog} id xp, P l → P (l.modifyInvestigator id (·.earn xp))
  pay : ∀ {l : CampaignLog} cost, P l → P (l.pay cost)

namespace Kept

variable {g : Guide} {P : CampaignLog → Prop} {setup : Setup} {active : List Record}

theorem play (h : Kept g P) {t : Table} (ht : P t.log) (p : Played) :
    P (t.play g setup active p).1.log := by
  cases p with
  | scripted s start =>
      obtain ⟨leads, reports, hseat, -⟩ := t.seatLead_eq setup s.id start
      have hseated : P (t.seatLead setup s.id start).log := by
        rw [hseat]
        exact h.leads leads ht
      apply Table.playScripted_keeps ht
      · exact (Table.moves_walkThrough g setup active t s start).keeps h.edit hseated
      · intro l resolutions xp hl
        exact Table.credit_keeps h.earn (h.resolutions resolutions hl) xp
  | custom id name xpCost => exact h.resolutions _ (h.pay xpCost ht)

/-- **What every change keeps is kept throughout a campaign.** -/
theorem playAll (h : Kept g P) {t : Table} (ht : P t.log) (ps : List Played) :
    P (t.playAll g setup active ps).1.log := by
  induction ps generalizing t with
  | nil => exact ht
  | cons p ps ih => exact ih (h.play ht p)

end Kept
end CampaignLog

namespace Table

variable (g : Guide) (setup : Setup) (active : List Record)

/-! ## Before the first scenario -/

/-- At the beginning of a campaign there are its investigators and the chaos bag. -/
theorem log_deal : ∃ investigators, (deal g setup).log =
    { CampaignLog.new setup.difficulty (g.chaosBag setup.difficulty) with investigators } := by
  apply List.foldlRecOn (motive := fun l : CampaignLog => ∃ investigators,
    l = { CampaignLog.new setup.difficulty (g.chaosBag setup.difficulty) with investigators })
  · exact ⟨.empty, rfl⟩
  · rintro l ⟨investigators, rfl⟩ i _
    exact ⟨_, rfl⟩

/-- An operation that a player records changes nothing but the achievements. -/
theorem log_applyOperation (t : Table) (r : Record) :
    ∃ achievements, (t.applyOperation g r).log = { t.log with achievements } := by
  unfold applyOperation
  split
  · split
    · exact ⟨_, rfl⟩
    · split
      next hop => exact CampaignLog.applyAchievement_eq hop
      next => exact ⟨_, rfl⟩
  · exact ⟨_, rfl⟩

/-- Before the first scenario nothing is changed but the achievements. -/
theorem log_prepare : ∃ achievements,
    (prepare g setup active).log = { (deal g setup).log with achievements } := by
  apply List.foldlRecOn (motive := fun t : Table => ∃ achievements,
    t.log = { (deal g setup).log with achievements })
  · exact ⟨(deal g setup).log.achievements, rfl⟩
  · rintro t ⟨before, ht⟩ r _
    obtain ⟨achievements, h⟩ := log_applyOperation g t r
    exact ⟨achievements, by rw [h, ht]⟩

end Table
end Chronicle
