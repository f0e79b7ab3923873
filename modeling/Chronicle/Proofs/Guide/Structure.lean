import Chronicle.Guide.Document
import Mathlib.Data.List.Duplicate

/-!
# What the issues of a guide tell

Each issue says one thing about the script, and a guide has the issue exactly if that is so. A guide
is loaded exactly if its script holds together: no id is given twice, no scenario is empty, every
jump leads to a step of the scenario, and answers are read only where there is a prompt for them.
-/

namespace Chronicle

/-! ## What a step speaks of -/

/-- A step may go on to `target`. -/
inductive Step.LeadsTo (t : Step) (target : StepId) : Prop where
  | next (h : t.next = some target)
  | route {c : Condition} (ht : t.action = .branch c) {r : Route} (hr : r ∈ c.routes)
      (h : r.target = target)

/-- An effect needs the answer given at a step. -/
inductive Effect.Reads : Effect → StepId → Prop where
  | recordText (sec : SectionId) (t : StepId) : Reads (.recordText sec t) t
  | recordCards (sec : SectionId) (t : StepId) : Reads (.recordCards sec t) t
  | count (c : CounterId) (operation : CountOperation) (t : StepId) :
      Reads (.count c operation (.counted t)) t
  | earnXp (whom : Whom) (t : StepId) : Reads (.earnXp whom (.counted t)) t

/-- A test needs the answer given at a step. -/
inductive Test.Reads : Test → StepId → Prop where
  | decision (t : StepId) : Reads (.decision t) t
  | choice (t : StepId) : Reads (.choice t) t

/-- An effect names a part of the campaign log. -/
inductive Effect.Names : Effect → LogReference → Prop where
  | openSection (sec : SectionId) (crossOut : Bool) :
      Names (.record sec none crossOut) (.sectionOf sec)
  | record (sec : SectionId) (entry : EntryId) (crossOut : Bool) :
      Names (.record sec (some entry) crossOut) (.entryOf sec entry)
  | recordText (sec : SectionId) (t : StepId) : Names (.recordText sec t) (.sectionOf sec)
  | recordCards (sec : SectionId) (t : StepId) : Names (.recordCards sec t) (.sectionOf sec)

/-- A test names a part of the campaign log. -/
inductive Test.Names : Test → LogReference → Prop where
  | recorded (sec : SectionId) (entry : EntryId) :
      Names (.recorded sec entry) (.entryOf sec entry)

inductive Effect.NamesAchievement : Effect → AchievementId → Prop where
  | achievement (id : AchievementId) (operation : AchievementOperation) :
      NamesAchievement (.achievement id operation) id

inductive Test.NamesAchievement : Test → AchievementId → Prop where
  | achieved (id : AchievementId) : NamesAchievement (.achieved id) id

/-- An effect of a step, or the test it branches by, is about `b`. -/
inductive Step.Concerns {β : Type} (ofEffect : Effect → β → Prop) (ofTest : Test → β → Prop)
    (t : Step) (b : β) : Prop where
  | effect {es : List Effect} (ht : t.action = .effects es) {e : Effect} (he : e ∈ es)
      (h : ofEffect e b)
  | test {c : Condition} (ht : t.action = .branch c) (h : ofTest c.test b)

abbrev Step.Reads : Step → StepId → Prop := Step.Concerns Effect.Reads Test.Reads

abbrev Step.Names : Step → LogReference → Prop := Step.Concerns Effect.Names Test.Names

abbrev Step.NamesAchievement : Step → AchievementId → Prop :=
  Step.Concerns Effect.NamesAchievement Test.NamesAchievement

/-- A guide declares its sections. Of the sections with one id it is the first whose entries are
declared. -/
inductive Guide.Declares (g : Guide) : LogReference → Prop where
  | sectionOf {sec : LogSection} (h : sec ∈ g.sections) : Declares g (.sectionOf sec.id)
  | entryOf {s : SectionId} {sec : LogSection} (hs : g.section? s = some sec) {e : LogEntry}
      (he : e ∈ sec.entries) : Declares g (.entryOf s e.id)

section Speaking

variable {t : Step}

theorem Step.mem_targets_iff {target : StepId} : target ∈ t.targets ↔ t.LeadsTo target := by
  rw [targets, List.mem_append, Option.mem_toList]
  constructor
  · rintro (h | h)
    · exact .next h
    · simp only [condition?] at h
      split at h
      next c ht =>
          obtain ⟨r, hr, hrt⟩ : ∃ r ∈ c.routes, r.target = target := by simpa using h
          exact .route ht hr hrt
      next => simp at h
  · rintro (h | ⟨ht, hr, rfl⟩)
    · exact Or.inl h
    · right
      simpa [condition?, ht] using ⟨_, hr, rfl⟩

/-- What a step is about is found among its effects and in its test. -/
theorem Step.mem_flatMap_iff {β : Type} {ofEffect : Effect → β → Prop} {ofTest : Test → β → Prop}
    {fe : Effect → List β} {ft : Test → List β} (he : ∀ e b, b ∈ fe e ↔ ofEffect e b)
    (ht : ∀ t b, b ∈ ft t ↔ ofTest t b) {b : β} :
    b ∈ (t.condition?.toList.flatMap fun c => ft c.test) ++ t.effects.flatMap fe ↔
      t.Concerns ofEffect ofTest b := by
  rw [List.mem_append, List.mem_flatMap, List.mem_flatMap]
  constructor
  · rintro (⟨c, hc, hb⟩ | ⟨e, hmem, hb⟩)
    · simp only [condition?] at hc
      split at hc
      next c' haction =>
          obtain rfl : c = c' := by simpa using hc
          exact .test haction ((ht _ _).mp hb)
      next => simp at hc
    · simp only [effects] at hmem
      split at hmem
      next es haction => exact .effect haction hmem ((he _ _).mp hb)
      next => simp at hmem
  · rintro (⟨haction, hmem, hb⟩ | ⟨haction, hb⟩)
    · right
      rw [effects, haction]
      exact ⟨_, hmem, (he _ _).mpr hb⟩
    · left
      rw [condition?, haction]
      exact ⟨_, List.mem_singleton_self _, (ht _ _).mpr hb⟩

theorem Effect.mem_reads_iff (e : Effect) (read : StepId) : read ∈ e.reads ↔ e.Reads read := by
  constructor
  · intro h
    cases e with
    | recordText sec source =>
        cases List.mem_singleton.mp h
        exact .recordText sec read
    | recordCards sec source =>
        cases List.mem_singleton.mp h
        exact .recordCards sec read
    | count c operation v =>
        cases v with
        | literal n => cases h
        | counted step =>
            cases List.mem_singleton.mp h
            exact .count c operation read
    | earnXp whom v =>
        cases v with
        | literal n => cases h
        | counted step =>
            cases List.mem_singleton.mp h
            exact .earnXp whom read
    | _ => cases h
  · intro h
    cases h <;> exact List.mem_singleton_self _

theorem Test.mem_reads_iff (test : Test) (read : StepId) :
    read ∈ test.reads ↔ test.Reads read := by
  constructor
  · intro h
    cases test with
    | decision step =>
        cases List.mem_singleton.mp h
        exact .decision read
    | choice step =>
        cases List.mem_singleton.mp h
        exact .choice read
    | _ => cases h
  · intro h
    cases h <;> exact List.mem_singleton_self _

theorem Effect.mem_logReferences_iff (e : Effect) (r : LogReference) :
    r ∈ e.logReferences ↔ e.Names r := by
  constructor
  · intro h
    cases e with
    | record sec entry crossOut =>
        cases entry with
        | none =>
            cases List.mem_singleton.mp h
            exact .openSection sec crossOut
        | some id =>
            cases List.mem_singleton.mp h
            exact .record sec id crossOut
    | recordText sec source =>
        cases List.mem_singleton.mp h
        exact .recordText sec source
    | recordCards sec source =>
        cases List.mem_singleton.mp h
        exact .recordCards sec source
    | _ => cases h
  · intro h
    cases h <;> exact List.mem_singleton_self _

theorem Test.mem_logReferences_iff (test : Test) (r : LogReference) :
    r ∈ test.logReferences ↔ test.Names r := by
  constructor
  · intro h
    cases test with
    | recorded sec entry =>
        cases List.mem_singleton.mp h
        exact .recorded sec entry
    | _ => cases h
  · intro h
    cases h
    exact List.mem_singleton_self _

theorem Effect.mem_achievements_iff (e : Effect) (id : AchievementId) :
    id ∈ e.achievements ↔ e.NamesAchievement id := by
  constructor
  · intro h
    cases e with
    | achievement id' operation =>
        cases List.mem_singleton.mp h
        exact .achievement id operation
    | _ => cases h
  · intro h
    cases h
    exact List.mem_singleton_self _

theorem Test.mem_achievements_iff (test : Test) (id : AchievementId) :
    id ∈ test.achievements ↔ test.NamesAchievement id := by
  constructor
  · intro h
    cases test with
    | achieved id' =>
        cases List.mem_singleton.mp h
        exact .achieved id
    | _ => cases h
  · intro h
    cases h
    exact List.mem_singleton_self _

theorem Step.mem_reads_iff {read : StepId} : read ∈ t.reads ↔ t.Reads read :=
  mem_flatMap_iff Effect.mem_reads_iff Test.mem_reads_iff

theorem Step.mem_logReferences_iff {r : LogReference} : r ∈ t.logReferences ↔ t.Names r :=
  mem_flatMap_iff Effect.mem_logReferences_iff Test.mem_logReferences_iff

theorem Step.mem_achievements_iff {id : AchievementId} :
    id ∈ t.achievements ↔ t.NamesAchievement id :=
  mem_flatMap_iff Effect.mem_achievements_iff Test.mem_achievements_iff

end Speaking

theorem Step.isInput_eq_true_iff {t : Step} : t.isInput = true ↔ ∃ p, t.action = .input p := by
  rw [isInput, prompt?]
  cases t.action <;> simp

theorem LogReference.isDeclared_iff {g : Guide} {r : LogReference} :
    r.isDeclared g = true ↔ g.Declares r := by
  cases r with
  | sectionOf id =>
      rw [isDeclared, Guide.section?, List.find?_isSome]
      constructor
      · rintro ⟨sec, hsec, hid⟩
        obtain rfl : sec.id = id := by simpa using hid
        exact .sectionOf hsec
      · rintro ⟨hsec⟩
        exact ⟨_, hsec, by simp⟩
  | entryOf s id =>
      rw [isDeclared, Guide.entry?, Option.isSome_bind]
      constructor
      · intro h
        obtain ⟨sec, hsec, hentry⟩ := (Option.any_eq_true _ _).mp h
        obtain ⟨e, he, hid⟩ := List.find?_isSome.mp hentry
        obtain rfl : e.id = id := by simpa using hid
        exact .entryOf hsec he
      · rintro (_ | ⟨hsec, he⟩)
        rw [hsec, Option.any_some, List.find?_isSome]
        exact ⟨_, he, by simp⟩

theorem Guide.achievement?_eq_none_iff {g : Guide} {id : AchievementId} :
    g.achievement? id = none ↔ ∀ a ∈ g.achievements, a.id ≠ id := by
  simp [achievement?, List.find?_eq_none]

/-! ## What an issue says -/

/-- What an issue says of a guide. -/
inductive Issue.Holds (g : Guide) : Issue → Prop where
  | duplicateScenario {id : ScenarioId} (h : List.Duplicate id (g.scenarios.map (·.id))) :
      Holds g (.duplicateScenario id)
  | emptyScenario {s : Scenario} (hs : s ∈ g.scenarios) (h : s.steps = []) :
      Holds g (.emptyScenario s.id)
  | duplicateStep {s : Scenario} (hs : s ∈ g.scenarios) {id : StepId}
      (h : List.Duplicate id s.stepIds) : Holds g (.duplicateStep s.id id)
  | unknownTarget {s : Scenario} (hs : s ∈ g.scenarios) {t : Step} (ht : t ∈ s.steps)
      {target : StepId} (h : t.LeadsTo target) (hnone : ∀ t' ∈ s.steps, t'.id ≠ target) :
      Holds g (.unknownTarget s.id t.id target)
  | unknownInputStep {s : Scenario} (hs : s ∈ g.scenarios) {t : Step} (ht : t ∈ s.steps)
      {read : StepId} (h : t.Reads read)
      (hnone : ∀ t' ∈ s.steps, t'.id = read → ∀ p, t'.action ≠ .input p) :
      Holds g (.unknownInputStep s.id t.id read)
  | unknownLogReference {s : Scenario} (hs : s ∈ g.scenarios) {t : Step} (ht : t ∈ s.steps)
      {r : LogReference} (h : t.Names r) (hnone : ¬ g.Declares r) :
      Holds g (.unknownLogReference s.id t.id r)
  | unknownAchievement {s : Scenario} (hs : s ∈ g.scenarios) {t : Step} (ht : t ∈ s.steps)
      {id : AchievementId} (h : t.NamesAchievement id) (hnone : ∀ a ∈ g.achievements, a.id ≠ id) :
      Holds g (.unknownAchievement s.id t.id id)

theorem mem_repeats_iff {α : Type} [DecidableEq α] {seen l : List α} {a : α} :
    a ∈ repeats seen l ↔ a ∈ seen ∧ a ∈ l ∨ List.Duplicate a l := by
  induction l generalizing seen with
  | nil => simp [repeats]
  | cons b l ih =>
      rw [repeats, List.duplicate_cons_iff]
      split
      next hb =>
          rw [List.mem_cons, ih, List.mem_cons]
          grind
      next hb =>
          rw [ih, List.mem_cons, List.mem_cons]
          grind

namespace Guide

variable {g : Guide} {s : Scenario} {i : Issue}

theorem mem_stepIssues_iff {t : Step} :
    i ∈ g.stepIssues s t ↔
      (∃ target, t.LeadsTo target ∧ (∀ t' ∈ s.steps, t'.id ≠ target) ∧
        i = .unknownTarget s.id t.id target) ∨
      (∃ read, t.Reads read ∧ (∀ t' ∈ s.steps, t'.id = read → ∀ p, t'.action ≠ .input p) ∧
        i = .unknownInputStep s.id t.id read) ∨
      (∃ r, t.Names r ∧ ¬ g.Declares r ∧ i = .unknownLogReference s.id t.id r) ∨
      ∃ id, t.NamesAchievement id ∧ (∀ a ∈ g.achievements, a.id ≠ id) ∧
        i = .unknownAchievement s.id t.id id := by
  have hread : ∀ read, read ∉ s.inputStepIds ↔
      ∀ t' ∈ s.steps, t'.id = read → ∀ p, t'.action ≠ .input p := by
    intro read
    simp only [Scenario.inputStepIds, List.mem_map, List.mem_filter, not_exists, not_and,
      Step.isInput_eq_true_iff]
    constructor
    · intro h t' ht' hid p hp
      exact h t' ⟨ht', p, hp⟩ hid
    · rintro h t' ⟨ht', p, hp⟩ hid
      exact h t' ht' hid p hp
  have htarget : ∀ target, target ∉ s.stepIds ↔ ∀ t' ∈ s.steps, t'.id ≠ target := by
    intro target
    simp [Scenario.stepIds]
  simp only [stepIssues, List.mem_append, List.mem_map, List.mem_filter, decide_eq_true_eq,
    Step.mem_targets_iff, Step.mem_reads_iff, Step.mem_logReferences_iff,
    Step.mem_achievements_iff, LogReference.isDeclared_iff, Option.isNone_iff_eq_none,
    achievement?_eq_none_iff, hread, htarget, and_assoc, or_assoc, eq_comm (a := i)]

theorem mem_scenarioIssues_iff :
    i ∈ g.scenarioIssues s ↔
      s.steps = [] ∧ i = .emptyScenario s.id ∨
      (∃ id, List.Duplicate id s.stepIds ∧ i = .duplicateStep s.id id) ∨
      ∃ t ∈ s.steps, i ∈ g.stepIssues s t := by
  rw [scenarioIssues]
  split
  next hsteps =>
      have hnil := List.isEmpty_iff.mp hsteps
      simp [hnil, Scenario.stepIds]
  next hsteps =>
      have hne : s.steps ≠ [] := fun h => hsteps (List.isEmpty_iff.mpr h)
      simp [hne, mem_repeats_iff, eq_comm (a := i)]

theorem mem_issuesFrom_iff {seen : List ScenarioId} {scenarios : List Scenario} :
    i ∈ g.issuesFrom seen scenarios ↔
      (∃ id, (id ∈ seen ∧ id ∈ scenarios.map (·.id) ∨
        List.Duplicate id (scenarios.map (·.id))) ∧ i = .duplicateScenario id) ∨
      ∃ s ∈ scenarios, i ∈ g.scenarioIssues s := by
  induction scenarios generalizing seen with
  | nil => simp [issuesFrom]
  | cons s scenarios ih =>
      simp only [issuesFrom, List.mem_append, ih, List.map_cons, List.duplicate_cons_iff,
        List.mem_cons]
      split <;> grind

/-- **A guide has the issues that hold of it.** -/
theorem mem_issues_iff : i ∈ g.issues ↔ i.Holds g := by
  rw [issues, mem_issuesFrom_iff]
  constructor
  · rintro (⟨id, h, rfl⟩ | ⟨s, hs, h⟩)
    · exact .duplicateScenario (h.resolve_left fun h => List.not_mem_nil h.1)
    · rcases mem_scenarioIssues_iff.mp h with ⟨hnil, rfl⟩ | ⟨id, hid, rfl⟩ | ⟨t, ht, h⟩
      · exact .emptyScenario hs hnil
      · exact .duplicateStep hs hid
      · rcases mem_stepIssues_iff.mp h with ⟨target, htarget, hnone, rfl⟩ |
          ⟨read, hread, hnone, rfl⟩ | ⟨r, hr, hnone, rfl⟩ | ⟨id, hid, hnone, rfl⟩
        · exact .unknownTarget hs ht htarget hnone
        · exact .unknownInputStep hs ht hread hnone
        · exact .unknownLogReference hs ht hr hnone
        · exact .unknownAchievement hs ht hid hnone
  · intro h
    have hstep : ∀ {s : Scenario} {t : Step}, s ∈ g.scenarios → t ∈ s.steps →
        i ∈ g.stepIssues s t → ∃ s ∈ g.scenarios, i ∈ g.scenarioIssues s :=
      fun {s t} hs ht hi => ⟨s, hs, mem_scenarioIssues_iff.mpr (Or.inr (Or.inr ⟨t, ht, hi⟩))⟩
    cases h with
    | duplicateScenario h => exact Or.inl ⟨_, Or.inr h, rfl⟩
    | emptyScenario hs h => exact Or.inr ⟨_, hs, mem_scenarioIssues_iff.mpr (Or.inl ⟨h, rfl⟩)⟩
    | duplicateStep hs h =>
        exact Or.inr ⟨_, hs, mem_scenarioIssues_iff.mpr (Or.inr (Or.inl ⟨_, h, rfl⟩))⟩
    | unknownTarget hs ht h hnone =>
        exact Or.inr (hstep hs ht (mem_stepIssues_iff.mpr (Or.inl ⟨_, h, hnone, rfl⟩)))
    | unknownInputStep hs ht h hnone =>
        exact Or.inr (hstep hs ht (mem_stepIssues_iff.mpr (Or.inr (Or.inl ⟨_, h, hnone, rfl⟩))))
    | unknownLogReference hs ht h hnone =>
        exact Or.inr (hstep hs ht
          (mem_stepIssues_iff.mpr (Or.inr (Or.inr (Or.inl ⟨_, h, hnone, rfl⟩)))))
    | unknownAchievement hs ht h hnone =>
        exact Or.inr (hstep hs ht
          (mem_stepIssues_iff.mpr (Or.inr (Or.inr (Or.inr ⟨_, h, hnone, rfl⟩)))))

/-! ## Guides that hold together -/

/-- Why the script of a guide does not hold together. -/
inductive Broken (g : Guide) : Prop where
  /-- Two scenarios have one id. -/
  | sharedId (h : ¬ (g.scenarios.map (·.id)).Nodup)
  | noSteps {s : Scenario} (hs : s ∈ g.scenarios) (h : s.steps = [])
  /-- Two steps of a scenario have one id. -/
  | sharedStepId {s : Scenario} (hs : s ∈ g.scenarios) (h : ¬ (s.steps.map (·.id)).Nodup)
  /-- A step leads to none of its scenario. -/
  | stray {s : Scenario} (hs : s ∈ g.scenarios) {t : Step} (ht : t ∈ s.steps) {target : StepId}
      (h : t.LeadsTo target) (hnone : ∀ t' ∈ s.steps, t'.id ≠ target)
  /-- A step reads an answer for which its scenario has no prompt. -/
  | unasked {s : Scenario} (hs : s ∈ g.scenarios) {t : Step} (ht : t ∈ s.steps) {read : StepId}
      (h : t.Reads read) (hnone : ∀ t' ∈ s.steps, t'.id = read → ∀ p, t'.action ≠ .input p)

/-- A step speaks of what the guide does not declare. -/
inductive Undeclared (g : Guide) : Prop where
  | reference {s : Scenario} (hs : s ∈ g.scenarios) {t : Step} (ht : t ∈ s.steps)
      {r : LogReference} (h : t.Names r) (hnone : ¬ g.Declares r)
  | achievement {s : Scenario} (hs : s ∈ g.scenarios) {t : Step} (ht : t ∈ s.steps)
      {id : AchievementId} (h : t.NamesAchievement id) (hnone : ∀ a ∈ g.achievements, a.id ≠ id)

/-- A guide has a fatal issue exactly if its script does not hold together. -/
theorem exists_isFatal_iff : (∃ i ∈ g.issues, i.isFatal = true) ↔ g.Broken := by
  simp only [mem_issues_iff]
  constructor
  · rintro ⟨i, hi, hfatal⟩
    cases hi with
    | duplicateScenario h => exact .sharedId (List.exists_duplicate_iff_not_nodup.mp ⟨_, h⟩)
    | emptyScenario hs h => exact .noSteps hs h
    | duplicateStep hs h => exact .sharedStepId hs (List.exists_duplicate_iff_not_nodup.mp ⟨_, h⟩)
    | unknownTarget hs ht h hnone => exact .stray hs ht h hnone
    | unknownInputStep hs ht h hnone => exact .unasked hs ht h hnone
    | unknownLogReference hs ht h hnone => cases hfatal
    | unknownAchievement hs ht h hnone => cases hfatal
  · intro h
    cases h with
    | sharedId h =>
        obtain ⟨id, hid⟩ := List.exists_duplicate_iff_not_nodup.mpr h
        exact ⟨_, .duplicateScenario hid, rfl⟩
    | noSteps hs h => exact ⟨_, .emptyScenario hs h, rfl⟩
    | sharedStepId hs h =>
        obtain ⟨id, hid⟩ := List.exists_duplicate_iff_not_nodup.mpr h
        exact ⟨_, .duplicateStep hs hid, rfl⟩
    | stray hs ht h hnone => exact ⟨_, .unknownTarget hs ht h hnone, rfl⟩
    | unasked hs ht h hnone => exact ⟨_, .unknownInputStep hs ht h hnone, rfl⟩

/-- A guide has a warning exactly if its script speaks of what is not declared. -/
theorem exists_not_isFatal_iff : (∃ i ∈ g.issues, i.isFatal = false) ↔ g.Undeclared := by
  simp only [mem_issues_iff]
  constructor
  · rintro ⟨i, hi, hwarning⟩
    cases hi with
    | unknownLogReference hs ht h hnone => exact .reference hs ht h hnone
    | unknownAchievement hs ht h hnone => exact .achievement hs ht h hnone
    | _ => cases hwarning
  · intro h
    cases h with
    | reference hs ht h hnone => exact ⟨_, .unknownLogReference hs ht h hnone, rfl⟩
    | achievement hs ht h hnone => exact ⟨_, .unknownAchievement hs ht h hnone, rfl⟩

theorem fatalIssues_eq_nil_iff : g.fatalIssues = [] ↔ ¬ g.Broken := by
  rw [← exists_isFatal_iff, fatalIssues, List.filter_eq_nil_iff]
  simp

theorem loaded_eq_ok_iff {read : Json.Reading Guide} :
    loaded read = .ok g ↔ read = .ok g ∧ g.fatalIssues = [] := by
  cases read with
  | error e => simp [loaded]
  | ok h =>
      rw [loaded, checked]
      split
      next hnone =>
          constructor
          · rintro ⟨⟩
            exact ⟨rfl, List.isEmpty_iff.mp hnone⟩
          · exact fun hg => congrArg Except.ok (Except.ok.inj hg.1)
      next hsome =>
          refine iff_of_false (fun hg => nomatch hg) ?_
          rintro ⟨⟨⟩, hnone⟩
          exact hsome (List.isEmpty_iff.mpr hnone)

/-- **The issues of a guide tell whether its script holds together.** A guide has a fatal issue
exactly if two scenarios or two steps of a scenario have one id, a scenario is empty, a step leads
to none of its scenario, or a step reads an answer that its scenario does not ask for. It has a
warning exactly if a step names a section, an entry or an achievement that the guide does not
declare. A document is loaded exactly if it reads as a guide whose script holds together. -/
theorem issues_tell_structure (g : Guide) :
    ((∃ i ∈ g.issues, i.isFatal = true) ↔ g.Broken) ∧
      ((∃ i ∈ g.issues, i.isFatal = false) ↔ g.Undeclared) ∧
      ∀ source, ofJsonText source = .ok g ↔ Json.ofText source = .ok g ∧ ¬ g.Broken := by
  refine ⟨exists_isFatal_iff, exists_not_isFatal_iff, fun source => ?_⟩
  rw [ofJsonText, loaded_eq_ok_iff, fatalIssues_eq_nil_iff]

end Guide
end Chronicle
