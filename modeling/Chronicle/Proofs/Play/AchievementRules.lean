import Chronicle.Proofs.Play.Containment
import Chronicle.Proofs.Play.Repetition

/-!
# Achievements keep to their definitions

An achievement of the campaign log is one that the guide defines, and its value is of the kind
defined. A counter with a maximum comes no further than this maximum or the greatest of those that
operations on it were recorded with: an operation counts up only below the maximum that holds for
it, and what was counted under a greater one is not taken back. An operation that does not belong to
the kind changes nothing.
-/

namespace Chronicle

/-! ## Operations of a kind -/

/-- Whether achievements of a kind have an operation. -/
def AchievementKind.supports : AchievementKind → AchievementOperation → Bool
  | .binary, .set | .binary, .clear | .count _, .inc | .count _, .dec => true
  | _, _ => false

/-- An operation that does not belong to the kind is refused, whatever the log. -/
theorem CampaignLog.applyAchievement_of_unsupported (l : CampaignLog) {a : Achievement}
    {operation : AchievementOperation} (h : a.kind.supports operation = false)
    (max : Option UInt32) : l.applyAchievement a operation max = .error ⟨a.id, operation⟩ := by
  obtain ⟨id, title, kind⟩ := a
  cases kind <;> cases operation <;> first | rfl | cases h

/-- An operation that a player records and that does not belong to the kind is only reported. -/
theorem Table.applyOperation_of_unsupported {g : Guide} {r : Record} {id : AchievementId}
    {operation : AchievementOperation} {max : Option UInt32} {a : Achievement}
    (hr : r.payload = .achievement id operation max) (ha : g.achievement? id = some a)
    (h : a.kind.supports operation = false) (t : Table) :
    t.applyOperation g r = t.report (.ofRecord r (.achievementMismatch ⟨id, operation⟩)) := by
  simp only [applyOperation, hr, ha, t.log.applyAchievement_of_unsupported h max,
    Guide.id_of_achievement? ha]

/-- Of effects that take place together each has taken place. -/
theorem Scene.exists_apply_of_mem {g : Guide} {s : ScenarioId} {scene next : Scene}
    {es : List Effect} (h : scene.applyAll g s es = .ok next) {e : Effect} (he : e ∈ es) :
    ∃ before after : Scene, e.apply g s before = .ok after := by
  induction es generalizing scene with
  | nil => cases he
  | cons e' es ih =>
      rw [applyAll, List.foldlM_cons] at h
      cases hone : e'.apply g s scene with
      | error f =>
          rw [hone] at h
          cases h
      | ok mid =>
          rw [hone] at h
          rcases List.mem_cons.mp he with rfl | he
          · exact ⟨scene, mid, hone⟩
          · exact ih h he

/-- A step with an operation that does not belong to the kind changes nothing. -/
theorem Walk.visit_of_unsupported {c : Script} {t : Step} {es : List Effect}
    (ht : t.action = .effects es) {id : AchievementId} {operation : AchievementOperation}
    (he : .achievement id operation ∈ es) {a : Achievement} (ha : c.guide.achievement? id = some a)
    (h : a.kind.supports operation = false) (w : Walk) :
    ∃ f, visit c w t = (w.report (.ofScript c.scenario.id t.id f), .go none) := by
  cases hall : w.scene.applyAll c.guide c.scenario.id es with
  | error f => exact ⟨f, visit_of_failsIn ht (Scene.applyAll_eq_error_iff.mp hall)⟩
  | ok next =>
      obtain ⟨before, after, happly⟩ := Scene.exists_apply_of_mem hall he
      have hrefused := before.log.applyAchievement_of_unsupported h none
      have hrequired : c.guide.requireAchievement id = .ok a := by
        rw [Guide.requireAchievement, ha]
      simp only [Effect.apply, hrequired, bind, Except.bind, hrefused] at happly
      cases happly

/-! ## Values by the definitions -/

/-- The maxima that operations on an achievement were recorded with. -/
def Record.maxima (active : List Record) (id : AchievementId) : List Nat :=
  active.filterMap fun r =>
    match r.payload with
    | .achievement id' _ (some max) => if id' = id then some max.toNat else none
    | _ => none

theorem Record.mem_maxima {active : List Record} {r : Record} (hr : r ∈ active)
    {id : AchievementId} {operation : AchievementOperation} {max : UInt32}
    (hpayload : r.payload = .achievement id operation (some max)) :
    max.toNat ∈ maxima active id := by
  refine List.mem_filterMap.mpr ⟨r, hr, ?_⟩
  simp [hpayload]

/-- The value is of the kind, and if the kind has a maximum, not above both this and all of
`caps`. -/
def AchievementValue.Respects (caps : List Nat) : AchievementKind → AchievementValue → Prop
  | .binary, .binary _ => True
  | .count declared, .count n => ∀ m, declared = some m → ∃ k ∈ m.toNat :: caps, n.toNat ≤ k
  | _, _ => False

namespace CampaignLog

/-- Every achievement of the log is defined by the guide and has a value by its definition. -/
def Ruled (g : Guide) (caps : AchievementId → List Nat) (l : CampaignLog) : Prop :=
  ∀ id v, l.achievements.get? id = some v →
    ∃ a, g.achievement? id = some a ∧ v.Respects (caps id) a.kind

/-- One more is one more only below the maximum. -/
theorem toNat_increased_le (n m : UInt32) :
    (increased n (some m)).toNat ≤ n.toNat ∨ (increased n (some m)).toNat ≤ m.toNat := by
  by_cases h : n < m
  · right
    have hincreased : increased n (some m) = Number.satAdd n 1 := by simp [increased, h]
    have hlt := UInt32.lt_iff_toNat_lt.mp h
    rw [hincreased, Number.toNat_satAdd]
    exact Nat.le_trans (Nat.min_le_left _ _) hlt
  · left
    have hincreased : increased n (some m) = n := by simp [increased, h]
    rw [hincreased]

namespace Ruled

variable {g : Guide} {caps : AchievementId → List Nat} {l l' : CampaignLog}

theorem congr (h : l.Ruled g caps) (hachievements : l'.achievements = l.achievements) :
    l'.Ruled g caps := by
  unfold Ruled
  rw [hachievements]
  exact h

theorem withAchievement (h : l.Ruled g caps) {id : AchievementId} {a : Achievement}
    (ha : g.achievement? id = some a) {v : AchievementValue} (hv : v.Respects (caps id) a.kind) :
    (l.withAchievement id v).Ruled g caps := by
  intro id' v' hv'
  rw [CampaignLog.withAchievement, Dict.get?_insert] at hv'
  split at hv'
  next hid =>
      subst hid
      cases hv'
      exact ⟨a, ha, hv⟩
  next => exact h id' v' hv'

/-- A counter that was never touched is at zero, and no maximum is below that. -/
theorem achievementCount (h : l.Ruled g caps) {id : AchievementId} {a : Achievement}
    (ha : g.achievement? id = some a) {declared : Option UInt32}
    (hkind : a.kind = .count declared) :
    (AchievementValue.count (l.achievementCount id)).Respects (caps id) (.count declared) := by
  rw [CampaignLog.achievementCount]
  split
  next n hn =>
      obtain ⟨a', ha', hrespects⟩ := h id _ hn
      rw [ha, Option.some.injEq] at ha'
      rw [← ha', hkind] at hrespects
      exact hrespects
  next =>
      intro m _
      exact ⟨m.toNat, List.mem_cons_self, Nat.zero_le _⟩

/-- An operation leads to a value by the definition, if the maximum it comes with is one of the
caps. -/
theorem applyAchievement (h : l.Ruled g caps) {id : AchievementId} {a : Achievement}
    (ha : g.achievement? id = some a) {operation : AchievementOperation} {max : Option UInt32}
    (hmax : ∀ m, max = some m → m.toNat ∈ caps id)
    (hop : l.applyAchievement a operation max = .ok l') : l'.Ruled g caps := by
  have hid := Guide.id_of_achievement? ha
  subst hid
  obtain ⟨id, title, kind⟩ := a
  cases kind with
  | binary =>
      cases operation with
      | set =>
          cases hop
          exact h.withAchievement ha trivial
      | clear =>
          cases hop
          exact h.withAchievement ha trivial
      | inc => cases hop
      | dec => cases hop
  | count declared =>
      have hcount := h.achievementCount ha rfl
      cases operation with
      | inc =>
          cases hop
          apply h.withAchievement ha
          rintro m rfl
          obtain ⟨k, hk, hle⟩ := hcount m rfl
          -- The maximum that holds came with the operation, or else it is the declared one.
          obtain ⟨cap, hcap, hmem⟩ : ∃ cap, (max <|> some m) = some cap ∧
              cap.toNat ∈ m.toNat :: caps id := by
            cases max with
            | none => exact ⟨m, rfl, List.mem_cons_self⟩
            | some cap => exact ⟨cap, rfl, List.mem_cons_of_mem _ (hmax cap rfl)⟩
          rw [hcap]
          rcases toNat_increased_le (l.achievementCount id) cap with hsame | hbelow
          · exact ⟨k, hk, Nat.le_trans hsame hle⟩
          · exact ⟨cap.toNat, hmem, hbelow⟩
      | dec =>
          cases hop
          apply h.withAchievement ha
          intro m hm
          obtain ⟨k, hk, hle⟩ := hcount m hm
          refine ⟨k, hk, Nat.le_trans ?_ hle⟩
          rw [Number.toNat_satSub]
          exact Nat.sub_le _ _
      | set => cases hop
      | clear => cases hop

end Ruled

/-- While scenarios are played, operations come without a maximum of their own. -/
theorem kept_ruled (g : Guide) (caps : AchievementId → List Nat) : Kept g (Ruled g caps) where
  edit := by
    intro es l l' hedit hl
    cases hedit with
    | achievement he ha hop =>
        refine hl.applyAchievement ha ?_ hop
        intro m hm
        cases hm
    | _ => exact hl.congr rfl
  leads _ hl := hl.congr rfl
  resolutions _ hl := hl.congr rfl
  earn _ _ hl := hl.congr rfl
  pay _ hl := hl.congr rfl

end CampaignLog

/-! ## The whole campaign -/

theorem Table.ruled_applyOperation {g : Guide} {active : List Record} {t : Table}
    (ht : t.log.Ruled g (Record.maxima active)) {r : Record} (hr : r ∈ active) :
    (t.applyOperation g r).log.Ruled g (Record.maxima active) := by
  unfold applyOperation
  split
  next id operation max hpayload =>
      split
      next => exact ht
      next a ha =>
          split
          next l hop =>
              refine ht.applyAchievement ha ?_ hop
              rintro m rfl
              exact Record.mem_maxima hr hpayload
          next => exact ht
  next => exact ht

theorem Table.ruled_prepare (g : Guide) (setup : Setup) (active : List Record) :
    (prepare g setup active).log.Ruled g (Record.maxima active) := by
  apply List.foldlRecOn (motive := fun t : Table => t.log.Ruled g (Record.maxima active))
  · intro id v hv
    obtain ⟨investigators, hdeal⟩ := log_deal g setup
    rw [hdeal] at hv
    cases hv
  · intro t ht r hr
    exact ruled_applyOperation ht hr

namespace Guide

theorem ruled_outcome (g : Guide) (setup : Setup) (active : List Record) :
    (g.outcome setup active).log.Ruled g (Record.maxima active) :=
  (CampaignLog.kept_ruled g _).playAll (Table.ruled_prepare g setup active) _

/-- **Achievements keep to their definitions.** Each achievement in the log of a campaign is defined
by the guide, by the first definition of its id. Its value is earned or not if it is binary and a
count if it is a counter, and the count is at most the greatest of the declared maximum and those
that operations on the achievement in effect were recorded with. An operation that does not belong
to the kind of its achievement is reported and changes nothing, be it recorded or an effect of a
step. -/
theorem play_keeps_achievement_rules (g : Guide) (j : Journal) (p : Playthrough)
    (h : g.play j = .ok p) :
    (∀ id v, p.log.achievements.get? id = some v → ∃ a, g.achievement? id = some a ∧
      ((∃ earned, v = .binary earned) ↔ a.kind = .binary) ∧
      ((∃ n, v = .count n) ↔ ∃ declared, a.kind = .count declared) ∧
      ∀ m n, a.kind = .count (some m) → v = .count n →
        n.toNat ≤ (m.toNat :: Record.maxima j.active id).max (List.cons_ne_nil _ _)) ∧
    (∀ (t : Table) (r : Record) id operation max a, r.payload = .achievement id operation max →
      g.achievement? id = some a → a.kind.supports operation = false →
      t.applyOperation g r = t.report (.ofRecord r (.achievementMismatch ⟨id, operation⟩))) ∧
    ∀ (sc : Scenario) (t : Step) es id operation a, t.action = .effects es →
      .achievement id operation ∈ es → g.achievement? id = some a →
      a.kind.supports operation = false → ∀ w : Walk,
        ∃ f, w.visit ⟨g, j.active, sc⟩ t = (w.report (.ofScript sc.id t.id f), .go none) := by
  obtain ⟨-, rfl⟩ := play_eq_ok_iff.mp h
  refine ⟨?_, ?_, ?_⟩
  · intro id v hv
    obtain ⟨a, ha, hrespects⟩ := g.ruled_outcome j.setup j.active id v hv
    refine ⟨a, ha, ?_⟩
    cases hkind : a.kind with
    | binary =>
        rw [hkind] at hrespects
        cases v with
        | binary earned => simp
        | count n => exact hrespects.elim
    | count declared =>
        rw [hkind] at hrespects
        cases v with
        | binary earned => exact hrespects.elim
        | count n =>
            refine ⟨by simp, by simp, ?_⟩
            intro m n' hdeclared hn
            cases hn
            obtain ⟨k, hk, hle⟩ := hrespects m (AchievementKind.count.inj hdeclared)
            exact Nat.le_trans hle (List.le_max_of_mem hk)
  · intro t r id operation max a hr ha hunsupported
    exact Table.applyOperation_of_unsupported hr ha hunsupported t
  · intro sc t es id operation a ht he ha hunsupported w
    exact Walk.visit_of_unsupported ht he ha hunsupported w

open Sample

/-- A step that sets an achievement that can only be counted. -/
def settingStep : Step := ⟨"set_sign", none, .effects [.achievement "elder_sign_count" .set]⟩

/-- Four elder signs are counted, though the guide declares three: they were recorded with a maximum
of five. -/
theorem play_keeps_achievement_rules_of_manySigns :
    ∃ p a, nightOfTheZealot.play manySigns = .ok p ∧
      p.log.achievements.get? "elder_sign_count" = some (.count 4) ∧
      nightOfTheZealot.achievement? "elder_sign_count" = some a ∧ a.kind = .count (some 3) ∧
      4 ≤ (3 :: Record.maxima manySigns.active "elder_sign_count").max (List.cons_ne_nil _ _) ∧
      (∀ t : Table, t.applyOperation nightOfTheZealot setSign =
        t.report (.ofRecord setSign (.achievementMismatch ⟨"elder_sign_count", .set⟩))) ∧
      ∀ w : Walk, ∃ f, w.visit ⟨nightOfTheZealot, manySigns.active, gathering⟩ settingStep =
        (w.report (.ofScript "the_gathering" "set_sign" f), .go none) := by
  obtain ⟨hvalues, hrecords, hsteps⟩ :=
    nightOfTheZealot.play_keeps_achievement_rules manySigns _ rfl
  have hfour : (nightOfTheZealot.outcome manySigns.setup manySigns.active).log.achievements.get?
      "elder_sign_count" = some (.count 4) := by
    rw [outcome_of_started _ (by rfl)]
    rfl
  obtain ⟨a, ha, -, -, hmax⟩ := hvalues _ _ hfour
  have hdefined : nightOfTheZealot.achievement? "elder_sign_count" =
      some ⟨"elder_sign_count", "Elder Signs Found", .count (some 3)⟩ := rfl
  rw [hdefined, Option.some.injEq] at ha
  subst ha
  refine ⟨_, _, rfl, hfour, hdefined, rfl, hmax 3 4 rfl rfl, ?_, ?_⟩
  · intro t
    exact hrecords t setSign _ _ _ _ rfl hdefined rfl
  · exact hsteps gathering settingStep _ _ _ _ rfl (List.mem_singleton_self _) hdefined rfl

end Guide
end Chronicle
