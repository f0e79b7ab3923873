import Chronicle.Play.Basic
import Chronicle.Proofs.Dict
import Chronicle.Proofs.Play.Edits
import Chronicle.Proofs.Play.Order

/-!
# Achievements during a play

Achievements change in two ways: by the operations that players record, all of which take effect
before the first scenario, and by the effects of steps. An achievement that no step works on keeps
the value it had before the first scenario.
-/

namespace Chronicle

/-! ## Scenarios that leave an achievement alone -/

/-- The achievement that an effect works on. -/
def Effect.achievement? : Effect → Option AchievementId
  | .achievement id _ => some id
  | _ => none

/-- No effect of a scenario works on an achievement. -/
def Scenario.Spares (sc : Scenario) (id : AchievementId) : Prop :=
  ∀ t ∈ sc.steps, ∀ e ∈ t.effects, e.achievement? ≠ some id

def Guide.Spares (g : Guide) (id : AchievementId) : Prop := ∀ sc ∈ g.scenarios, sc.Spares id

/-- A custom side scenario works on nothing. -/
def Played.Spares (p : Played) (id : AchievementId) : Prop :=
  match p with
  | .scripted sc _ => sc.Spares id
  | .custom .. => True

theorem Guide.Spares.played {g : Guide} {id : AchievementId} (h : g.Spares id) {st : Starts}
    {p : Played} (hp : p ∈ st.played g) : p.Spares id := by
  obtain ⟨sc, hsc, rfl⟩ | ⟨_, _, _, _, _, -, -, -, rfl⟩ := Starts.played_cases hp
  · exact h sc (List.mem_of_find?_eq_some hsc)
  · trivial

/-! ## What a step changes -/

namespace CampaignLog

/-- An operation changes the one achievement. -/
theorem get?_achievements_applyAchievement {l l' : CampaignLog} {a : Achievement}
    {operation : AchievementOperation} {max : Option UInt32}
    (h : l.applyAchievement a operation max = .ok l') {id : AchievementId} (hid : a.id ≠ id) :
    l'.achievements.get? id = l.achievements.get? id := by
  unfold applyAchievement at h
  split at h <;> cases h <;> rw [Dict.get?_insert, if_neg hid.symm]

end CampaignLog

theorem Guide.id_of_achievement? {g : Guide} {id : AchievementId} {a : Achievement}
    (h : g.achievement? id = some a) : a.id = id := by
  simpa using List.find?_some h

/-- Of the edits only an operation changes an achievement. -/
theorem CampaignLog.Edit.get?_achievements {g : Guide} {es : List Effect} {l l' : CampaignLog}
    (h : Edit g es l l') {id : AchievementId} (hes : ∀ e ∈ es, e.achievement? ≠ some id) :
    l'.achievements.get? id = l.achievements.get? id := by
  cases h with
  | achievement he ha hop =>
      apply get?_achievements_applyAchievement hop
      rw [Guide.id_of_achievement? ha]
      intro hid
      exact hes _ he (congrArg some hid)
  | _ => rfl

/-! ## What a play changes -/

section Spared

variable {id : AchievementId}

theorem Scenario.Spares.achievement?_ne {s : Scenario} (h : s.Spares id) {e : Effect}
    (he : e ∈ s.effects) : e.achievement? ≠ some id := by
  obtain ⟨t, ht, he⟩ := List.mem_flatMap.mp he
  exact h t ht e he

namespace Table

/-- A walk through a scenario leaves an achievement alone that the scenario spares. -/
theorem get?_achievements_of_moves {c : Script} (hc : c.scenario.Spares id) {t t' : Table}
    (h : Moves c t t') : t'.log.achievements.get? id = t.log.achievements.get? id := by
  apply h.log_eq (f := (·.achievements.get? id))
  intro l l' hedit
  exact hedit.get?_achievements fun _ he => hc.achievement?_ne he

variable (g : Guide) (setup : Setup) (active : List Record)

theorem get?_achievements_play (t : Table) {p : Played} (hp : p.Spares id) :
    (t.play g setup active p).1.log.achievements.get? id = t.log.achievements.get? id := by
  cases p with
  | scripted s start =>
      obtain ⟨w, hmoves, hcases⟩ := playScripted_cases g setup active t s start
      have hsame : w.table.log.achievements.get? id = t.log.achievements.get? id := by
        obtain ⟨leads, reports, hseat, -⟩ := t.seatLead_eq setup s.id start
        rw [get?_achievements_of_moves (c := ⟨g, active, s⟩) hp hmoves, hseat]
      rcases hcases with ⟨pending, h⟩ | ⟨step, h⟩ | ⟨r, investigators, h⟩
      · rw [play, h]
        exact hsame
      · rw [play, h]
      · rw [play, h]
        exact hsame
  | custom s name xpCost => rfl

/-- **The play of a campaign leaves an achievement alone** that none of its scenarios works on. -/
theorem get?_achievements_playAll (t : Table) {ps : List Played} (hps : ∀ p ∈ ps, p.Spares id) :
    (t.playAll g setup active ps).1.log.achievements.get? id = t.log.achievements.get? id := by
  induction ps generalizing t with
  | nil => rfl
  | cons p ps ih =>
      obtain ⟨hp, hps⟩ := List.forall_mem_cons.mp hps
      simp only [playAll]
      rw [ih _ hps, get?_achievements_play g setup active t hp]

end Table
end Spared
end Chronicle
