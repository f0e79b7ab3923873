import Chronicle.Proofs.Play.Agreement
import Chronicle.Proofs.Play.Roster
import Mathlib.Algebra.Ring.Nat

/-!
# The ledger of experience

What investigators earn in a scenario is set aside and credited when the scenario is completed, and
at no other time. So the experience that an investigator has been credited with is the sum of what
was earned in the completed scenarios, as far as it fits into a word.
-/

namespace Chronicle

open Number

/-- The experience that an investigator has been credited with. -/
def CampaignLog.totalXp? (l : CampaignLog) (id : InvestigatorId) : Option UInt32 :=
  (l.investigators.get? id).map (·.totalXp)

/-- What a scenario credits to an investigator: what was earned in it, once it is completed. -/
def Progress.credited (q : Progress) (id : InvestigatorId) : UInt32 :=
  if q.isCompleted then q.xpEarned.getD id 0 else 0

theorem Number.satAdd_zero (n : UInt32) : satAdd n 0 = n := by
  have := n.toNat_lt
  rw [← UInt32.toNat_inj, toNat_satAdd]
  simp only [UInt32.reduceToNat]
  omega

/-! ## Crediting -/

theorem InvestigatorState.totalXp_of_edits {i i' : InvestigatorState}
    (h : Relation.ReflTransGen Edit i i') : i'.totalXp = i.totalXp := by
  induction h with
  | refl => rfl
  | tail _ hedit ih =>
      rw [← ih]
      cases hedit <;> rfl

namespace CampaignLog

variable {g : Guide} {es : List Effect} {l l' : CampaignLog}

theorem totalXp?_modifyInvestigator (l : CampaignLog) (id id' : InvestigatorId)
    (f : InvestigatorState → InvestigatorState) :
    (l.modifyInvestigator id' f).totalXp? id =
      if id = id' then (l.investigators.get? id).map fun i => (f i).totalXp else l.totalXp? id := by
  rw [totalXp?, modifyInvestigator, Dict.get?_modify]
  split
  next h => rw [h, Option.map_map, Function.comp_def]
  next => rfl

/-- The steps of a scenario credit nothing. -/
theorem Edit.totalXp? (h : Edit g es l l') (id : InvestigatorId) :
    l'.totalXp? id = l.totalXp? id := by
  cases h with
  | @investigator id' f hf =>
      rw [totalXp?_modifyInvestigator]
      simp only [fun i => InvestigatorState.totalXp_of_edits (hf i)]
      split <;> rfl
  | achievement he ha hop =>
      obtain ⟨achievements, rfl⟩ := applyAchievement_eq hop
      rfl
  | _ => rfl

end CampaignLog

namespace Table

/-- Every investigator is credited with their own experience, and with nothing if none was
earned. -/
theorem totalXp?_credit (l : CampaignLog) (xp : Dict InvestigatorId UInt32) (id : InvestigatorId) :
    (credit l xp).totalXp? id = (l.totalXp? id).map (satAdd · (xp.getD id 0)) := by
  obtain ⟨entries, hsorted⟩ := xp
  simp only [credit, Dict.getD, Dict.get?]
  induction entries generalizing l with
  | nil => simp [Dict.find, satAdd_zero]
  | cons e rest ih =>
      obtain ⟨hfirst, hrest⟩ := List.pairwise_cons.mp hsorted
      rw [List.foldl_cons, ih _ hrest, CampaignLog.totalXp?_modifyInvestigator, Dict.find]
      by_cases hid : id = e.1
      · -- No later entry has the same key.
        have hnone : Dict.find id rest = none := by
          rw [Option.eq_none_iff_forall_ne_some]
          intro v hv
          have hlt := hfirst _ (Dict.mem_of_find hv)
          have hself : compare e.1 id = .eq := Std.LawfulEqOrd.compare_eq_iff_eq.mpr hid.symm
          rw [hself] at hlt
          cases hlt
        rw [if_pos hid, if_pos (Std.LawfulEqOrd.compare_eq_iff_eq.mpr hid), hnone]
        simp only [Option.getD_none, Option.getD_some, satAdd_zero, Option.map_map,
          CampaignLog.totalXp?]
        rfl
      · rw [if_neg hid, if_neg fun h => hid (Std.LawfulEqOrd.compare_eq_iff_eq.mp h)]

theorem Moves.totalXp? {c : Script} {t t' : Table} (h : Moves c t t') (id : InvestigatorId) :
    t'.log.totalXp? id = t.log.totalXp? id :=
  h.log_eq (f := (·.totalXp? id)) fun hedit => hedit.totalXp? id

variable (g : Guide) (setup : Setup) (active : List Record)

/-- The play of a scenario credits what its progress says. -/
theorem totalXp?_play (t : Table) (p : Played) (id : InvestigatorId) :
    (t.play g setup active p).1.log.totalXp? id =
      (t.log.totalXp? id).map (satAdd · ((t.play g setup active p).2.credited id)) := by
  cases p with
  | scripted s start =>
      have hmoves := moves_walkThrough g setup active t s start
      rw [play, playScripted_eq]
      generalize walkThrough g setup active t s start = left at hmoves
      obtain ⟨w, e⟩ := left
      have hsame : w.table.log.totalXp? id = t.log.totalXp? id := by
        obtain ⟨leads, reports, hseat, -⟩ := t.seatLead_eq setup s.id start
        rw [hmoves.totalXp?, hseat]
        rfl
      have hnothing : (t.log.totalXp? id).map (satAdd · 0) = t.log.totalXp? id := by
        simp [satAdd_zero]
      cases e with
      | ranOff => exact hsame.trans hnothing.symm
      | waiting step => exact hsame.trans hnothing.symm
      | circling step => exact hnothing.symm
      | resolved r =>
          rw [← hsame]
          exact totalXp?_credit _ w.xp id
  | custom s name xpCost =>
      have hlog : (t.playCustom s name xpCost).1.log.investigators =
          t.log.investigators.mapValues fun _ i =>
            if i.isEliminated then i else i.spend xpCost := rfl
      have hcredited : (t.playCustom s name xpCost).2.credited id = 0 := rfl
      rw [play, hcredited, CampaignLog.totalXp?, CampaignLog.totalXp?, hlog, Dict.get?_mapValues]
      simp only [satAdd_zero, Option.map_map]
      refine congrArg (Option.map · _) (funext fun i => ?_)
      simp only [Function.comp]
      split <;> rfl

/-- **Every credit counts once**, up to the largest word. -/
theorem totalXp?_playAll (ps : List Played) {t : Table} {id : InvestigatorId} {n : UInt32}
    (h : t.log.totalXp? id = some n) :
    ∃ total, (t.playAll g setup active ps).1.log.totalXp? id = some total ∧
      total.toNat = min (2 ^ 32 - 1)
        (n.toNat + ((t.playAll g setup active ps).2.map fun q => (q.credited id).toNat).sum) := by
  induction ps generalizing t n with
  | nil =>
      refine ⟨n, h, ?_⟩
      have := n.toNat_lt
      simp only [playAll, List.map_nil, List.sum_nil]
      omega
  | cons p ps ih =>
      have hfirst := totalXp?_play g setup active t p id
      rw [h, Option.map_some] at hfirst
      obtain ⟨total, htotal, hsum⟩ := ih hfirst
      refine ⟨total, htotal, ?_⟩
      rw [hsum, toNat_satAdd]
      simp only [playAll, List.map_cons, List.sum_cons]
      omega

/-- Nobody has any experience before the first scenario. -/
theorem totalXp?_prepare {id : InvestigatorId} (hid : id ∈ setup.roster) :
    (prepare g setup active).log.totalXp? id = some 0 := by
  have hnew : ∀ i state, (deal g setup).log.investigators.get? i = some state →
      state.totalXp = 0 := by
    apply List.foldlRecOn (motive := fun l : CampaignLog =>
      ∀ i state, l.investigators.get? i = some state → state.totalXp = 0)
    · intro i state h
      cases h
    · intro l hl member _ i state h
      rw [CampaignLog.addInvestigator, Dict.get?_insert] at h
      split at h
      next =>
          cases h
          rfl
      next => exact hl i state h
  obtain ⟨achievements, hprepare⟩ := log_prepare g setup active
  have hkey := ((manned_deal g setup).investigators id).mpr hid
  obtain ⟨state, hstate⟩ := Option.isSome_iff_exists.mp (Dict.mem_keys_iff.mp hkey)
  rw [CampaignLog.totalXp?, hprepare]
  simp only [hstate, Option.map_some, hnew id state hstate]

end Table

/-! ## Who earns -/

/-- Those who are in the log, who lead or who have earned something are in the roster. -/
structure Scene.Manned (setup : Setup) (scene : Scene) : Prop where
  log : scene.log.Manned setup
  xp : ∀ id ∈ scene.xp.keys, id ∈ setup.roster

section Earning

variable {g : Guide} {setup : Setup} {s : ScenarioId}

theorem CampaignLog.Manned.mem_roster_of_targets {l : CampaignLog} (h : l.Manned setup)
    {whom : Whom} {ids : List InvestigatorId} (hids : l.targets s whom = .ok ids) :
    ∀ id ∈ ids, id ∈ setup.roster := by
  cases whom with
  | lead =>
      simp only [targets] at hids
      split at hids
      next lead hlead =>
          cases hids
          intro id hid
          rw [List.mem_singleton.mp hid]
          exact h.leads s lead hlead
      next => cases hids
  | all =>
      cases hids
      intro id hid
      exact (h.investigators id).mp hid

theorem Effect.mem_keys_earn {xp : Dict InvestigatorId UInt32} {ids : List InvestigatorId}
    {n : UInt32} {id : InvestigatorId} (h : id ∈ (earn xp ids n).keys) :
    id ∈ xp.keys ∨ id ∈ ids := by
  unfold earn at h
  induction ids generalizing xp with
  | nil => exact Or.inl h
  | cons i ids ih =>
      rcases ih h with hid | hid
      · rw [Dict.mem_keys_iff] at hid
        simp only [Dict.alter, Dict.get?_insert] at hid
        split at hid
        next heq => exact Or.inr (heq ▸ List.mem_cons_self)
        next => exact Or.inl (Dict.mem_keys_iff.mpr hid)
      · exact Or.inr (List.mem_cons_of_mem _ hid)

/-- Of the effects only one sets experience aside, and it does so for its targets. -/
theorem Effect.xp_apply {scene next : Scene} {e : Effect} (h : e.apply g s scene = .ok next) :
    next.xp = scene.xp ∨
      ∃ whom ids n, scene.log.targets s whom = .ok ids ∧ next.xp = earn scene.xp ids n := by
  unfold Effect.apply at h
  simp only [bind, Except.bind, pure, Except.pure] at h
  cases e with
  | earnXp whom amount =>
      right
      simp only at h
      repeat' split at h
      all_goals cases h
      exact ⟨whom, _, _, ‹_›, rfl⟩
  | _ =>
      left
      simp only at h
      repeat' split at h
      all_goals cases h
      all_goals rfl

theorem Scene.Manned.apply {scene next : Scene} (hscene : scene.Manned setup) {e : Effect}
    (h : e.apply g s scene = .ok next) : next.Manned setup := by
  constructor
  · exact hscene.log.edits (Effect.edits_apply (List.mem_singleton_self e) h).edits
  · intro id hid
    rcases Effect.xp_apply h with hxp | ⟨whom, ids, n, hids, hxp⟩
    · rw [hxp] at hid
      exact hscene.xp id hid
    · rw [hxp] at hid
      rcases Effect.mem_keys_earn hid with hid | hid
      · exact hscene.xp id hid
      · exact hscene.log.mem_roster_of_targets hids id hid

theorem Scene.Manned.applyAll {scene next : Scene} (hscene : scene.Manned setup) {es : List Effect}
    (h : scene.applyAll g s es = .ok next) : next.Manned setup := by
  unfold Scene.applyAll at h
  induction es generalizing scene with
  | nil =>
      cases h
      exact hscene
  | cons e es ih =>
      rw [List.foldlM_cons] at h
      cases hone : e.apply g s scene with
      | error f =>
          rw [hone] at h
          cases h
      | ok mid =>
          rw [hone] at h
          exact ih (hscene.apply hone) h

/-- Throughout a walk only those of the roster have earned something. -/
theorem Walk.manned_run {c : Script} {w : Walk} (h : w.scene.Manned setup) (visits cursor : Nat) :
    (run c visits cursor w).1.scene.Manned setup := by
  apply run_invariant (P := fun w => w.scene.Manned setup)
  · intro w hw t ht
    have hvisited := visited c w t
    have hmanned := (moves_visit ht w).manned hw.log
    generalize visit c w t = left at hvisited hmanned ⊢
    cases hvisited with
    | done _ hs => exact hw.applyAll hs
    | answered _ _ _ => exact ⟨hmanned, hw.xp⟩
    | _ => exact hw
  · intro w hw t ht f
    exact hw
  · exact h

theorem Table.mem_roster_of_mem_xpEarned {setup : Setup} {active : List Record} {t : Table}
    (ht : t.log.Manned setup) (p : Played) {id : InvestigatorId}
    (hid : id ∈ (t.play g setup active p).2.xpEarned.keys) : id ∈ setup.roster := by
  cases p with
  | scripted sc start =>
      have hwalk : (walkThrough g setup active t sc start).1.scene.Manned setup :=
        Walk.manned_run ⟨manned_seatLead ht sc.id start, fun _ => List.not_mem_nil.elim⟩ _ _
      rw [play, playScripted_eq] at hid
      generalize walkThrough g setup active t sc start = left at hwalk hid
      obtain ⟨w, e⟩ := left
      cases e with
      | circling step => cases hid
      | _ => exact hwalk.xp id hid
  | custom name after cost => cases hid

end Earning

/-! ## The ledger -/

theorem Progress.sum_credited (qs : List Progress) (id : InvestigatorId) :
    (qs.map fun q => (q.credited id).toNat).sum =
      ((qs.filter (·.isCompleted)).map fun q => (q.xpEarned.getD id 0).toNat).sum := by
  induction qs with
  | nil => rfl
  | cons q qs ih =>
      rw [List.map_cons, List.sum_cons, ih, credited]
      by_cases h : q.isCompleted = true
      · rw [if_pos h, List.filter_cons_of_pos h, List.map_cons, List.sum_cons]
      · rw [if_neg h, List.filter_cons_of_neg h]
        exact Nat.zero_add _

namespace Guide

variable (g : Guide) (setup : Setup) (active : List Record)

theorem totalXp?_outcome {id : InvestigatorId} (hid : id ∈ setup.roster) :
    ∃ total, (g.outcome setup active).log.totalXp? id = some total ∧
      total.toNat = min (2 ^ 32 - 1)
        (((g.outcome setup active).scenarios.filter (·.isCompleted)).map fun q =>
          (q.xpEarned.getD id 0).toNat).sum := by
  obtain ⟨total, htotal, hsum⟩ := Table.totalXp?_playAll g setup active
    ((Starts.ofRecords g active).played g) (Table.totalXp?_prepare g setup active hid)
  have hunplayed : ((g.unplayed (g.playOrder active)).filter (·.isCompleted)) = [] := by
    rw [List.filter_eq_nil_iff]
    intro q hq
    obtain ⟨s, -, -, rfl⟩ := (g.mem_unplayed_iff _).mp hq
    exact Bool.false_ne_true
  refine ⟨total, htotal, ?_⟩
  rw [hsum, Progress.sum_credited, scenarios_outcome, List.filter_append, hunplayed,
    List.append_nil, walked]
  exact congrArg (min _) (Nat.zero_add _)

/-- Only those of the roster earn experience. -/
theorem mem_roster_of_mem_outcome {q : Progress} (hq : q ∈ (g.outcome setup active).scenarios)
    {id : InvestigatorId} (hid : id ∈ q.xpEarned.keys) : id ∈ setup.roster := by
  have hwalked : ∀ (ps : List Played) (t : Table), t.log.Manned setup →
      q ∈ (t.playAll g setup active ps).2 → id ∈ setup.roster := by
    intro ps
    induction ps with
    | nil => exact fun t _ hq => nomatch hq
    | cons p ps ih =>
        intro t ht hq
        rcases List.mem_cons.mp hq with rfl | hq
        · exact Table.mem_roster_of_mem_xpEarned ht p hid
        · exact ih _ (Table.manned_play ht p) hq
  rw [scenarios_outcome, List.mem_append] at hq
  rcases hq with hq | hq
  · exact hwalked _ _ (Table.manned_prepare g setup active) hq
  · obtain ⟨s, -, -, rfl⟩ := (g.mem_unplayed_iff _).mp hq
    cases hid

/-- **The ledger of experience balances.** Each investigator of the roster has been credited with
the sum of what was earned in the completed scenarios, up to the largest word. What is earned in a
scenario that is not completed is shown and not credited: playing it leaves the credits of all as
they were. And only investigators of the roster earn anything. -/
theorem play_balances_experience (g : Guide) (j : Journal) (p : Playthrough)
    (h : g.play j = .ok p) :
    (∀ i ∈ j.setup.investigators, ∃ state, p.log.investigators.get? i.id = some state ∧
      state.totalXp.toNat = min (2 ^ 32 - 1)
        ((p.scenarios.filter (·.isCompleted)).map fun q => (q.xpEarned.getD i.id 0).toNat).sum) ∧
      (∀ (t : Table) (x : Played), (t.play g j.setup j.active x).2.isCompleted = false →
        ∀ id, (t.play g j.setup j.active x).1.log.totalXp? id = t.log.totalXp? id) ∧
      ∀ q ∈ p.scenarios, ∀ id ∈ q.xpEarned.keys, id ∈ j.setup.investigators.map (·.id) := by
  obtain ⟨-, rfl⟩ := play_eq_ok_iff.mp h
  refine ⟨?_, ?_, ?_⟩
  · intro i hi
    obtain ⟨total, htotal, hsum⟩ :=
      g.totalXp?_outcome j.setup j.active (List.mem_map_of_mem hi)
    obtain ⟨state, hstate, rfl⟩ := Option.map_eq_some_iff.mp htotal
    exact ⟨state, hstate, hsum⟩
  · intro t x hx id
    have hnothing : (t.play g j.setup j.active x).2.credited id = 0 := by
      rw [Progress.credited, hx]
      rfl
    rw [Table.totalXp?_play, hnothing]
    simp [Number.satAdd_zero]
  · intro q hq id hid
    exact g.mem_roster_of_mem_outcome j.setup j.active hq hid

open Sample

/-- Two victory points are credited to Roland at the end of the gathering. -/
theorem play_balances_experience_of_overtaken :
    ∃ p state, nightOfTheZealot.play overtaken = .ok p ∧
      p.log.investigators.get? "roland" = some state ∧ state.totalXp = 2 ∧
      ((p.scenarios.filter (·.isCompleted)).map fun q =>
        (q.xpEarned.getD "roland" 0).toNat).sum = 2 := by
  obtain ⟨hcredited, -, -⟩ := nightOfTheZealot.play_balances_experience overtaken _ rfl
  obtain ⟨state, hstate, htotal⟩ :=
    hcredited ⟨"roland", "Roland Banks", 9, 5⟩ List.mem_cons_self
  have hsum : (((nightOfTheZealot.outcome overtaken.setup overtaken.active).scenarios.filter
      (·.isCompleted)).map fun q => (q.xpEarned.getD "roland" 0).toNat).sum = 2 := by
    rw [outcome_of_started _ (by rfl)]
    rfl
  rw [hsum] at htotal
  exact ⟨_, state, rfl, hstate, UInt32.toNat_inj.mp htotal, hsum⟩

end Guide
end Chronicle
