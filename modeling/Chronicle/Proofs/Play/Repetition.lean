import Chronicle.Proofs.Play.Achievements
import Chronicle.Proofs.Play.Walk

/-!
# Records that come twice

A record that is written twice in a row. Of replies and of starts only the last counts, so the
second one is as good as the first. But every operation on an achievement takes effect, and every
record that is refused is reported, so these add up.
-/

namespace Chronicle

/-! ## Operations that come twice -/

namespace CampaignLog

/-- An operation that was just applied has nothing left to do if it comes again: the value is set or
cleared, or the counter has come to the end of its range. -/
def isAtRest (l : CampaignLog) (a : Achievement) (operation : AchievementOperation)
    (max : Option UInt32) : Bool :=
  match a.kind, operation with
  | .binary, .set | .binary, .clear => true
  | .count declared, .inc =>
    (max <|> declared).any (· ≤ l.achievementCount a.id) || l.achievementCount a.id = 0xFFFFFFFF
  | .count _, .dec => l.achievementCount a.id = 0
  | _, _ => false

theorem increased_eq_self_iff (n : UInt32) (max : Option UInt32) :
    increased n max = n ↔ (max.any (· ≤ n) || decide (n = 0xFFFFFFFF)) = true := by
  have hadd : Number.satAdd n 1 = n ↔ n = 0xFFFFFFFF := by
    rw [← UInt32.toNat_inj, ← UInt32.toNat_inj, Number.toNat_satAdd]
    have := n.toNat_lt
    simp only [UInt32.reduceToNat]
    omega
  unfold increased
  cases max with
  | none => simp [hadd]
  | some m =>
      by_cases h : n < m
      · simp [h, hadd, UInt32.not_le.mpr h]
      · simp [h, UInt32.not_lt.mp h]

theorem satSub_one_eq_self_iff (n : UInt32) : Number.satSub n 1 = n ↔ n = 0 := by
  rw [← UInt32.toNat_inj, ← UInt32.toNat_inj, Number.toNat_satSub]
  simp only [UInt32.reduceToNat]
  omega

def withAchievement (l : CampaignLog) (id : AchievementId) (v : AchievementValue) : CampaignLog :=
  { l with achievements := l.achievements.insert id v }

@[simp] theorem get?_achievements_withAchievement (l : CampaignLog) (id : AchievementId)
    (v : AchievementValue) : (l.withAchievement id v).achievements.get? id = some v := by
  rw [withAchievement, Dict.get?_insert, if_pos rfl]

theorem achievementCount_withAchievement (l : CampaignLog) (id : AchievementId) (n : UInt32) :
    (l.withAchievement id (.count n)).achievementCount id = n := by
  rw [achievementCount, get?_achievements_withAchievement]

theorem withAchievement_again (l : CampaignLog) (id : AchievementId) (v : AchievementValue) :
    (l.withAchievement id v).withAchievement id v = l.withAchievement id v :=
  congrArg (fun d => { l with achievements := d })
    (Dict.insert_of_get? (get?_achievements_withAchievement l id v))

theorem withAchievement_twice (l : CampaignLog) (id : AchievementId) (v w : AchievementValue)
    {rest : Bool} (hrest : w = v ↔ rest = true) :
    if rest then (l.withAchievement id v).withAchievement id w = l.withAchievement id v
    else ((l.withAchievement id v).withAchievement id w).achievements.get? id ≠
      (l.withAchievement id v).achievements.get? id := by
  split
  next h => rw [hrest.mpr h, withAchievement_again]
  next h =>
      rw [get?_achievements_withAchievement, get?_achievements_withAchievement]
      exact fun heq => h (hrest.mp (Option.some.inj heq))

/-- **An operation that comes twice.** The second time it is applied as well, and it changes
nothing exactly if the first has left nothing to do. -/
theorem applyAchievement_again {l l' : CampaignLog} {a : Achievement}
    {operation : AchievementOperation} {max : Option UInt32}
    (h : l.applyAchievement a operation max = .ok l') :
    ∃ l'', l'.applyAchievement a operation max = .ok l'' ∧
      if l'.isAtRest a operation max then l'' = l'
      else l''.achievements.get? a.id ≠ l'.achievements.get? a.id := by
  obtain ⟨id, title, kind⟩ := a
  -- Only four of the operations fit, and each gives a value that depends on the count at most.
  cases kind with
  | binary =>
      cases operation with
      | set =>
          cases h
          exact ⟨_, rfl, withAchievement_twice l id _ _ (by simp [isAtRest])⟩
      | clear =>
          cases h
          exact ⟨_, rfl, withAchievement_twice l id _ _ (by simp [isAtRest])⟩
      | inc => cases h
      | dec => cases h
  | count declared =>
      cases operation with
      | inc =>
          cases h
          refine ⟨_, rfl, withAchievement_twice l id _ _ ?_⟩
          rw [AchievementValue.count.injEq]
          have hcount := l.achievementCount_withAchievement id
            (increased (l.achievementCount id) (max <|> declared))
          exact (Eq.congr_right hcount.symm).trans (increased_eq_self_iff ..)
      | dec =>
          cases h
          refine ⟨_, rfl, withAchievement_twice l id _ _ ?_⟩
          rw [AchievementValue.count.injEq]
          have hcount := l.achievementCount_withAchievement id
            (Number.satSub (l.achievementCount id) 1)
          exact (Eq.congr_right hcount.symm).trans
            ((satSub_one_eq_self_iff _).trans decide_eq_true_iff.symm)
      | set => cases h
      | clear => cases h

/-- Whether an operation is refused does not depend on what was done before. -/
theorem applyAchievement_error {l : CampaignLog} {a : Achievement}
    {operation : AchievementOperation} {max : Option UInt32} {m : AchievementMismatch}
    (h : l.applyAchievement a operation max = .error m) (l' : CampaignLog) :
    l'.applyAchievement a operation max = .error m ∧ l'.isAtRest a operation max = false := by
  obtain ⟨id, title, kind⟩ := a
  cases kind <;> cases operation <;> cases h <;> exact ⟨rfl, rfl⟩

end CampaignLog

/-! ## Records that come twice -/

/-- Whether a record adds nothing if it comes again, where `l` is the campaign log after the
operations on achievements: a reply, a start that is not refused, or an operation that has left
nothing to do. -/
def Guide.absorbs (g : Guide) (l : CampaignLog) (scenario : Option ScenarioId) : Payload → Bool
  | .reply _ => true
  | .start s => scenario.all fun id => (g.admits id s).isOk
  | .achievement id operation max =>
    (g.achievement? id).any fun a => l.isAtRest a operation max

section Again

variable (g : Guide) {r s : Record} (h : s.Alike r)
include h

/-- What a second operation does to the table that the first has led to. -/
theorem Table.applyOperation_again {id : AchievementId} {operation : AchievementOperation}
    {max : Option UInt32} (hr : r.payload = .achievement id operation max) {t once : Table}
    (honce : t.applyOperation g r = once) :
    if g.absorbs once.log r.scenario r.payload then once.applyOperation g s = once
    else (∃ d, once.applyOperation g s = once.report d) ∨
      ∃ l, once.applyOperation g s = { once with log := l } ∧
        l.achievements.get? id ≠ once.log.achievements.get? id := by
  have hs : s.payload = .achievement id operation max := h.payload.trans hr
  cases ha : g.achievement? id with
  | none =>
      have htwice : once.applyOperation g s =
          once.report (.ofRecord s (.unknownAchievement id)) := by
        simp only [applyOperation, hs, ha]
      simp [Guide.absorbs, hr, ha, htwice]
  | some a =>
      cases hop : t.log.applyAchievement a operation max with
      | error m =>
          obtain ⟨hagain, hrest⟩ := CampaignLog.applyAchievement_error hop once.log
          have htwice : once.applyOperation g s =
              once.report (.ofRecord s (.achievementMismatch m)) := by
            simp only [applyOperation, hs, ha, hagain]
          simp [Guide.absorbs, hr, ha, hrest, htwice]
      | ok l =>
          have hl : once.log = l := by
            simp only [← honce, applyOperation, hr, ha, hop]
          obtain ⟨l', hagain, hl'⟩ := CampaignLog.applyAchievement_again hop
          have htwice : once.applyOperation g s = { once with log := l' } := by
            simp only [applyOperation, hs, ha, hl, hagain]
          have habsorbs : g.absorbs once.log r.scenario r.payload = l.isAtRest a operation max := by
            simp only [Guide.absorbs, hr, ha, hl, Option.any_some]
          rw [habsorbs, htwice]
          rw [Guide.id_of_achievement? ha] at hl'
          split at hl'
          next hrest => rw [if_pos hrest, hl', ← hl]
          next hrest =>
              rw [if_neg hrest]
              refine Or.inr ⟨l', rfl, ?_⟩
              rwa [hl]

omit h in
/-- Whether a start is refused does not depend on the starts before it. -/
theorem Starts.refused_add {start : Start} (hr : r.payload = .start start) (st : Starts)
    (l : CampaignLog) :
    if g.absorbs l r.scenario r.payload then (st.add g r).refused = st.refused
    else ∃ d, (st.add g r).refused = st.refused ++ [d] := by
  have hstart : r.start? = some start := by simp [Record.start?, hr]
  simp only [add, hstart, Guide.absorbs, hr]
  cases r.scenario with
  | none => rfl
  | some id =>
      cases hadmits : g.admits id start with
      | ok side => simp [hadmits, Except.isOk, Except.toBool]
      | error f => simp [hadmits, Except.isOk, Except.toBool]

/-- **What the table is when the first scenario is about to be played**, if the last record came
twice. -/
theorem Table.prepare_again (setup : Setup) (active : List Record) {once twice : Table}
    (honce : prepare g setup (active ++ [r]) = once)
    (htwice : prepare g setup (active ++ [r, s]) = twice) :
    if g.absorbs once.log r.scenario r.payload then twice = once
    else (twice.log = once.log ∧ twice.reports.length = once.reports.length + 1) ∨
      ∃ id operation max, r.payload = .achievement id operation max ∧
        twice.log.achievements.get? id ≠ once.log.achievements.get? id := by
  obtain ⟨st, hst⟩ : ∃ st, (Starts.ofRecords g active).add g r = st := ⟨_, rfl⟩
  obtain ⟨t, ht⟩ : ∃ t, (active.foldl (applyOperation g) (deal g setup)).applyOperation g r = t :=
    ⟨_, rfl⟩
  have hstray := (Starts.alike_repeated g h active).strayAnchors g
  simp only [List.append_cons active r [s], Starts.ofRecords_concat, hst] at hstray
  simp only [prepare, List.foldl_append, List.foldl_cons, List.foldl_nil,
    Starts.ofRecords_concat, hst, ht] at honce
  simp only [prepare, List.append_cons active r [s], List.foldl_append, List.foldl_cons,
    List.foldl_nil, Starts.ofRecords_concat, hst, ht, hstray] at htwice
  have hlog : once.log = t.log := by rw [← honce]
  rw [hlog]
  cases hr : r.payload with
  | reply reply =>
      have hs : s.payload = .reply reply := h.payload.trans hr
      have hstart : st.add g s = st := Starts.add_of_no_start g st (by simp [Record.start?, hs])
      simp only [hstart, applyOperation, hs] at htwice
      exact (if_pos rfl).mpr (htwice.symm.trans honce)
  | start start =>
      have hs : s.payload = .start start := h.payload.trans hr
      have hrefused := Starts.refused_add g hs st t.log
      simp only [applyOperation, hs] at htwice
      rw [hs, h.scenario] at hrefused
      split at hrefused
      next habsorbs => rw [if_pos habsorbs, ← htwice, ← honce, hrefused]
      next habsorbs =>
          obtain ⟨d, hd⟩ := hrefused
          rw [if_neg habsorbs, ← htwice, ← honce, hd]
          refine Or.inl ⟨rfl, ?_⟩
          simp only [List.length_append, List.length_singleton]
          omega
  | achievement id operation max =>
      have hs : s.payload = .achievement id operation max := h.payload.trans hr
      have hstart : st.add g s = st := Starts.add_of_no_start g st (by simp [Record.start?, hs])
      have hagain := applyOperation_again g h hr ht
      rw [hstart] at htwice
      rw [hr] at hagain
      split at hagain
      next habsorbs => rw [if_pos habsorbs, ← htwice, ← honce, hagain]
      next habsorbs =>
          rw [if_neg habsorbs]
          obtain ⟨d, hd⟩ | ⟨l, hl, hne⟩ := hagain
          · rw [← htwice, ← honce, hd]
            refine Or.inl ⟨rfl, ?_⟩
            simp only [report, List.length_append, List.length_singleton]
            omega
          · rw [← htwice, ← honce, hl]
            exact Or.inr ⟨id, operation, max, rfl, hne⟩

/-! ## Campaigns -/

/-- **A record that is absorbed changes nothing if it comes twice.** -/
theorem Guide.outcome_again (setup : Setup) (active : List Record)
    (habsorbs : g.absorbs (Table.prepare g setup (active ++ [r])).log r.scenario r.payload) :
    g.outcome setup (active ++ [r, s]) = g.outcome setup (active ++ [r]) := by
  have hprepare := Table.prepare_again g h setup active rfl rfl
  rw [if_pos habsorbs] at hprepare
  exact outcome_congr g (Record.sameReplies_repeated h active) setup hprepare
    ((Starts.alike_repeated g h active).played g)

/-- **A record that is not absorbed shows if it comes twice**, at least as long as no scenario works
on the same achievement. -/
theorem Guide.outcome_again_ne (setup : Setup) (active : List Record)
    (hspares : ∀ id operation max, r.payload = .achievement id operation max → g.Spares id)
    (habsorbs : ¬ g.absorbs (Table.prepare g setup (active ++ [r])).log r.scenario r.payload) :
    g.outcome setup (active ++ [r, s]) ≠ g.outcome setup (active ++ [r]) := by
  intro heq
  have hprepare := Table.prepare_again g h setup active rfl rfl
  rw [if_neg habsorbs] at hprepare
  rcases hprepare with ⟨hlog, hreports⟩ | ⟨id, operation, max, hr, hne⟩
  · -- The two plays begin with the same log, so they report the same behind what is there already.
    have hplay := Table.playAll_behind [] g setup ((Starts.alike_repeated g h active).played g)
      (fun s _ _ => Record.sameReplies_repeated h active s.id)
      ⟨(Table.prepare g setup (active ++ [r])).log, []⟩
    rw [Table.behind_nil] at hplay
    have hdiagnostics := congrArg (·.diagnostics.length) heq
    simp only [diagnostics_outcome, hlog, hplay, Prod.map_fst, Table.behind_nil,
      List.length_append] at hdiagnostics
    omega
  · have hspared := hspares id operation max hr
    have hlog := congrArg (·.log.achievements.get? id) heq
    simp only [outcome] at hlog
    rw [Table.get?_achievements_playAll _ _ _ _ fun p hp => hspared.played hp,
      Table.get?_achievements_playAll _ _ _ _ fun p hp => hspared.played hp] at hlog
    exact hne hlog

end Again
end Chronicle
