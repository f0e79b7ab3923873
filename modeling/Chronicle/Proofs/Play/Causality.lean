import Chronicle.Proofs.Journal.Inverse
import Chronicle.Proofs.Play.Summary

/-!
# Replies work forward only

A scenario is played by the replies to its own prompts and by the campaign log that the scenarios
before it have left. So the replies to one scenario decide nothing about the order of play and
nothing about the scenarios that are played before it, and those to a scenario that is not played
decide nothing at all.
-/

namespace Chronicle

/-! ## Records but for the replies to a scenario -/

namespace Record

def isReplyIn (s : ScenarioId) (r : Record) : Bool := r.isReply && r.scenario = some s

/-- The records without the replies to a scenario. -/
def apartFrom (s : ScenarioId) (active : List Record) : List Record :=
  active.filter (! ·.isReplyIn s)

variable {s : ScenarioId} {active active' : List Record}

/-- What is no reply to the scenario is still there. -/
theorem filter_apartFrom {p : Record → Bool} (hp : ∀ r, p r = true → r.isReplyIn s = false) :
    (apartFrom s active).filter p = active.filter p := by
  rw [apartFrom, List.filter_filter]
  apply List.filter_congr
  intro r _
  cases hr : p r with
  | false => rfl
  | true => simp [hp r hr]

theorem filter_eq_of_apartFrom (h : apartFrom s active' = apartFrom s active) {p : Record → Bool}
    (hp : ∀ r, p r = true → r.isReplyIn s = false) : active'.filter p = active.filter p := by
  rw [← filter_apartFrom hp, h, filter_apartFrom hp]

theorem starts_eq_of_apartFrom (h : apartFrom s active' = apartFrom s active) :
    active'.filter (·.kind.isStart) = active.filter (·.kind.isStart) := by
  apply filter_eq_of_apartFrom h
  intro r hr
  rw [isReplyIn, isReply_eq, hr]
  rfl

theorem operations_eq_of_apartFrom (h : apartFrom s active' = apartFrom s active) :
    active'.filter (·.isCumulative) = active.filter (·.isCumulative) := by
  apply filter_eq_of_apartFrom h
  intro r hr
  rw [isReplyIn, isReply_eq, hr, Bool.not_true, Bool.and_false, Bool.false_and]

/-- In another scenario the same is replied. -/
theorem sameRepliesIn_of_apartFrom (h : apartFrom s active' = apartFrom s active) {s' : ScenarioId}
    (hne : s' ≠ s) : SameRepliesIn s' active' active := by
  apply SameRepliesIn.of_lastOf
  intro t k
  have hother : ∀ r : Record, r.identity = ⟨some s', some t, k⟩ → (! r.isReplyIn s) = true := by
    intro r hr
    have hscenario : r.scenario = some s' := congrArg Identity.scenario hr
    simp [isReplyIn, hscenario, hne]
  rw [← lastOf_filter active' hother, ← lastOf_filter active hother]
  exact congrArg (lastOf · _) h

end Record

/-! ## Adding a reply, taking it back and bringing it back -/

theorem Replay.filter_restore {p : Placed} {q : Placed → Bool} (hp : q p = false)
    (active : List Placed) : (restore p active).filter q = active.filter q := by
  have hsplit := List.takeWhile_append_dropWhile (p := fun a => decide (a.position < p.position))
    (l := active)
  rw [restore, List.filter_append, List.filter_cons_of_neg (by simp [hp]), ← List.filter_append,
    hsplit]

namespace Journal

variable {j k : Journal} {b : Bucket}

/-- An undo takes the last record of the bucket out of effect. -/
theorem exists_undone (h : j.undo? b = some k) :
    k.setup = j.setup ∧ ∃ p, (j.recordsFor b).getLast? = some p.record ∧
      j.replay.active.reverse.find? (Replay.inBucket b) = some p ∧
      k.replay.active = (j.replay.active.reverse.eraseP (Replay.inBucket b)).reverse := by
  rw [undo?] at h
  split at h
  next hcan =>
      cases h
      rw [canUndo_iff] at hcan
      obtain ⟨done, p, hdone⟩ := (List.eq_nil_or_concat _).resolve_left hcan
      have hfind : j.replay.active.reverse.find? (Replay.inBucket b) = some p := by
        rw [j.refines.find?_active, hdone]
        simp
      refine ⟨rfl, p, ?_, hfind, ?_⟩
      · rw [recordsFor_eq, hdone]
        simp
      · rw [replay_push, Replay.step, Replay.undo_of_find? hfind]
  next => cases h

/-- A redo brings a record back behind the others of the bucket. -/
theorem exists_redone (h : j.redo? b = some k) :
    k.setup = j.setup ∧ ∃ p, (k.recordsFor b).getLast? = some p.record ∧
      k.replay.active = Replay.restore p j.replay.active := by
  rw [redo?] at h
  split at h
  next hcan =>
      cases h
      rw [canRedo_iff] at hcan
      obtain ⟨p, rest, hundone⟩ := List.exists_cons_of_ne_nil hcan
      have hfind : j.replay.undone.find? (Replay.inBucket b) = some p := by
        rw [j.refines.find?_undone, hundone, List.head?_cons]
      have hstacks : (j.push (.redo b)).stacksOf b = (j.stacksOf b).redo := by
        rw [stacksOf, push, Stacks.run_concat]
        exact if_pos rfl
      refine ⟨rfl, p, ?_, ?_⟩
      · rw [recordsFor_eq, hstacks, Stacks.redo_of_cons hundone, List.map_append, List.map_cons,
          List.map_nil, List.getLast?_concat]
      · rw [replay_push, Replay.step, Replay.redo_of_find? hfind]
  next => cases h

/-- A journal after a reply to a scenario was added, undone or redone. -/
inductive Revises (s : ScenarioId) (j : Journal) : Journal → Prop where
  | append {r : Record} (hr : r.isReply = true) (hs : r.scenario = some s) :
      Revises s j (j.append r)
  | undo {k : Journal} (h : j.undo? (some s) = some k)
      (hr : ∀ r, (j.recordsFor (some s)).getLast? = some r → r.isReply = true) : Revises s j k
  | redo {k : Journal} (h : j.redo? (some s) = some k)
      (hr : ∀ r, (k.recordsFor (some s)).getLast? = some r → r.isReply = true) : Revises s j k

theorem apartFrom_active (s : ScenarioId) (j : Journal) :
    Record.apartFrom s j.active =
      (j.replay.active.filter (! ·.record.isReplyIn s)).map (·.record) := by
  rw [Record.apartFrom, active, List.filter_map]
  rfl

theorem isReplyIn_of_getLast? {s : ScenarioId} {r : Record}
    (h : (j.recordsFor (some s)).getLast? = some r) (hr : r.isReply = true) :
    r.isReplyIn s = true := by
  have hmem := List.mem_of_getLast? h
  rw [recordsFor, List.mem_filter] at hmem
  rw [Record.isReplyIn, hr, hmem.2, Bool.and_true]

/-- But for the replies to the scenario, a revision leaves the records in effect as they are. -/
theorem Revises.apartFrom {s : ScenarioId} (h : Revises s j k) :
    k.setup = j.setup ∧ Record.apartFrom s k.active = Record.apartFrom s j.active := by
  cases h with
  | @append r hr hs =>
      refine ⟨rfl, ?_⟩
      rw [active_append, Record.apartFrom, List.filter_append]
      simp [Record.apartFrom, Record.isReplyIn, hr, hs]
  | undo h hr =>
      obtain ⟨hsetup, p, hlast, hfind, hactive⟩ := exists_undone h
      -- The record that is undone is a reply to the scenario, so it is left out on both sides.
      have hp : (! p.record.isReplyIn s) = false := by
        rw [isReplyIn_of_getLast? hlast (hr _ hlast)]
        rfl
      refine ⟨hsetup, ?_⟩
      rw [apartFrom_active, apartFrom_active, hactive, List.filter_reverse,
        filter_eraseP_of_find? hfind hp, List.filter_reverse, List.reverse_reverse]
  | redo h hr =>
      obtain ⟨hsetup, p, hlast, hactive⟩ := exists_redone h
      have hp : (! p.record.isReplyIn s) = false := by
        rw [isReplyIn_of_getLast? hlast (hr _ hlast)]
        rfl
      refine ⟨hsetup, ?_⟩
      rw [apartFrom_active, apartFrom_active, hactive, Replay.filter_restore hp]

end Journal

/-! ## Playing up to a scenario -/

namespace Table

theorem playAll_append (g : Guide) (setup : Setup) (active : List Record) (t : Table)
    (ps ps' : List Played) :
    t.playAll g setup active (ps ++ ps') =
      (((t.playAll g setup active ps).1.playAll g setup active ps').1,
        (t.playAll g setup active ps).2 ++
          ((t.playAll g setup active ps).1.playAll g setup active ps').2) := by
  induction ps generalizing t with
  | nil => rfl
  | cons p ps ih => simp only [List.cons_append, playAll, ih]

/-- Scenarios are played the same with records that reply the same to them. -/
theorem playAll_congr (g : Guide) (setup : Setup) {active active' : List Record} {ps : List Played}
    (h : ∀ s start, .scripted s start ∈ ps → Record.SameRepliesIn s.id active' active) (t : Table) :
    t.playAll g setup active' ps = t.playAll g setup active ps :=
  playAll_behind [] g setup (Played.alike_refl ps) h t

end Table

theorem mem_takeWhile_of_idxOf_lt {α : Type} [DecidableEq α] {l : List α} {a b : α}
    (h : l.idxOf a < l.idxOf b) : a ∈ l.takeWhile (· ≠ b) := by
  induction l with
  | nil => simp at h
  | cons c l ih =>
      have hc : c ≠ b := by
        rintro rfl
        simp at h
      rw [List.takeWhile_cons_of_pos (by simpa using hc), List.mem_cons]
      by_cases ha : a = c
      · exact Or.inl ha
      · rw [List.idxOf_cons_ne _ (Ne.symm ha), List.idxOf_cons_ne _ hc] at h
        exact Or.inr (ih (Nat.lt_of_succ_lt_succ h))

/-- The progress of a scenario in a playthrough. -/
def Playthrough.progress? (p : Playthrough) (id : ScenarioId) : Option Progress :=
  p.scenarios.find? (·.scenario = id)

namespace Guide

variable (g : Guide) {active : List Record}

theorem scenario?_of_mem_played {s : Scenario} {start : Option Record}
    (h : .scripted s start ∈ (Starts.ofRecords g active).played g) :
    g.scenario? s.id = some s ∧ s.id ∈ g.playOrder active := by
  refine ⟨?_, List.mem_map.mpr ⟨_, h, rfl⟩⟩
  obtain ⟨s', hs', heq⟩ | ⟨_, _, _, _, _, -, -, -, heq⟩ := Starts.played_cases h
  · cases heq
    exact hs'
  · cases heq

section ApartFrom

variable {s : ScenarioId} {active' : List Record}
  (h : Record.apartFrom s active' = Record.apartFrom s active) (setup : Setup)
include h

theorem ofRecords_of_apartFrom : Starts.ofRecords g active' = Starts.ofRecords g active :=
  Starts.ofRecords_congr g (Record.starts_eq_of_apartFrom h)

theorem prepare_of_apartFrom : Table.prepare g setup active' = Table.prepare g setup active :=
  Table.prepare_congr g setup (Record.starts_eq_of_apartFrom h)
    (Record.operations_eq_of_apartFrom h)

theorem order_outcome_of_apartFrom :
    (g.outcome setup active').order = (g.outcome setup active).order := by
  rw [order_outcome, order_outcome, playOrder, playOrder, g.ofRecords_of_apartFrom h]

/-- Scenarios other than `s` are played the same. -/
theorem playAll_of_apartFrom (ps : List Played)
    (hps : ∀ sc start, .scripted sc start ∈ ps → sc.id ≠ s) (t : Table) :
    t.playAll g setup active' ps = t.playAll g setup active ps := by
  apply Table.playAll_congr
  intro sc start hsc
  exact Record.sameRepliesIn_of_apartFrom h (hps sc start hsc)

theorem outcome_of_apartFrom (hnot : ¬ (s ∈ g.playOrder active ∧ (g.scenario? s).isSome = true)) :
    g.outcome setup active' = g.outcome setup active := by
  have hother : ∀ sc start, .scripted sc start ∈ (Starts.ofRecords g active).played g →
      sc.id ≠ s := by
    rintro sc start hsc rfl
    obtain ⟨hscenario, hplayed⟩ := g.scenario?_of_mem_played hsc
    exact hnot ⟨hplayed, by rw [hscenario]; rfl⟩
  unfold outcome
  rw [g.prepare_of_apartFrom h setup, g.ofRecords_of_apartFrom h,
    g.playAll_of_apartFrom h setup _ hother]

/-- The scenarios played before `s` come first in both playthroughs, and in the same state. -/
theorem progress?_of_apartFrom {id : ScenarioId}
    (hid : (g.playOrder active).idxOf id < (g.playOrder active).idxOf s) :
    (g.outcome setup active').progress? id = (g.outcome setup active).progress? id := by
  let ps := (Starts.ofRecords g active).played g
  let earlier := ps.takeWhile (·.id ≠ s)
  have hsplit : ps = earlier ++ ps.dropWhile (·.id ≠ s) := List.takeWhile_append_dropWhile.symm
  have hearlier : id ∈ earlier.map Played.id := by
    have hbefore := mem_takeWhile_of_idxOf_lt hid
    rwa [playOrder, List.takeWhile_map] at hbefore
  -- What is found is found among the scenarios before `s`.
  have hfound : ∀ records : List Record, Starts.ofRecords g records = Starts.ofRecords g active →
      (g.outcome setup records).progress? id =
        ((Table.prepare g setup records).playAll g setup records earlier).2.find?
          (·.scenario = id) := by
    intro records hrecords
    have hmem : id ∈ ((Table.prepare g setup records).playAll g setup records earlier).2.map
        (·.scenario) := by
      rw [Table.scenarios_playAll]
      exact hearlier
    rw [Playthrough.progress?, scenarios_outcome, walked, hrecords]
    conv_lhs => rw [show (Starts.ofRecords g active).played g = _ from hsplit]
    rw [Table.playAll_append, List.append_assoc, List.find?_append]
    apply Option.or_of_isSome
    obtain ⟨p, hp, rfl⟩ := List.mem_map.mp hmem
    rw [List.find?_isSome]
    exact ⟨p, hp, by simp⟩
  have hother : ∀ sc start, .scripted sc start ∈ earlier → sc.id ≠ s := by
    intro sc start hsc
    have hne := List.mem_takeWhile_imp hsc
    rw [decide_eq_true_eq] at hne
    exact hne
  rw [hfound active' (g.ofRecords_of_apartFrom h), hfound active rfl,
    g.prepare_of_apartFrom h setup, g.playAll_of_apartFrom h setup _ hother]

end ApartFrom

/-- **Replies work forward only.** Let two journals of one setup differ in nothing but replies to
the scenario `s`. Then a guide plays the same scenarios in the same order, those before `s` with the
same progress, and if `s` is no scenario of the guide that is played, the outcome is the same. To
add, undo or redo a reply to `s` makes no other difference than this. -/
theorem play_of_apartFrom (s : ScenarioId) :
    (∀ j k : Journal, k.setup = j.setup →
      Record.apartFrom s k.active = Record.apartFrom s j.active →
      ∀ p, g.play j = .ok p → ∃ q, g.play k = .ok q ∧ q.order = p.order ∧
        (∀ id ∈ g.playOrder j.active,
          (g.playOrder j.active).idxOf id < (g.playOrder j.active).idxOf s →
          q.progress? id = p.progress? id) ∧
        (¬ (s ∈ g.playOrder j.active ∧ (g.scenario? s).isSome = true) → q = p)) ∧
      (∀ j k : Journal, Journal.Revises s j k → k.setup = j.setup ∧
        Record.apartFrom s k.active = Record.apartFrom s j.active) := by
  constructor
  · intro j k hsetup h p hp
    obtain ⟨hnone, rfl⟩ := play_eq_ok_iff.mp hp
    refine ⟨g.outcome j.setup k.active, ?_, ?_, ?_, ?_⟩
    · rw [play_eq_ok_iff, hsetup]
      exact ⟨hnone, rfl⟩
    · exact g.order_outcome_of_apartFrom h j.setup
    · intro id _ hid
      exact g.progress?_of_apartFrom h j.setup hid
    · exact g.outcome_of_apartFrom h j.setup
  · intro j k hrevises
    exact hrevises.apartFrom

open Sample

/-- Taking back the decision of the gathering leaves the prologue as it was. A decision in a
scenario that nobody has started makes no difference. -/
theorem play_of_apartFrom_of_undecided :
    Journal.Revises "the_gathering" decided undecided ∧ undecided.setup = decided.setup ∧
      Record.apartFrom "the_gathering" undecided.active =
        Record.apartFrom "the_gathering" decided.active ∧
      nightOfTheZealot.playOrder decided.active = ["prologue", "the_gathering"] ∧
      (∃ p q, nightOfTheZealot.play decided = .ok p ∧ nightOfTheZealot.play undecided = .ok q ∧
        q.order = p.order ∧ q.progress? "prologue" = p.progress? "prologue") ∧
      Journal.Revises "the_midnight_masks" decided (decided.append idle) ∧
      ∃ p, nightOfTheZealot.play decided = .ok p ∧
        nightOfTheZealot.play (decided.append idle) = .ok p := by
  have horder : nightOfTheZealot.playOrder decided.active = ["prologue", "the_gathering"] := by
    rw [playOrder, played_of_started rfl]
    rfl
  obtain ⟨hforward, hrevises⟩ := nightOfTheZealot.play_of_apartFrom "the_gathering"
  have hundo : Journal.Revises "the_gathering" decided undecided := by
    refine .undo rfl ?_
    intro r hr
    have hlast : (decided.recordsFor (some "the_gathering")).getLast? = some decision := rfl
    rw [hlast, Option.some.injEq] at hr
    rw [← hr]
    rfl
  obtain ⟨hsetup, hapart⟩ := hrevises decided undecided hundo
  obtain ⟨q, hq, hsame, hearlier, -⟩ := hforward decided undecided hsetup hapart _ rfl
  obtain ⟨hforward', hrevises'⟩ := nightOfTheZealot.play_of_apartFrom "the_midnight_masks"
  have hidle : Journal.Revises "the_midnight_masks" decided (decided.append idle) :=
    .append rfl rfl
  obtain ⟨hsetup', hapart'⟩ := hrevises' decided (decided.append idle) hidle
  obtain ⟨q', hq', -, -, hnone⟩ := hforward' decided (decided.append idle) hsetup' hapart' _ rfl
  refine ⟨hundo, hsetup, hapart, horder, ⟨_, q, rfl, hq, hsame, ?_⟩, hidle, _, rfl, ?_⟩
  · apply hearlier "prologue"
    · rw [horder]
      decide
    · rw [horder]
      decide
  · rw [hq', hnone]
    rw [horder]
    decide

end Guide
end Chronicle
