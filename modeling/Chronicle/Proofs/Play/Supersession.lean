import Chronicle.Proofs.Play.Order
import Chronicle.Proofs.Play.Walk
import Chronicle.Sample.Evening
import Chronicle.Sample.NightOfTheZealot
import Mathlib.Data.List.Permutation

/-!
# Starts that are superseded

Of the starts of one identity the last one is read, but an earlier one is not without effect. If it
is refused it is reported, and if it starts a side scenario for the first time the scenario has its
turn from then on, before the side scenarios that are started in between.
-/

namespace Chronicle

/-! ## Leaving out an element that comes again -/

section Again

variable {α : Type}

theorem getLast?_filter_append_cons {p : α → Bool} {before rest : List α} {a : α}
    (h : p a = true → ∃ b ∈ rest, p b = true) :
    ((before ++ a :: rest).filter p).getLast? = ((before ++ rest).filter p).getLast? := by
  rw [List.filter_append, List.filter_append]
  cases ha : p a with
  | false => rw [List.filter_cons_of_neg (by simp [ha])]
  | true =>
      obtain ⟨b, hb, hpb⟩ := h ha
      have hne : rest.filter p ≠ [] := List.ne_nil_of_mem (List.mem_filter.mpr ⟨hb, hpb⟩)
      rw [List.filter_cons_of_pos ha, List.getLast?_append_of_ne_nil _ (List.cons_ne_nil _ _),
        List.getLast?_append_of_ne_nil _ hne, List.getLast?_cons_of_ne_nil hne]

variable [DecidableEq α]

theorem eraseDups_append_cons_of_mem {l m : List α} {a : α} (h : a ∈ l) :
    (l ++ a :: m).eraseDups = (l ++ m).eraseDups := by
  rw [List.eraseDups_append, List.eraseDups_append]
  simp [List.removeAll, h]

/-- Leaving out an element that comes again changes nothing in the order of first occurrences if
nothing occurs for the first time in between. -/
theorem eraseDups_append_cons {l m : List α} {a : α} (ha : a ∈ m)
    (h : a ∈ l ∨ ∀ b ∈ m.takeWhile (· ≠ a), b ∈ l) :
    (l ++ a :: m).eraseDups = (l ++ m).eraseDups := by
  rcases h with h | h
  · exact eraseDups_append_cons_of_mem h
  induction m with
  | nil => cases ha
  | cons b m ih =>
      by_cases hb : b = a
      · subst hb
        rw [List.append_cons, eraseDups_append_cons_of_mem (by simp), ← List.append_cons]
      · rw [List.takeWhile_cons_of_pos (by simpa using hb), List.forall_mem_cons] at h
        have hlater : a ∈ m := (List.mem_cons.mp ha).resolve_left (Ne.symm hb)
        rw [eraseDups_append_cons_of_mem h.1, ← ih hlater h.2, List.append_cons,
          eraseDups_append_cons_of_mem (by simp [h.1]), ← List.append_cons]

end Again

/-! ## What the starts have in common -/

section Superseded

variable {g : Guide} {before rest : List Record} {r : Record}
  (hlater : ∃ s ∈ rest, s.identity = r.identity)
include hlater

theorem Record.lastOf_superseded (i : Identity) :
    lastOf (before ++ r :: rest) i = lastOf (before ++ rest) i := by
  obtain ⟨s, hs, hidentity⟩ := hlater
  rw [lastOf_eq_getLast?, lastOf_eq_getLast?]
  refine getLast?_filter_append_cons fun hr => ⟨s, hs, ?_⟩
  rw [hidentity]
  exact hr

namespace Starts

theorem records_superseded :
    (ofRecords g (before ++ rest)).records = (ofRecords g (before ++ r :: rest)).records := by
  obtain ⟨s, hs, hidentity⟩ := hlater
  refine records_ofRecords_congr fun id => (getLast?_filter_append_cons fun hr => ?_).symm
  exact ⟨s, hs, (g.allowsStart_of_identity hidentity id).trans hr⟩

end Starts

namespace Guide

/-- A side scenario that a superseded record starts is started again. -/
theorem mem_filterMap_sideOf? {x : ScenarioId} (hx : g.sideOf? r = some x) :
    x ∈ rest.filterMap g.sideOf? := by
  obtain ⟨s, hs, hidentity⟩ := hlater
  exact List.mem_filterMap.mpr ⟨s, hs, (g.sideOf?_of_identity hidentity).trans hx⟩

theorem mem_sidesStarted_superseded {x : ScenarioId} :
    x ∈ g.sidesStarted (before ++ rest) ↔ x ∈ g.sidesStarted (before ++ r :: rest) := by
  unfold sidesStarted
  rw [List.mem_eraseDups, List.mem_eraseDups, List.filterMap_append, List.filterMap_append,
    List.mem_append, List.mem_append, List.filterMap_cons]
  cases hside : g.sideOf? r with
  | none => rfl
  | some y =>
      rw [List.mem_cons]
      constructor
      · exact fun h => h.imp_right Or.inr
      · rintro (h | rfl | h)
        · exact Or.inl h
        · exact Or.inr (mem_filterMap_sideOf? hlater hside)
        · exact Or.inr h

/-- The side scenarios stand as they did if none is started for the first time between the
superseded record, itself the first start of its scenario, and the next one. -/
theorem sidesStarted_superseded
    (hturn : ∀ x, g.sideOf? r = some x → x ∈ g.sidesStarted before ∨
      ∀ y ∈ (rest.filterMap g.sideOf?).takeWhile (· ≠ x), y ∈ g.sidesStarted before) :
    g.sidesStarted (before ++ rest) = g.sidesStarted (before ++ r :: rest) := by
  unfold sidesStarted at hturn ⊢
  simp only [List.mem_eraseDups] at hturn
  rw [List.filterMap_append, List.filterMap_append, List.filterMap_cons]
  cases hside : g.sideOf? r with
  | none => rfl
  | some x =>
      exact (eraseDups_append_cons (mem_filterMap_sideOf? hlater hside) (hturn x hside)).symm

end Guide
end Superseded

/-! ## What the starts decide -/

namespace Starts

variable {g : Guide} {st st' : Starts}

theorem played_of_eq (hrecords : st'.records = st.records) (horder : st'.order g = st.order g) :
    st'.played g = st.played g := by
  obtain ⟨records, sides, refused⟩ := st
  obtain ⟨_, sides', refused'⟩ := st'
  cases hrecords
  unfold played
  rw [horder]
  rfl

/-- The reports on anchors stand in the order of the side scenarios. -/
theorem strayAnchors_perm (hrecords : st'.records = st.records) (hsides : st'.sides.Perm st.sides) :
    (st'.strayAnchors g).Perm (st.strayAnchors g) := by
  obtain ⟨records, sides, refused⟩ := st
  obtain ⟨_, sides', refused'⟩ := st'
  cases hrecords
  exact hsides.filterMap _

theorem order_perm (hrecords : st'.records = st.records) (hsides : st'.sides.Perm st.sides) :
    (st'.order g).Perm (st.order g) := by
  have hcandidates : (st'.candidates g).Perm (st.candidates g) := by
    have hmains : st'.mains g = st.mains g := by
      unfold mains
      rw [hrecords]
    rw [candidates, candidates, hmains]
    exact hsides.append_left _
  rw [List.perm_ext_iff_of_nodup (nodup_order st') (nodup_order st)]
  intro id
  rw [mem_order_iff, mem_order_iff]
  exact hcandidates.mem_iff

end Starts

/-! ## What a superseded start changes -/

namespace Guide

section Superseded

variable (g : Guide) (setup : Setup) {before rest : List Record} {r : Record}
  (hstart : r.kind.isStart = true) (hlater : ∃ s ∈ rest, s.identity = r.identity)

include hlater in
theorem sidesStarted_superseded_perm :
    (g.sidesStarted (before ++ rest)).Perm (g.sidesStarted (before ++ r :: rest)) :=
  (List.perm_ext_iff_of_nodup (nodup_eraseDups _) (nodup_eraseDups _)).mpr fun _ =>
    mem_sidesStarted_superseded hlater

include hstart in
theorem operated_superseded :
    Table.operated g setup (before ++ rest) = Table.operated g setup (before ++ r :: rest) := by
  have hcum : r.isCumulative = false := by
    unfold Record.isCumulative
    cases hk : r.kind <;> simp_all [Kind.isStart, Kind.isCumulative]
  rw [Table.operated, Table.operated, List.filter_append, List.filter_append,
    List.filter_cons_of_neg (by simp [hcum])]

/-- A superseded start is reported if it is refused, and only then. -/
theorem filterMap_refusal?_superseded_iff :
    (before ++ rest).filterMap g.refusal? = (before ++ r :: rest).filterMap g.refusal? ↔
      g.refusal? r = none := by
  rw [List.filterMap_append, List.filterMap_append, List.append_cancel_left_eq,
    List.filterMap_cons]
  cases g.refusal? r with
  | none => simp
  | some d =>
      simp only [reduceCtorEq, iff_false]
      intro h
      have := congrArg List.length h
      simp at this

include hstart hlater

/-- **What a superseded start changes.** The outcome without it is the same exactly if it is not
refused, the order of play is the same without it, and so are the reports on anchors. -/
theorem outcome_superseded_iff :
    g.outcome setup (before ++ rest) = g.outcome setup (before ++ r :: rest) ↔
      g.refusal? r = none ∧
        g.playOrder (before ++ rest) = g.playOrder (before ++ r :: rest) ∧
        (Starts.ofRecords g (before ++ rest)).strayAnchors g =
          (Starts.ofRecords g (before ++ r :: rest)).strayAnchors g := by
  have hrecords : (Starts.ofRecords g (before ++ rest)).records =
      (Starts.ofRecords g (before ++ r :: rest)).records := Starts.records_superseded hlater
  have hsides : (Starts.ofRecords g (before ++ rest)).sides.Perm
      (Starts.ofRecords g (before ++ r :: rest)).sides := by
    rw [Starts.sides_ofRecords, Starts.sides_ofRecords]
    exact g.sidesStarted_superseded_perm hlater
  have hreplies : Record.SameReplies (before ++ rest) (before ++ r :: rest) :=
    .of_lastOf fun i => (Record.lastOf_superseded hlater i).symm
  have hoperated : Table.operated g setup (before ++ rest) =
      Table.operated g setup (before ++ r :: rest) := g.operated_superseded setup hstart
  have hlog : (Table.prepare g setup (before ++ rest)).log =
      (Table.prepare g setup (before ++ r :: rest)).log := by
    rw [Table.prepare_eq, Table.prepare_eq, hoperated]
  -- In the same order, the outcome is the same if the reports before the first scenario are.
  have houtcome : g.playOrder (before ++ rest) = g.playOrder (before ++ r :: rest) →
      (g.outcome setup (before ++ rest) = g.outcome setup (before ++ r :: rest) ↔
        (Table.prepare g setup (before ++ rest)).reports =
          (Table.prepare g setup (before ++ r :: rest)).reports) := fun horder => by
    refine outcome_eq_iff g hreplies setup hlog ?_
    rw [playOrder_eq, playOrder_eq] at horder
    rw [Starts.played_of_eq hrecords horder]
    exact (Starts.Alike.refl _).played g
  simp only [Table.prepare_eq, hoperated, List.append_cancel_left_eq] at houtcome
  constructor
  · intro h
    have horder : g.playOrder (before ++ rest) = g.playOrder (before ++ r :: rest) := by
      have hless := g.order_outcome setup (before ++ rest)
      rw [h, g.order_outcome setup (before ++ r :: rest)] at hless
      refine (List.append_inj_left hless ?_).symm
      rw [playOrder_eq, playOrder_eq]
      exact (Starts.order_perm hrecords hsides).length_eq.symm
    obtain ⟨hrefused, hstray⟩ := List.append_inj' ((houtcome horder).mp h)
      (Starts.strayAnchors_perm hrecords hsides).length_eq
    exact ⟨g.filterMap_refusal?_superseded_iff.mp hrefused, horder, hstray⟩
  · rintro ⟨hrefusal, horder, hstray⟩
    rw [houtcome horder, hstray, g.filterMap_refusal?_superseded_iff.mpr hrefusal]

end Superseded

variable (g : Guide)

/-- **A superseded start is not without effect.** Let two journals of one setup differ in a start
that a later record of its identity supersedes. With a guide that can play the campaign they are
played the same exactly if the start is not refused, the order of play is the same without it, and
so are the reports on anchors. The last two are the same at least if the start is none of a side
scenario, or the side scenario was started before, or no other side scenario is started for the
first time until it is started again. -/
theorem play_superseded_start_iff (j k : Journal) (hsetup : k.setup = j.setup)
    {before rest : List Record} {r : Record} (hj : j.active = before ++ r :: rest)
    (hk : k.active = before ++ rest) (hstart : r.kind.isStart = true)
    (hlater : ∃ s ∈ rest, s.identity = r.identity) :
    (g.play k = g.play j ↔ (g.incompatibility? j.setup = none → g.refusal? r = none ∧
      g.playOrder k.active = g.playOrder j.active ∧
      (Starts.ofRecords g k.active).strayAnchors g =
        (Starts.ofRecords g j.active).strayAnchors g)) ∧
    ((∀ x, g.sideOf? r = some x → x ∈ g.sidesStarted before ∨
        ∀ y ∈ (rest.filterMap g.sideOf?).takeWhile (· ≠ x), y ∈ g.sidesStarted before) →
      g.playOrder k.active = g.playOrder j.active ∧
      (Starts.ofRecords g k.active).strayAnchors g =
        (Starts.ofRecords g j.active).strayAnchors g) := by
  rw [hj, hk]
  constructor
  · unfold play
    rw [hsetup, hj, hk, ← g.outcome_superseded_iff j.setup hstart hlater]
    cases g.incompatibility? j.setup with
    | some i => simp
    | none => simp
  · intro hturn
    have halike : (Starts.ofRecords g (before ++ rest)).Alike
        (Starts.ofRecords g (before ++ r :: rest)) := by
      refine Starts.alike_of_eq (Starts.records_superseded hlater) ?_
      rw [Starts.sides_ofRecords, Starts.sides_ofRecords]
      exact sidesStarted_superseded hlater hturn
    rw [playOrder_eq, playOrder_eq]
    exact ⟨halike.order g, halike.strayAnchors g⟩

open Sample

/-- Where `y` was started before, its second start does not come between those of `x`. -/
theorem play_superseded_start_iff_of_started :
    inTurns.active = [customStart 1 "y" none] ++ customStart 2 "x" none ::
        [customStart 3 "y" none, customStart 4 "x" none] ∧
      inTurnsLess.active = [customStart 1 "y" none] ++
        [customStart 3 "y" none, customStart 4 "x" none] ∧
      (customStart 2 "x" none).kind.isStart = true ∧
      (customStart 4 "x" none).identity = (customStart 2 "x" none).identity ∧
      nightOfTheZealot.play inTurnsLess = nightOfTheZealot.play inTurns := by
  have hall : inTurns.active = [customStart 1 "y" none] ++ customStart 2 "x" none ::
      [customStart 3 "y" none, customStart 4 "x" none] := rfl
  have hless : inTurnsLess.active = [customStart 1 "y" none] ++
      [customStart 3 "y" none, customStart 4 "x" none] := rfl
  refine ⟨hall, hless, rfl, rfl, ?_⟩
  obtain ⟨hplay, horder⟩ := nightOfTheZealot.play_superseded_start_iff inTurns inTurnsLess rfl
    hall hless rfl ⟨customStart 4 "x" none, by decide, rfl⟩
  refine hplay.mpr fun _ => ⟨rfl, horder fun x hx => ?_⟩
  have hside : nightOfTheZealot.sideOf? (customStart 2 "x" none) = some "x" := rfl
  obtain rfl := Option.some.inj (hside.symm.trans hx)
  right
  decide

/-- A side scenario that is started again keeps the turn that its first start gave it. -/
theorem turn_of_superseded_start :
    restarted.setup = startedLast.setup ∧
      restarted.active = customStart 1 "x" none :: startedLast.active ∧
      (customStart 1 "x" none).kind.isStart = true ∧
      (∃ s ∈ startedLast.active, s.identity = (customStart 1 "x" none).identity) ∧
      nightOfTheZealot.play startedLast ≠ nightOfTheZealot.play restarted := by
  refine ⟨rfl, rfl, rfl, ⟨customStart 3 "x" none, by decide, rfl⟩, fun h => ?_⟩
  have hlast : (nightOfTheZealot.outcome startedLast.setup startedLast.active).order =
      ["prologue", "y", "x", "the_gathering", "the_midnight_masks", "curse_of_the_rougarou",
        "the_devourer_below"] := by
    cbv
  have hfirst : (nightOfTheZealot.outcome restarted.setup restarted.active).order =
      ["prologue", "x", "y", "the_gathering", "the_midnight_masks", "curse_of_the_rougarou",
        "the_devourer_below"] := by
    cbv
  have hsame : nightOfTheZealot.outcome startedLast.setup startedLast.active =
      nightOfTheZealot.outcome restarted.setup restarted.active := Except.ok.inj h
  rw [hsame, hfirst] at hlast
  simp at hlast

end Guide
end Chronicle
