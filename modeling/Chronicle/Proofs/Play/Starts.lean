import Chronicle.Play.Order
import Chronicle.Proofs.Dict
import Mathlib.Data.List.Induction

/-!
# Which starts are in effect

The starts of a campaign, told from the list of records alone: a scenario is played by the last
record that may start it, and side scenarios are met in the order of the first such records.
-/

namespace Chronicle

theorem eraseDups_concat {α : Type} [DecidableEq α] (l : List α) (a : α) :
    (l ++ [a]).eraseDups = if a ∈ l then l.eraseDups else l.eraseDups ++ [a] := by
  rw [List.eraseDups_append]
  by_cases h : a ∈ l
  · simp [List.removeAll, h]
  · simp [List.removeAll, h, List.eraseDups_cons]

theorem nodup_eraseDups {α : Type} [DecidableEq α] (l : List α) : l.eraseDups.Nodup := by
  induction l using List.reverseRecOn with
  | nil => exact List.nodup_nil
  | append_singleton l a ih =>
      rw [eraseDups_concat]
      by_cases h : a ∈ l
      · simpa [h] using ih
      · simp only [h, if_false, List.nodup_append, ih, true_and, List.mem_eraseDups]
        refine ⟨by simp, fun b hb c hc hbc => h ?_⟩
        rwa [← List.mem_singleton.mp hc, ← hbc]

theorem eraseDups_sublist {α : Type} [DecidableEq α] (l : List α) : l.eraseDups.Sublist l := by
  induction l using List.reverseRecOn with
  | nil => exact .refl _
  | append_singleton l a ih =>
      rw [eraseDups_concat]
      split
      · exact ih.trans (List.sublist_append_left l [a])
      · exact ih.append_right [a]

namespace Guide

/-- Whether a record may start a scenario: custom side scenarios are those that the guide does not
have. -/
def allowsStart (g : Guide) (r : Record) (id : ScenarioId) : Bool :=
  match r.start? with
  | some s => r.scenario = some id ∧ (s.kind = .custom ↔ g.scenario? id = none)
  | none => false

/-- Whether an id is that of a side scenario, of the guide or a custom one. -/
def isSide (g : Guide) (id : ScenarioId) : Bool := ((g.scenario? id).map (·.side)).getD true

/-- The record that a scenario is started by. -/
def startRecord? (g : Guide) (active : List Record) (id : ScenarioId) : Option Record :=
  (active.filter (g.allowsStart · id)).getLast?

/-- The side scenario that a record starts. -/
def sideOf? (g : Guide) (r : Record) : Option ScenarioId :=
  r.scenario.filter fun id => g.allowsStart r id && g.isSide id

/-- The side scenarios that are started, in the order in which each was started first. -/
def sidesStarted (g : Guide) (active : List Record) : List ScenarioId :=
  (active.filterMap g.sideOf?).eraseDups

theorem sidesStarted_concat (g : Guide) (active : List Record) (r : Record) :
    g.sidesStarted (active ++ [r]) =
      match g.sideOf? r with
      | some id =>
        if id ∈ g.sidesStarted active then g.sidesStarted active
        else g.sidesStarted active ++ [id]
      | none => g.sidesStarted active := by
  unfold sidesStarted
  rw [List.filterMap_append]
  cases hs : g.sideOf? r with
  | none => simp [hs]
  | some id =>
      simp only [List.filterMap_cons, hs, List.filterMap_nil, eraseDups_concat,
        List.mem_eraseDups]

/-- The report on a record that may not start its scenario. -/
def refusal? (g : Guide) (r : Record) : Option Diagnostic :=
  match r.start?, r.scenario with
  | some s, some id =>
    match g.admits id s with
    | .ok _ => none
    | .error f => some (.ofRecord r f)
  | _, _ => none

theorem scenario_of_allowsStart (g : Guide) {r : Record} {id : ScenarioId}
    (h : g.allowsStart r id = true) : r.scenario = some id := by
  unfold allowsStart at h
  cases hs : r.start? <;> simp_all

/-- Which scenarios a record may start is told by its identity. -/
theorem allowsStart_of_identity (g : Guide) {r s : Record} (h : r.identity = s.identity)
    (id : ScenarioId) : g.allowsStart r id = g.allowsStart s id := by
  have hscenario : r.scenario = s.scenario := congrArg Identity.scenario h
  have hkind : r.payload.kind = s.payload.kind := congrArg Identity.kind h
  unfold allowsStart Record.start?
  rw [hscenario]
  cases hr : r.payload <;> cases hs : s.payload <;> simp_all [Payload.kind]

theorem sideOf?_of_identity (g : Guide) {r s : Record} (h : r.identity = s.identity) :
    g.sideOf? r = g.sideOf? s := by
  have hscenario : r.scenario = s.scenario := congrArg Identity.scenario h
  unfold sideOf?
  rw [funext (g.allowsStart_of_identity h), hscenario]

/-- Whether a record is refused is told by its identity. -/
theorem isSome_refusal?_of_identity (g : Guide) {r s : Record} (h : r.identity = s.identity) :
    (g.refusal? r).isSome = (g.refusal? s).isSome := by
  have hscenario : r.scenario = s.scenario := congrArg Identity.scenario h
  have hkind : r.payload.kind = s.payload.kind := congrArg Identity.kind h
  have hadmits : ∀ id (a b : Start), a.kind = b.kind → g.admits id a = g.admits id b := by
    intro id a b hab
    unfold admits
    cases g.scenario? id <;> cases a <;> cases b <;> simp_all [Start.kind]
  unfold refusal? Record.start?
  rw [hscenario]
  cases hr : r.payload <;> cases hs : s.payload <;> simp_all [Payload.kind]
  cases s.scenario with
  | none => rfl
  | some id =>
      simp only [hadmits id _ _ hkind]
      cases g.admits id _ <;> rfl

theorem admits_eq_ok_iff (g : Guide) (id : ScenarioId) (s : Start) (side : Bool) :
    g.admits id s = .ok side ↔
      (s.kind = .custom ↔ g.scenario? id = none) ∧ side = g.isSide id := by
  unfold admits isSide
  cases g.scenario? id <;> cases s <;> simp [Start.kind, eq_comm]

end Guide

namespace Starts

theorem ofRecords_concat (g : Guide) (active : List Record) (r : Record) :
    ofRecords g (active ++ [r]) = (ofRecords g active).add g r := by
  simp [ofRecords]

theorem add_of_no_start (g : Guide) {r : Record} (st : Starts) (hr : r.start? = Option.none) :
    st.add g r = st := by
  rw [add, hr]

theorem isSome_start?_eq (r : Record) : r.start?.isSome = r.kind.isStart := by
  unfold Record.start? Record.kind
  cases r.payload <;> rfl

/-- Only the records that start something are looked at. -/
theorem ofRecords_filter_isStart (g : Guide) (active : List Record) :
    ofRecords g (active.filter (·.kind.isStart)) = ofRecords g active := by
  induction active using List.reverseRecOn with
  | nil => rfl
  | append_singleton active r ih =>
      rw [List.filter_append, ofRecords_concat]
      cases hr : r.kind.isStart with
      | true =>
          simp only [hr, List.filter_cons_of_pos, List.filter_nil]
          rw [ofRecords_concat, ih]
      | false =>
          have hnone : r.start? = Option.none := by
            rw [← Option.not_isSome_iff_eq_none, isSome_start?_eq, hr]
            exact Bool.false_ne_true
          rw [add_of_no_start g _ hnone]
          simpa [hr] using ih

/-- All that a record does to the starts: it starts one scenario, or nothing is started. -/
theorem add_cases (g : Guide) (st : Starts) (r : Record) :
    (∃ id, r.scenario = some id ∧ (∀ id', g.allowsStart r id' = true ↔ id' = id) ∧
      (st.add g r).records = st.records.insert id r ∧
      (st.add g r).sides =
        if g.isSide id = true ∧ id ∉ st.sides then st.sides ++ [id] else st.sides) ∨
    ((∀ id', g.allowsStart r id' = false) ∧
      (st.add g r).records = st.records ∧ (st.add g r).sides = st.sides) := by
  unfold add Guide.allowsStart
  cases hs : r.start? with
  | none => exact Or.inr ⟨fun _ => rfl, rfl, rfl⟩
  | some s =>
      cases hid : r.scenario with
      | none => exact Or.inr ⟨by simp, rfl, rfl⟩
      | some id =>
          cases ha : g.admits id s with
          | error f =>
              refine Or.inr ⟨fun id' => ?_, by simp [ha], by simp [ha]⟩
              by_cases h : id = id'
              · subst h
                have hnot := (g.admits_eq_ok_iff id s (g.isSide id)).not.mp (by simp [ha])
                simpa using hnot
              · simp [h]
          | ok side =>
              obtain ⟨hkind, rfl⟩ := (g.admits_eq_ok_iff id s side).mp ha
              refine Or.inl ⟨id, rfl, fun id' => ?_, by simp [ha], by simp [ha]⟩
              by_cases h : id' = id
              · subst h
                simpa using hkind
              · simp [h, Ne.symm h]

/-- The records that scenarios are started by are the last ones that may start them. -/
theorem get?_records_ofRecords (g : Guide) (active : List Record) (id : ScenarioId) :
    (ofRecords g active).records.get? id = g.startRecord? active id := by
  induction active using List.reverseRecOn with
  | nil => rfl
  | append_singleton active r ih =>
      rw [ofRecords_concat, Guide.startRecord?, List.filter_append]
      rcases add_cases g (ofRecords g active) r with ⟨id', -, hall, hrec, -⟩ | ⟨hno, hrec, -⟩
      · rw [hrec, Dict.get?_insert, ih]
        by_cases h : id = id'
        · simp [h, (hall id').mpr rfl]
        · have hnot : g.allowsStart r id = false := by
            rw [Bool.eq_false_iff, ne_eq, hall]
            exact h
          simp [h, hnot, Guide.startRecord?]
      · rw [hrec, ih]
        simp [hno id, Guide.startRecord?]

/-- Scenarios are started by records in effect. -/
theorem mem_of_get?_records {g : Guide} {active : List Record} {id : ScenarioId} {r : Record}
    (h : (ofRecords g active).records.get? id = some r) : r ∈ active := by
  rw [get?_records_ofRecords] at h
  exact (List.mem_filter.mp (List.mem_of_getLast? h)).1

/-- The side scenarios stand in the order in which they were started first. -/
theorem sides_ofRecords (g : Guide) (active : List Record) :
    (ofRecords g active).sides = g.sidesStarted active := by
  induction active using List.reverseRecOn with
  | nil => rfl
  | append_singleton active r ih =>
      rw [ofRecords_concat, Guide.sidesStarted_concat]
      rcases add_cases g (ofRecords g active) r with ⟨id, hid, hall, -, hsides⟩ | ⟨hno, -, hsides⟩
      · rw [hsides, ih]
        have hside : g.sideOf? r = if g.isSide id then some id else Option.none := by
          simp [Guide.sideOf?, hid, Option.filter, (hall id).mpr rfl]
        rw [hside]
        cases hs : g.isSide id with
        | false => simp
        | true => by_cases h : id ∈ g.sidesStarted active <;> simp [h]
      · have hside : g.sideOf? r = Option.none := by
          cases hid : r.scenario <;> simp [Guide.sideOf?, hid, Option.filter, hno]
        rw [hsides, ih, hside]

/-- The records that are refused, in the order of the journal. -/
theorem refused_ofRecords (g : Guide) (active : List Record) :
    (ofRecords g active).refused = active.filterMap g.refusal? := by
  induction active using List.reverseRecOn with
  | nil => rfl
  | append_singleton active r ih =>
      rw [ofRecords_concat, List.filterMap_append, ← ih]
      unfold add Guide.refusal?
      cases hs : r.start? with
      | none => simp [hs]
      | some s =>
          cases hid : r.scenario with
          | none => simp [hs, hid]
          | some id => cases ha : g.admits id s <;> simp [hs, hid, ha]

/-- Where each scenario has the same record to start it, the records are the same. -/
theorem records_ofRecords_congr {g : Guide} {active active' : List Record}
    (h : ∀ id, g.startRecord? active' id = g.startRecord? active id) :
    (ofRecords g active').records = (ofRecords g active).records :=
  Dict.ext_get? fun id => by rw [get?_records_ofRecords, get?_records_ofRecords, h]

end Starts
end Chronicle
