import Chronicle.Proofs.Play.Supersession

/-!
# What a play reads of the records

Three things are read of the records in effect: the starts in their order, the operations on
achievements in theirs, and the last reply to each prompt. So it does not matter when a reply is
given, before the scenario is started or after it, nor what was replied before it.
-/

namespace Chronicle

namespace Record

/-- Whether a record replies to a prompt. -/
def isReply (r : Record) : Bool :=
  match r.payload with
  | .reply _ => true
  | _ => false

/-- A record starts a scenario, replies to a prompt or is an operation on an achievement. -/
theorem isReply_eq (r : Record) : r.isReply = (! r.kind.isStart && ! r.isCumulative) := by
  unfold isReply isCumulative kind
  cases r.payload <;> rfl

theorem isReply_iff {r : Record} : r.isReply = true ↔ ∃ k, r.kind = .reply k := by
  unfold isReply kind
  cases r.payload <;> simp [Payload.kind]

/-- Two lists of records with the same starts, the same operations on achievements, and for each
identity of a reply the same last record. -/
structure SameSummary (active active' : List Record) : Prop where
  starts : active.filter (·.kind.isStart) = active'.filter (·.kind.isStart)
  operations : active.filter (·.isCumulative) = active'.filter (·.isCumulative)
  replies : ∀ s t k, lastOf active ⟨s, t, .reply k⟩ = lastOf active' ⟨s, t, .reply k⟩

/-- The last record of an identity is found among those of its kind. -/
theorem lastOf_filter {p : Record → Bool} {i : Identity} (active : List Record)
    (hp : ∀ r, r.identity = i → p r = true) : lastOf (active.filter p) i = lastOf active i := by
  rw [lastOf_eq_getLast?, lastOf_eq_getLast?, List.filter_filter]
  refine congrArg List.getLast? (List.filter_congr fun r _ => ?_)
  by_cases hr : r.identity = i
  · simp [hr, hp r hr]
  · simp [hr]

theorem lastOf_eq_none {active : List Record} {i : Identity} (h : ∀ r ∈ active, r.identity ≠ i) :
    lastOf active i = none := by
  rw [lastOf, List.find?_eq_none]
  intro r hr
  simpa using h r (List.mem_reverse.mp hr)

instance (active active' : List Record) : Decidable (SameSummary active active') :=
  decidable_of_iff
    (active.filter (·.kind.isStart) = active'.filter (·.kind.isStart) ∧
      active.filter (·.isCumulative) = active'.filter (·.isCumulative) ∧
      ∀ r ∈ active ++ active', r.isReply = true →
        lastOf active r.identity = lastOf active' r.identity) <| by
    constructor
    · rintro ⟨hstarts, hoperations, hreplies⟩
      refine ⟨hstarts, hoperations, fun s t k => ?_⟩
      by_cases hi : ∃ r ∈ active ++ active', r.identity = ⟨s, t, .reply k⟩
      · obtain ⟨r, hr, hidentity⟩ := hi
        have hreply : r.isReply = true := isReply_iff.mpr ⟨k, congrArg Identity.kind hidentity⟩
        rw [← hidentity]
        exact hreplies r hr hreply
      · -- Of an identity that no record has, neither list has a last one.
        have hnone : ∀ r ∈ active ++ active', r.identity ≠ ⟨s, t, .reply k⟩ := fun r hr h =>
          hi ⟨r, hr, h⟩
        rw [lastOf_eq_none fun r hr => hnone r (List.mem_append_left _ hr),
          lastOf_eq_none fun r hr => hnone r (List.mem_append_right _ hr)]
    · intro h
      refine ⟨h.starts, h.operations, fun r _ hr => ?_⟩
      obtain ⟨k, hk⟩ := isReply_iff.mp hr
      rw [identity, hk]
      exact h.replies _ _ _

namespace SameSummary

variable {active active' : List Record} (h : SameSummary active active')
include h

theorem lastOf_eq (i : Identity) : lastOf active i = lastOf active' i := by
  obtain ⟨s, t, k⟩ := i
  cases k with
  | start k =>
      have hstart : ∀ r : Record, r.identity = ⟨s, t, .start k⟩ → r.kind.isStart = true := by
        intro r hr
        rw [show r.kind = .start k from congrArg Identity.kind hr]
        rfl
      rw [← lastOf_filter active hstart, h.starts, lastOf_filter active' hstart]
  | reply k => exact h.replies s t k
  | achievement =>
      have hcumulative : ∀ r : Record,
          r.identity = ⟨s, t, .achievement⟩ → r.isCumulative = true := by
        intro r hr
        rw [isCumulative, show r.kind = .achievement from congrArg Identity.kind hr]
        rfl
      rw [← lastOf_filter active hcumulative, h.operations, lastOf_filter active' hcumulative]

end SameSummary

/-! ## Lists with the same summary -/

/-- A reply may be given earlier or later, as long as it stays where it is among the replies to its
prompt. -/
theorem sameSummary_moved {before moved rest : List Record} {r : Record} (hr : r.isReply = true)
    (hmoved : ∀ s ∈ moved, s.identity ≠ r.identity) :
    SameSummary (before ++ (moved ++ r :: rest)) (before ++ r :: (moved ++ rest)) := by
  rw [isReply_eq, Bool.and_eq_true, Bool.not_eq_true', Bool.not_eq_true'] at hr
  constructor
  · simp [hr.1]
  · simp [hr.2]
  · intro s t k
    rw [lastOf_eq_getLast?, lastOf_eq_getLast?]
    by_cases hi : r.identity = ⟨s, t, .reply k⟩
    · have hnone : moved.filter (·.identity = ⟨s, t, .reply k⟩) = [] := by
        rw [List.filter_eq_nil_iff]
        intro s' hs'
        rw [← hi]
        simpa using hmoved s' hs'
      simp [hi, hnone]
    · simp [hi]

/-- A reply that is superseded leaves no trace. -/
theorem sameSummary_superseded {before rest : List Record} {r : Record} (hr : r.isReply = true)
    (hlater : ∃ s ∈ rest, s.identity = r.identity) :
    SameSummary (before ++ rest) (before ++ r :: rest) := by
  rw [isReply_eq, Bool.and_eq_true, Bool.not_eq_true', Bool.not_eq_true'] at hr
  constructor
  · simp [hr.1]
  · simp [hr.2]
  · intro s t k
    exact (lastOf_superseded hlater _).symm

end Record

/-! ## Before the first scenario -/

namespace Starts

theorem ofRecords_congr (g : Guide) {active active' : List Record}
    (h : active'.filter (·.kind.isStart) = active.filter (·.kind.isStart)) :
    ofRecords g active' = ofRecords g active := by
  rw [← ofRecords_filter_isStart g active', h, ofRecords_filter_isStart]

end Starts

namespace Table

/-- The table before the first scenario is told by the starts and the operations on achievements. -/
theorem prepare_congr (g : Guide) (setup : Setup) {active active' : List Record}
    (hstarts : active'.filter (·.kind.isStart) = active.filter (·.kind.isStart))
    (hoperations : active'.filter (·.isCumulative) = active.filter (·.isCumulative)) :
    prepare g setup active' = prepare g setup active := by
  have hoperated : operated g setup active' = operated g setup active := by
    rw [operated, operated, hoperations]
  rw [prepare_eq, prepare_eq, hoperated, ← Starts.refused_ofRecords, ← Starts.refused_ofRecords,
    Starts.ofRecords_congr g hstarts]

end Table

/-! ## The play -/

namespace Guide

theorem outcome_of_sameSummary (g : Guide) (setup : Setup) {active active' : List Record}
    (h : Record.SameSummary active' active) : g.outcome setup active' = g.outcome setup active := by
  apply outcome_congr g (.of_lastOf h.lastOf_eq) setup
    (Table.prepare_congr g setup h.starts h.operations)
  rw [Starts.ofRecords_congr g h.starts]
  exact (Starts.Alike.refl _).played g

/-- **A play depends on the records through three summaries**: two journals of one setup are played
the same, reports included, if they have the same starts in effect, the same operations on
achievements, and the same last reply for each identity. So a reply may be moved past any records
but those that reply to its prompt, and one that a later reply supersedes may be left out. -/
theorem play_of_sameSummary (g : Guide) (j k : Journal) (hsetup : k.setup = j.setup) :
    (Record.SameSummary k.active j.active → g.play k = g.play j) ∧
      (∀ before moved rest : List Record, ∀ r : Record, r.isReply = true →
        (∀ s ∈ moved, s.identity ≠ r.identity) →
        j.active = before ++ r :: (moved ++ rest) → k.active = before ++ (moved ++ r :: rest) →
        g.play k = g.play j) ∧
      (∀ before rest : List Record, ∀ r : Record, r.isReply = true →
        (∃ s ∈ rest, s.identity = r.identity) →
        j.active = before ++ r :: rest → k.active = before ++ rest → g.play k = g.play j) := by
  have hplay : Record.SameSummary k.active j.active → g.play k = g.play j := by
    intro h
    rw [play, play, hsetup, g.outcome_of_sameSummary j.setup h]
  refine ⟨hplay, ?_, ?_⟩
  · intro before moved rest r hr hmoved hj hk
    apply hplay
    rw [hj, hk]
    exact Record.sameSummary_moved hr hmoved
  · intro before rest r hr hlater hj hk
    apply hplay
    rw [hj, hk]
    exact Record.sameSummary_superseded hr hlater

open Sample

/-- A decision is made before the scenario is started or after it, and after another one or not. -/
theorem play_of_sameSummary_of_beforehand :
    Record.SameSummary beforehand.active (decided.append overruled).active ∧
      nightOfTheZealot.play beforehand = nightOfTheZealot.play (decided.append overruled) ∧
      beforehand.active = [] ++ overruled :: ([started] ++ []) ∧
      lateDevice.active = [] ++ ([started] ++ overruled :: []) ∧
      nightOfTheZealot.play lateDevice = nightOfTheZealot.play beforehand ∧
      (decided.append overruled).active = [started] ++ decision :: [overruled] ∧
      lateDevice.active = [started] ++ [overruled] ∧
      nightOfTheZealot.play lateDevice = nightOfTheZealot.play (decided.append overruled) := by
  have hsummary : Record.SameSummary beforehand.active (decided.append overruled).active := by
    decide
  obtain ⟨hplay, -, -⟩ :=
    nightOfTheZealot.play_of_sameSummary (decided.append overruled) beforehand rfl
  obtain ⟨-, hmoved, -⟩ := nightOfTheZealot.play_of_sameSummary beforehand lateDevice rfl
  obtain ⟨-, -, hsuperseded⟩ :=
    nightOfTheZealot.play_of_sameSummary (decided.append overruled) lateDevice rfl
  refine ⟨hsummary, hplay hsummary, rfl, rfl, ?_, rfl, rfl, ?_⟩
  · exact hmoved [] [started] [] overruled rfl (by decide) rfl rfl
  · exact hsuperseded [started] [overruled] decision rfl ⟨overruled, by decide, rfl⟩ rfl rfl

end Guide
end Chronicle
