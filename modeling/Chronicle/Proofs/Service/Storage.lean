import Chronicle.Proofs.Campaign.Event
import Chronicle.Proofs.Campaign.History
import Chronicle.Service.Store

/-!
# What is stored of a campaign

A stored event reads as the event that was raised, so a campaign that goes through its stored
events comes out as it was. Stored events are numbered from one without gaps, and the number of the
last one, which an append is checked against, is the number of events that were gone through.
-/

namespace Chronicle

open Json Campaign

/-! ## Streams -/

theorem Streams.stream_insert (streams : Streams) (id id' : Uuid) (es : List Stored) :
    Streams.stream (streams.insert id es) id' = if id' = id then es else streams.stream id' :=
  Dict.getD_insert streams id id' es []

/-- The events of a stream are numbered from one in their order. -/
def Numbered (es : List Stored) : Prop :=
  ∀ (i : Nat) (e : Stored), es[i]? = some e → e.sequence = (i : Int) + 1

namespace Numbered

theorem concat {es : List Stored} (h : Numbered es) {e : Stored}
    (he : e.sequence = es.length + 1) : Numbered (es ++ [e]) := by
  intro i e' hi
  rcases Nat.lt_trichotomy i es.length with hlt | rfl | hgt
  · rw [List.getElem?_append_left hlt] at hi
    exact h i e' hi
  · rw [List.getElem?_concat_length] at hi
    cases hi
    exact he
  · rw [List.getElem?_eq_none (by simp; omega)] at hi
    cases hi

theorem take {es : List Stored} (h : Numbered es) (n : Nat) : Numbered (es.take n) := by
  intro i e hi
  rw [List.getElem?_take] at hi
  split at hi
  · exact h i e hi
  · cases hi

/-- The number of the last event counts the events. -/
theorem head_eq_length {es : List Stored} (h : Numbered es) : Streams.head es = es.length := by
  cases es using List.reverseRecOn with
  | nil => rfl
  | append_singleton es e =>
      have he := h es.length e List.getElem?_concat_length
      rw [Streams.head, List.getLast?_concat, Option.map_some, Option.getD_some, he,
        List.length_append, List.length_singleton]
      rfl

end Numbered

/-- The events of a stream are a history in its written form. -/
structure StoredAs (id : Uuid) (es : List Stored) (events : List Event) : Prop where
  history : History id events
  payloads : es.map (·.payload) = events.map encode
  numbered : Numbered es

namespace StoredAs

variable {id : Uuid} {es : List Stored} {events : List Event}

theorem nil (id : Uuid) : StoredAs id [] [] where
  history := .start
  payloads := rfl
  numbered := fun _ _ h => by cases h

theorem length_eq (h : StoredAs id es events) : es.length = events.length := by
  have hlength := congrArg List.length h.payloads
  rwa [List.length_map, List.length_map] at hlength

theorem take (h : StoredAs id es events) (n : Nat) : StoredAs id (es.take n) (events.take n) where
  history := h.history.take n
  payloads := by rw [List.map_take, h.payloads, List.map_take]
  numbered := h.numbered.take n

theorem concat (h : StoredAs id es events) {r : Raised} (hr : (ofEvents id events).Admits r.event)
    (hsequence : r.sequence = es.length + 1) :
    StoredAs id (es ++ [r.toStored]) (events ++ [r.event]) where
  history := h.history.next hr
  payloads := by
    rw [List.map_append, List.map_append, h.payloads]
    rfl
  numbered := by
    refine h.numbered.concat ?_
    rw [Raised.toStored, hsequence]
    rfl

/-- Going through a stream is going through the events that it was written from. -/
theorem ofStored_eq (h : StoredAs id es events) :
    ofStored id es = .ok (ofEvents id events) := by
  have hpayloads := h.payloads
  clear h
  unfold ofStored ofEvents
  -- The induction is for any campaign that the events before have led to.
  generalize new id = c
  induction es generalizing c events with
  | nil =>
      obtain rfl : events = [] := by simpa using hpayloads.symm
      rfl
  | cons e es ih =>
      cases events with
      | nil => cases hpayloads
      | cons event events =>
          rw [List.map_cons, List.map_cons] at hpayloads
          obtain ⟨hpayload, hrest⟩ := List.cons.inj hpayloads
          rw [List.foldlM_cons, hpayload]
          simp only [ofJson_encode]
          exact ih hrest (c.apply event)

/-- Each event of a stream reads as one that could be raised where it stands. -/
theorem getElem?_cases (h : StoredAs id es events) {i : Nat} {e : Stored} (he : es[i]? = some e) :
    ∃ event c, (Json.ofJson e.payload : Reading Event) = .ok event ∧
      (event.isCreation = true ↔ i = 0) ∧ ofStored id (es.take i) = .ok c ∧ c.Admits event := by
  have hpayload : (events.map encode)[i]? = some e.payload := by
    rw [← h.payloads, List.getElem?_map, he]
    rfl
  rw [List.getElem?_map] at hpayload
  obtain ⟨event, hevent, hencode⟩ := Option.map_eq_some_iff.mp hpayload
  refine ⟨event, ofEvents id (events.take i), ?_, h.history.isCreation_iff hevent,
    (h.take i).ofStored_eq, h.history.admits_take hevent⟩
  rw [← hencode]
  exact ofJson_encode event

end StoredAs

/-! ## Runs of operations -/

namespace Campaign

/-- A campaign after an operation. One that fails leaves it as it is. -/
def after (c : Campaign) (asked : Stamp × Operation) : Campaign :=
  match c.perform asked.1 asked.2 with
  | .ok d => d
  | .error _ => c

/-- A new campaign after some operations. -/
def run (id : Uuid) (asked : List (Stamp × Operation)) : Campaign := asked.foldl after (new id)

theorem run_concat (id : Uuid) (asked : List (Stamp × Operation)) (last : Stamp × Operation) :
    run id (asked ++ [last]) = (run id asked).after last := by
  rw [run, List.foldl_append]
  rfl

theorem after_cases (c : Campaign) (asked : Stamp × Operation) :
    c.after asked = c ∨ ∃ e, c.Admits e ∧ c.after asked = c.raise asked.1 e := by
  unfold after
  split
  next d h => exact perform_cases h
  next => exact Or.inl rfl

/-- All events of a campaign are pending, and its journal is what they make of it. -/
structure Unstored (id : Uuid) (c : Campaign) : Prop where
  same : c.id = id
  version : c.version = 0
  pending : StoredAs id (c.pending.map (·.toStored)) (c.pending.map (·.event))
  journal : (ofEvents id (c.pending.map (·.event))).journal = c.journal

theorem unstored_new (id : Uuid) : Unstored id (new id) where
  same := rfl
  version := rfl
  pending := .nil id
  journal := rfl

theorem Unstored.raise {id : Uuid} {c : Campaign} (h : Unstored id c) (s : Stamp) {e : Event}
    (he : c.Admits e) : Unstored id (c.raise s e) where
  same := h.same
  version := h.version
  pending := by
    have hadmits : (ofEvents id (c.pending.map (·.event))).Admits e :=
      he.congr (h.same.trans (id_ofEvents _ _).symm) h.journal.symm
    rw [Campaign.raise, List.map_append, List.map_append]
    refine h.pending.concat hadmits ?_
    simp [h.version]
  journal := by
    rw [Campaign.raise, List.map_append, List.map_singleton, ofEvents_concat, apply, h.journal]

theorem unstored_run (id : Uuid) (asked : List (Stamp × Operation)) :
    Unstored id (run id asked) := by
  induction asked using List.reverseRecOn with
  | nil => exact unstored_new id
  | append_singleton asked last ih =>
      rw [run_concat]
      rcases after_cases (run id asked) last with h | ⟨e, he, h⟩
      · rw [h]
        exact ih
      · rw [h]
        exact ih.raise last.1 he

/-- **What is stored of a campaign gives the campaign.** Whatever was asked of a new campaign, going
through the stored form of its pending events succeeds and gives the same journal, with a version
that counts the events and with nothing pending. The events are numbered from one without gaps, and
a created campaign has one event for its creation and one for each mark of its journal. -/
theorem ofStored_pending (id : Uuid) (asked : List (Stamp × Operation)) :
    ∃ d, ofStored id ((run id asked).pending.map (·.toStored)) = .ok d ∧
      d.id = id ∧ d.journal = (run id asked).journal ∧
      d.version = (run id asked).pending.length ∧ d.pending = [] ∧
      Numbered ((run id asked).pending.map (·.toStored)) ∧
      (run id asked).journal.elim 0 (fun j => j.entries.length + 1) =
        (run id asked).pending.length := by
  have hrun := unstored_run id asked
  refine ⟨_, hrun.pending.ofStored_eq, id_ofEvents _ _, hrun.journal, ?_, pending_ofEvents _ _,
    hrun.pending.numbered, ?_⟩
  · rw [version_ofEvents, List.length_map]
  · have hcount := hrun.pending.history.eventCount_journal
    rwa [hrun.journal, List.length_map] at hcount

end Campaign
end Chronicle
