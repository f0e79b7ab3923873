import Chronicle.Proofs.Service.Handling
import Chronicle.Proofs.Service.Storage

/-!
# Requests one after the other

A request that succeeds appends at most one event, to the stream of its own campaign, and an event
is appended only if it may be raised on what is stored. So whatever is asked of a store, a stream
that is a written history stays one and only grows.
-/

namespace Chronicle

open Campaign

/-! ## Operations -/

namespace Campaign

theorem perform_create_iff {c d : Campaign} {s : Stamp} {setup : Setup} :
    c.perform s (.create setup) = .ok d ↔
      c.journal = none ∧ setupFlaw setup = none ∧ d = c.raise s (.created c.id setup) := by
  show (Change.create s setup).made c = .ok d ↔ _
  unfold Change.made Change.create
  cases hjournal : c.journal with
  | some j => simp [hjournal, Except.map]
  | none =>
      cases hflaw : setupFlaw setup with
      | some r => simp [hjournal, Except.map]
      | none => simpa [hjournal, Except.map] using eq_comm

theorem perform_record_iff {c d : Campaign} {s : Stamp} {r : Record} :
    c.perform s (.record r) = .ok d ↔
      c.journal.isSome ∧ r.flaw? = none ∧ d = c.raise s (.recorded r) := by
  show (Change.record s r).made c = .ok d ↔ _
  unfold Change.made Change.record
  cases hjournal : c.journal with
  | none => simp [hjournal, Except.map]
  | some j =>
      cases hflaw : r.flaw? with
      | some f => simp [hjournal, Except.map]
      | none => simpa [hjournal, Except.map] using eq_comm

theorem raise_ne_self (c : Campaign) (s : Stamp) (e : Event) : c.raise s e ≠ c := fun h => by
  have hpending := congrArg (·.pending.length) h
  simp [Campaign.raise] at hpending

theorem raise_inj {c : Campaign} {s : Stamp} {e e' : Event} (h : c.raise s e = c.raise s e') :
    e = e' := by
  have hpending := congrArg Campaign.pending h
  simp only [Campaign.raise, List.append_cancel_left_eq, List.cons.injEq,
    Raised.mk.injEq] at hpending
  exact hpending.1.1

/-- What a stream is gone through to is what some events lead to. -/
theorem exists_events_of_ofStored {id : Uuid} {es : List Stored} {c : Campaign}
    (h : ofStored id es = .ok c) :
    ∃ events : List Event, events.length = es.length ∧ c = ofEvents id events := by
  unfold ofStored at h
  unfold ofEvents
  -- The induction is for any campaign that the events before have led to.
  generalize new id = before at h
  induction es generalizing before with
  | nil =>
      cases h
      exact ⟨[], rfl, rfl⟩
  | cons e es ih =>
      rw [List.foldlM_cons] at h
      obtain ⟨next, hnext, hrest⟩ := exists_of_bind_eq_ok h
      cases hread : (Json.ofJson e.payload : Json.Reading Event) with
      | error f =>
          rw [hread] at hnext
          cases hnext
      | ok event =>
          rw [hread] at hnext
          cases hnext
          obtain ⟨events, hlength, hc⟩ := ih _ hrest
          exact ⟨event :: events, by rw [List.length_cons, List.length_cons, hlength], hc⟩

end Campaign

/-! ## Requests -/

namespace Store

/-- A store after a request. One that fails leaves it as it is. -/
def after (st : Store) (r : Request) : Store :=
  match st.served r with
  | .ok (_, next) => next
  | .error _ => st

/-- A store after some requests. -/
def run (st : Store) (rs : List Request) : Store := rs.foldl after st

variable {streams : Streams} {r : Request} {receipt : Receipt} {st : Store}

theorem exists_events_of_basis {id : Uuid} {op : Operation} {base : Campaign}
    (h : (memory streams).basis id op = .ok base) :
    ∃ events : List Event, base = ofEvents id events := by
  obtain ⟨events, -, hbase⟩ := exists_events_of_ofStored (basis_eq_ok_iff.mp h).2
  exact ⟨events, hbase⟩

theorem persist_eq_ok_of_nil {c : Campaign} {st' : Store} (hpending : c.pending = [])
    (h : st.persist c = .ok (receipt, st')) : receipt = ⟨c.id, []⟩ ∧ st' = st := by
  simp only [persist, hpending, List.map_nil, List.isEmpty_nil, if_true] at h
  cases h
  exact ⟨rfl, rfl⟩

/-- An event is appended to its stream if the campaign has gone through all of it. -/
theorem persist_raise {c : Campaign} (hpending : c.pending = []) (s : Stamp) (e : Event) :
    (memory streams).persist (c.raise s e) =
      if Streams.head (streams.stream c.id) = c.version then
        .ok (⟨c.id, [(⟨e, c.id, c.version + 1, s⟩ : Raised).toStored]⟩,
          memory (streams.insert c.id (streams.stream c.id ++
            [(⟨e, c.id, c.version + 1, s⟩ : Raised).toStored])))
      else .error (.conflict c.id c.version (Streams.head (streams.stream c.id))) := by
  simp only [persist, Campaign.raise, hpending, List.nil_append, List.map_cons, List.map_nil,
    List.length_nil, Nat.add_zero, List.isEmpty_cons, Bool.false_eq_true, if_false, append,
    Streams.append]
  split <;> rfl

/-- **What a request does that succeeds.** It is planned and its operation carried out on what is
stored. Then either there was nothing to do, or one event that may be raised there is appended to
the stream of the campaign, which has not moved on. -/
theorem served_cases (h : (memory streams).served r = .ok (receipt, st)) :
    ∃ id stamp op base, r.plan = .ok (id, stamp, op) ∧ (memory streams).basis id op = .ok base ∧
      receipt.campaign = id ∧
      ((base.perform stamp op = .ok base ∧ st = memory streams) ∨
        ∃ e, base.Admits e ∧ base.perform stamp op = .ok (base.raise stamp e) ∧
          Streams.head (streams.stream id) = base.version ∧
          st = memory (streams.insert id (streams.stream id ++
            [(⟨e, id, base.version + 1, stamp⟩ : Raised).toStored]))) := by
  rw [served_eq_bind_draft] at h
  obtain ⟨c, hdraft, hpersist⟩ := exists_of_bind_eq_ok h
  obtain ⟨⟨id, stamp, op⟩, hplan, hrest⟩ := exists_of_bind_eq_ok hdraft
  obtain ⟨base, hbasis, hperform⟩ := exists_of_bind_eq_ok hrest
  obtain ⟨events, hbase⟩ := exists_events_of_basis hbasis
  have hid : base.id = id := by rw [hbase, id_ofEvents]
  have hpending : base.pending = [] := by rw [hbase, pending_ofEvents]
  rcases perform_cases hperform with rfl | ⟨e, hadmits, rfl⟩
  · obtain ⟨rfl, rfl⟩ := persist_eq_ok_of_nil hpending hpersist
    exact ⟨id, stamp, op, c, hplan, hbasis, hid, Or.inl ⟨hperform, rfl⟩⟩
  · rw [persist_raise hpending, hid] at hpersist
    split at hpersist
    next hhead =>
        cases hpersist
        exact ⟨id, stamp, op, base, hplan, hbasis, rfl,
          Or.inr ⟨e, hadmits, hperform, hhead, rfl⟩⟩
    next => cases hpersist

theorem served_eq_persist {id : Uuid} {stamp : Stamp} {op : Operation}
    (hplan : r.plan = .ok (id, stamp, op)) {base c : Campaign} (hbasis : st.basis id op = .ok base)
    (hperform : base.perform stamp op = .ok c) : st.served r = st.persist c := by
  rw [served_eq_bind_draft, draft_of_plan hplan, hbasis, Except.bind, hperform, Except.bind]

/-- An operation that raises an event has it appended. -/
theorem served_of_plan {id : Uuid} {stamp : Stamp} {op : Operation}
    (hplan : r.plan = .ok (id, stamp, op)) (h : (memory streams).served r = .ok (receipt, st)) :
    receipt.campaign = id ∧ ∃ base c, (memory streams).basis id op = .ok base ∧
      base.perform stamp op = .ok c ∧ ∀ e, c = base.raise stamp e →
        Streams.head (streams.stream id) = base.version ∧
          st = memory (streams.insert id (streams.stream id ++
            [(⟨e, id, base.version + 1, stamp⟩ : Raised).toStored])) := by
  obtain ⟨id', stamp', op', base, hplan', hbasis, hid, hdone⟩ := served_cases h
  rw [hplan] at hplan'
  cases hplan'
  refine ⟨hid, ?_⟩
  rcases hdone with ⟨hperform, -⟩ | ⟨e, -, hperform, hhead, hst⟩
  · exact ⟨base, base, hbasis, hperform, fun e he => absurd he.symm (raise_ne_self base stamp e)⟩
  · refine ⟨base, _, hbasis, hperform, fun e' he => ⟨hhead, ?_⟩⟩
    rw [hst, raise_inj he]

/-- What an operation is carried out on, where a stream is a written history that has not moved
on. -/
theorem basis_eq_of_storedAs {id : Uuid} {events : List Event}
    (hs : StoredAs id (streams.stream id) events) {op : Operation} {base : Campaign}
    (hbasis : (memory streams).basis id op = .ok base)
    (hhead : Streams.head (streams.stream id) = base.version) : base = ofEvents id events := by
  have hread := (basis_eq_ok_iff.mp hbasis).2
  split at hread
  next =>
      -- A new campaign expects a stream without events.
      cases hread
      rw [hs.numbered.head_eq_length, hs.length_eq] at hhead
      have hnil : events = [] := List.length_eq_zero_iff.mp (Int.natCast_inj.mp hhead)
      rw [hnil]
      rfl
  next =>
      rw [hs.ofStored_eq] at hread
      cases hread
      rfl

/-- A stream that is a written history stays one and only grows. -/
theorem storedAs_served {id : Uuid} {events : List Event}
    (hs : StoredAs id (streams.stream id) events)
    (h : (memory streams).served r = .ok (receipt, st)) :
    ∃ grown added, st = memory grown ∧ StoredAs id (grown.stream id) (events ++ added) := by
  obtain ⟨target, stamp, op, base, -, hbasis, -, ⟨-, rfl⟩ | ⟨e, hadmits, -, hhead, rfl⟩⟩ :=
    served_cases h
  · exact ⟨streams, [], rfl, by rwa [List.append_nil]⟩
  · by_cases htarget : id = target
    · subst htarget
      have hbase := basis_eq_of_storedAs hs hbasis hhead
      refine ⟨_, [e], rfl, ?_⟩
      rw [Streams.stream_insert, if_pos rfl]
      refine hs.concat (r := ⟨e, id, base.version + 1, stamp⟩) (hbase ▸ hadmits) ?_
      rw [hbase, version_ofEvents, hs.length_eq]
    · refine ⟨_, [], rfl, ?_⟩
      rw [Streams.stream_insert, if_neg htarget, List.append_nil]
      exact hs

theorem storedAs_after {id : Uuid} {events : List Event}
    (hs : StoredAs id (streams.stream id) events) (r : Request) :
    ∃ grown added, (memory streams).after r = memory grown ∧
      StoredAs id (grown.stream id) (events ++ added) := by
  unfold after
  split
  next receipt next h => exact storedAs_served hs h
  next => exact ⟨streams, [], rfl, by rwa [List.append_nil]⟩

theorem storedAs_run {id : Uuid} {events : List Event}
    (hs : StoredAs id (streams.stream id) events) (rs : List Request) :
    ∃ grown added, (memory streams).run rs = memory grown ∧
      StoredAs id (grown.stream id) (events ++ added) := by
  induction rs generalizing streams events with
  | nil => exact ⟨streams, [], rfl, by rwa [List.append_nil]⟩
  | cons r rs ih =>
      obtain ⟨next, added, hnext, hs⟩ := storedAs_after hs r
      obtain ⟨grown, more, hrun, hs⟩ := ih hs
      refine ⟨grown, added ++ more, ?_, by rwa [← List.append_assoc]⟩
      rw [run, List.foldl_cons, hnext]
      exact hrun

/-- The campaign of a written history. -/
theorem campaign_eq_of_storedAs {id : Uuid} {events : List Event}
    (hs : StoredAs id (streams.stream id) events) (hne : events ≠ []) :
    (memory streams).campaign id = .ok (ofEvents id events) := by
  have hstream : (streams.stream id).isEmpty = false := by
    rw [List.isEmpty_eq_false_iff, ← List.length_pos_iff, hs.length_eq, List.length_pos_iff]
    exact hne
  unfold Store.campaign load
  simp only [hstream, Bool.false_eq_true, if_false]
  exact hs.ofStored_eq

end Store
end Chronicle
