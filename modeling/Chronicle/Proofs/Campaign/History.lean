import Chronicle.Campaign.Basic
import Mathlib.Data.List.Induction

/-!
# Histories of campaigns

An operation leaves a campaign as it is or raises one event, and which events may be raised depends
on the journal alone. A history is a list of events each of which may be raised after those before
it: it begins with the creation of the campaign, and every later event adds a mark to the journal.
-/

namespace Chronicle

theorem exists_of_bind_eq_ok {ε α β : Type} {x : Except ε α} {f : α → Except ε β} {b : β}
    (h : x.bind f = .ok b) : ∃ a, x = .ok a ∧ f a = .ok b := by
  cases x with
  | error e => cases h
  | ok a => exact ⟨a, rfl, h⟩

/-- What can be asked of a campaign. -/
inductive Operation where
  | create (setup : Setup)
  | record (record : Record)
  | undo (bucket : Bucket)
  | redo (bucket : Bucket)
  | reset (scenario : ScenarioId)

def Operation.isCreation : Operation → Bool
  | .create _ => true
  | _ => false

def Event.isCreation : Event → Bool
  | .created .. => true
  | _ => false

/-- The event of an operation on the campaign `id`. -/
def Operation.event (id : Uuid) : Operation → Event
  | .create setup => .created id setup
  | .record r => .recorded r
  | .undo b => .undone b
  | .redo b => .redone b
  | .reset s => .reset s

theorem Operation.isCreation_event (id : Uuid) (op : Operation) :
    (op.event id).isCreation = op.isCreation := by
  cases op <;> rfl

namespace Campaign

/-! ## Changes -/

namespace Change

variable {α β : Type} (c : Campaign)

@[simp] theorem on_pure (a : α) : (pure a : Change α).on c = (.ok a, c) := rfl

@[simp] theorem on_throw (f : Failure) : (throw f : Change α).on c = (.error f, c) := rfl

@[simp] theorem on_get : (get : Change Campaign).on c = (.ok c, c) := rfl

@[simp] theorem on_modify (f : Campaign → Campaign) :
    (modify f : Change Unit).on c = (.ok (), f c) := rfl

/-- A change after another goes on with the campaign that is left, unless the first is refused. -/
@[simp] theorem on_bind (x : Change α) (k : α → Change β) :
    (x >>= k).on c =
      match x.on c with
      | (.ok a, d) => (k a).on d
      | (.error f, d) => (.error f, d) := by
  show (ExceptT.bindCont k (x.on c).1).run (x.on c).2 = _
  rcases x.on c with ⟨_ | a, d⟩ <;> rfl

@[simp] theorem on_map (f : α → β) (x : Change α) :
    (f <$> x).on c =
      match x.on c with
      | (.ok a, d) => (.ok (f a), d)
      | (.error e, d) => (.error e, d) := by
  rw [map_eq_pure_bind, on_bind]
  simp only [on_pure]

@[simp] theorem on_created :
    created.on c = (c.journal.elim (.error (.campaignNotFound c.id)) .ok, c) := by
  cases hj : c.journal <;> simp [created, hj]

variable {c}

theorem on_raiseIf (s : Stamp) {can : Journal → Bool} {e : Event} {j : Journal}
    (hj : c.journal = some j) :
    (raiseIf s can e).on c = if can j then (.ok true, c.raise s e) else (.ok false, c) := by
  cases hcan : can j <;> simp [raiseIf, hj, hcan]

/-- A change that always has something to do leaves the same as one that answers so. -/
theorem made_eq (x : Change Unit) (c : Campaign) :
    x.made c = ((do x; return true : Change Bool).on c).1.map fun _ =>
      ((do x; return true : Change Bool).on c).2 := by
  rw [on_bind, made]
  rcases x.on c with ⟨f | _, d⟩ <;> rfl

theorem made?_raiseIf (s : Stamp) (can : Journal → Bool) (e : Event) (c : Campaign) :
    ((raiseIf s can e).made? c).map (·.getD c) =
      ((raiseIf s can e).on c).1.map fun _ => ((raiseIf s can e).on c).2 := by
  rw [made?]
  cases hj : c.journal with
  | none =>
      have hon : (raiseIf s can e).on c = (.error (.campaignNotFound c.id), c) := by
        simp [raiseIf, hj]
      rw [hon]
      rfl
  | some j =>
      rw [on_raiseIf s hj]
      cases can j <;> rfl

end Change

end Campaign

/-- The change an operation asks for. It answers whether there was anything to do. -/
def Operation.change (s : Stamp) : Operation → Campaign.Change Bool
  | .create setup => do
    Campaign.Change.create s setup
    return true
  | .record r => do
    Campaign.Change.record s r
    return true
  | .undo b => .undo s b
  | .redo b => .redo s b
  | .reset scenario => do
    Campaign.Change.reset s scenario
    return true

namespace Campaign

/-! ## Operations -/

/-- What a call answers, namely whether there was anything to do, and the campaign after it. -/
def call (c : Campaign) (s : Stamp) (op : Operation) : Except Failure Bool × Campaign :=
  (op.change s).on c

/-- Carries an operation out. A campaign with nothing to undo or redo stays as it is. -/
def perform (c : Campaign) (s : Stamp) : Operation → Except Failure Campaign
  | .create setup => c.create s setup
  | .record r => c.record s r
  | .undo b => (c.undo s b).map (·.getD c)
  | .redo b => (c.redo s b).map (·.getD c)
  | .reset scenario => c.reset s scenario

/-- Whether an event may be raised. A campaign is created once, and everything else happens to a
created one. An undo or redo has something to work on. -/
def Admits (c : Campaign) : Event → Prop
  | .created id setup => id = c.id ∧ c.journal = none ∧ setupFlaw setup = none
  | .recorded r => c.journal.isSome ∧ r.flaw? = none
  | .undone b => ∃ j, c.journal = some j ∧ j.canUndo b = true
  | .redone b => ∃ j, c.journal = some j ∧ j.canRedo b = true
  | .reset _ => c.journal.isSome

theorem Admits.congr {c d : Campaign} {e : Event} (h : c.Admits e) (hid : c.id = d.id)
    (hjournal : c.journal = d.journal) : d.Admits e := by
  cases e <;> simpa only [Admits, hid, hjournal] using h

theorem Admits.isCreation_iff {c : Campaign} {e : Event} (h : c.Admits e) :
    e.isCreation = true ↔ c.journal = none := by
  cases e with
  | created id setup => exact iff_of_true rfl h.2.1
  | recorded r => exact iff_of_false Bool.false_ne_true (Option.isSome_iff_ne_none.mp h.1)
  | undone b =>
      obtain ⟨j, hj, -⟩ := h
      exact iff_of_false Bool.false_ne_true (by simp [hj])
  | redone b =>
      obtain ⟨j, hj, -⟩ := h
      exact iff_of_false Bool.false_ne_true (by simp [hj])
  | reset s => exact iff_of_false Bool.false_ne_true (Option.isSome_iff_ne_none.mp h)

/-- Why an operation is refused. -/
inductive Refused (c : Campaign) : Operation → Failure → Prop where
  | again {j : Journal} (hj : c.journal = some j) (setup : Setup) :
      Refused c (.create setup) (.rejected (.alreadyExists c.id))
  | setup {setup : Setup} {r : Rejection} (hj : c.journal = none)
      (hflaw : setupFlaw setup = some r) : Refused c (.create setup) (.rejected r)
  | uncreated {op : Operation} (hop : op.isCreation = false) (hj : c.journal = none) :
      Refused c op (.campaignNotFound c.id)
  | record {j : Journal} {r : Record} {f : Record.Flaw} (hj : c.journal = some j)
      (hflaw : r.flaw? = some f) : Refused c (.record r) (.rejected (.record f))

/-- What an operation finds nothing to do for. -/
inductive Idle (j : Journal) : Operation → Prop where
  | undo {b : Bucket} (h : j.canUndo b = false) : Idle j (.undo b)
  | redo {b : Bucket} (h : j.canRedo b = false) : Idle j (.redo b)

/-- What comes of a call. -/
inductive Called (c : Campaign) (s : Stamp) (op : Operation) :
    Except Failure Bool × Campaign → Prop where
  | refused {f : Failure} (h : c.Refused op f) : Called c s op (.error f, c)
  | idle {j : Journal} (hj : c.journal = some j) (h : Idle j op) : Called c s op (.ok false, c)
  | raised (h : c.Admits (op.event c.id)) : Called c s op (.ok true, c.raise s (op.event c.id))

/-- **A call is refused, finds nothing to do or raises its event.** -/
theorem called (c : Campaign) (s : Stamp) (op : Operation) : Called c s op (c.call s op) := by
  cases hj : c.journal with
  | none =>
      cases op with
      | create setup =>
          cases hflaw : setupFlaw setup with
          | some r =>
              have hcall : c.call s (.create setup) = (.error (.rejected r), c) := by
                simp [call, Operation.change, Change.create, hj, hflaw]
              rw [hcall]
              exact .refused (.setup hj hflaw)
          | none =>
              have hcall : c.call s (.create setup) =
                  (.ok true, c.raise s (.created c.id setup)) := by
                simp [call, Operation.change, Change.create, hj, hflaw]
              rw [hcall]
              exact .raised ⟨rfl, hj, hflaw⟩
      | record r | undo b | redo b | reset scenario =>
          simp only [call, Operation.change, Change.record, Change.undo, Change.redo, Change.reset,
            Change.raiseIf, Change.on_bind, Change.on_created, hj, Option.elim_none]
          exact .refused (.uncreated rfl hj)
  | some j =>
      cases op with
      | create setup =>
          have hcall : c.call s (.create setup) =
              (.error (.rejected (.alreadyExists c.id)), c) := by
            simp [call, Operation.change, Change.create, hj]
          rw [hcall]
          exact .refused (.again hj setup)
      | record r =>
          cases hflaw : r.flaw? with
          | some f =>
              have hcall : c.call s (.record r) = (.error (.rejected (.record f)), c) := by
                simp [call, Operation.change, Change.record, hj, hflaw]
              rw [hcall]
              exact .refused (.record hj hflaw)
          | none =>
              have hcall : c.call s (.record r) = (.ok true, c.raise s (.recorded r)) := by
                simp [call, Operation.change, Change.record, hj, hflaw]
              rw [hcall]
              exact .raised ⟨Option.isSome_of_eq_some hj, hflaw⟩
      | undo b =>
          have hcall : c.call s (.undo b) =
              if j.canUndo b then (.ok true, c.raise s (.undone b)) else (.ok false, c) :=
            Change.on_raiseIf s hj
          cases hcan : j.canUndo b with
          | false =>
              rw [hcall, hcan]
              exact .idle hj (.undo hcan)
          | true =>
              have hadmits : c.Admits (Operation.event c.id (.undo b)) := ⟨j, hj, hcan⟩
              rw [hcall, hcan]
              exact .raised hadmits
      | redo b =>
          have hcall : c.call s (.redo b) =
              if j.canRedo b then (.ok true, c.raise s (.redone b)) else (.ok false, c) :=
            Change.on_raiseIf s hj
          cases hcan : j.canRedo b with
          | false =>
              rw [hcall, hcan]
              exact .idle hj (.redo hcan)
          | true =>
              have hadmits : c.Admits (Operation.event c.id (.redo b)) := ⟨j, hj, hcan⟩
              rw [hcall, hcan]
              exact .raised hadmits
      | reset scenario =>
          have hcall : c.call s (.reset scenario) = (.ok true, c.raise s (.reset scenario)) := by
            simp [call, Operation.change, Change.reset, hj]
          rw [hcall]
          exact .raised (Option.isSome_of_eq_some hj)

/-- Carrying an operation out is calling it, with the campaign after it as the answer. -/
theorem perform_eq_call (c : Campaign) (s : Stamp) (op : Operation) :
    c.perform s op = (c.call s op).1.map fun _ => (c.call s op).2 := by
  cases op with
  | create setup => exact Change.made_eq (.create s setup) c
  | record r => exact Change.made_eq (.record s r) c
  | undo b => exact Change.made?_raiseIf s _ _ c
  | redo b => exact Change.made?_raiseIf s _ _ c
  | reset scenario => exact Change.made_eq (.reset s scenario) c

/-- An operation that succeeds raises an event that may be raised, or has nothing to do. -/
theorem perform_cases {c d : Campaign} {s : Stamp} {op : Operation} (h : c.perform s op = .ok d) :
    d = c ∨ ∃ e, c.Admits e ∧ d = c.raise s e := by
  have hcalled := called c s op
  rw [perform_eq_call] at h
  generalize c.call s op = left at h hcalled
  cases hcalled with
  | refused hrefused => cases h
  | idle hj hidle =>
      cases h
      exact Or.inl rfl
  | raised hadmits =>
      cases h
      exact Or.inr ⟨op.event c.id, hadmits, rfl⟩

/-! ## Going through events -/

theorem ofEvents_concat (id : Uuid) (es : List Event) (e : Event) :
    ofEvents id (es ++ [e]) = (ofEvents id es).apply e := by
  rw [ofEvents, List.foldl_append]
  rfl

@[simp] theorem id_ofEvents (id : Uuid) (es : List Event) : (ofEvents id es).id = id := by
  induction es using List.reverseRecOn with
  | nil => rfl
  | append_singleton es e ih => rw [ofEvents_concat, apply, ih]

@[simp] theorem version_ofEvents (id : Uuid) (es : List Event) :
    (ofEvents id es).version = es.length := by
  induction es using List.reverseRecOn with
  | nil => rfl
  | append_singleton es e ih => rw [ofEvents_concat, apply, ih, List.length_append]; rfl

@[simp] theorem pending_ofEvents (id : Uuid) (es : List Event) : (ofEvents id es).pending = [] := by
  induction es using List.reverseRecOn with
  | nil => rfl
  | append_singleton es e ih => rw [ofEvents_concat, apply, ih]

/-! ## Histories -/

/-- Each event may be raised after those before it. -/
inductive History (id : Uuid) : List Event → Prop where
  | start : History id []
  | next {es : List Event} {e : Event} (before : History id es)
      (admitted : (ofEvents id es).Admits e) : History id (es ++ [e])

namespace History

variable {id : Uuid} {es : List Event}

/-- How many events make a journal: its creation and one for each mark. -/
def eventCount (journal : Option Journal) : Nat := journal.elim 0 fun j => j.entries.length + 1

/-- An event that may be raised is the creation or adds a mark. -/
theorem eventCount_mutate {c : Campaign} {e : Event} (h : c.Admits e) :
    eventCount (mutate c.journal e) = eventCount c.journal + 1 := by
  cases e with
  | created id setup =>
      obtain ⟨-, hnone, -⟩ := h
      rw [hnone]
      rfl
  | recorded r =>
      obtain ⟨j, hj⟩ := Option.isSome_iff_exists.mp h.1
      simp [hj, mutate, eventCount, Journal.append, Journal.push]
  | undone b =>
      obtain ⟨j, hj, hcan⟩ := h
      simp [hj, mutate, eventCount, Journal.undo?, hcan, Journal.push]
  | redone b =>
      obtain ⟨j, hj, hcan⟩ := h
      simp [hj, mutate, eventCount, Journal.redo?, hcan, Journal.push]
  | reset s =>
      obtain ⟨j, hj⟩ := Option.isSome_iff_exists.mp h
      simp [hj, mutate, eventCount, Journal.reset, Journal.push]

/-- An event that is no creation leaves the setup as it is. -/
theorem setup_mutate (j : Journal) {e : Event} (he : e.isCreation = false) :
    ∃ k, mutate (some j) e = some k ∧ k.setup = j.setup := by
  cases e with
  | created id setup => cases he
  | recorded r => exact ⟨j.append r, rfl, rfl⟩
  | undone b =>
      refine ⟨(j.undo? b).getD j, rfl, ?_⟩
      unfold Journal.undo?
      split <;> rfl
  | redone b =>
      refine ⟨(j.redo? b).getD j, rfl, ?_⟩
      unfold Journal.redo?
      split <;> rfl
  | reset s => exact ⟨j.reset s, rfl, rfl⟩

theorem eventCount_journal (h : History id es) :
    eventCount (ofEvents id es).journal = es.length := by
  induction h with
  | start => rfl
  | next before admitted ih =>
      rw [ofEvents_concat, List.length_append, List.length_singleton, ← ih]
      exact eventCount_mutate admitted

theorem journal_eq_none_iff (h : History id es) : (ofEvents id es).journal = none ↔ es = [] := by
  have hcount := h.eventCount_journal
  constructor
  · intro hnone
    rw [hnone] at hcount
    exact List.length_eq_zero_iff.mp hcount.symm
  · rintro rfl
    rfl

theorem take (h : History id es) (n : Nat) : History id (es.take n) := by
  induction h with
  | start => exact List.take_nil.symm ▸ .start
  | @next es e before admitted ih =>
      rcases Nat.lt_or_ge es.length n with hlt | hge
      · have hlength : (es ++ [e]).length ≤ n := by
          rw [List.length_append, List.length_singleton]
          exact hlt
        rw [List.take_of_length_le hlength]
        exact before.next admitted
      · rw [List.take_append_of_le_length hge]
        exact ih

theorem admits_of_concat {e : Event} (h : History id (es ++ [e])) :
    (ofEvents id es).Admits e := by
  generalize hall : es ++ [e] = all at h
  cases h with
  | start => simp at hall
  | next before admitted =>
      obtain ⟨rfl, hlast⟩ := List.append_inj' hall rfl
      cases hlast
      exact admitted

theorem admits_take (h : History id es) {i : Nat} {e : Event} (he : es[i]? = some e) :
    (ofEvents id (es.take i)).Admits e := by
  obtain ⟨hi, rfl⟩ := List.getElem?_eq_some_iff.mp he
  have hnext := h.take (i + 1)
  rw [List.take_succ_eq_append_getElem hi] at hnext
  exact hnext.admits_of_concat

/-- The first event is the creation and no other event is. -/
theorem isCreation_iff (h : History id es) {i : Nat} {e : Event} (he : es[i]? = some e) :
    e.isCreation = true ↔ i = 0 := by
  have hbefore := h.take i
  have hadmits := h.admits_take he
  obtain ⟨hi, -⟩ := List.getElem?_eq_some_iff.mp he
  rw [hadmits.isCreation_iff, hbefore.journal_eq_none_iff, List.take_eq_nil_iff]
  exact ⟨fun h => h.resolve_right fun hnil => by simp [hnil] at hi, Or.inl⟩

/-- What is settled at the creation stays settled. -/
theorem exists_journal {setup : Setup} {more : List Event}
    (h : History id (.created id setup :: more)) :
    ∃ j, (ofEvents id (.created id setup :: more)).journal = some j ∧ j.setup = setup := by
  induction more using List.reverseRecOn with
  | nil => exact ⟨.new setup, rfl, rfl⟩
  | append_singleton more e ih =>
      rw [← List.cons_append] at h ⊢
      have hbefore := h.take (more.length + 1)
      rw [List.take_left' (by simp)] at hbefore
      obtain ⟨j, hj, hsetup⟩ := ih hbefore
      have hlater : e.isCreation = false := by
        rw [← Bool.not_eq_true, h.admits_of_concat.isCreation_iff, hj]
        exact Option.some_ne_none j
      obtain ⟨k, hk, hkept⟩ := setup_mutate j hlater
      exact ⟨k, by rw [ofEvents_concat, apply, hj, hk], hkept.trans hsetup⟩

end History

end Campaign
end Chronicle
