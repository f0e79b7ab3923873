import Chronicle.Proofs.Campaign.History
import Chronicle.Service.Command

/-!
# Handling a request in two parts

A request is first worked out on what is stored and then persisted. In between other requests may
be persisted, so the two parts are told apart here, and handling a request is one after the other.
-/

namespace Chronicle

/-- What a client asks for, and where guides, fresh ids and times are taken from. -/
structure Request where
  library : Library
  correlation : Uuid
  supply : Supply
  command : Command

namespace Request

/-- The campaign of a request, the stamp of its event and the operation it comes to. Only the
creation of a campaign can fail here, for want of its guide. -/
def plan (r : Request) : Except Failure (Uuid × Stamp × Operation) :=
  match r.command with
  | .create name guide difficulty investigators =>
    match r.library.guide? guide with
    | none => .error (.guideNotFound guide)
    | some g =>
      let (id, s) := r.supply.id
      .ok (id, (s.stamp r.correlation).1,
        .create ⟨name, g.id, g.version, difficulty, investigators⟩)
  | .record campaign scenario step payload id recordedAt =>
    let (id, s) := r.supply.choose id (·.id)
    let (recordedAt, s) := s.choose recordedAt (·.time)
    .ok (campaign, (s.stamp r.correlation).1,
      .record ⟨id, currentSchema, scenario, step, payload, recordedAt⟩)
  | .undo campaign bucket => .ok (campaign, (r.supply.stamp r.correlation).1, .undo bucket)
  | .redo campaign bucket => .ok (campaign, (r.supply.stamp r.correlation).1, .redo bucket)
  | .reset campaign scenario => .ok (campaign, (r.supply.stamp r.correlation).1, .reset scenario)

end Request

namespace Store

/-- The campaign an operation is carried out on: a new one or the one that is stored. -/
def basis (st : Store) (id : Uuid) (op : Operation) : Except Failure Campaign :=
  if op.isCreation then .ok (.new id) else st.campaign id

/-- What a request makes of its campaign, as far as it is stored. -/
def draft (st : Store) (r : Request) : Except Failure Campaign := do
  let (id, stamp, op) ← r.plan
  let c ← st.basis id op
  c.perform stamp op

/-- The outcome of a request, without what is left of its supply. -/
def served (st : Store) (r : Request) : Except Failure (Receipt × Store) :=
  (st.handle r.library r.correlation r.supply r.command).1

theorem settle_fst (st : Store) (s s' : Supply) (made : Except Failure Campaign) :
    (st.settle s s' made).1 = made.bind st.persist := by
  cases made <;> rfl

theorem settle?_fst (st : Store) (s s' : Supply) (c : Campaign)
    (made : Except Failure (Option Campaign)) :
    (st.settle? s s' c made).1 = (made.map (·.getD c)).bind st.persist := by
  cases made with
  | error f => rfl
  | ok d => cases d <;> rfl

theorem draft_of_plan {st : Store} {r : Request} {id : Uuid} {stamp : Stamp} {op : Operation}
    (h : r.plan = .ok (id, stamp, op)) :
    st.draft r = (st.basis id op).bind (·.perform stamp op) := by
  rw [draft, h]
  rfl

/-- What an operation is carried out on is the campaign of the stream that is read. -/
theorem basis_eq_ok_iff {streams : Streams} {id : Uuid} {op : Operation} {c : Campaign} :
    (memory streams).basis id op = .ok c ↔
      (op.isCreation = true ↔ (if op.isCreation then [] else streams.stream id) = []) ∧
        Campaign.ofStored id (if op.isCreation then [] else streams.stream id) = .ok c := by
  unfold basis
  cases op.isCreation with
  | true =>
      simp only [if_true, true_and]
      rfl
  | false =>
      simp only [Bool.false_eq_true, if_false, false_iff, campaign, load]
      cases streams.stream id with
      | nil => simp
      | cons e es => simp

/-- An operation on a campaign that exists. -/
theorem draft_of_stored {st : Store} {r : Request} {id : Uuid} {stamp : Stamp} {op : Operation}
    (h : r.plan = .ok (id, stamp, op)) (hop : op.isCreation = false) :
    st.draft r = (st.campaign id).bind (·.perform stamp op) := by
  rw [draft_of_plan h, basis, hop]
  rfl

/-- **A request is worked out and then persisted.** -/
theorem served_eq_bind_draft (st : Store) (r : Request) :
    st.served r = (st.draft r).bind st.persist := by
  obtain ⟨library, correlation, supply, command⟩ := r
  unfold served handle
  cases command with
  | create name guide difficulty investigators =>
      unfold draft Request.plan
      simp only
      cases library.guide? guide with
      | none => rfl
      | some g => exact settle_fst ..
  | record campaign scenario step payload id recordedAt =>
      rw [draft_of_stored rfl rfl]
      cases hc : st.campaign campaign with
      | error f => simp only [hc]; rfl
      | ok c => simp only [hc]; exact settle_fst ..
  | undo campaign bucket =>
      rw [draft_of_stored rfl rfl]
      cases hc : st.campaign campaign with
      | error f => simp only [hc]; rfl
      | ok c => simp only [hc]; exact settle?_fst ..
  | redo campaign bucket =>
      rw [draft_of_stored rfl rfl]
      cases hc : st.campaign campaign with
      | error f => simp only [hc]; rfl
      | ok c => simp only [hc]; exact settle?_fst ..
  | reset campaign scenario =>
      rw [draft_of_stored rfl rfl]
      cases hc : st.campaign campaign with
      | error f => simp only [hc]; rfl
      | ok c => simp only [hc]; exact settle_fst ..

end Store
end Chronicle
