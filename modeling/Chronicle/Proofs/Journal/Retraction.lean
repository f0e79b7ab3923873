import Chronicle.Proofs.Journal.Merge
import Chronicle.Sample.Evening

/-!
# Retractions and merges

A merge leaves out what either journal has retracted, but it holds records only and so does not
remember the retraction itself. The record stays away for as long as the journals merged in later
do not have it in effect. A journal that does brings it back.
-/

namespace Chronicle.Journal

theorem ne_of_mem_merge {a b : Journal} {x : Uuid} (hx : x ∈ a.retractedIds ∨ x ∈ b.retractedIds)
    {r : Record} (hr : r ∈ (merge a b).active) : r.id ≠ x := by
  obtain ⟨-, ha, hb⟩ := mem_survivors_iff.mp (mem_survivors_of_mem_merge hr)
  rintro rfl
  exact hx.elim ha hb

/-- What the first of a chain of merges does not have comes in with one of the later journals. -/
theorem ne_of_mem_foldl_merge {a : Journal} {x : Uuid} (ha : ∀ r ∈ a.active, r.id ≠ x)
    (later : List Journal) (hlater : ∀ c ∈ later, ∀ r ∈ c.active, r.id ≠ x) :
    ∀ r ∈ (later.foldl merge a).active, r.id ≠ x := by
  induction later generalizing a with
  | nil => exact ha
  | cons c later ih =>
      obtain ⟨hc, hrest⟩ := List.forall_mem_cons.mp hlater
      refine ih (fun r hr => ?_) hrest
      exact (mem_active_of_mem_merge hr).elim (ha r) (hc r)

/-- **A retraction lasts until a journal has the record in effect.** A merge has retracted nothing
of its own. What was retracted before outlives every chain of merges with journals that do not have
the record in effect, and in a merge with one that does the record is treated like any other one
that survives. -/
theorem retraction_until_in_effect (a b c : Journal)
    (hsame : Record.Consistent (a.inputs ++ b.inputs ++ c.inputs)) (x : Uuid)
    (hx : x ∈ a.retractedIds) :
    (merge a b).retractedIds = [] ∧
    (∀ later : List Journal, (∀ d ∈ later, ∀ r ∈ d.active, r.id ≠ x) →
      ∀ r ∈ (later.foldl merge (merge a b)).active, r.id ≠ x) ∧
    ∀ r : Record, r.id = x → (r ∈ (merge (merge a b) c).active ↔
      r ∈ c.active ∧ (r.isCumulative = true ∨ ∀ s ∈ survivors (merge a b) c,
        s.identity = r.identity → s = r ∨ Precedes (merge a b) c s r)) := by
  have hfirst : ∀ r ∈ (merge a b).active, r.id ≠ x := fun r => ne_of_mem_merge (Or.inl hx)
  refine ⟨retractedIds_merge a b, ne_of_mem_foldl_merge hfirst, fun r hid => ?_⟩
  have hcons : Record.Consistent ((merge a b).active ++ c.active) := by
    refine hsame.of_subset fun s hs => ?_
    rw [List.mem_append, List.mem_append]
    rcases List.mem_append.mp hs with hs | hs
    · exact Or.inl ((mem_active_of_mem_merge hs).imp mem_inputs_of_mem_active
        mem_inputs_of_mem_active)
    · exact Or.inr (mem_inputs_of_mem_active hs)
  have hkept : r ∈ survivors (merge a b) c ↔ r ∈ c.active := by
    rw [mem_survivors_iff, retractedIds_merge]
    constructor
    · rintro ⟨hr | hr, -, -⟩
      · exact absurd hid (hfirst r hr)
      · exact hr
    · intro hr
      exact ⟨Or.inr hr, List.not_mem_nil, notMem_retractedIds_of_mem_active hr⟩
  rw [mem_active_merge_iff hcons, hkept]

open Sample

theorem active_merge_undecided : (merge undecided decided).active = [started] := by
  have hsurvivors : survivors undecided decided = [started, started] := by cbv
  rw [active_merge_of_sorted hsurvivors (by decide)]
  rfl

theorem survivors_undecided_again :
    survivors (merge undecided decided) decided = [started, started, decision] := by
  rw [survivors, active_merge_undecided, retractedIds_merge]
  cbv

/-- The undone decision is left out of the merge with the other device, and a second merge with it
brings the decision back. -/
theorem retraction_until_in_effect_of_undecided :
    Record.Consistent (undecided.inputs ++ decided.inputs ++ decided.inputs) ∧
      decision.id ∈ undecided.retractedIds ∧
      (∀ r ∈ (merge undecided decided).active, r.id ≠ decision.id) ∧
      decision ∈ (merge (merge undecided decided) decided).active := by
  have hsame : Record.Consistent (undecided.inputs ++ decided.inputs ++ decided.inputs) := by
    decide
  have hx : decision.id ∈ undecided.retractedIds := by
    rw [mem_retractedIds_iff]
    decide
  obtain ⟨-, hgone, hback⟩ := retraction_until_in_effect undecided decided decided hsame _ hx
  refine ⟨hsame, hx, hgone [] (by simp), (hback decision rfl).mpr ⟨by decide, Or.inr ?_⟩⟩
  rw [survivors_undecided_again]
  decide

/-- A retraction is forgotten in the merge of a merge. -/
theorem decision_back_after_second_merge :
    undecided.setup = decided.setup ∧
      Record.Consistent (undecided.inputs ++ decided.inputs ++ decided.inputs) ∧
      ∃ x ∈ undecided.retractedIds,
        ∃ r ∈ (merge (merge undecided decided) decided).active, r.id = x := by
  have hmerged : (merge (merge undecided decided) decided).active = [started, decision] := by
    rw [active_merge_of_sorted survivors_undecided_again (by decide)]
    rfl
  refine ⟨rfl, by decide, decision.id, ?_, decision, ?_, rfl⟩
  · rw [mem_retractedIds_iff]
    decide
  · rw [hmerged]
    decide

end Chronicle.Journal
