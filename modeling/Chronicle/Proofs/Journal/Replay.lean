import Chronicle.Journal.Basic
import Mathlib.Data.List.Induction

/-!
# What a replay holds

The records in effect and the undone ones that can come back were all written in the journal, each
at its position. A journal without undo, redo and reset marks has all of its records in effect.
-/

namespace Chronicle

namespace Replay

/-- The records that a replay still holds, in effect or undone. -/
def held (r : Replay) : List Placed := r.active ++ r.undone

theorem mem_restore {p q : Placed} {active : List Placed} :
    q ∈ restore p active ↔ q = p ∨ q ∈ active := by
  have hsplit := List.takeWhile_append_dropWhile (p := fun q => decide (q.position < p.position))
    (l := active)
  unfold restore
  rw [List.mem_append, List.mem_cons, ← or_assoc, or_comm (a := _ ∈ _), or_assoc,
    ← List.mem_append, hsplit]

/-- A mark adds no record to the held ones but the one that it writes, at the end. -/
theorem mem_held_step {r : Replay} {m : Mark} {p : Placed} (h : p ∈ (r.step m).held) :
    p ∈ r.held ∨ m = .input p.record ∧ p.position = r.length := by
  simp only [held, List.mem_append] at h ⊢
  cases m with
  | input record =>
      simp only [step, input, List.mem_append, List.mem_singleton, List.mem_filter] at h
      rcases h with (hp | rfl) | ⟨hp, -⟩
      · exact Or.inl (Or.inl hp)
      · exact Or.inr ⟨rfl, rfl⟩
      · exact Or.inl (Or.inr hp)
  | undo b =>
      left
      simp only [step, undo] at h
      split at h
      next q hq =>
          have hmem : q ∈ r.active := List.mem_reverse.mp (List.mem_of_find?_eq_some hq)
          simp only [List.mem_reverse, List.mem_cons] at h
          rcases h with hp | rfl | hp
          · exact Or.inl (List.mem_reverse.mp (List.mem_of_mem_eraseP hp))
          · exact Or.inl hmem
          · exact Or.inr hp
      next => exact h
  | redo b =>
      left
      simp only [step, redo] at h
      split at h
      next q hq =>
          have hmem : q ∈ r.undone := List.mem_of_find?_eq_some hq
          simp only [mem_restore] at h
          rcases h with (rfl | hp) | hp
          · exact Or.inr hmem
          · exact Or.inl hp
          · exact Or.inr (List.mem_of_mem_eraseP hp)
      next => exact h
  | reset s =>
      left
      simp only [step, reset, List.mem_filter] at h
      exact h.imp And.left And.left

@[simp] theorem length_step (r : Replay) (m : Mark) : (r.step m).length = r.length + 1 := by
  cases m with
  | input record => rfl
  | undo b =>
      simp only [step, undo]
      split <;> rfl
  | redo b =>
      simp only [step, redo]
      split <;> rfl
  | reset s => rfl

@[simp] theorem length_run (entries : List Mark) : (run entries).length = entries.length := by
  induction entries using List.reverseRecOn with
  | nil => rfl
  | append_singleton entries m ih => rw [run_concat, length_step, ih, List.length_append]; rfl

/-- What a replay holds stands in the journal at its position. -/
theorem getElem?_of_mem_held {entries : List Mark} {p : Placed} (h : p ∈ (run entries).held) :
    entries[p.position]? = some (.input p.record) := by
  induction entries using List.reverseRecOn with
  | nil => cases h
  | append_singleton entries m ih =>
      rw [run_concat] at h
      rcases mem_held_step h with h | ⟨rfl, hposition⟩
      · have hbefore := ih h
        obtain ⟨hlt, -⟩ := List.getElem?_eq_some_iff.mp hbefore
        rw [List.getElem?_append_left hlt, hbefore]
      · rw [hposition, length_run, List.getElem?_concat_length]

theorem position_lt_of_mem_held {entries : List Mark} {p : Placed} (h : p ∈ (run entries).held) :
    p.position < entries.length :=
  (List.getElem?_eq_some_iff.mp (getElem?_of_mem_held h)).1

/-- Without marks of other kinds every record is in effect. -/
theorem active_run_inputs (records : List Record) :
    (run (records.map .input)).active.map (·.record) = records := by
  induction records using List.reverseRecOn with
  | nil => rfl
  | append_singleton records r ih =>
      rw [List.map_append, List.map_singleton, run_concat]
      simp [step, input, ih]

end Replay

namespace Journal

theorem mem_inputs_iff {j : Journal} {r : Record} : r ∈ j.inputs ↔ .input r ∈ j.entries := by
  unfold inputs
  rw [List.mem_filterMap]
  constructor
  · rintro ⟨m, hm, hr⟩
    cases m <;> simp_all
  · intro h
    exact ⟨_, h, rfl⟩

theorem mem_inputs_of_mem_active {j : Journal} {r : Record} (h : r ∈ j.active) : r ∈ j.inputs := by
  rw [mem_inputs_iff]
  obtain ⟨p, hp, rfl⟩ := List.mem_map.mp h
  exact List.mem_of_getElem? (Replay.getElem?_of_mem_held (List.mem_append_left _ hp))

/-- The ids that are retracted were written, and no record in effect has them. -/
theorem mem_retractedIds_iff {j : Journal} {x : Uuid} :
    x ∈ j.retractedIds ↔ (∃ r ∈ j.inputs, r.id = x) ∧ ∀ r ∈ j.active, r.id ≠ x := by
  simp [retractedIds, List.mem_mergeSort, List.mem_eraseDups]

theorem notMem_retractedIds_of_mem_active {a : Journal} {r : Record} (hr : r ∈ a.active) :
    r.id ∉ a.retractedIds :=
  fun h => (mem_retractedIds_iff.mp h).2 r hr rfl

end Journal
end Chronicle
