import Chronicle.Proofs.Journal.Inverse
import Chronicle.Sample.Evening

/-!
# Cleared records are gone for good

An undo or redo moves a record between those in effect and the undone ones, and a reset or a new
record drops some of them. Nothing but the record that a mark writes is ever taken in. So the
records that a replay holds are the only ones written so far that can be in effect later on, and
each of these can.
-/

namespace Chronicle

namespace Replay

/-- Of the records written so far only those are held later on that are held already. -/
theorem mem_held_of_mem_held_foldl {r : Replay} {p : Placed} (hp : p.position < r.length)
    (later : List Mark) (h : p ∈ (later.foldl step r).held) : p ∈ r.held := by
  induction later generalizing r with
  | nil => exact h
  | cons m later ih =>
      have hnext : p.position < (r.step m).length := by
        rw [length_step]
        exact Nat.lt_succ_of_lt hp
      rcases mem_held_step (ih hnext h) with hheld | ⟨-, hlast⟩
      · exact hheld
      · exact absurd hlast (Nat.ne_of_lt hp)

end Replay

/-- Redoing goes through the undone records of a bucket from the one undone last on. -/
theorem Stacks.run_append_redo (entries : List Mark) (b : Bucket) {us rest : List Placed}
    (h : (run entries b).undone = us ++ rest) :
    run (entries ++ List.replicate us.length (.redo b)) b = ⟨(run entries b).done ++ us, rest⟩ := by
  induction us generalizing entries with
  | nil =>
      rw [List.nil_append] at h
      rw [List.length_nil, List.replicate_zero, List.append_nil, List.append_nil, ← h]
  | cons u us ih =>
      have hredo : run (entries ++ [.redo b]) b = ⟨(run entries b).done ++ [u], us ++ rest⟩ := by
        have hbucket : (Mark.redo b).bucket = b := rfl
        rw [run_concat, if_pos hbucket]
        exact redo_of_cons h
      rw [List.length_cons, List.replicate_succ, List.append_cons, ih _ (by rw [hredo]), hredo,
        List.append_assoc, List.singleton_append]

namespace Journal

variable {j : Journal} {p : Placed}

/-- The record was written at its place in the journal. -/
def Wrote (j : Journal) (p : Placed) : Prop := j.entries[p.position]? = some (.input p.record)

theorem Wrote.lt_length (h : j.Wrote p) : p.position < j.entries.length :=
  (List.getElem?_eq_some_iff.mp h).1

theorem Wrote.push (h : j.Wrote p) (m : Mark) : (j.push m).Wrote p :=
  (List.getElem?_append_left h.lt_length).trans h

theorem foldl_push (j : Journal) (later : List Mark) :
    later.foldl push j = { j with entries := j.entries ++ later } := by
  induction later generalizing j with
  | nil => rw [List.append_nil, List.foldl_nil]
  | cons m later ih => rw [List.foldl_cons, ih, push, List.append_assoc, List.singleton_append]

theorem replay_foldl_push (j : Journal) (later : List Mark) :
    (later.foldl push j).replay = later.foldl Replay.step j.replay := by
  rw [foldl_push]
  exact List.foldl_append

/-- An undone record comes back when its bucket is redone often enough. -/
theorem exists_redone_of_mem_undone (h : p ∈ j.replay.undone) :
    ∃ later : List Mark, p ∈ (later.foldl push j).replay.active := by
  obtain ⟨us, rest, hsplit⟩ := List.append_of_mem (j.refines.mem_undone_iff.mpr ⟨h, rfl⟩)
  rw [← List.singleton_append, ← List.append_assoc] at hsplit
  refine ⟨List.replicate (us ++ [p]).length (.redo p.record.scenario), ?_⟩
  have hstacks := Stacks.run_append_redo j.entries p.record.scenario hsplit
  rw [foldl_push]
  refine ((refines _).mem_done_iff (b := p.record.scenario)).mp ?_ |>.1
  rw [stacksOf, hstacks]
  simp

/-- A record can be in effect later on exactly if the replay holds it. -/
theorem exists_mem_active_iff (h : j.Wrote p) :
    (∃ later : List Mark, p ∈ (later.foldl push j).replay.active) ↔
      p ∈ j.replay.active ∨ p ∈ j.replay.undone := by
  constructor
  · rintro ⟨later, hactive⟩
    rw [replay_foldl_push] at hactive
    have hlt : p.position < j.replay.length := by
      rw [replay, Replay.length_run]
      exact h.lt_length
    exact List.mem_append.mp
      (Replay.mem_held_of_mem_held_foldl hlt later (List.mem_append_left _ hactive))
  · rintro (hactive | hundone)
    · exact ⟨[], hactive⟩
    · exact exists_redone_of_mem_undone hundone

/-- A reset of a scenario drops what is recorded in it and no operation on an achievement. -/
theorem not_held_reset {s : ScenarioId} (hscenario : p.record.scenario = some s)
    (hkind : p.record.kind ≠ .achievement) :
    ¬ (p ∈ (j.reset s).replay.active ∨ p ∈ (j.reset s).replay.undone) := by
  have hin : Replay.inBucket (some s) p = true := by simp [Replay.inBucket, hscenario]
  have hoperation : p.record.isCumulative = false := by
    rw [Record.isCumulative_eq, decide_eq_false hkind]
  rw [reset, replay_push]
  simp only [Replay.step, Replay.reset, List.mem_filter, hin, hoperation]
  simp

/-- A new record drops what is undone in its bucket. -/
theorem not_held_append {r : Record} (hwrote : j.Wrote p)
    (hscenario : p.record.scenario = r.scenario) (hactive : p ∉ j.replay.active) :
    ¬ (p ∈ (j.append r).replay.active ∨ p ∈ (j.append r).replay.undone) := by
  have hin : Replay.inBucket r.scenario p = true := by simp [Replay.inBucket, hscenario]
  have hnew : p ≠ ⟨j.replay.length, r⟩ := by
    rintro rfl
    have hlt := hwrote.lt_length
    rw [replay, Replay.length_run] at hlt
    exact Nat.lt_irrefl _ hlt
  rw [append, replay_push]
  simp only [Replay.step, Replay.input, List.mem_append, List.mem_singleton, List.mem_filter, hin]
  simp [hactive, hnew]

theorem active_reset (j : Journal) (s : ScenarioId) :
    (j.reset s).replay.active.filter (Replay.inBucket (some s)) =
      (j.replay.active.filter (Replay.inBucket (some s))).filter
        (·.record.kind = .achievement) := by
  have hbucket : (Mark.reset s).bucket = some s := rfl
  have hstacks : (j.reset s).stacksOf (some s) = (j.stacksOf (some s)).reset := by
    rw [stacksOf, reset, push, Stacks.run_concat, if_pos hbucket]
    rfl
  rw [(refines _).active, hstacks, Stacks.reset, j.refines.active]

/-- **What is cleared is gone for good.** A record that was written can be in effect after some
later marks exactly if it is in effect or undone now. So after a reset of a scenario no record of
it comes back that was written before and is not an operation on an achievement, and after a new
record none of its bucket that was out of effect. The operations of the scenario that were in effect
are what is left of it right after the reset, in the same order. -/
theorem cleared_for_good (j : Journal) :
    (∀ p, j.Wrote p → ((∃ later : List Mark, p ∈ (later.foldl push j).replay.active) ↔
      p ∈ j.replay.active ∨ p ∈ j.replay.undone)) ∧
    (∀ (s : ScenarioId) p, j.Wrote p → p.record.scenario = some s →
      p.record.kind ≠ .achievement → ∀ later : List Mark,
        p ∉ (later.foldl push (j.reset s)).replay.active) ∧
    (∀ (r : Record) p, j.Wrote p → p.record.scenario = r.scenario → p ∉ j.replay.active →
      ∀ later : List Mark, p ∉ (later.foldl push (j.append r)).replay.active) ∧
    ∀ s : ScenarioId, (j.reset s).replay.active.filter (Replay.inBucket (some s)) =
      (j.replay.active.filter (Replay.inBucket (some s))).filter
        (·.record.kind = .achievement) := by
  refine ⟨?_, ?_, ?_, j.active_reset⟩
  · intro p hp
    exact exists_mem_active_iff hp
  · intro s p hp hscenario hkind later hback
    have hheld := (exists_mem_active_iff (hp.push _)).mp ⟨later, hback⟩
    exact not_held_reset hscenario hkind hheld
  · intro r p hp hscenario hactive later hback
    have hheld := (exists_mem_active_iff (hp.push _)).mp ⟨later, hback⟩
    exact not_held_append hp hscenario hactive hheld

open Sample

/-- The undone decision can come back, but not after a reset of the scenario, and not once the
prompt is decided again. -/
theorem cleared_for_good_of_undecided :
    undecided.Wrote ⟨1, decision⟩ ∧ (⟨1, decision⟩ : Placed) ∉ undecided.replay.active ∧
      (∃ later : List Mark,
        (⟨1, decision⟩ : Placed) ∈ (later.foldl push undecided).replay.active) ∧
      (∀ later : List Mark, (⟨1, decision⟩ : Placed) ∉
        (later.foldl push (undecided.reset "the_gathering")).replay.active) ∧
      ∀ later : List Mark, (⟨1, decision⟩ : Placed) ∉
        (later.foldl push (undecided.append overruled)).replay.active := by
  obtain ⟨hback, hreset, hrecord, -⟩ := cleared_for_good undecided
  have hwrote : undecided.Wrote ⟨1, decision⟩ := rfl
  have hinactive : (⟨1, decision⟩ : Placed) ∉ undecided.replay.active := by decide
  have hundone : (⟨1, decision⟩ : Placed) ∈ undecided.replay.undone := by decide
  refine ⟨hwrote, hinactive, (hback _ hwrote).mpr (Or.inr hundone), ?_, ?_⟩
  · exact hreset "the_gathering" _ hwrote rfl (by decide)
  · exact hrecord overruled _ hwrote rfl hinactive

end Journal
end Chronicle
