import Chronicle.Play.Basic
import Chronicle.Proofs.Journal.Stacks
import Mathlib.Data.List.TakeWhile

/-!
# Undo and redo are inverse

Records that were appended are on top of the stacks of their buckets. Undoing in their buckets,
the latest first, takes them out of effect one by one and leaves what was in effect before; redoing
in their buckets, the earliest first, brings them back in their order. What else the journal went
through before, and which buckets the records belong to, does not matter.
-/

namespace Chronicle

namespace Replay

theorem undo_of_concat {r : Replay} {active : List Placed} {p : Placed}
    (h : r.active = active ++ [p]) :
    r.undo p.record.scenario = ⟨r.length + 1, active, p :: r.undone⟩ := by
  have hp : inBucket p.record.scenario p = true := by simp [inBucket]
  have hreverse : r.active.reverse = p :: active.reverse := by simp [h]
  have hfind : r.active.reverse.find? (inBucket p.record.scenario) = some p := by
    rw [hreverse, List.find?_cons_of_pos hp]
  rw [undo_of_find? hfind, hreverse, List.eraseP_cons_of_pos hp, List.reverse_reverse]

theorem redo_of_cons {r : Replay} {p : Placed} {undone : List Placed}
    (h : r.undone = p :: undone) (hlast : ∀ q ∈ r.active, q.position < p.position) :
    r.redo p.record.scenario = ⟨r.length + 1, r.active ++ [p], undone⟩ := by
  have hp : inBucket p.record.scenario p = true := by simp [inBucket]
  have hfind : r.undone.find? (inBucket p.record.scenario) = some p := by
    rw [h, List.find?_cons_of_pos hp]
  have hbefore : restore p r.active = r.active ++ [p] := by
    rw [restore, List.takeWhile_eq_self_iff.mpr (by simpa using hlast),
      List.dropWhile_eq_nil_iff.mpr (by simpa using hlast)]
  rw [redo_of_find? hfind, hbefore, h, List.eraseP_cons_of_pos hp]

end Replay

namespace Journal

theorem replay_push (j : Journal) (m : Mark) : (j.push m).replay = j.replay.step m :=
  Replay.run_concat j.entries m

@[simp] theorem setup_append (j : Journal) (r : Record) : (j.append r).setup = j.setup := rfl

theorem active_append (j : Journal) (r : Record) : (j.append r).active = j.active ++ [r] := by
  rw [active, append, replay_push, Replay.step, Replay.input, List.map_append]
  rfl

/-- The records that are appended are in effect, after those that were. -/
theorem active_foldl_append (j : Journal) (rs : List Record) :
    ∃ added : List Placed, added.map (·.record) = rs ∧
      (rs.foldl append j).replay.active = j.replay.active ++ added := by
  induction rs generalizing j with
  | nil => exact ⟨[], rfl, (List.append_nil _).symm⟩
  | cons r rs ih =>
      obtain ⟨added, hadded, hactive⟩ := ih (j.append r)
      refine ⟨⟨j.replay.length, r⟩ :: added, by rw [List.map_cons, hadded], ?_⟩
      rw [List.foldl_cons, hactive, append, replay_push, Replay.step, Replay.input,
        List.append_assoc, List.singleton_append]

theorem setup_foldl_append (j : Journal) (rs : List Record) :
    (rs.foldl append j).setup = j.setup := by
  induction rs generalizing j with
  | nil => rfl
  | cons r rs ih => rw [List.foldl_cons, ih, setup_append]

theorem canUndo_of_mem {j : Journal} {p : Placed} (h : p ∈ j.replay.active) :
    j.canUndo p.record.scenario = true :=
  List.any_eq_true.mpr ⟨p, h, by simp [Replay.inBucket]⟩

theorem canRedo_of_mem {j : Journal} {p : Placed} (h : p ∈ j.replay.undone) :
    j.canRedo p.record.scenario = true :=
  List.any_eq_true.mpr ⟨p, h, by simp [Replay.inBucket]⟩

/-- Undoing in the buckets of the last records in effect, the latest first, takes them out of
effect. -/
theorem foldlM_undo? (added : List Placed) {j : Journal} {active : List Placed}
    (h : j.replay.active = active ++ added) :
    ∃ k, (added.reverse.map (·.record.scenario)).foldlM undo? j = some k ∧ k.setup = j.setup ∧
      k.replay.active = active ∧ k.replay.undone = added ++ j.replay.undone := by
  induction added using List.reverseRecOn generalizing j with
  | nil => exact ⟨j, rfl, rfl, by simpa using h, rfl⟩
  | append_singleton added p ih =>
      rw [← List.append_assoc] at h
      have hundo : j.undo? p.record.scenario = some (j.push (.undo p.record.scenario)) := by
        rw [undo?, if_pos (canUndo_of_mem (by simp [h]))]
      have hreplay : (j.push (.undo p.record.scenario)).replay =
          ⟨j.replay.length + 1, active ++ added, p :: j.replay.undone⟩ := by
        rw [replay_push]
        exact Replay.undo_of_concat h
      obtain ⟨k, hk, hsetup, hactive, hundone⟩ := ih (congrArg Replay.active hreplay)
      refine ⟨k, ?_, hsetup, hactive, ?_⟩
      · rw [List.reverse_append, List.reverse_singleton, List.singleton_append, List.map_cons,
          List.foldlM_cons, hundo]
        exact hk
      · rw [hundone, hreplay, List.append_assoc, List.singleton_append]

/-- Redoing in the buckets of the records that were undone last, the one undone last first, brings
them back behind the others. -/
theorem foldlM_redo? (added : List Placed) {j : Journal} {undone : List Placed}
    (h : j.replay.undone = added ++ undone)
    (hsorted : Replay.Sorted (j.replay.active ++ added)) :
    ∃ k, (added.map (·.record.scenario)).foldlM redo? j = some k ∧ k.setup = j.setup ∧
      k.replay.active = j.replay.active ++ added := by
  induction added generalizing j with
  | nil => exact ⟨j, rfl, rfl, (List.append_nil _).symm⟩
  | cons p added ih =>
      have hredo : j.redo? p.record.scenario = some (j.push (.redo p.record.scenario)) := by
        rw [redo?, if_pos (canRedo_of_mem (by simp [h]))]
      have hreplay : (j.push (.redo p.record.scenario)).replay =
          ⟨j.replay.length + 1, j.replay.active ++ [p], added ++ undone⟩ := by
        rw [replay_push]
        exact Replay.redo_of_cons h fun q hq =>
          (List.pairwise_append.mp hsorted).2.2 q hq p List.mem_cons_self
      have hbehind : (j.push (.redo p.record.scenario)).replay.active ++ added =
          j.replay.active ++ p :: added := by
        rw [hreplay, List.append_assoc, List.singleton_append]
      obtain ⟨k, hk, hsetup, hactive⟩ :=
        ih (congrArg Replay.undone hreplay) (by rw [hbehind]; exact hsorted)
      refine ⟨k, ?_, hsetup, hactive.trans hbehind⟩
      rw [List.map_cons, List.foldlM_cons, hredo]
      exact hk

theorem play_congr (g : Guide) {j k : Journal} (hsetup : k.setup = j.setup)
    (hactive : k.replay.active = j.replay.active) : g.play k = g.play j := by
  rw [Guide.play, Guide.play, hsetup, active, active, hactive]

/-- **Undo takes back what was recorded and redo brings it back.** Any records may be appended to
any journal. Each undo in the buckets of the records, the latest first, is carried out, and then
the campaign is played as before the records; each redo in their buckets, the earliest first, is
carried out too, and the campaign is played as with the records. -/
theorem play_undo_redo (g : Guide) (j : Journal) (rs : List Record) :
    ∃ undone redone : Journal,
      (rs.reverse.map (·.scenario)).foldlM undo? (rs.foldl append j) = some undone ∧
      g.play undone = g.play j ∧
      (rs.map (·.scenario)).foldlM redo? undone = some redone ∧
      g.play redone = g.play (rs.foldl append j) := by
  obtain ⟨added, hadded, hactive⟩ := active_foldl_append j rs
  obtain ⟨undone, hundo, hsetup, hbefore, hundone⟩ := foldlM_undo? added hactive
  have hsorted : Replay.Sorted (undone.replay.active ++ added) := by
    rw [hbefore, ← hactive]
    exact (refines _).sorted
  obtain ⟨redone, hredo, hsetup', hafter⟩ := foldlM_redo? added hundone hsorted
  have hreverse : rs.reverse.map (·.scenario) = added.reverse.map (·.record.scenario) := by
    rw [← hadded, ← List.map_reverse, List.map_map]
    rfl
  have hforward : rs.map (·.scenario) = added.map (·.record.scenario) := by
    rw [← hadded, List.map_map]
    rfl
  refine ⟨undone, redone, ?_, ?_, ?_, ?_⟩
  · rw [hreverse]
    exact hundo
  · exact play_congr g (hsetup.trans (setup_foldl_append j rs)) hbefore
  · rw [hforward]
    exact hredo
  · refine play_congr g (hsetup'.trans hsetup) ?_
    rw [hafter, hbefore, hactive]

end Journal
end Chronicle
