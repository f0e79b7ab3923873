import Chronicle.Proofs.Journal.Chronology
import Chronicle.Proofs.Journal.Replay

/-!
# What a merge holds

A merge holds records and no marks of other kinds, so all of its records are in effect and none is
retracted. Where equal ids mean equal records, these are the survivors of both journals that no
later survivor supersedes.
-/

namespace Chronicle.Journal

theorem active_merge (a b : Journal) :
    (merge a b).active = Record.latest (Record.firstOfId [] (chronology a b)) :=
  Replay.active_run_inputs _

/-- Survivors that stand in the order of time keep their order. -/
theorem active_merge_of_sorted {a b : Journal} {l : List Record} (hl : survivors a b = l)
    (hsorted : l.Pairwise Record.NoLater) :
    (merge a b).active = Record.latest (Record.firstOfId [] l) := by
  have hchronology : chronology a b = l := by
    rw [chronology, hl]
    exact Record.byTime_of_sorted hsorted
  rw [active_merge, hchronology]

theorem inputs_merge (a b : Journal) : (merge a b).inputs = (merge a b).active := by
  rw [active_merge]
  simp [inputs, merge, List.filterMap_map]

/-- A merge has no marks but the records it holds. -/
theorem entries_merge (a b : Journal) : (merge a b).entries = (merge a b).active.map .input := by
  rw [active_merge]
  rfl

/-- A merge remembers no retraction. -/
theorem retractedIds_merge (a b : Journal) : (merge a b).retractedIds = [] := by
  rw [List.eq_nil_iff_forall_not_mem]
  intro x hx
  obtain ⟨⟨r, hr, hid⟩, hnone⟩ := mem_retractedIds_iff.mp hx
  rw [inputs_merge] at hr
  exact hnone r hr hid

theorem mem_survivors_iff {a b : Journal} {r : Record} :
    r ∈ survivors a b ↔
      (r ∈ a.active ∨ r ∈ b.active) ∧ r.id ∉ a.retractedIds ∧ r.id ∉ b.retractedIds := by
  rw [survivors, List.mem_filter, List.mem_append, decide_eq_true_eq]

theorem mem_chronology_iff {a b : Journal} {r : Record} :
    r ∈ chronology a b ↔ r ∈ survivors a b :=
  List.mem_mergeSort

/-- A merge brings in no record that was not in effect. -/
theorem mem_survivors_of_mem_merge {a b : Journal} {r : Record} (h : r ∈ (merge a b).active) :
    r ∈ survivors a b := by
  rw [active_merge] at h
  exact mem_chronology_iff.mp (Record.mem_of_mem_firstOfId (Record.mem_of_mem_latest h)).1

theorem mem_active_of_mem_merge {a b : Journal} {r : Record} (h : r ∈ (merge a b).active) :
    r ∈ a.active ∨ r ∈ b.active :=
  (mem_survivors_iff.mp (mem_survivors_of_mem_merge h)).1

/-- The records of a merge stand in the order of time. -/
theorem sorted_merge (a b : Journal) : (merge a b).active.Pairwise Record.NoLater := by
  rw [active_merge]
  exact (Record.sorted_byTime (survivors a b)).sublist
    ((Record.latest_sublist _).trans (Record.firstOfId_sublist _ _))

/-- No id comes twice in a merge. -/
theorem nodup_ids_merge (a b : Journal) : ((merge a b).active.map (·.id)).Nodup := by
  rw [active_merge]
  exact (Record.nodup_firstOfId [] _).sublist ((Record.latest_sublist _).map _)

theorem nodup_merge (a b : Journal) : (merge a b).active.Nodup := (nodup_ids_merge a b).of_map

/-- Whether a merge has `s` before `r`: by the time of recording, then the records in effect in `a`
before those of `b`, then by the order of the journal. -/
def Precedes (a b : Journal) (s r : Record) : Prop :=
  r.recordedAt.le s.recordedAt = false ∨
    s.recordedAt = r.recordedAt ∧
      (a.active ++ b.active).idxOf s < (a.active ++ b.active).idxOf r

instance (a b : Journal) (s r : Record) : Decidable (Precedes a b s r) :=
  inferInstanceAs (Decidable (_ ∨ _ ∧ _))

theorem idxOf_survivors_lt_iff {a b : Journal} {r s : Record} (hr : r ∈ survivors a b)
    (hs : s ∈ survivors a b) :
    (survivors a b).idxOf s < (survivors a b).idxOf r ↔
      (a.active ++ b.active).idxOf s < (a.active ++ b.active).idxOf r :=
  idxOf_filter_lt_iff (p := fun r : Record => r.id ∉ a.retractedIds ∧ r.id ∉ b.retractedIds)
    (List.mem_filter.mp hs).2 (List.mem_filter.mp hr).2

theorem idxOf_chronology_lt_iff {a b : Journal} {r s : Record} (hr : r ∈ survivors a b)
    (hs : s ∈ survivors a b) (hne : s ≠ r) :
    (chronology a b).idxOf s < (chronology a b).idxOf r ↔ Precedes a b s r := by
  have hsorted : (chronology a b).idxOf s < (chronology a b).idxOf r ↔
      r.recordedAt.le s.recordedAt = false ∨ s.recordedAt.le r.recordedAt = true ∧
        (survivors a b).idxOf s < (survivors a b).idxOf r :=
    idxOf_mergeSort_lt_iff Record.NoLater.trans Record.noLater_total hs hr hne
  rw [hsorted, idxOf_survivors_lt_iff hr hs, Precedes]
  cases hle : r.recordedAt.le s.recordedAt with
  | false => simp
  | true =>
      simp only [Bool.true_eq_false, false_or]
      refine and_congr_left fun _ => ⟨fun h => Instant.le_antisymm h hle, fun h => ?_⟩
      rw [h] at hle ⊢
      exact hle

theorem Precedes.noLater {a b : Journal} {s r : Record} (h : Precedes a b s r) :
    Record.NoLater s r := by
  rcases h with h | ⟨h, -⟩
  · simpa [h] using Record.noLater_total s r
  · rw [Record.NoLater, h]
    exact Instant.le_refl r.recordedAt

theorem Consistent.chronology {a b : Journal}
    (hsame : Record.Consistent (a.active ++ b.active)) : Record.Consistent (chronology a b) :=
  hsame.of_subset fun _ hs => List.mem_of_mem_filter (mem_chronology_iff.mp hs)

/-- Leaving out what is written again leaves out no survivor. -/
theorem mem_firstOfId_chronology_iff {a b : Journal}
    (hsame : Record.Consistent (a.active ++ b.active)) {r : Record} :
    r ∈ Record.firstOfId [] (chronology a b) ↔ r ∈ survivors a b := by
  rw [← mem_chronology_iff]
  exact ⟨fun h => (Record.mem_of_mem_firstOfId h).1,
    fun h => (Record.firstOfId_of_consistent (Consistent.chronology hsame) h List.not_mem_nil).1⟩

/-- **What a merge holds.** The survivors that are cumulative, and of every other identity the one
that all its rivals precede. -/
theorem mem_active_merge_iff {a b : Journal} (hsame : Record.Consistent (a.active ++ b.active))
    {r : Record} :
    r ∈ (merge a b).active ↔ r ∈ survivors a b ∧ (r.isCumulative = true ∨
      ∀ s ∈ survivors a b, s.identity = r.identity → s = r ∨ Precedes a b s r) := by
  have hcons := Consistent.chronology hsame
  have hfirst := fun s => mem_firstOfId_chronology_iff (r := s) hsame
  rw [active_merge, Record.mem_latest_iff (Record.nodup_firstOfId [] _).of_map, hfirst]
  refine and_congr_right fun hr => or_congr_right ?_
  simp only [hfirst]
  refine forall₃_congr fun s hs _ => ?_
  by_cases hsr : s = r
  · simp [hsr]
  · rw [← idxOf_chronology_lt_iff hr hs hsr]
    have hr' := mem_chronology_iff.mpr hr
    have hs' := mem_chronology_iff.mpr hs
    rw [(Record.firstOfId_of_consistent hcons hr' List.not_mem_nil).2 s hs' List.not_mem_nil]

/-- A record that is not cumulative is in a merge only if all its rivals precede it. -/
theorem precedes_of_mem_merge {a b : Journal} (hsame : Record.Consistent (a.active ++ b.active))
    {r s : Record} (hr : r ∈ (merge a b).active) (hcum : r.isCumulative = false)
    (hs : s ∈ survivors a b) (hidentity : s.identity = r.identity) : s = r ∨ Precedes a b s r := by
  obtain ⟨-, hrcum | hlast⟩ := (mem_active_merge_iff hsame).mp hr
  · rw [hcum] at hrcum
    cases hrcum
  · exact hlast s hs hidentity

/-- Of every identity that is not cumulative and that a survivor has, a merge holds one record. -/
theorem exists_filter_identity_merge {a b : Journal}
    (hsame : Record.Consistent (a.active ++ b.active)) {s : Record} (hs : s ∈ survivors a b)
    (hcum : s.isCumulative = false) :
    ∃ r ∈ (merge a b).active, (merge a b).active.filter (·.identity = s.identity) = [r] ∧
      r.identity = s.identity := by
  have hmem : s ∈ (Record.firstOfId [] (chronology a b)).filter (·.identity = s.identity) :=
    List.mem_filter.mpr ⟨(mem_firstOfId_chronology_iff hsame).mpr hs, by simp⟩
  obtain ⟨r, hlast⟩ := Option.isSome_iff_exists.mp
    (List.getLast?_isSome.mpr (List.ne_nil_of_mem hmem))
  have hfilter : (merge a b).active.filter (·.identity = s.identity) = [r] := by
    rw [active_merge, Record.filter_identity_latest (i := s.identity) hcum, hlast,
      Option.toList_some]
  have hr : r ∈ (merge a b).active.filter (·.identity = s.identity) := by simp [hfilter]
  exact ⟨r, List.mem_of_mem_filter hr, hfilter, by simpa using (List.mem_filter.mp hr).2⟩

theorem count_merge {a b : Journal} {r : Record} (hr : r ∈ (merge a b).active) :
    (merge a b).active.count r = 1 :=
  List.count_eq_one_of_mem (nodup_merge a b) hr

end Chronicle.Journal
