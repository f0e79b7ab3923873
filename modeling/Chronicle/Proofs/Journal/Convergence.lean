import Chronicle.Proofs.Journal.Merge
import Chronicle.Sample.Evening

/-!
# Merges converge

As long as no two records were made at one time, a merge depends on nothing but which records
survive: of every identity it holds the one recorded last, in the order of time. So devices may
merge in either direction, and as long as nothing is retracted in any grouping, and merging with
oneself changes nothing.
-/

namespace Chronicle

namespace Record

/-- Distinct ids have distinct times. -/
def Timed (l : List Record) : Prop := ∀ r ∈ l, ∀ s ∈ l, r.recordedAt = s.recordedAt → r.id = s.id

instance (l : List Record) : Decidable (Timed l) :=
  inferInstanceAs (Decidable (∀ r ∈ l, ∀ s ∈ l, r.recordedAt = s.recordedAt → r.id = s.id))

theorem Timed.of_subset {l m : List Record} (h : Timed m) (hsub : l ⊆ m) : Timed l :=
  fun r hr s hs => h r (hsub hr) s (hsub hs)

/-- Whether a record of a list is cumulative or no other of its identity was recorded later. -/
def Lasting (l : List Record) (r : Record) : Prop :=
  r ∈ l ∧ (r.isCumulative = true ∨
    ∀ s ∈ l, s.identity = r.identity → s.recordedAt.le r.recordedAt = true)

theorem lasting_congr {l m : List Record} (h : ∀ s, s ∈ l ↔ s ∈ m) (r : Record) :
    Lasting l r ↔ Lasting m r := by
  unfold Lasting
  simp only [h]

theorem eq_of_recordedAt {l : List Record} (hsame : Consistent l) (htimed : Timed l)
    {r s : Record} (hr : r ∈ l) (hs : s ∈ l) (h : r.recordedAt = s.recordedAt) : r = s :=
  hsame r hr s hs (htimed r hr s hs h)

/-- Records in the order of time are told from which they are. -/
theorem eq_of_mem_iff {l m : List Record} (hl : l.Nodup) (hm : m.Nodup)
    (hlsorted : l.Pairwise NoLater) (hmsorted : m.Pairwise NoLater)
    (hsame : Consistent l) (htimed : Timed l) (h : ∀ r, r ∈ l ↔ r ∈ m) : l = m := by
  refine List.Perm.eq_of_pairwise ?_ hlsorted hmsorted
    ((List.perm_ext_iff_of_nodup hl hm).mpr h)
  intro r s hr hs hrs hsr
  exact eq_of_recordedAt hsame htimed hr ((h s).mpr hs) (Instant.le_antisymm hrs hsr)

end Record

namespace Journal

open Record (Consistent Timed Lasting)

variable {a b c : Journal}

theorem mem_survivors_comm {r : Record} : r ∈ survivors a b ↔ r ∈ survivors b a := by
  rw [mem_survivors_iff, mem_survivors_iff, or_comm, and_comm (a := r.id ∉ a.retractedIds)]

theorem mem_survivors_of_none (ha : a.retractedIds = []) (hb : b.retractedIds = []) {r : Record} :
    r ∈ survivors a b ↔ r ∈ a.active ++ b.active := by
  rw [mem_survivors_iff, ha, hb, List.mem_append]
  simp

theorem active_merge_subset : (merge a b).active ⊆ a.active ++ b.active := fun _ hr =>
  List.mem_append.mpr (mem_active_of_mem_merge hr)

section Distinct

variable (hsame : Consistent (a.active ++ b.active)) (htimed : Timed (a.active ++ b.active))
include hsame htimed

/-- A merge holds the lasting survivors. -/
theorem mem_active_merge_iff_lasting {r : Record} :
    r ∈ (merge a b).active ↔ Lasting (survivors a b) r := by
  rw [mem_active_merge_iff hsame, Lasting]
  refine and_congr_right fun hr => or_congr_right (forall₃_congr fun s hs _ => ?_)
  constructor
  · rintro (rfl | h)
    · exact Instant.le_refl s.recordedAt
    · exact h.noLater
  · intro hle
    cases hle' : r.recordedAt.le s.recordedAt with
    | false => exact Or.inr (Or.inl hle')
    | true =>
        left
        exact Record.eq_of_recordedAt hsame htimed (List.mem_of_mem_filter hs)
          (List.mem_of_mem_filter hr) (Instant.le_antisymm hle hle')

/-- What a merge leaves out would not have lasted among more records either. -/
theorem lasting_merge_append {l : List Record} {r : Record} :
    Lasting ((merge a b).active ++ l) r ↔ Lasting (survivors a b ++ l) r := by
  simp only [Lasting, List.mem_append]
  constructor
  · rintro ⟨hr, hlast⟩
    refine ⟨hr.imp_left mem_survivors_of_mem_merge, ?_⟩
    cases hcum : r.isCumulative with
    | true => exact Or.inl rfl
    | false =>
        right
        rintro s (hs | hs) hidentity
        · have hscum := (Record.isCumulative_of_identity hidentity).trans hcum
          -- The record that the merge holds in place of `s` is no earlier than `s`.
          obtain ⟨q, hq, -, hqs⟩ := exists_filter_identity_merge hsame hs hscum
          have hsq : Record.NoLater s q := by
            obtain ⟨-, h⟩ := (mem_active_merge_iff_lasting hsame htimed).mp hq
            rw [Record.isCumulative_of_identity hqs, hscum] at h
            exact (h.resolve_left Bool.false_ne_true) s hs hqs.symm
          refine Instant.le_trans hsq ?_
          rw [hcum] at hlast
          exact (hlast.resolve_left Bool.false_ne_true) q (Or.inl hq) (hqs.trans hidentity)
        · rw [hcum] at hlast
          exact (hlast.resolve_left Bool.false_ne_true) s (Or.inr hs) hidentity
  · rintro ⟨hr, hlast⟩
    refine ⟨hr.imp_left fun hr => ?_, ?_⟩
    · rw [mem_active_merge_iff_lasting hsame htimed]
      exact ⟨hr, hlast.imp_right fun h s hs => h s (Or.inl hs)⟩
    · exact hlast.imp_right fun h s hs => h s (hs.imp_left mem_survivors_of_mem_merge)

end Distinct

/-- Merges that hold the same records are the same. -/
theorem merge_eq_merge {a' b' : Journal} (hsetup : a.setup = a'.setup)
    (hsame : Consistent (merge a b).active) (htimed : Timed (merge a b).active)
    (h : ∀ r, r ∈ (merge a b).active ↔ r ∈ (merge a' b').active) : merge a b = merge a' b' := by
  have hactive : (merge a b).active = (merge a' b').active :=
    Record.eq_of_mem_iff (nodup_merge a b) (nodup_merge a' b') (sorted_merge a b)
      (sorted_merge a' b') hsame htimed h
  have hentries : (merge a b).entries = (merge a' b').entries := by
    rw [entries_merge, entries_merge, hactive]
  show Journal.mk a.setup (merge a b).entries = Journal.mk a'.setup (merge a' b').entries
  rw [hsetup, hentries]

section Laws

theorem merge_comm (hsetup : a.setup = b.setup) (hsame : Consistent (a.active ++ b.active))
    (htimed : Timed (a.active ++ b.active)) : merge a b = merge b a := by
  have hswap : b.active ++ a.active ⊆ a.active ++ b.active := fun _ hr =>
    List.mem_append.mpr (List.mem_append.mp hr).symm
  refine merge_eq_merge hsetup (hsame.of_subset active_merge_subset)
    (htimed.of_subset active_merge_subset) fun r => ?_
  rw [mem_active_merge_iff_lasting hsame htimed,
    mem_active_merge_iff_lasting (hsame.of_subset hswap) (htimed.of_subset hswap)]
  exact Record.lasting_congr (fun _ => mem_survivors_comm) r

theorem merge_assoc (hsame : Consistent (a.active ++ b.active ++ c.active))
    (htimed : Timed (a.active ++ b.active ++ c.active)) (ha : a.retractedIds = [])
    (hb : b.retractedIds = []) (hc : c.retractedIds = []) :
    merge (merge a b) c = merge a (merge b c) := by
  have hab : a.active ++ b.active ⊆ a.active ++ b.active ++ c.active :=
    List.subset_append_left _ _
  have hbc : b.active ++ c.active ⊆ a.active ++ b.active ++ c.active := by
    rw [List.append_assoc]
    exact List.subset_append_right _ _
  have hleft : (merge a b).active ++ c.active ⊆ a.active ++ b.active ++ c.active :=
    List.append_subset.mpr
      ⟨List.Subset.trans active_merge_subset hab, List.subset_append_right _ _⟩
  have hright : a.active ++ (merge b c).active ⊆ a.active ++ b.active ++ c.active :=
    List.append_subset.mpr
      ⟨List.Subset.trans (List.subset_append_left _ _) hab,
        List.Subset.trans active_merge_subset hbc⟩
  refine merge_eq_merge rfl (hsame.of_subset hleft |>.of_subset active_merge_subset)
    (htimed.of_subset hleft |>.of_subset active_merge_subset) fun r => ?_
  calc r ∈ (merge (merge a b) c).active
      ↔ Lasting ((merge a b).active ++ c.active) r := by
        rw [mem_active_merge_iff_lasting (hsame.of_subset hleft) (htimed.of_subset hleft)]
        exact Record.lasting_congr (fun _ => mem_survivors_of_none (retractedIds_merge a b) hc) r
    _ ↔ Lasting (a.active ++ b.active ++ c.active) r := by
        rw [lasting_merge_append (hsame.of_subset hab) (htimed.of_subset hab)]
        refine Record.lasting_congr (fun s => ?_) r
        rw [List.mem_append, mem_survivors_of_none ha hb, ← List.mem_append]
    _ ↔ Lasting ((merge b c).active ++ a.active) r := by
        rw [lasting_merge_append (hsame.of_subset hbc) (htimed.of_subset hbc)]
        refine Record.lasting_congr (fun s => ?_) r
        rw [List.mem_append (s := survivors b c), mem_survivors_of_none hb hc, ← List.mem_append,
          List.append_assoc, List.mem_append, List.mem_append (t := a.active), or_comm]
    _ ↔ r ∈ (merge a (merge b c)).active := by
        rw [mem_active_merge_iff_lasting (hsame.of_subset hright) (htimed.of_subset hright)]
        refine Record.lasting_congr (fun s => ?_) r
        rw [mem_survivors_of_none ha (retractedIds_merge b c), List.mem_append, List.mem_append,
          or_comm]

theorem merge_self (hsame : Consistent (a.active ++ b.active))
    (htimed : Timed (a.active ++ b.active)) :
    merge (merge a b) (merge a b) = merge a b := by
  have htwice : (merge a b).active ++ (merge a b).active ⊆ a.active ++ b.active :=
    List.append_subset.mpr ⟨active_merge_subset, active_merge_subset⟩
  refine merge_eq_merge rfl (hsame.of_subset htwice |>.of_subset active_merge_subset)
    (htimed.of_subset htwice |>.of_subset active_merge_subset) fun r => ?_
  have hsurvivors : ∀ s, s ∈ survivors (merge a b) (merge a b) ↔ s ∈ (merge a b).active := by
    intro s
    rw [mem_survivors_of_none (retractedIds_merge a b) (retractedIds_merge a b), List.mem_append,
      or_self]
  rw [mem_active_merge_iff_lasting (hsame.of_subset htwice) (htimed.of_subset htwice),
    Record.lasting_congr hsurvivors]
  constructor
  · exact fun h => h.1
  · intro hr
    obtain ⟨-, hlast⟩ := (mem_active_merge_iff_lasting hsame htimed).mp hr
    exact ⟨hr, hlast.imp_right fun h s hs => h s (mem_survivors_of_mem_merge hs)⟩

end Laws

/-- **A merge is a join in which the last writer wins.** Let three journals of one campaign be such
that equal ids mean equal records and distinct ids have distinct times. Whatever marks there are,
two of them give the same journal in either direction, and a merge with itself is itself. If nothing
is retracted, three of them give the same journal in either grouping. -/
theorem merge_join (a b c : Journal) (hab : a.setup = b.setup)
    (hsame : Consistent (a.inputs ++ b.inputs ++ c.inputs))
    (htimed : Timed (a.inputs ++ b.inputs ++ c.inputs)) :
    merge a b = merge b a ∧ merge (merge a b) (merge a b) = merge a b ∧
      (a.retractedIds = [] → b.retractedIds = [] → c.retractedIds = [] →
        merge (merge a b) c = merge a (merge b c)) := by
  have hall : a.active ++ b.active ++ c.active ⊆ a.inputs ++ b.inputs ++ c.inputs := by
    intro r hr
    simp only [List.mem_append] at hr ⊢
    exact hr.imp (Or.imp mem_inputs_of_mem_active mem_inputs_of_mem_active)
      mem_inputs_of_mem_active
  have hpair : a.active ++ b.active ⊆ a.inputs ++ b.inputs ++ c.inputs :=
    List.Subset.trans (List.subset_append_left _ _) hall
  refine ⟨?_, ?_, fun ha hb hc => ?_⟩
  · exact merge_comm hab (hsame.of_subset hpair) (htimed.of_subset hpair)
  · exact merge_self (hsame.of_subset hpair) (htimed.of_subset hpair)
  · exact merge_assoc (hsame.of_subset hall) (htimed.of_subset hall) ha hb hc

open Sample

/-- Three devices with the records of four minutes, two of which decide one prompt. -/
theorem merge_join_of_three_devices :
    Consistent (decided.inputs ++ (decided.append elderSign).inputs ++ lateDevice.inputs) ∧
      Timed (decided.inputs ++ (decided.append elderSign).inputs ++ lateDevice.inputs) ∧
      decided.retractedIds = [] ∧ (decided.append elderSign).retractedIds = [] ∧
      lateDevice.retractedIds = [] ∧
      merge decided (decided.append elderSign) = merge (decided.append elderSign) decided ∧
      merge (merge decided (decided.append elderSign)) lateDevice =
        merge decided (merge (decided.append elderSign) lateDevice) := by
  have hsame : Consistent
      (decided.inputs ++ (decided.append elderSign).inputs ++ lateDevice.inputs) := by decide
  have htimed : Timed
      (decided.inputs ++ (decided.append elderSign).inputs ++ lateDevice.inputs) := by decide
  have hdecided : decided.retractedIds = [] := by cbv
  have hcounted : (decided.append elderSign).retractedIds = [] := by cbv
  have hlate : lateDevice.retractedIds = [] := by cbv
  obtain ⟨hcomm, -, hassoc⟩ := merge_join decided (decided.append elderSign) lateDevice rfl
    hsame htimed
  exact ⟨hsame, htimed, hdecided, hcounted, hlate, hcomm, hassoc hdecided hcounted hlate⟩

end Journal
end Chronicle
