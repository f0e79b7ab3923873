import Chronicle.Proofs.Journal.Merge
import Chronicle.Sample.Evening

/-!
# One merge

A single merge loses nothing that both journals let stand, writes nothing twice and brings nothing
back: every cumulative survivor is in it once, and of every other identity that a survivor has there
is one record, the survivor that comes last.
-/

namespace Chronicle.Journal

/-- **One merge neither loses nor duplicates nor resurrects.** Let equal ids mean equal records. The
merge of two journals has no marks but records, which stand in the order of time, no id twice. Each
is in effect in one of the journals and retracted in neither. Every cumulative survivor is there
once, and of every other identity that a survivor has there is one record: the one that all others
precede, so that none of them is later. -/
theorem merge_conserves (a b : Journal) (hsame : Record.Consistent (a.active ++ b.active)) :
    (merge a b).entries = (merge a b).active.map .input ∧
      (merge a b).active.Pairwise (fun r s => r.recordedAt.le s.recordedAt = true) ∧
      ((merge a b).active.map (·.id)).Nodup ∧
      (∀ r ∈ (merge a b).active, (r ∈ a.active ∨ r ∈ b.active) ∧
        r.id ∉ a.retractedIds ∧ r.id ∉ b.retractedIds) ∧
      (∀ r ∈ survivors a b, r.isCumulative = true → (merge a b).active.count r = 1) ∧
      ∀ i : Identity, i.kind.isCumulative = false → (∃ s ∈ survivors a b, s.identity = i) →
        ∃ r ∈ survivors a b, (merge a b).active.filter (·.identity = i) = [r] ∧
          ∀ s ∈ survivors a b, s.identity = i →
            (s = r ∨ Precedes a b s r) ∧ s.recordedAt.le r.recordedAt = true := by
  refine ⟨entries_merge a b, sorted_merge a b, nodup_ids_merge a b, fun r hr => ?_, ?_, ?_⟩
  · exact mem_survivors_iff.mp (mem_survivors_of_mem_merge hr)
  · intro r hr hcum
    exact count_merge ((mem_active_merge_iff hsame).mpr ⟨hr, Or.inl hcum⟩)
  · rintro i hi ⟨s, hs, rfl⟩
    obtain ⟨r, hr, hfilter, hidentity⟩ := exists_filter_identity_merge hsame hs hi
    have hcum : r.isCumulative = false := (Record.isCumulative_of_identity hidentity).trans hi
    refine ⟨r, mem_survivors_of_mem_merge hr, hfilter, fun q hq hqi => ?_⟩
    have hlast := precedes_of_mem_merge hsame hr hcum hq (hqi.trans hidentity.symm)
    refine ⟨hlast, ?_⟩
    rcases hlast with rfl | hlast
    · exact Instant.le_refl q.recordedAt
    · exact hlast.noLater

open Sample

/-- Two devices that share a start. One has undone the decision that the other still has, and both
have decided again at the same minute. The elder sign is kept, and one of the two decisions. -/
theorem merge_conserves_of_two_devices :
    Record.Consistent (firstDevice.active ++ secondDevice.active) ∧
      elderSign ∈ survivors firstDevice secondDevice ∧
      (merge firstDevice secondDevice).active.count elderSign = 1 ∧
      overruled ∈ survivors firstDevice secondDevice ∧
      ∃ r ∈ survivors firstDevice secondDevice,
        (merge firstDevice secondDevice).active.filter (·.identity = overruled.identity) = [r] ∧
          (overruled = r ∨ Precedes firstDevice secondDevice overruled r) := by
  have hsame : Record.Consistent (firstDevice.active ++ secondDevice.active) := by decide
  have hsurvivors : survivors firstDevice secondDevice =
      [started, elderSign, overruled, started, confirmed] := by cbv
  have helder : elderSign ∈ survivors firstDevice secondDevice := by simp [hsurvivors]
  have hoverruled : overruled ∈ survivors firstDevice secondDevice := by simp [hsurvivors]
  obtain ⟨-, -, -, -, hcumulative, hlast⟩ := merge_conserves firstDevice secondDevice hsame
  obtain ⟨r, hr, hfilter, hprecedes⟩ := hlast overruled.identity rfl ⟨_, hoverruled, rfl⟩
  exact ⟨hsame, helder, hcumulative elderSign helder rfl, hoverruled, r, hr, hfilter,
    (hprecedes overruled hoverruled rfl).1⟩

end Chronicle.Journal
