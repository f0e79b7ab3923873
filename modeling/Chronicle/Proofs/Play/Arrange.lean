import Chronicle.Play.Order
import Mathlib.Data.List.Chain
import Mathlib.Logic.Relation

/-!
# Where a scenario comes in an arrangement

An arrangement holds every scenario of the work that is in the pool, and none twice. Of a scenario
and the one it follows, the latter comes first exactly if the work reaches it, or one that it
follows in turn, before the scenario itself.
-/

namespace Chronicle.Starts

open Relation

variable {followers : ScenarioId → List ScenarioId} {pool work : List ScenarioId}

/-! ## What is in an arrangement -/

theorem mem_pool_of_mem_arrange {x : ScenarioId} (h : x ∈ arrange followers pool work) :
    x ∈ pool := by
  fun_induction arrange followers pool work with
  | case1 => cases h
  | case2 pool id work hid ih =>
      rcases List.mem_cons.mp h with rfl | h
      · exact hid
      · exact List.mem_of_mem_erase (ih h)
  | case3 pool id work hid ih => exact ih h

theorem mem_arrange {x : ScenarioId} (hwork : x ∈ work) (hpool : x ∈ pool) :
    x ∈ arrange followers pool work := by
  fun_induction arrange followers pool work with
  | case1 => cases hwork
  | case2 pool id work hid ih =>
      by_cases hx : x = id
      · exact hx ▸ List.mem_cons_self
      · have hmem : x ∈ work := (List.mem_cons.mp hwork).resolve_left hx
        exact List.mem_cons_of_mem _ (ih (List.mem_append_right _ hmem)
          ((List.mem_erase_of_ne hx).mpr hpool))
  | case3 pool id work hid ih =>
      have hx : x ≠ id := fun h => hid (h ▸ hpool)
      exact ih ((List.mem_cons.mp hwork).resolve_left hx) hpool

theorem nodup_arrange (h : pool.Nodup) : (arrange followers pool work).Nodup := by
  fun_induction arrange followers pool work with
  | case1 => exact List.nodup_nil
  | case2 pool id work hid ih =>
      refine List.nodup_cons.mpr ⟨fun hmem => ?_, ih (h.erase id)⟩
      exact h.not_mem_erase (mem_pool_of_mem_arrange hmem)
  | case3 pool id work hid ih => exact ih h

/-- A scenario of the pool is arranged with the one it follows. -/
theorem mem_arrange_of_mem_followers {x y : ScenarioId} (hy : y ∈ arrange followers pool work)
    (hxy : x ∈ followers y) (hpool : x ∈ pool) : x ∈ arrange followers pool work := by
  fun_induction arrange followers pool work with
  | case1 => cases hy
  | case2 pool id work hid ih =>
      by_cases hx : x = id
      · exact hx ▸ List.mem_cons_self
      have hleft : x ∈ pool.erase id := (List.mem_erase_of_ne hx).mpr hpool
      apply List.mem_cons_of_mem
      rcases List.mem_cons.mp hy with rfl | hy
      · exact mem_arrange (List.mem_append_left _ hxy) hleft
      · exact ih hy hleft
  | case3 pool id work hid ih => exact ih hy hpool

/-- What is arranged is work, or follows some of the work, directly or through others. -/
theorem exists_reflTransGen_of_mem_arrange {x : ScenarioId} (h : x ∈ arrange followers pool work) :
    ∃ a ∈ work, ReflTransGen (fun a b => a ∈ followers b) x a := by
  fun_induction arrange followers pool work with
  | case1 => cases h
  | case2 pool id work hid ih =>
      rcases List.mem_cons.mp h with rfl | h
      · exact ⟨x, List.mem_cons_self, .refl⟩
      obtain ⟨a, ha, hxa⟩ := ih h
      rcases List.mem_append.mp ha with ha | ha
      · exact ⟨id, List.mem_cons_self, hxa.tail ha⟩
      · exact ⟨a, List.mem_cons_of_mem _ ha, hxa⟩
  | case3 pool id work hid ih =>
      obtain ⟨a, ha, hxa⟩ := ih h
      exact ⟨a, List.mem_cons_of_mem _ ha, hxa⟩

/-- While nothing that follows `m` has left the pool, all of it is arranged with `m`, and nothing
else. -/
theorem mem_arrange_singleton_iff {x m : ScenarioId}
    (hpool : ∀ y, ReflTransGen (fun a b => a ∈ followers b) y m → y ∈ pool) :
    x ∈ arrange followers pool [m] ↔ ReflTransGen (fun a b => a ∈ followers b) x m := by
  constructor
  · intro h
    obtain ⟨a, ha, hxa⟩ := exists_reflTransGen_of_mem_arrange h
    rwa [← List.mem_singleton.mp ha]
  · intro h
    induction h using ReflTransGen.head_induction_on with
    | refl => exact mem_arrange List.mem_cons_self (hpool m .refl)
    | head hxy hym ih => exact mem_arrange_of_mem_followers ih hxy (hpool _ (hym.head hxy))

/-! ## What an arrangement is made of -/

/-- Of two lists of work the second finds in the pool what the first has left there. -/
theorem arrange_append (work₁ work₂ : List ScenarioId) :
    arrange followers pool (work₁ ++ work₂) = arrange followers pool work₁ ++
      arrange followers (pool.diff (arrange followers pool work₁)) work₂ := by
  fun_induction arrange followers pool work₁ with
  | case1 pool => rw [List.nil_append, List.nil_append, List.diff_nil]
  | case2 pool id work hid ih =>
      rw [List.cons_append, arrange, if_pos hid, ← List.append_assoc, ih, List.diff_cons,
        List.cons_append]
  | case3 pool id work hid ih => rw [List.cons_append, arrange, if_neg hid, ih]

/-- What follows nothing is arranged in the order of the work. -/
theorem filter_arrange_sublist {p : ScenarioId → Bool}
    (hp : ∀ a b, a ∈ followers b → p a = false) :
    ((arrange followers pool work).filter p).Sublist (work.filter p) := by
  fun_induction arrange followers pool work with
  | case1 => exact List.Sublist.refl _
  | case2 pool id work hid ih =>
      have hnone : (followers id).filter p = [] := by
        rw [List.filter_eq_nil_iff]
        intro a ha
        simp [hp a id ha]
      rw [List.filter_append, hnone, List.nil_append] at ih
      rw [List.filter_cons, List.filter_cons]
      split
      · exact ih.cons_cons id
      · exact ih
  | case3 pool id work hid ih => exact ih.trans ((List.sublist_cons_self id work).filter p)

/-! ## What comes first

In both directions the induction is on the arrangement, and what it carries is the order in which
the scenario and its lineage are next met in the work. -/

/-- Along `y :: path` each scenario follows the next one. While one of them is met before `x`, the
arrangement comes down from it to `y` before it comes to `x`. -/
theorem idxOf_arrange_lt_of_lineage {x y : ScenarioId} {path : List ScenarioId}
    (huniq : ∀ a b c, a ∈ followers b → a ∈ followers c → b = c)
    (hchain : List.IsChain (fun a b => a ∈ followers b) (x :: y :: path))
    (hpool : ∀ a ∈ x :: y :: path, a ∈ pool) (hx : x ∉ y :: path)
    (hfirst : ∃ a ∈ y :: path, work.idxOf a < work.idxOf x) :
    (arrange followers pool work).idxOf y < (arrange followers pool work).idxOf x := by
  fun_induction arrange followers pool work generalizing path with
  | case1 =>
      obtain ⟨a, -, ha⟩ := hfirst
      simp at ha
  | case2 pool id work hid ih =>
      have hxy : x ∈ followers y := (List.isChain_cons_cons.mp hchain).1
      by_cases hy : y = id
      · have hxid : id ≠ x := fun h => hx (by simp [← h, hy])
        simp [hy, List.idxOf_cons_ne _ hxid]
      have hxid : id ≠ x := by
        rintro rfl
        obtain ⟨a, -, ha⟩ := hfirst
        simp at ha
      -- Only `y` has `x` behind it, so `x` is met no sooner than before.
      have hxf : x ∉ followers id := fun h => hy (huniq x y id hxy h)
      rw [List.idxOf_cons_ne _ (Ne.symm hy), List.idxOf_cons_ne _ hxid]
      refine Nat.succ_lt_succ ?_
      by_cases hpath : id ∈ path
      · obtain ⟨path₁, path₂, rfl, hnot⟩ := List.eq_append_cons_of_mem hpath
        have hsplit : x :: y :: (path₁ ++ id :: path₂) = (x :: y :: path₁) ++ id :: path₂ := rfl
        rw [hsplit, List.isChain_append] at hchain
        refine ih hchain.1 (fun a ha => ?_) (fun h => hx (by simp at h ⊢; tauto))
          ⟨(y :: path₁).getLast (by simp), List.getLast_mem _, ?_⟩
        · have hne : a ≠ id := by
            rintro rfl
            simp only [List.mem_cons] at ha
            rcases ha with h | h | h
            · exact hxid h
            · exact hy h.symm
            · exact hnot h
          rw [List.mem_erase_of_ne hne]
          exact hpool a (by simp at ha ⊢; tauto)
        · have hlast : (y :: path₁).getLast (by simp) ∈ followers id :=
            hchain.2.2 _ (by simp [List.getLast?_cons, List.getLast_eq_getLastD]) id (by simp)
          rw [List.idxOf_append_of_mem hlast, List.idxOf_append_of_notMem hxf]
          exact Nat.lt_add_right _ (List.idxOf_lt_length_of_mem hlast)
      · obtain ⟨a, ha, hlt⟩ := hfirst
        have hne : ∀ b ∈ x :: y :: path, b ≠ id := by
          rintro b hb rfl
          simp only [List.mem_cons] at hb
          tauto
        refine ih hchain (fun b hb => (List.mem_erase_of_ne (hne b hb)).mpr (hpool b hb)) hx
          ⟨a, ha, ?_⟩
        have haid : id ≠ a := (hne a (List.mem_cons_of_mem _ ha)).symm
        rw [List.idxOf_cons_ne _ haid, List.idxOf_cons_ne _ hxid] at hlt
        rw [List.idxOf_append_of_notMem hxf]
        by_cases haf : a ∈ followers id
        · rw [List.idxOf_append_of_mem haf]
          exact Nat.lt_add_right _ (List.idxOf_lt_length_of_mem haf)
        · rw [List.idxOf_append_of_notMem haf]
          omega
  | case3 pool id work hid ih =>
      refine ih hchain hpool hx ?_
      obtain ⟨a, ha, hlt⟩ := hfirst
      have haid : id ≠ a := by
        rintro rfl
        exact hid (hpool _ (List.mem_cons_of_mem _ ha))
      have hxid : id ≠ x := by
        rintro rfl
        exact hid (hpool _ List.mem_cons_self)
      rw [List.idxOf_cons_ne _ haid, List.idxOf_cons_ne _ hxid] at hlt
      exact ⟨a, ha, by omega⟩

/-- While `x` is met before everything it follows, directly or through others, the arrangement
comes to `x` before it comes to `y`. -/
theorem idxOf_arrange_lt_of_first {x y : ScenarioId} (hxy : x ∈ followers y) (hpool : x ∈ pool)
    (hwork : x ∈ work)
    (hfirst : ∀ a, TransGen (fun a b => a ∈ followers b) x a → work.idxOf x < work.idxOf a) :
    (arrange followers pool work).idxOf x < (arrange followers pool work).idxOf y := by
  fun_induction arrange followers pool work with
  | case1 => cases hwork
  | case2 pool id work hid ih =>
      by_cases hx : x = id
      · have hne : id ≠ y := by
          rintro rfl
          have := hfirst _ (.single hxy)
          simp at this
        simp [hx, List.idxOf_cons_ne _ hne]
      have hlineage : ∀ a, TransGen (fun a b => a ∈ followers b) x a → id ≠ a := by
        rintro a ha rfl
        have := hfirst _ ha
        simp at this
      have hnot : ∀ a, TransGen (fun a b => a ∈ followers b) x a → a ∉ followers id :=
        fun a ha h => hlineage id (ha.tail h) rfl
      have hxf : x ∉ followers id := fun h => hlineage id (.single h) rfl
      rw [List.idxOf_cons_ne _ (Ne.symm hx), List.idxOf_cons_ne _ (hlineage y (.single hxy))]
      refine Nat.succ_lt_succ (ih ((List.mem_erase_of_ne hx).mpr hpool)
        (List.mem_append_right _ ((List.mem_cons.mp hwork).resolve_left hx)) fun a ha => ?_)
      have hlt := hfirst a ha
      rw [List.idxOf_cons_ne _ (Ne.symm hx), List.idxOf_cons_ne _ (hlineage a ha)] at hlt
      rw [List.idxOf_append_of_notMem hxf, List.idxOf_append_of_notMem (hnot a ha)]
      omega
  | case3 pool id work hid ih =>
      have hx : id ≠ x := fun h => hid (h ▸ hpool)
      refine ih hpool ((List.mem_cons.mp hwork).resolve_left (Ne.symm hx)) fun a ha => ?_
      have hlt := hfirst a ha
      have hne : id ≠ a := by
        rintro rfl
        simp at hlt
      rw [List.idxOf_cons_ne _ hx, List.idxOf_cons_ne _ hne] at hlt
      omega

end Chronicle.Starts
