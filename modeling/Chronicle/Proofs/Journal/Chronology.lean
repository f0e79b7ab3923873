import Chronicle.Journal.Merge
import Chronicle.Proofs.Instant.Order
import Mathlib.Data.List.Nodup
import Mathlib.Data.List.Pairwise

/-!
# Records by time

Survivors are put into the order of time without changing the order of those of one time. Of every
id the first record is kept, and then of every identity the last one; both keep the order. All of
it is said by where a record comes first in a list.
-/

namespace Chronicle

/-! ## Stable sorting -/

section Stable

variable {α : Type} [DecidableEq α]

theorem idxOf_filter_lt_iff {p : α → Bool} {l : List α} {a b : α} (ha : p a = true)
    (hb : p b = true) :
    (l.filter p).idxOf a < (l.filter p).idxOf b ↔ l.idxOf a < l.idxOf b := by
  induction l with
  | nil => simp
  | cons x rest ih =>
      by_cases hx : p x = true
      · rw [List.filter_cons_of_pos hx]
        by_cases hxb : x = b
        · simp [hxb]
        · rw [List.idxOf_cons_ne _ hxb, List.idxOf_cons_ne _ hxb]
          by_cases hxa : x = a
          · simp [hxa]
          · rw [List.idxOf_cons_ne _ hxa, List.idxOf_cons_ne _ hxa]
            omega
      · have hxa : x ≠ a := fun h => hx (h ▸ ha)
        have hxb : x ≠ b := fun h => hx (h ▸ hb)
        rw [List.filter_cons_of_neg hx, List.idxOf_cons_ne _ hxa, List.idxOf_cons_ne _ hxb, ih]
        omega

theorem rel_of_idxOf_lt {r : α → α → Prop} {l : List α} {a b : α} (h : l.Pairwise r)
    (hb : b ∈ l) (hlt : l.idxOf a < l.idxOf b) : r a b := by
  have hbl : l.idxOf b < l.length := List.idxOf_lt_length_of_mem hb
  have hrel := List.pairwise_iff_getElem.mp h _ _ (Nat.lt_trans hlt hbl) hbl hlt
  simpa using hrel

variable {le : α → α → Bool} (htrans : ∀ a b c, le a b = true → le b c = true → le a c = true)
  (htotal : ∀ a b, (le a b || le b a) = true)

include htrans htotal

omit [DecidableEq α] in
/-- Sorting leaves the elements with a property as they stand, if they stand in order. -/
theorem filter_mergeSort_of_pairwise {p : α → Bool} {l : List α}
    (h : (l.filter p).Pairwise (fun x y => le x y = true)) :
    (l.mergeSort le).filter p = l.filter p := by
  -- Sorting keeps what is in order as a sublist, and there are no more such elements afterwards.
  have hsub := (List.sublist_mergeSort htrans htotal h List.filter_sublist).filter p
  rw [List.filter_filter] at hsub
  simp only [Bool.and_self] at hsub
  refine (hsub.eq_of_length ?_).symm
  exact (((List.mergeSort_perm l le).filter _).length_eq).symm

omit [DecidableEq α] in
/-- Sorting leaves the elements that are equal to a given one as they stand. -/
theorem filter_mergeSort_of_tied (l : List α) (a : α) :
    (l.mergeSort le).filter (fun x => le x a && le a x) =
      l.filter (fun x => le x a && le a x) := by
  refine filter_mergeSort_of_pairwise htrans htotal ?_
  refine List.pairwise_of_forall_mem_list fun x hx y hy => ?_
  have hxa := (List.mem_filter.mp hx).2
  have hya := (List.mem_filter.mp hy).2
  rw [Bool.and_eq_true] at hxa hya
  exact htrans x a y hxa.1 hya.2

omit [DecidableEq α] in
/-- The last element with a property stays the last one, if it is no smaller than the others. -/
theorem getLast?_filter_mergeSort {p : α → Bool} {l : List α} {z : α} (hnodup : l.Nodup)
    (hz : (l.filter p).getLast? = some z) (hlast : ∀ x ∈ l.filter p, le x z = true) :
    ((l.mergeSort le).filter p).getLast? = some z := by
  obtain ⟨before, hbefore⟩ := List.getLast?_eq_some_iff.mp hz
  have hperm : ((l.mergeSort le).filter p).Perm (l.filter p) := (List.mergeSort_perm l le).filter p
  obtain ⟨y, hy⟩ : ∃ y, ((l.mergeSort le).filter p).getLast? = some y := by
    rw [← Option.isSome_iff_exists, List.getLast?_isSome]
    intro hnil
    rw [hnil, hbefore] at hperm
    simpa using hperm.length_eq
  rw [hy]
  obtain ⟨sorted, hsorted⟩ := List.getLast?_eq_some_iff.mp hy
  by_contra hne
  have hyz : y ≠ z := fun h => hne (by rw [h])
  have hmem : y ∈ l.filter p := hperm.mem_iff.mp (by simp [hsorted])
  have hyb : y ∈ before := by simpa [hbefore, hyz] using hmem
  -- Sorting keeps `y` before `z`, so `y` is not the last one unless it comes twice.
  have hpair : [y, z].Sublist (sorted ++ [y]) := by
    have hsub : [y, z].Sublist (l.filter p) := by
      rw [hbefore]
      exact (List.singleton_sublist.mpr hyb).append (List.Sublist.refl [z])
    have hsub := (List.sublist_mergeSort htrans htotal
      (List.pairwise_pair.mpr (hlast y hmem)) (hsub.trans List.filter_sublist)).filter p
    have hpy := (List.mem_filter.mp hmem).2
    have hpz := (List.mem_filter.mp (List.mem_of_getLast? hz)).2
    simpa [hpy, hpz, hsorted] using hsub
  have hnot : (sorted ++ [y]).Pairwise (fun x _ => x ≠ y) := by
    have hnodup' : (sorted ++ [y]).Nodup := by
      rw [← hsorted]
      exact hperm.nodup_iff.mpr (hnodup.filter p)
    obtain ⟨-, -, hdisjoint⟩ := List.nodup_append.mp hnodup'
    rw [List.pairwise_append]
    refine ⟨List.pairwise_of_forall_mem_list fun x hx _ _ => ?_, by simp, fun x hx _ _ => ?_⟩
    · exact hdisjoint x hx y List.mem_cons_self
    · exact hdisjoint x hx y List.mem_cons_self
  exact List.pairwise_pair.mp (hnot.sublist hpair) rfl

theorem idxOf_mergeSort_lt_iff {l : List α} {a b : α} (ha : a ∈ l) (hb : b ∈ l) (hne : a ≠ b) :
    (l.mergeSort le).idxOf a < (l.mergeSort le).idxOf b ↔
      le b a = false ∨ le a b = true ∧ l.idxOf a < l.idxOf b := by
  have hsorted := List.pairwise_mergeSort htrans htotal l
  have hrefl : ∀ x, le x x = true := fun x => by simpa using htotal x x
  cases hba : le b a with
  | false =>
      simp only [true_or, iff_true]
      by_contra hnot
      have hidx : (l.mergeSort le).idxOf b ≠ (l.mergeSort le).idxOf a := fun h =>
        hne ((List.idxOf_inj (List.mem_mergeSort.mpr hb)).mp h).symm
      have hle := rel_of_idxOf_lt hsorted (List.mem_mergeSort.mpr ha)
        (Nat.lt_of_le_of_ne (Nat.le_of_not_lt hnot) hidx)
      rw [hba] at hle
      cases hle
  | true =>
      cases hab : le a b with
      | false =>
          simp only [Bool.true_eq_false, Bool.false_eq_true, false_and, or_self, iff_false]
          intro hlt
          have hle := rel_of_idxOf_lt hsorted (List.mem_mergeSort.mpr hb) hlt
          rw [hab] at hle
          cases hle
      | true =>
          have hpa : (le a a && le a a) = true := by simp [hrefl]
          have hpb : (le b a && le a b) = true := by simp [hba, hab]
          rw [← idxOf_filter_lt_iff (p := fun x => le x a && le a x) hpa hpb,
            filter_mergeSort_of_tied htrans htotal,
            idxOf_filter_lt_iff (p := fun x => le x a && le a x) hpa hpb]
          simp

end Stable

/-! ## By the time of recording -/

namespace Record

/-- Two records in the order of time. -/
abbrev NoLater (r s : Record) : Prop := r.recordedAt.le s.recordedAt = true

/-- The records of a list by time. -/
def byTime (l : List Record) : List Record := l.mergeSort fun r s => r.recordedAt.le s.recordedAt

/-- The last record with a property was recorded no earlier than the others. -/
def EndsInTime (p : Record → Bool) (l : List Record) : Prop :=
  ∀ s ∈ (l.filter p).getLast?, ∀ r ∈ l.filter p, NoLater r s

instance (p : Record → Bool) (l : List Record) : Decidable (EndsInTime p l) :=
  inferInstanceAs (Decidable (∀ s ∈ (l.filter p).getLast?, ∀ r ∈ l.filter p, NoLater r s))

theorem NoLater.trans (q r s : Record) (hqr : NoLater q r) (hrs : NoLater r s) : NoLater q s :=
  Instant.le_trans hqr hrs

theorem noLater_total (r s : Record) :
    (r.recordedAt.le s.recordedAt || s.recordedAt.le r.recordedAt) = true :=
  Instant.le_total r.recordedAt s.recordedAt

theorem byTime_perm (l : List Record) : (byTime l).Perm l := List.mergeSort_perm l _

theorem sorted_byTime (l : List Record) : (byTime l).Pairwise NoLater :=
  List.pairwise_mergeSort NoLater.trans noLater_total l

theorem byTime_of_sorted {l : List Record} (h : l.Pairwise NoLater) : byTime l = l :=
  List.mergeSort_of_pairwise h

/-- Records of different times can be put by time in one way only. -/
theorem byTime_eq {l sorted : List Record} (hperm : sorted.Perm l)
    (hsorted : sorted.Pairwise NoLater) (htimes : (sorted.map (·.recordedAt)).Nodup) :
    byTime l = sorted := by
  refine List.Perm.eq_of_pairwise ?_ (sorted_byTime l) hsorted ((byTime_perm l).trans hperm.symm)
  intro r s hr hs hrs hsr
  have hr : r ∈ sorted := hperm.mem_iff.mpr ((byTime_perm l).mem_iff.mp hr)
  exact List.inj_on_of_nodup_map htimes hr hs (Instant.le_antisymm hrs hsr)

theorem filter_byTime {p : Record → Bool} {l : List Record} (h : (l.filter p).Pairwise NoLater) :
    (byTime l).filter p = l.filter p :=
  filter_mergeSort_of_pairwise NoLater.trans noLater_total h

/-- The last record with a property is the same by time exactly if none with it was recorded
later. -/
theorem getLast?_filter_byTime_iff {p : Record → Bool} {l : List Record} (hnodup : l.Nodup) :
    ((byTime l).filter p).getLast? = (l.filter p).getLast? ↔ EndsInTime p l := by
  have hperm : ((byTime l).filter p).Perm (l.filter p) := (byTime_perm l).filter p
  constructor
  · intro h s hs r hr
    rw [← h] at hs
    obtain ⟨hne, rfl⟩ := List.mem_getLast?_eq_getLast hs
    exact ((sorted_byTime l).filter p).rel_getLast_of_rel_getLast_getLast
      (hperm.mem_iff.mpr hr) (Instant.le_refl _)
  · intro h
    cases hlast : (l.filter p).getLast? with
    | none =>
        rw [List.getLast?_eq_none_iff] at hlast ⊢
        rw [hlast] at hperm
        exact hperm.eq_nil
    | some s =>
        exact getLast?_filter_mergeSort NoLater.trans noLater_total hnodup hlast (h s hlast)

end Record

/-! ## The first of an id, the last of an identity -/

namespace Record

/-- Equal ids mean equal records. -/
def Consistent (l : List Record) : Prop := ∀ r ∈ l, ∀ s ∈ l, r.id = s.id → r = s

instance (l : List Record) : Decidable (Consistent l) :=
  inferInstanceAs (Decidable (∀ r ∈ l, ∀ s ∈ l, r.id = s.id → r = s))

theorem Consistent.of_subset {l m : List Record} (h : Consistent m) (hsub : l ⊆ m) :
    Consistent l :=
  fun r hr s hs => h r (hsub hr) s (hsub hs)

theorem mem_of_mem_firstOfId {seen : List Uuid} {l : List Record} {r : Record}
    (h : r ∈ firstOfId seen l) : r ∈ l ∧ r.id ∉ seen := by
  induction l generalizing seen with
  | nil => cases h
  | cons x rest ih =>
      rw [firstOfId] at h
      split at h
      next => exact ⟨List.mem_cons_of_mem _ (ih h).1, (ih h).2⟩
      next hx =>
          rcases List.mem_cons.mp h with rfl | h
          · exact ⟨List.mem_cons_self, hx⟩
          · refine ⟨List.mem_cons_of_mem _ (ih h).1, fun hr => (ih h).2 ?_⟩
            exact List.mem_cons_of_mem _ hr

theorem nodup_firstOfId (seen : List Uuid) (l : List Record) :
    ((firstOfId seen l).map (·.id)).Nodup := by
  induction l generalizing seen with
  | nil => exact List.nodup_nil
  | cons x rest ih =>
      rw [firstOfId]
      split
      · exact ih seen
      · rw [List.map_cons, List.nodup_cons]
        refine ⟨fun h => ?_, ih _⟩
        obtain ⟨r, hr, hid⟩ := List.mem_map.mp h
        exact (mem_of_mem_firstOfId hr).2 (by rw [hid]; exact List.mem_cons_self)

theorem firstOfId_sublist (seen : List Uuid) (l : List Record) : (firstOfId seen l).Sublist l := by
  induction l generalizing seen with
  | nil => exact List.Sublist.refl []
  | cons x rest ih =>
      rw [firstOfId]
      split
      · exact (ih seen).cons x
      · exact (ih _).cons_cons x

/-- Where no id comes twice, nothing is left out. -/
theorem firstOfId_of_nodup {seen : List Uuid} {l : List Record} (hnodup : (l.map (·.id)).Nodup)
    (hseen : ∀ r ∈ l, r.id ∉ seen) : firstOfId seen l = l := by
  induction l generalizing seen with
  | nil => rfl
  | cons x rest ih =>
      obtain ⟨hx, hrest⟩ := List.nodup_cons.mp hnodup
      obtain ⟨hxs, hrs⟩ := List.forall_mem_cons.mp hseen
      rw [firstOfId, if_neg hxs, ih hrest]
      intro r hr hmem
      rcases List.mem_cons.mp hmem with hid | hmem
      · exact hx (List.mem_map.mpr ⟨r, hr, hid⟩)
      · exact hrs r hr hmem

/-- Where equal ids mean equal records, only repetitions are left out and the order stays. -/
theorem firstOfId_of_consistent {seen : List Uuid} {l : List Record}
    (hsame : Consistent l) {r : Record} (hr : r ∈ l)
    (hnot : r.id ∉ seen) :
    r ∈ firstOfId seen l ∧ ∀ s ∈ l, s.id ∉ seen →
      ((firstOfId seen l).idxOf s < (firstOfId seen l).idxOf r ↔ l.idxOf s < l.idxOf r) := by
  induction l generalizing seen with
  | nil => cases hr
  | cons x rest ih =>
      have hrest := hsame.of_subset (List.subset_cons_self x rest)
      -- The id of `x` is the id of no other record.
      have hother : ∀ s ∈ x :: rest, x ≠ s → s ∈ rest ∧ s.id ≠ x.id := fun s hs hne =>
        ⟨(List.mem_cons.mp hs).resolve_left (Ne.symm hne),
          fun hid => hne (hsame x List.mem_cons_self s hs hid.symm)⟩
      rw [firstOfId]
      split
      next hx =>
          have hne : ∀ s, s.id ∉ seen → x ≠ s := fun s hs h => hs (h ▸ hx)
          obtain ⟨hmem, hidx⟩ := ih hrest (hother r hr (hne r hnot)).1 hnot
          refine ⟨hmem, fun s hs hsnot => ?_⟩
          rw [List.idxOf_cons_ne _ (hne s hsnot), List.idxOf_cons_ne _ (hne r hnot),
            hidx s (hother s hs (hne s hsnot)).1 hsnot]
          omega
      next hx =>
          by_cases hxr : x = r
          · subst hxr
            exact ⟨List.mem_cons_self, fun s _ _ => by simp⟩
          · obtain ⟨hr', hid⟩ := hother r hr hxr
            have hnot' : r.id ∉ x.id :: seen := by simp [hid, hnot]
            obtain ⟨hmem, hidx⟩ := ih hrest hr' hnot'
            refine ⟨List.mem_cons_of_mem _ hmem, fun s hs hsnot => ?_⟩
            rw [List.idxOf_cons_ne _ hxr, List.idxOf_cons_ne _ hxr]
            by_cases hxs : x = s
            · simp [hxs]
            · obtain ⟨hs', hsid⟩ := hother s hs hxs
              rw [List.idxOf_cons_ne _ hxs, List.idxOf_cons_ne _ hxs, Nat.succ_lt_succ_iff,
                hidx s hs' (by simp [hsid, hsnot])]
              omega

/-- Records of one identity are cumulative together. -/
theorem isCumulative_of_identity {r s : Record} (h : r.identity = s.identity) :
    r.isCumulative = s.isCumulative :=
  congrArg (·.kind.isCumulative) h

theorem latest_sublist (l : List Record) : (latest l).Sublist l := by
  induction l with
  | nil => exact List.Sublist.refl []
  | cons x rest ih =>
      rw [latest]
      split
      · exact ih.cons_cons x
      · exact ih.cons x

theorem mem_of_mem_latest {l : List Record} {r : Record} (h : r ∈ latest l) : r ∈ l :=
  (latest_sublist l).subset h

/-- A record that is left out has one of its identity behind it. -/
theorem exists_of_superseded {x : Record} {rest : List Record}
    (h : ¬ (x.isCumulative || rest.all (·.identity ≠ x.identity)) = true) :
    x.isCumulative = false ∧ ∃ s ∈ rest, s.identity = x.identity := by
  simpa using h

/-- What is left out of nothing once is not left out again. -/
theorem latest_latest (l : List Record) : latest (latest l) = latest l := by
  induction l with
  | nil => rfl
  | cons x rest ih =>
      rw [latest]
      split
      next h =>
          rw [latest, ih, if_pos]
          rw [Bool.or_eq_true, List.all_eq_true] at h ⊢
          exact h.imp_right fun h s hs => h s (mem_of_mem_latest hs)
      next => exact ih

/-- Leaving out records changes nothing in what the records give, if those that have one of their
identity behind them give nothing. -/
theorem filterMap_latest {β : Type} {f : Record → Option β} {l : List Record}
    (h : l.Pairwise fun r s => r.identity = s.identity → f r = none) :
    (latest l).filterMap f = l.filterMap f := by
  induction l with
  | nil => rfl
  | cons x rest ih =>
      obtain ⟨hx, hrest⟩ := List.pairwise_cons.mp h
      rw [latest]
      split
      next => rw [List.filterMap_cons, List.filterMap_cons, ih hrest]
      next hsuperseded =>
          obtain ⟨-, s, hs, hidentity⟩ := exists_of_superseded hsuperseded
          rw [List.filterMap_cons_none (hx s hs hidentity.symm), ih hrest]

/-- Cumulative records are all kept. -/
theorem filter_isCumulative_latest (l : List Record) :
    (latest l).filter (·.isCumulative) = l.filter (·.isCumulative) := by
  induction l with
  | nil => rfl
  | cons x rest ih =>
      rw [latest]
      split
      next => rw [List.filter_cons, List.filter_cons, ih]
      next h =>
          rw [ih, List.filter_cons_of_neg]
          simp [(exists_of_superseded h).1]

/-- What is kept of the records with a property, if records of one identity share it, depends on
these records only. -/
theorem filter_latest {p : Record → Bool} (hp : ∀ r s, r.identity = s.identity → p r = p s)
    (l : List Record) : (latest l).filter p = latest (l.filter p) := by
  induction l with
  | nil => rfl
  | cons x rest ih =>
      cases hx : p x with
      | false =>
          rw [List.filter_cons_of_neg (by simp [hx]), latest]
          split
          · rw [List.filter_cons_of_neg (by simp [hx]), ih]
          · exact ih
      | true =>
          have hall : (rest.filter p).all (·.identity ≠ x.identity) =
              rest.all (·.identity ≠ x.identity) := by
            rw [List.all_filter, Bool.eq_iff_iff, List.all_eq_true, List.all_eq_true]
            refine forall₂_congr fun s _ => ?_
            by_cases hs : s.identity = x.identity
            · simp [hs, hp s x hs, hx]
            · simp [hs]
          rw [List.filter_cons_of_pos hx, latest, latest, hall]
          split
          · rw [List.filter_cons_of_pos hx, ih]
          · exact ih

/-- The last record with a property is kept, if records of one identity share it. -/
theorem getLast?_filter_latest {p : Record → Bool}
    (hp : ∀ r s, r.identity = s.identity → p r = p s) (l : List Record) :
    ((latest l).filter p).getLast? = (l.filter p).getLast? := by
  rw [filter_latest hp]
  generalize l.filter p = l
  induction l with
  | nil => rfl
  | cons x rest ih =>
      rw [latest]
      split
      next => rw [List.getLast?_cons, List.getLast?_cons, ih]
      next h =>
          obtain ⟨-, s, hs, -⟩ := exists_of_superseded h
          obtain ⟨z, hz⟩ := Option.isSome_iff_exists.mp
            (List.getLast?_isSome.mpr (List.ne_nil_of_mem hs))
          rw [ih, List.getLast?_cons, hz]
          rfl

/-- Of every identity that is not cumulative the last record is kept and no other. -/
theorem filter_identity_latest {i : Identity} (hi : i.kind.isCumulative = false)
    (l : List Record) :
    (latest l).filter (·.identity = i) = (l.filter (·.identity = i)).getLast?.toList := by
  rw [filter_latest fun r s h => by rw [h]]
  have hall : ∀ r ∈ l.filter (·.identity = i), r.identity = i := fun r hr => by
    simpa using (List.mem_filter.mp hr).2
  generalize l.filter (·.identity = i) = l at hall
  induction l with
  | nil => rfl
  | cons x rest ih =>
      obtain ⟨hx, hrest⟩ := List.forall_mem_cons.mp hall
      have hcum : x.isCumulative = false := (congrArg (·.kind.isCumulative) hx).trans hi
      rw [latest, hcum, Bool.false_or]
      cases rest with
      | nil => rfl
      | cons y rest =>
          have hy : y.identity = x.identity := by rw [hx, hrest y List.mem_cons_self]
          rw [if_neg (by simp [hy]), ih hrest, List.getLast?_cons_cons]

theorem mem_latest_cons_iff_of_ne {x r : Record} {rest : List Record} (hne : x ≠ r) :
    r ∈ latest (x :: rest) ↔ r ∈ latest rest := by
  rw [latest]
  split
  · rw [List.mem_cons, or_iff_right (Ne.symm hne)]
  · rfl

theorem mem_latest_cons_self_iff {x : Record} {rest : List Record} (hx : x ∉ rest) :
    x ∈ latest (x :: rest) ↔
      x.isCumulative = true ∨ ∀ s ∈ rest, ¬ s.identity = x.identity := by
  rw [latest]
  split
  next h => simpa using h
  next h =>
      rw [← not_iff_not]
      simp only [Bool.or_eq_true, List.all_eq_true, decide_eq_true_eq] at h
      exact ⟨fun _ => by simpa using h, fun _ hmem => hx (mem_of_mem_latest hmem)⟩

/-- A record stays that is cumulative or stands after all others of its identity. -/
theorem mem_latest_iff {l : List Record} (hnodup : l.Nodup) {r : Record} :
    r ∈ latest l ↔ r ∈ l ∧ (r.isCumulative = true ∨
      ∀ s ∈ l, s.identity = r.identity → s = r ∨ l.idxOf s < l.idxOf r) := by
  induction l with
  | nil => simp [latest]
  | cons x rest ih =>
      obtain ⟨hx, hrest⟩ := List.nodup_cons.mp hnodup
      by_cases hxr : x = r
      · subst hxr
        rw [mem_latest_cons_self_iff hx, List.forall_mem_cons]
        have hfirst : ∀ s ∈ rest, ¬ (s = x ∨ (x :: rest).idxOf s < (x :: rest).idxOf x) := by
          intro s hs h
          rcases h with rfl | h
          · exact hx hs
          · simp at h
        simp only [List.mem_cons_self, true_and, true_or, implies_true]
        refine or_congr_right (forall₂_congr fun s hs => ?_)
        exact ⟨fun hne heq => absurd heq hne, fun h heq => hfirst s hs (h heq)⟩
      · rw [mem_latest_cons_iff_of_ne hxr, ih hrest, List.mem_cons, List.forall_mem_cons,
          or_iff_right (Ne.symm hxr), List.idxOf_cons_ne _ hxr]
        refine and_congr_right fun _ => or_congr_right ?_
        simp only [List.idxOf_cons_self, Nat.zero_lt_succ, or_true, implies_true, true_and]
        refine forall₂_congr fun s hs => ?_
        have hxs : x ≠ s := fun h => hx (h ▸ hs)
        rw [List.idxOf_cons_ne _ hxs, Nat.succ_lt_succ_iff]

end Record

end Chronicle
