import Chronicle.Dict
import Mathlib.Data.List.Induction

/-!
# Looking up what was inserted

The laws of dictionaries that the rest of the library reasons by: what a lookup finds after an
insertion, and that writing the entries of a dictionary again gives the dictionary.
-/

namespace Chronicle.Dict

variable {α β : Type} [Ord α] [Std.TransOrd α] [Std.LawfulEqOrd α]

omit [Std.TransOrd α] in
theorem find_put [DecidableEq α] (k k' : α) (v : β) (l : List (α × β)) :
    find k' (put k v l) = if k' = k then some v else find k' l := by
  induction l with
  | nil => by_cases h : k' = k <;> simp [put, find, h]
  | cons e rest ih =>
      obtain ⟨k₁, v₁⟩ := e
      rw [put]
      split
      next => by_cases h : k' = k <;> simp [find, h]
      next heq =>
          rw [Std.LawfulEqOrd.compare_eq_iff_eq] at heq
          subst heq
          by_cases h : k' = k <;> simp [find, h]
      next hgt =>
          have hne : k ≠ k₁ := by
            intro h
            rw [Std.LawfulEqOrd.compare_eq_iff_eq.2 h] at hgt
            cases hgt
          by_cases h : k' = k₁
          · subst h
            simp [find, hne.symm]
          · simp [find, h, ih]

omit [Std.TransOrd α] [Std.LawfulEqOrd α] in
@[simp] theorem get?_empty (k : α) : (empty : Dict α β).get? k = none := rfl

@[simp] theorem get?_insert [DecidableEq α] (d : Dict α β) (k k' : α) (v : β) :
    (d.insert k v).get? k' = if k' = k then some v else d.get? k' :=
  find_put k k' v d.entries

@[simp] theorem getD_insert [DecidableEq α] (d : Dict α β) (k k' : α) (v default : β) :
    (d.insert k v).getD k' default = if k' = k then v else d.getD k' default := by
  rw [getD, get?_insert]
  split <;> rfl

omit [Std.TransOrd α] in
theorem mem_of_find {k : α} {v : β} {l : List (α × β)} (h : find k l = some v) : (k, v) ∈ l := by
  induction l with
  | nil => cases h
  | cons e rest ih =>
      obtain ⟨k', v'⟩ := e
      rw [find] at h
      split at h
      next heq =>
          cases h
          rw [Std.LawfulEqOrd.compare_eq_iff_eq.mp heq]
          exact List.mem_cons_self
      next => exact List.mem_cons_of_mem _ (ih h)

theorem find_eq_some_iff {k : α} {v : β} {l : List (α × β)}
    (hsorted : l.Pairwise (fun a b => compare a.1 b.1 = .lt)) :
    find k l = some v ↔ (k, v) ∈ l := by
  refine ⟨mem_of_find, fun h => ?_⟩
  induction l with
  | nil => cases h
  | cons e rest ih =>
      obtain ⟨hfirst, hrest⟩ := List.pairwise_cons.mp hsorted
      rw [find]
      rcases List.mem_cons.mp h with rfl | h
      · rw [if_pos Std.ReflCmp.compare_self]
      · have hgt : compare k e.1 = .gt := Std.OrientedCmp.gt_of_lt (hfirst _ h)
        rw [if_neg (by simp [hgt]), ih hrest h]

/-- Dictionaries with the same lookups are equal. -/
theorem ext_get? {d e : Dict α β} (h : ∀ k, d.get? k = e.get? k) : d = e := by
  have hne : ∀ l : List (α × β), l.Pairwise (fun a b => compare a.1 b.1 = .lt) → l.Nodup := by
    refine fun l hl => hl.imp fun {a b} hlt heq => ?_
    have hself : compare b.1 b.1 = .eq := Std.ReflCmp.compare_self
    rw [heq, hself] at hlt
    cases hlt
  have hmem : ∀ a : α × β, a ∈ d.entries ↔ a ∈ e.entries := by
    rintro ⟨k, v⟩
    rw [← find_eq_some_iff d.sorted, ← find_eq_some_iff e.sorted]
    exact iff_of_eq (congrArg (· = some v) (h k))
  refine Dict.ext (List.Perm.eq_of_pairwise ?_ d.sorted e.sorted
    ((List.perm_ext_iff_of_nodup (hne _ d.sorted) (hne _ e.sorted)).mpr hmem))
  intro a b _ _ hab hba
  have hgt := Std.OrientedCmp.gt_of_lt hab
  rw [hba] at hgt
  cases hgt

theorem put_of_find {k : α} {v : β} {l : List (α × β)}
    (hsorted : l.Pairwise (fun a b => compare a.1 b.1 = .lt)) (h : find k l = some v) :
    put k v l = l := by
  induction l with
  | nil => cases h
  | cons e rest ih =>
      obtain ⟨k', v'⟩ := e
      obtain ⟨hfirst, hrest⟩ := List.pairwise_cons.mp hsorted
      rw [find] at h
      split at h
      next heq =>
          cases h
          rw [put, heq, Std.LawfulEqOrd.compare_eq_iff_eq.mp heq]
      next =>
          have hgt : compare k k' = .gt := Std.OrientedCmp.gt_of_lt (hfirst _ (mem_of_find h))
          rw [put, hgt, ih hrest h]

/-- Inserting what is there already changes nothing. -/
theorem insert_of_get? {d : Dict α β} {k : α} {v : β} (h : d.get? k = some v) : d.insert k v = d :=
  Dict.ext (put_of_find d.sorted h)

/-! ### Changing values -/

theorem mem_keys_iff {d : Dict α β} {k : α} : k ∈ d.keys ↔ (d.get? k).isSome = true := by
  rw [keys, List.mem_map, Option.isSome_iff_exists]
  constructor
  · rintro ⟨⟨k, v⟩, h, rfl⟩
    exact ⟨v, (find_eq_some_iff d.sorted).mpr h⟩
  · rintro ⟨v, h⟩
    exact ⟨(k, v), mem_of_find h, rfl⟩

@[simp] theorem get?_modify [DecidableEq α] (d : Dict α β) (k k' : α) (f : β → β) :
    (d.modify k f).get? k' = if k' = k then (d.get? k).map f else d.get? k' := by
  unfold modify
  cases h : d.get? k with
  | some v => exact get?_insert d k k' (f v)
  | none =>
      by_cases hk : k' = k
      · simp [hk, h]
      · simp [hk]

/-- What is there after a key was erased was there before. -/
theorem get?_of_get?_erase {d : Dict α β} {k k' : α} {v : β}
    (h : (d.erase k).get? k' = some v) : d.get? k' = some v := by
  rw [get?, find_eq_some_iff (d.erase k).sorted] at h
  exact (find_eq_some_iff d.sorted).mpr (List.mem_filter.mp h).1

omit [Std.TransOrd α] in
@[simp] theorem get?_mapValues {γ : Type} (d : Dict α β) (f : α → β → γ)
    (k : α) : (d.mapValues f).get? k = (d.get? k).map (f k) := by
  obtain ⟨entries, hsorted⟩ := d
  simp only [get?, mapValues]
  clear hsorted
  induction entries with
  | nil => rfl
  | cons e rest ih =>
      rw [List.map_cons, find, find, ih]
      by_cases h : compare k e.1 = .eq
      · rw [if_pos h, if_pos h, Std.LawfulEqOrd.compare_eq_iff_eq.mp h]
        rfl
      · rw [if_neg h, if_neg h]

omit [Std.TransOrd α] [Std.LawfulEqOrd α] in
@[simp] theorem keys_mapValues {γ : Type} (d : Dict α β) (f : α → β → γ) :
    (d.mapValues f).keys = d.keys := by
  simp [keys, mapValues]

theorem map_fst_put {k : α} {v : β} {l : List (α × β)}
    (hsorted : l.Pairwise (fun a b => compare a.1 b.1 = .lt)) (h : (find k l).isSome = true) :
    (put k v l).map Prod.fst = l.map Prod.fst := by
  induction l with
  | nil => cases h
  | cons e rest ih =>
      obtain ⟨k', v'⟩ := e
      obtain ⟨hfirst, hrest⟩ := List.pairwise_cons.mp hsorted
      rw [find] at h
      split at h
      next heq =>
          rw [put, heq, Std.LawfulEqOrd.compare_eq_iff_eq.mp heq]
          rfl
      next =>
          obtain ⟨v'', hv''⟩ := Option.isSome_iff_exists.mp h
          have hgt := Std.OrientedCmp.gt_of_lt (hfirst _ (mem_of_find hv''))
          rw [put, hgt, List.map_cons, List.map_cons, ih hrest h]

/-- Changing a value leaves the keys as they are. -/
@[simp] theorem keys_modify (d : Dict α β) (k : α) (f : β → β) : (d.modify k f).keys = d.keys := by
  unfold modify
  cases h : d.get? k with
  | some v =>
      refine map_fst_put d.sorted ?_
      rw [← get?, h]
      rfl
  | none => rfl

/-! ### Writing the entries again -/

omit [Std.LawfulEqOrd α] in
theorem entries_ofList_concat (l : List (α × β)) (e : α × β) :
    (ofList (l ++ [e])).entries = put e.1 e.2 (ofList l).entries := by
  rw [ofList, List.foldl_append]
  rfl

omit [Std.LawfulEqOrd α] in
/-- A key behind all others goes to the end. -/
theorem put_of_forall_lt {k : α} {v : β} {l : List (α × β)}
    (h : ∀ e ∈ l, compare e.1 k = .lt) : put k v l = l ++ [(k, v)] := by
  induction l with
  | nil => rfl
  | cons e rest ih =>
      obtain ⟨he, hrest⟩ := List.forall_mem_cons.mp h
      have hgt : compare k e.1 = .gt := Std.OrientedCmp.gt_of_lt he
      rw [put, hgt, List.cons_append, ← ih hrest]

omit [Std.LawfulEqOrd α] in
theorem entries_ofList {l : List (α × β)}
    (h : l.Pairwise (fun a b => compare a.1 b.1 = .lt)) : (ofList l).entries = l := by
  induction l using List.reverseRecOn with
  | nil => rfl
  | append_singleton l e ih =>
      obtain ⟨hl, -, hlast⟩ := List.pairwise_append.mp h
      rw [entries_ofList_concat, ih hl, put_of_forall_lt]
      intro a ha
      exact hlast a ha e (List.mem_singleton.mpr rfl)

omit [Std.LawfulEqOrd α] in
/-- Writing the entries of a dictionary again gives the dictionary. -/
@[simp] theorem ofList_entries (d : Dict α β) : ofList d.entries = d :=
  Dict.ext (entries_ofList d.sorted)

end Chronicle.Dict
