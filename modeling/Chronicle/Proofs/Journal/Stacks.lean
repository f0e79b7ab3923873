import Chronicle.Proofs.Journal.Replay
import Mathlib.Data.List.Dedup

/-!
# The stacks of a bucket

A bucket can be replayed by itself: its records in effect are a stack with the latest on top, and
the undone ones are another with the one undone last on top. An undo or redo moves one record from
one to the other. Both stacks, one turned over onto the other, hold the records in the order of the
journal, and this is what makes the replay of the whole journal the replays of its buckets side by
side.
-/

namespace Chronicle

/-- The bucket that a mark is made in. -/
def Mark.bucket : Mark → Bucket
  | .input r => r.scenario
  | .undo b => b
  | .redo b => b
  | .reset s => some s

/-- The records of one bucket: those in effect, the latest last, and the undone ones, the one undone
last first. -/
structure Stacks where
  done : List Placed
  undone : List Placed
  deriving DecidableEq

namespace Stacks

def empty : Stacks := ⟨[], []⟩

def push (s : Stacks) (p : Placed) : Stacks := ⟨s.done ++ [p], []⟩

def undo (s : Stacks) : Stacks :=
  match s.done.getLast? with
  | some p => ⟨s.done.dropLast, p :: s.undone⟩
  | none => s

def redo (s : Stacks) : Stacks :=
  match s.undone with
  | p :: rest => ⟨s.done ++ [p], rest⟩
  | [] => s

/-- Operations on achievements stay in effect. -/
def reset (s : Stacks) : Stacks := ⟨s.done.filter (·.record.kind = .achievement), []⟩

def step (s : Stacks) (position : Nat) : Mark → Stacks
  | .input record => s.push ⟨position, record⟩
  | .undo _ => s.undo
  | .redo _ => s.redo
  | .reset _ => s.reset

/-- The marks of one bucket, each with its position in the journal. -/
def marks (entries : List Mark) (b : Bucket) : List (Mark × Nat) :=
  entries.zipIdx.filter (·.1.bucket = b)

/-- Goes through the marks of one bucket and no others. -/
def run (entries : List Mark) (b : Bucket) : Stacks :=
  (marks entries b).foldl (fun s m => s.step m.2 m.1) empty

theorem run_concat (entries : List Mark) (m : Mark) (b : Bucket) :
    run (entries ++ [m]) b =
      if m.bucket = b then (run entries b).step entries.length m else run entries b := by
  unfold run marks
  rw [List.zipIdx_append, List.filter_append, List.foldl_append]
  by_cases hb : m.bucket = b <;> simp [hb]

theorem undo_of_concat {s : Stacks} {done : List Placed} {p : Placed} (h : s.done = done ++ [p]) :
    s.undo = ⟨done, p :: s.undone⟩ := by
  simp [undo, h]

theorem redo_of_cons {s : Stacks} {p : Placed} {rest : List Placed} (h : s.undone = p :: rest) :
    s.redo = ⟨s.done ++ [p], rest⟩ := by
  simp [redo, h]

end Stacks

theorem Record.isCumulative_eq (r : Record) :
    r.isCumulative = decide (r.kind = .achievement) := by
  unfold isCumulative Kind.isCumulative
  cases r.kind <;> rfl

/-! ## Taking out and putting back -/

section Lists

variable {α : Type} {p q : α → Bool}

theorem filter_eraseP_self (l : List α) : (l.eraseP p).filter p = (l.filter p).tail := by
  induction l with
  | nil => rfl
  | cons a l ih =>
      by_cases ha : p a = true
      · rw [List.eraseP_cons_of_pos ha, List.filter_cons_of_pos ha, List.tail_cons]
      · rw [List.eraseP_cons_of_neg ha, List.filter_cons_of_neg ha, List.filter_cons_of_neg ha, ih]

theorem filter_eraseP_of_find? {l : List α} {a : α} (hfind : l.find? p = some a)
    (ha : q a = false) : (l.eraseP p).filter q = l.filter q := by
  induction l with
  | nil => rfl
  | cons b l ih =>
      by_cases hb : p b = true
      · rw [List.find?_cons_of_pos hb, Option.some.injEq] at hfind
        rw [List.eraseP_cons_of_pos hb, List.filter_cons_of_neg (by simp [hfind, ha])]
      · rw [List.find?_cons_of_neg hb] at hfind
        rw [List.eraseP_cons_of_neg hb, List.filter_cons, List.filter_cons, ih hfind]

theorem filter_eraseP_of_disjoint (h : ∀ a, p a = true → q a = false) (l : List α) :
    (l.eraseP p).filter q = l.filter q := by
  cases hfind : l.find? p with
  | none => rw [List.eraseP_of_forall_not (List.find?_eq_none.mp hfind)]
  | some a => exact filter_eraseP_of_find? hfind (h a (List.find?_some hfind))

end Lists

namespace Replay

/-- The records of a list stand in it by their positions. -/
abbrev Sorted (l : List Placed) : Prop := l.Pairwise fun p q => p.position < q.position

theorem inBucket_eq_false {b b' : Bucket} (hne : b ≠ b') (p : Placed)
    (h : inBucket b p = true) : inBucket b' p = false := by
  simp only [inBucket, decide_eq_true_eq, decide_eq_false_iff_not] at h ⊢
  rw [h]
  exact hne

theorem Sorted.takeWhile_eq {l : List Placed} (h : Sorted l) (n : Nat) :
    l.takeWhile (·.position < n) = l.filter (·.position < n) ∧
      l.dropWhile (·.position < n) = l.filter (n ≤ ·.position) := by
  induction l with
  | nil => exact ⟨rfl, rfl⟩
  | cons p l ih =>
      obtain ⟨hp, hl⟩ := List.pairwise_cons.mp h
      obtain ⟨htake, hdrop⟩ := ih hl
      by_cases hlt : p.position < n
      · simp [hlt, htake, hdrop]
      · -- Behind a position that is not below `n` there is none that is.
        have hrest : ∀ q ∈ l, n ≤ q.position := fun q hq => by
          have := hp q hq
          omega
        have hnone : l.filter (·.position < n) = [] :=
          List.filter_eq_nil_iff.mpr (by simpa using hrest)
        have hall : l.filter (n ≤ ·.position) = l :=
          List.filter_eq_self.mpr (by simpa using hrest)
        simp [hlt, hnone, hall, Nat.le_of_not_lt hlt]

theorem Sorted.restore_eq {l : List Placed} (h : Sorted l) (p : Placed) :
    restore p l =
      l.filter (·.position < p.position) ++ p :: l.filter (p.position ≤ ·.position) := by
  rw [restore, (h.takeWhile_eq p.position).1, (h.takeWhile_eq p.position).2]

theorem Sorted.filter_append_filter {l : List Placed} (h : Sorted l) (n : Nat) :
    l.filter (·.position < n) ++ l.filter (n ≤ ·.position) = l := by
  rw [← (h.takeWhile_eq n).1, ← (h.takeWhile_eq n).2, List.takeWhile_append_dropWhile]

theorem Sorted.restore {l : List Placed} (h : Sorted l) {p : Placed}
    (hp : ∀ q ∈ l, q.position ≠ p.position) : Sorted (restore p l) := by
  rw [h.restore_eq]
  refine List.pairwise_append.mpr ⟨h.filter _, List.pairwise_cons.mpr ⟨?_, h.filter _⟩, ?_⟩
  · intro q hq
    obtain ⟨hq, hle⟩ := List.mem_filter.mp hq
    have hne := hp q hq
    rw [decide_eq_true_eq] at hle
    omega
  · intro q hq q' hq'
    have hlt := (List.mem_filter.mp hq).2
    rw [decide_eq_true_eq] at hlt
    rcases List.mem_cons.mp hq' with rfl | hq'
    · exact hlt
    · have hle := (List.mem_filter.mp hq').2
      rw [decide_eq_true_eq] at hle
      omega

theorem undo_of_find? {r : Replay} {b : Bucket} {p : Placed}
    (h : r.active.reverse.find? (inBucket b) = some p) :
    r.undo b =
      ⟨r.length + 1, (r.active.reverse.eraseP (inBucket b)).reverse, p :: r.undone⟩ := by
  rw [undo, h]

theorem redo_of_find? {r : Replay} {b : Bucket} {p : Placed}
    (h : r.undone.find? (inBucket b) = some p) :
    r.redo b = ⟨r.length + 1, restore p r.active, r.undone.eraseP (inBucket b)⟩ := by
  rw [redo, h]

/-! ## The buckets side by side -/

/-- A replay holds of each bucket what the stacks of the bucket hold. -/
structure Refines (r : Replay) (s : Bucket → Stacks) : Prop where
  active : ∀ b, r.active.filter (inBucket b) = (s b).done
  undone : ∀ b, r.undone.filter (inBucket b) = (s b).undone
  sorted : Sorted r.active
  ordered : ∀ b, Sorted ((s b).done ++ (s b).undone)

namespace Refines

variable {r : Replay} {s : Bucket → Stacks}

theorem start : Replay.start.Refines fun _ => .empty where
  active := fun _ => rfl
  undone := fun _ => rfl
  sorted := .nil
  ordered := fun _ => .nil

theorem find?_active (h : r.Refines s) (b : Bucket) :
    r.active.reverse.find? (inBucket b) = (s b).done.getLast? := by
  rw [← h.active, List.getLast?_filter]

theorem find?_undone (h : r.Refines s) (b : Bucket) :
    r.undone.find? (inBucket b) = (s b).undone.head? := by
  rw [← h.undone, List.head?_filter]

theorem mem_undone_iff (h : r.Refines s) {b : Bucket} {p : Placed} :
    p ∈ (s b).undone ↔ p ∈ r.undone ∧ p.record.scenario = b := by
  rw [← h.undone, List.mem_filter, inBucket, decide_eq_true_eq]

theorem mem_done_iff (h : r.Refines s) {b : Bucket} {p : Placed} :
    p ∈ (s b).done ↔ p ∈ r.active ∧ p.record.scenario = b := by
  rw [← h.active, List.mem_filter, inBucket, decide_eq_true_eq]

theorem input (h : r.Refines s) (hlt : ∀ p ∈ r.active, p.position < r.length) (record : Record) :
    (r.input record).Refines fun b =>
      if record.scenario = b then (s b).push ⟨r.length, record⟩ else s b where
  active := fun b => by
    by_cases hb : record.scenario = b <;>
      simp [Replay.input, List.filter_append, h.active, inBucket, hb, Stacks.push]
  undone := fun b => by
    rw [Replay.input, List.filter_filter]
    split
    next hb =>
        rw [Stacks.push, List.filter_eq_nil_iff]
        intro p _
        simp [hb]
    next hb =>
        rw [← h.undone]
        refine List.filter_congr fun p _ => ?_
        simp only [inBucket]
        grind
  sorted := by
    refine List.pairwise_append.mpr ⟨h.sorted, List.pairwise_singleton _ _, fun p hp q hq => ?_⟩
    rw [List.mem_singleton.mp hq]
    exact hlt p hp
  ordered := fun b => by
    split
    next hb =>
        rw [Stacks.push, List.append_nil]
        refine List.pairwise_append.mpr
          ⟨(List.pairwise_append.mp (h.ordered b)).1, List.pairwise_singleton _ _,
            fun p hp q hq => ?_⟩
        rw [List.mem_singleton.mp hq]
        exact hlt p (h.mem_done_iff.mp hp).1
    next => exact h.ordered b

theorem undo (h : r.Refines s) (b : Bucket) :
    (r.undo b).Refines fun b' => if b = b' then (s b').undo else s b' := by
  rcases List.eq_nil_or_concat (s b).done with hnil | ⟨done, p, hdone⟩
  · have hsame : (fun b' => if b = b' then (s b').undo else s b') = s := by
      funext b'
      split
      next hb =>
          subst hb
          simp [Stacks.undo, hnil]
      next => rfl
    have hfind := h.find?_active b
    rw [hnil] at hfind
    rw [hsame, Replay.undo, hfind]
    exact ⟨h.active, h.undone, h.sorted, h.ordered⟩
  · have hfind : r.active.reverse.find? (inBucket b) = some p := by
      rw [h.find?_active b, hdone]
      simp
    rw [undo_of_find? hfind]
    refine ⟨fun b' => ?_, fun b' => ?_, ?_, fun b' => ?_⟩
    · rw [List.filter_reverse]
      split
      next hb =>
          subst hb
          rw [Stacks.undo_of_concat (by simpa using hdone), filter_eraseP_self, List.filter_reverse,
            h.active, hdone]
          simp
      next hb =>
          rw [filter_eraseP_of_disjoint (inBucket_eq_false hb), List.filter_reverse,
            List.reverse_reverse, h.active]
    · have hp : p.record.scenario = b := (h.mem_done_iff.mp (by simp [hdone])).2
      split
      next hb =>
          subst hb
          rw [Stacks.undo_of_concat (by simpa using hdone),
            List.filter_cons_of_pos (by simp [inBucket, hp]), h.undone]
      next hb => rw [List.filter_cons_of_neg (by simp [inBucket, hp, hb]), h.undone]
    · refine h.sorted.sublist ?_
      simpa using (List.eraseP_sublist (p := inBucket b) (l := r.active.reverse)).reverse
    · split
      next hb =>
          subst hb
          have hordered := h.ordered b
          rw [hdone] at hordered
          rw [Stacks.undo_of_concat (by simpa using hdone)]
          simpa using hordered
      next => exact h.ordered b'

theorem redo (h : r.Refines s)
    (hheld : ∀ p ∈ r.held, ∀ q ∈ r.held, p.position = q.position → p = q) (b : Bucket) :
    (r.redo b).Refines fun b' => if b = b' then (s b').redo else s b' := by
  cases hundone : (s b).undone with
  | nil =>
      have hsame : (fun b' => if b = b' then (s b').redo else s b') = s := by
        funext b'
        split
        next hb =>
            subst hb
            simp [Stacks.redo, hundone]
        next => rfl
      have hfind := h.find?_undone b
      rw [hundone] at hfind
      rw [hsame, Replay.redo, hfind]
      exact ⟨h.active, h.undone, h.sorted, h.ordered⟩
  | cons p rest =>
      have hfind : r.undone.find? (inBucket b) = some p := by
        rw [h.find?_undone b, hundone, List.head?_cons]
      obtain ⟨hpr, hp⟩ : p ∈ r.undone ∧ p.record.scenario = b :=
        h.mem_undone_iff.mp (by rw [hundone]; exact List.mem_cons_self)
      have hordered := h.ordered b
      rw [hundone] at hordered
      -- The record that comes back stands behind all of its bucket that are in effect.
      have hbelow : ∀ q ∈ (s b).done, q.position < p.position := fun q hq =>
        (List.pairwise_append.mp hordered).2.2 q hq p List.mem_cons_self
      rw [redo_of_find? hfind]
      refine ⟨fun b' => ?_, fun b' => ?_, ?_, fun b' => ?_⟩
      · rw [h.sorted.restore_eq, List.filter_append, List.filter_comm, h.active]
        split
        next hb =>
            subst hb
            rw [Stacks.redo_of_cons hundone, List.filter_cons_of_pos (by simp [inBucket, hp]),
              List.filter_comm, h.active, List.filter_eq_self.mpr (by simpa using hbelow),
              List.filter_eq_nil_iff.mpr (by simpa using hbelow)]
        next hb =>
            have hsorted : Sorted (s b').done := (List.pairwise_append.mp (h.ordered b')).1
            rw [List.filter_cons_of_neg (by simp [inBucket, hp, hb]), List.filter_comm, h.active,
              hsorted.filter_append_filter]
      · split
        next hb =>
            subst hb
            rw [Stacks.redo_of_cons hundone, filter_eraseP_self, h.undone, hundone, List.tail_cons]
        next hb => rw [filter_eraseP_of_disjoint (inBucket_eq_false hb), h.undone]
      · refine h.sorted.restore fun q hq hsame => ?_
        have hqp : q = p :=
          hheld q (List.mem_append_left _ hq) p (List.mem_append_right _ hpr) hsame
        have hlt := hbelow q (h.mem_done_iff.mpr ⟨hq, by rw [hqp, hp]⟩)
        omega
      · split
        next hb =>
            subst hb
            rw [Stacks.redo_of_cons hundone]
            simpa using hordered
        next => exact h.ordered b'

theorem reset (h : r.Refines s) (id : ScenarioId) :
    (r.reset id).Refines fun b => if some id = b then (s b).reset else s b where
  active := fun b => by
    rw [Replay.reset, List.filter_filter]
    split
    next hb =>
        subst hb
        rw [Stacks.reset, ← h.active, List.filter_filter]
        refine List.filter_congr fun p _ => ?_
        rw [Record.isCumulative_eq]
        cases inBucket (some id) p <;> simp
    next hb =>
        rw [← h.active]
        refine List.filter_congr fun p _ => ?_
        cases hp : inBucket b p with
        | false => rfl
        | true => simp [inBucket_eq_false (Ne.symm hb) p hp]
  undone := fun b => by
    rw [Replay.reset, List.filter_filter]
    split
    next hb =>
        subst hb
        rw [Stacks.reset, List.filter_eq_nil_iff]
        intro p _
        simp
    next hb =>
        rw [← h.undone]
        refine List.filter_congr fun p _ => ?_
        cases hp : inBucket b p with
        | false => rfl
        | true => simp [inBucket_eq_false (Ne.symm hb) p hp]
  sorted := h.sorted.filter _
  ordered := fun b => by
    split
    next hb =>
        rw [Stacks.reset, List.append_nil]
        exact (List.pairwise_append.mp (h.ordered b)).1.filter _
    next => exact h.ordered b

end Refines

/-- Records held at one position are one and the same. -/
theorem eq_of_mem_held {entries : List Mark} {p q : Placed} (hp : p ∈ (run entries).held)
    (hq : q ∈ (run entries).held) (h : p.position = q.position) : p = q := by
  have hrecord := getElem?_of_mem_held hp
  rw [h, getElem?_of_mem_held hq] at hrecord
  obtain ⟨position, record⟩ := p
  obtain ⟨position', record'⟩ := q
  cases h
  cases hrecord
  rfl

/-- The replay of a journal is the replays of its buckets side by side. -/
theorem refines_run (entries : List Mark) : (run entries).Refines (Stacks.run entries) := by
  induction entries using List.reverseRecOn with
  | nil => exact .start
  | append_singleton entries m ih =>
      have hrun : Stacks.run (entries ++ [m]) = fun b =>
          if m.bucket = b then (Stacks.run entries b).step entries.length m
          else Stacks.run entries b :=
        funext fun b => Stacks.run_concat entries m b
      rw [run_concat, hrun]
      cases m with
      | input record =>
          have hlt : ∀ p ∈ (run entries).active, p.position < (run entries).length := fun p hp => by
            rw [length_run]
            exact position_lt_of_mem_held (List.mem_append_left _ hp)
          have hnext := ih.input hlt record
          rw [length_run] at hnext
          exact hnext
      | undo b => exact ih.undo b
      | redo b => exact ih.redo (fun p hp q hq => eq_of_mem_held hp hq) b
      | reset s => exact ih.reset s

end Replay

/-! ## Marks of other buckets -/

namespace Stacks

/-- The records of the stacks, wherever they stand in the journal. -/
def records (s : Stacks) : List Record × List Record :=
  (s.done.map (·.record), s.undone.map (·.record))

theorem records_step {s t : Stacks} (h : s.records = t.records) (i k : Nat) (m : Mark) :
    (s.step i m).records = (t.step k m).records := by
  obtain ⟨hdone, hundone⟩ := Prod.mk.inj h
  cases m with
  | input record => simp [step, push, records, hdone]
  | undo b =>
      rcases List.eq_nil_or_concat s.done with hs | ⟨done, p, hs⟩ <;>
        rcases List.eq_nil_or_concat t.done with ht | ⟨done', q, ht⟩ <;>
          simp_all [step, undo, records]
  | redo b =>
      cases hs : s.undone <;> cases ht : t.undone <;> simp_all [step, redo, records]
  | reset id =>
      have hfilter : ∀ l : List Placed, (l.filter (·.record.kind = .achievement)).map (·.record) =
          (l.map (·.record)).filter (·.kind = .achievement) := fun l => by
        rw [List.filter_map]
        rfl
      simp only [step, reset, records, hfilter, hdone, List.map_nil]

theorem records_foldl {l l' : List (Mark × Nat)} (h : l.map Prod.fst = l'.map Prod.fst)
    {s t : Stacks} (hst : s.records = t.records) :
    (l.foldl (fun s m => s.step m.2 m.1) s).records =
      (l'.foldl (fun s m => s.step m.2 m.1) t).records := by
  induction l generalizing l' s t with
  | nil =>
      rw [List.map_nil, eq_comm, List.map_eq_nil_iff] at h
      rw [h]
      exact hst
  | cons m l ih =>
      cases l' with
      | nil => cases h
      | cons m' l' =>
          obtain ⟨hm, hl⟩ := List.cons.inj h
          refine ih hl ?_
          show (s.step m.2 m.1).records = (t.step m'.2 m'.1).records
          rw [hm]
          exact records_step hst _ _ _

theorem map_fst_marks (entries : List Mark) (b : Bucket) :
    (marks entries b).map Prod.fst = entries.filter (·.bucket = b) := by
  have hmap := List.filter_map (f := Prod.fst) (p := fun m : Mark => decide (m.bucket = b))
    (l := entries.zipIdx)
  rw [List.zipIdx_map_fst] at hmap
  exact hmap.symm

/-- The marks of other buckets do not matter. -/
theorem records_run_filter (entries : List Mark) (b : Bucket) :
    (run (entries.filter (·.bucket = b)) b).records = (run entries b).records :=
  records_foldl (by simp [map_fst_marks]) rfl

end Stacks

/-! ## Journals -/

namespace Journal

/-- The buckets in which something was recorded. -/
def buckets (j : Journal) : List Bucket := (j.inputs.map (·.scenario)).dedup

/-- A journal with the marks of one bucket only. -/
def only (j : Journal) (b : Bucket) : Journal :=
  { j with entries := j.entries.filter (·.bucket = b) }

def stacksOf (j : Journal) (b : Bucket) : Stacks := Stacks.run j.entries b

theorem refines (j : Journal) : j.replay.Refines j.stacksOf := Replay.refines_run j.entries

theorem recordsFor_eq (j : Journal) (b : Bucket) :
    j.recordsFor b = (j.stacksOf b).done.map (·.record) := by
  rw [← j.refines.active, recordsFor, active, List.filter_map]
  rfl

theorem canUndo_iff (j : Journal) (b : Bucket) :
    j.canUndo b = true ↔ (j.stacksOf b).done ≠ [] := by
  rw [← j.refines.active, canUndo, Replay.canUndo, List.any_eq_true, ne_eq,
    List.filter_eq_nil_iff]
  simp only [not_forall, not_not, exists_prop]

theorem canRedo_iff (j : Journal) (b : Bucket) :
    j.canRedo b = true ↔ (j.stacksOf b).undone ≠ [] := by
  rw [← j.refines.undone, canRedo, Replay.canRedo, List.any_eq_true, ne_eq,
    List.filter_eq_nil_iff]
  simp only [not_forall, not_not, exists_prop]

theorem push_ne (j : Journal) (m : Mark) : j.push m ≠ j := fun h => by
  have hlength := congrArg (·.entries.length) h
  simp [push] at hlength

theorem mem_active_iff (j : Journal) (p : Placed) :
    p ∈ j.replay.active ↔ p ∈ j.buckets.flatMap fun b => (j.stacksOf b).done := by
  rw [List.mem_flatMap]
  constructor
  · intro hp
    refine ⟨p.record.scenario, ?_, j.refines.mem_done_iff.mpr ⟨hp, rfl⟩⟩
    rw [buckets, List.mem_dedup]
    exact List.mem_map_of_mem (mem_inputs_of_mem_active (List.mem_map_of_mem hp))
  · rintro ⟨b, -, hp⟩
    exact (j.refines.mem_done_iff.mp hp).1

theorem nodup_of_sorted {l : List Placed} (h : Replay.Sorted l) : l.Nodup :=
  h.imp fun {p q} hlt heq => by
    rw [heq] at hlt
    exact Nat.lt_irrefl _ hlt

/-- The records in effect are those of all buckets in the order of their positions. -/
theorem active_eq_mergeSort (j : Journal) :
    j.replay.active = (j.buckets.flatMap fun b => (j.stacksOf b).done).mergeSort
      fun p q => p.position ≤ q.position := by
  have hnodup : (j.buckets.flatMap fun b => (j.stacksOf b).done).Nodup := by
    refine List.nodup_flatMap.mpr ⟨fun b _ => ?_, (List.nodup_dedup _).imp fun {b b'} hne => ?_⟩
    · exact nodup_of_sorted (List.pairwise_append.mp (j.refines.ordered b)).1
    · intro p hp hp'
      exact hne ((j.refines.mem_done_iff.mp hp).2.symm.trans (j.refines.mem_done_iff.mp hp').2)
  have hperm : j.replay.active.Perm ((j.buckets.flatMap fun b => (j.stacksOf b).done).mergeSort
      fun p q => p.position ≤ q.position) :=
    ((List.perm_ext_iff_of_nodup (nodup_of_sorted j.refines.sorted) hnodup).mpr
      j.mem_active_iff).trans (List.mergeSort_perm _ _).symm
  have hactive : j.replay.active.Pairwise fun p q => p.position ≤ q.position :=
    j.refines.sorted.imp Nat.le_of_lt
  have htrans : ∀ p q r : Placed, decide (p.position ≤ q.position) = true →
      decide (q.position ≤ r.position) = true → decide (p.position ≤ r.position) = true := by
    intro p q r hpq hqr
    rw [decide_eq_true_eq] at hpq hqr ⊢
    exact Nat.le_trans hpq hqr
  have htotal : ∀ p q : Placed,
      (decide (p.position ≤ q.position) || decide (q.position ≤ p.position)) = true := by
    intro p q
    simpa using Nat.le_total p.position q.position
  have hsorted := List.pairwise_mergeSort htrans htotal
    (j.buckets.flatMap fun b => (j.stacksOf b).done)
  refine hperm.eq_of_pairwise ?_ hactive (hsorted.imp of_decide_eq_true)
  intro p q hp hq hpq hqp
  exact Replay.eq_of_mem_held (List.mem_append_left _ hp)
    (List.mem_append_left _ (hperm.mem_iff.mpr hq)) (Nat.le_antisymm hpq hqp)

theorem undo?_eq_none_iff (j : Journal) (b : Bucket) :
    j.undo? b = none ↔ (j.stacksOf b).done = [] := by
  rw [← not_iff_not, ← ne_eq (j.stacksOf b).done, ← j.canUndo_iff, undo?]
  simp

theorem redo?_eq_none_iff (j : Journal) (b : Bucket) :
    j.redo? b = none ↔ (j.stacksOf b).undone = [] := by
  rw [← not_iff_not, ← ne_eq (j.stacksOf b).undone, ← j.canRedo_iff, redo?]
  simp

theorem getD_undo?_eq_iff (j : Journal) (b : Bucket) :
    (j.undo? b).getD j = j ↔ (j.stacksOf b).done = [] := by
  rw [← undo?_eq_none_iff, undo?]
  split
  next => simp [j.push_ne]
  next => simp

theorem getD_redo?_eq_iff (j : Journal) (b : Bucket) :
    (j.redo? b).getD j = j ↔ (j.stacksOf b).undone = [] := by
  rw [← redo?_eq_none_iff, redo?]
  split
  next => simp [j.push_ne]
  next => simp

/-- **A journal is the stacks of its buckets.** The records in effect in a bucket, and whether there
is anything to undo or redo in it, are read off its stacks; these go through the marks of the bucket
only, and the journal with no other marks gives the same. An undo or redo is refused, and leaves the
journal as it is, exactly where its stack is empty. And the records in effect in the journal are
those of all buckets in the order of their positions. -/
theorem replay_eq_stacks (j : Journal) :
    (∀ b, j.recordsFor b = (j.stacksOf b).done.map (·.record) ∧
      (j.canUndo b = true ↔ (j.stacksOf b).done ≠ []) ∧
      (j.canRedo b = true ↔ (j.stacksOf b).undone ≠ []) ∧
      ((j.undo? b = none ↔ (j.stacksOf b).done = []) ∧
        ((j.undo? b).getD j = j ↔ (j.stacksOf b).done = [])) ∧
      ((j.redo? b = none ↔ (j.stacksOf b).undone = []) ∧
        ((j.redo? b).getD j = j ↔ (j.stacksOf b).undone = []))) ∧
    (∀ b, (j.only b).recordsFor b = j.recordsFor b ∧ (j.only b).canUndo b = j.canUndo b ∧
      (j.only b).canRedo b = j.canRedo b) ∧
    j.active = ((j.buckets.flatMap fun b => (j.stacksOf b).done).mergeSort
      fun p q => p.position ≤ q.position).map (·.record) := by
  refine ⟨fun b => ⟨j.recordsFor_eq b, j.canUndo_iff b, j.canRedo_iff b,
    ⟨j.undo?_eq_none_iff b, j.getD_undo?_eq_iff b⟩,
    ⟨j.redo?_eq_none_iff b, j.getD_redo?_eq_iff b⟩⟩, fun b => ?_, ?_⟩
  · have hrecords : ((j.only b).stacksOf b).records = (j.stacksOf b).records :=
      Stacks.records_run_filter j.entries b
    obtain ⟨hdone, hundone⟩ := Prod.mk.inj hrecords
    refine ⟨?_, ?_, ?_⟩
    · rw [recordsFor_eq, recordsFor_eq, hdone]
    · have hnil := congrArg (· = []) hdone
      simp only [List.map_eq_nil_iff] at hnil
      rw [Bool.eq_iff_iff, canUndo_iff, canUndo_iff, ne_eq, ne_eq, hnil]
    · have hnil := congrArg (· = []) hundone
      simp only [List.map_eq_nil_iff] at hnil
      rw [Bool.eq_iff_iff, canRedo_iff, canRedo_iff, ne_eq, ne_eq, hnil]
  · rw [← active_eq_mergeSort]
    rfl

end Journal
end Chronicle
