/-!
# Dictionaries ordered by key

A dictionary is a list of entries whose keys increase strictly, so two dictionaries with the same
lookups are equal and walking the entries walks the keys in order.
-/

namespace Chronicle

structure Dict (α β : Type) [Ord α] where
  entries : List (α × β)
  sorted : entries.Pairwise (fun a b => compare a.1 b.1 = .lt) := by simp
  deriving DecidableEq

namespace Dict

variable {α β γ : Type} [Ord α]

@[ext] theorem ext {d e : Dict α β} (h : d.entries = e.entries) : d = e := by
  cases d; cases e; simp_all

def empty : Dict α β := ⟨[], by simp⟩

instance : Inhabited (Dict α β) := ⟨empty⟩
instance : EmptyCollection (Dict α β) := ⟨empty⟩

def keys (d : Dict α β) : List α := d.entries.map Prod.fst
def values (d : Dict α β) : List β := d.entries.map Prod.snd

/-- The value of the first entry whose key compares equal to `k`. -/
def find (k : α) : List (α × β) → Option β
  | [] => none
  | (k', v) :: rest => if compare k k' = .eq then some v else find k rest

def get? (d : Dict α β) (k : α) : Option β := find k d.entries

def contains (d : Dict α β) (k : α) : Bool := (d.get? k).isSome

/-- One pass: the entry goes before the first larger key, or replaces the entry of its own key. -/
def put (k : α) (v : β) : List (α × β) → List (α × β)
  | [] => [(k, v)]
  | (k', v') :: rest =>
    match compare k k' with
    | .lt => (k, v) :: (k', v') :: rest
    | .eq => (k, v) :: rest
    | .gt => (k', v') :: put k v rest

theorem mem_put {k : α} {v : β} {a : α × β} {l : List (α × β)} (h : a ∈ put k v l) :
    a = (k, v) ∨ a ∈ l := by
  induction l with
  | nil => simp_all [put]
  | cons e rest ih =>
    obtain ⟨k', v'⟩ := e
    rw [put] at h
    split at h <;> grind

theorem sorted_put [Std.TransOrd α] (k : α) (v : β) {l : List (α × β)}
    (h : l.Pairwise (fun a b => compare a.1 b.1 = .lt)) :
    (put k v l).Pairwise (fun a b => compare a.1 b.1 = .lt) := by
  induction l with
  | nil => simp [put]
  | cons e rest ih =>
    obtain ⟨k', v'⟩ := e
    rw [List.pairwise_cons] at h
    rw [put]
    split
    next hlt =>
      refine List.pairwise_cons.2 ⟨fun a ha => ?_, List.pairwise_cons.2 h⟩
      rcases List.mem_cons.1 ha with rfl | ha
      · exact hlt
      · exact Std.TransCmp.lt_trans hlt (h.1 a ha)
    next heq =>
      refine List.pairwise_cons.2 ⟨fun a ha => ?_, h.2⟩
      exact (Std.TransCmp.congr_left heq).trans (h.1 a ha)
    next hgt =>
      refine List.pairwise_cons.2 ⟨fun a ha => ?_, ih h.2⟩
      rcases mem_put ha with rfl | ha
      · exact Std.OrientedCmp.gt_iff_lt.1 hgt
      · exact h.1 a ha

variable [Std.TransOrd α]

def insert (d : Dict α β) (k : α) (v : β) : Dict α β :=
  ⟨put k v d.entries, sorted_put k v d.sorted⟩

def erase (d : Dict α β) (k : α) : Dict α β :=
  ⟨d.entries.filter (fun e => compare k e.1 ≠ .eq), d.sorted.filter _⟩

/-- Writes every pair in turn, so the last value given for a key stays. -/
def ofList (l : List (α × β)) : Dict α β :=
  l.foldl (fun d e => d.insert e.1 e.2) empty

def getD (d : Dict α β) (k : α) (default : β) : β := (d.get? k).getD default

omit [Std.TransOrd α] in
theorem pairwise_map {l : List (α × β)} (f : α → β → γ)
    (h : l.Pairwise (fun a b => compare a.1 b.1 = .lt)) :
    (l.map fun e => (e.1, f e.1 e.2)).Pairwise (fun a b => compare a.1 b.1 = .lt) := by
  rw [List.pairwise_map]; exact h

omit [Std.TransOrd α] in
/-- Changes the values and keeps the keys. -/
def mapValues (d : Dict α β) (f : α → β → γ) : Dict α γ :=
  ⟨d.entries.map fun e => (e.1, f e.1 e.2), pairwise_map f d.sorted⟩

/-- Changes the value of `k`, which counts as `default` while it has none. -/
def alter (d : Dict α β) (k : α) (default : β) (f : β → β) : Dict α β :=
  d.insert k (f (d.getD k default))

/-- Changes the value of `k` if it has one. -/
def modify (d : Dict α β) (k : α) (f : β → β) : Dict α β :=
  match d.get? k with
  | some v => d.insert k (f v)
  | none => d

end Dict
end Chronicle
