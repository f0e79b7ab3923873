import Chronicle.Json.Codec
import Chronicle.Proofs.Json.Codec

/-!
# How deeply values are nested

A text is read only if it is not nested too deeply and its numbers are in range. How deeply what is
written of a type can be nested goes by the type, and integers of a fixed width are in range.
-/

namespace Chronicle.Json

namespace Document

/-- What is no container fits anywhere or nowhere. -/
theorem fits_of_leaf {d : Document} (hlist : ∀ items, d ≠ .list items)
    (hmap : ∀ members, d ≠ .map members) (room : Nat) : d.fits room = d.fits 0 := by
  cases d with
  | list items => exact absurd rfl (hlist items)
  | map members => exact absurd rfl (hmap members)
  | text s => cases s <;> cases room <;> rfl
  | _ => cases room <;> rfl

/-- What fits fits where there is more room. -/
theorem fits_mono {d : Document} {room more : Nat} (h : d.fits room = true) (hle : room ≤ more) :
    d.fits more = true := by
  induction room generalizing d more with
  | zero =>
      cases d with
      | list items => cases h
      | map members => cases h
      | _ => rwa [fits_of_leaf (fun _ => Document.noConfusion) fun _ => Document.noConfusion]
  | succ room ih =>
      obtain ⟨more, rfl⟩ := Nat.exists_eq_succ_of_ne_zero (Nat.ne_zero_of_lt hle)
      replace hle : room ≤ more := Nat.le_of_succ_le_succ hle
      cases d with
      | list items =>
          rw [fits, List.all_eq_true] at h ⊢
          exact fun d hd => ih (h d hd) hle
      | map members =>
          simp only [fits, List.all_eq_true, Bool.and_eq_true] at h ⊢
          exact fun m hm => ⟨ih (h m hm).1 hle, ih (h m hm).2 hle⟩
      | _ =>
          rw [fits_of_leaf (fun _ => Document.noConfusion) fun _ => Document.noConfusion] at h ⊢
          exact h

theorem fits_ofInt {n : Int} (h : n.natAbs ≤ 0xFFFFFFFFFFFFFFFF) (room : Nat) :
    (ofInt n).fits room = true := by
  unfold ofInt
  split <;> simp [fits, numberFits, h]

end Document

/-- What is written of a type opens at most `depth` containers at once, and can be read from a text
that has room for these. -/
class Nested (α : Type) [Codec α] (depth : outParam Nat) : Prop where
  fits_encode (a : α) : (Document.ofJson (encode a)).fits depth = true

theorem fits_encode {α : Type} [Codec α] {depth room : Nat} [Nested α depth] (h : depth ≤ room)
    (a : α) : (Document.ofJson (encode a)).fits room = true :=
  Document.fits_mono (Nested.fits_encode a) h

theorem fits_str (s : String) (room : Nat) : (Document.ofJson (.str s)).fits room = true := by
  cases room <;> rfl

instance : Nested Bool 0 := ⟨fun _ => rfl⟩

instance : Nested String 0 := ⟨fun _ => rfl⟩

instance : Nested UInt32 0 where
  fits_encode n := by
    have hlt := n.toNat_lt
    exact Document.fits_ofInt (by omega) 0

instance : Nested UInt64 0 where
  fits_encode n := by
    have hlt := n.toNat_lt
    exact Document.fits_ofInt (by omega) 0

instance : Nested Int32 0 where
  fits_encode n := by
    have hlt := n.toInt_lt
    have hge := n.le_toInt
    exact Document.fits_ofInt (by omega) 0

variable {α : Type} [Codec α] {depth : Nat} [Nested α depth]

instance : Nested (Option α) depth where
  fits_encode a := by
    cases a with
    | none => cases depth <;> rfl
    | some a => exact Nested.fits_encode a

instance : Nested (List α) (depth + 1) where
  fits_encode l := by
    show (Document.list (Document.ofItems (l.map encode))).fits (depth + 1) = true
    rw [Document.ofItems_eq_map, Document.fits, List.all_eq_true]
    intro d hd
    simp only [List.map_map, List.mem_map] at hd
    obtain ⟨a, -, rfl⟩ := hd
    exact Nested.fits_encode a

/-- An object needs room for itself around what its members need. -/
theorem fits_obj {members : List (String × Json)} {room : Nat}
    (h : ∀ m ∈ members, (Document.ofJson m.2).fits room = true) :
    (Document.ofJson (.obj members)).fits (room + 1) = true := by
  rw [Document.ofJson, Document.ofMembers_eq_map, Document.fits, List.all_eq_true]
  intro d hd
  obtain ⟨m, hm, rfl⟩ := List.mem_map.mp hd
  exact Bool.and_eq_true_iff.mpr ⟨fits_str m.1 room, h m hm⟩

instance {κ : Type} [Ord κ] [Std.TransOrd κ] [KeyText κ] : Nested (Dict κ α) (depth + 1) where
  fits_encode d := by
    refine fits_obj fun m hm => ?_
    obtain ⟨e, -, rfl⟩ := List.mem_map.mp hm
    exact Nested.fits_encode e.2

end Chronicle.Json
