import Chronicle.Instant.Basic

/-!
# The order of moments

Moments are ordered linearly, and only equal moments are of one time.
-/

namespace Chronicle.Instant

theorem key_injective {a b : Instant} (h : a.key = b.key) : a = b := by
  cases a
  cases b
  simp only [key, List.cons.injEq, Int.natCast_inj, and_true] at h
  simp [h]

instance : Std.LawfulEqOrd Instant where
  compare_self {a} := by
    show compare a.key a.key = .eq
    exact Std.ReflCmp.compare_self
  eq_of_compare {a b} h := key_injective (Std.LawfulEqOrd.eq_of_compare (a := a.key) h)

instance : Std.TransOrd Instant where
  eq_swap {a b} := by
    show compare a.key b.key = (compare b.key a.key).swap
    exact Std.OrientedCmp.eq_swap
  isLE_trans {a b c} := by
    show (compare a.key b.key).isLE → (compare b.key c.key).isLE → (compare a.key c.key).isLE
    exact Std.TransCmp.isLE_trans

theorem le_trans {a b c : Instant} (hab : a.le b = true) (hbc : b.le c = true) :
    a.le c = true :=
  Std.TransCmp.isLE_trans hab hbc

theorem le_total (a b : Instant) : (a.le b || b.le a) = true := by
  have hswap : compare b a = (compare a b).swap := Std.OrientedCmp.eq_swap
  rw [le, le, hswap]
  cases compare a b <;> rfl

theorem le_refl (a : Instant) : a.le a = true := by
  simpa using le_total a a

theorem le_antisymm {a b : Instant} (hab : a.le b = true) (hba : b.le a = true) : a = b :=
  Std.LawfulEqOrd.eq_of_compare (Std.OrientedCmp.isLE_antisymm hab hba)

end Chronicle.Instant
