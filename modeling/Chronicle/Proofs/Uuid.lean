import Chronicle.Proofs.Json.Codec
import Chronicle.Uuid
import Mathlib.Order.Lattice.Nat

/-!
# Reading an identifier that was written
-/

namespace Chronicle.Uuid

open Json Number

theorem digitOf?_digitChar {d : Nat} (h : d < 16) : digitOf? 16 (Nat.digitChar d) = some d := by
  revert d
  decide

theorem digitChar_ne_hyphen {d : Nat} (h : d < 16) : Nat.digitChar d ≠ '-' := by
  revert d
  decide

@[simp] theorem length_hexDigits (count n : Nat) : (hexDigits count n).length = count := by
  induction count generalizing n with
  | zero => rfl
  | succ count ih => rw [hexDigits, List.length_append, ih, List.length_singleton]

theorem ne_hyphen_of_mem_hexDigits {count n : Nat} {c : Char} (h : c ∈ hexDigits count n) :
    c ≠ '-' := by
  induction count generalizing n with
  | zero => cases h
  | succ count ih =>
      rw [hexDigits, List.mem_append, List.mem_singleton] at h
      rcases h with h | rfl
      · exact ih h
      · exact digitChar_ne_hyphen (Nat.mod_lt n (by decide))

theorem foldlM_hexDigits (count n start : Nat) :
    (hexDigits count n).foldlM (fun n c => (digitOf? 16 c).map (n * 16 + ·)) start =
      some (start * 16 ^ count + n % 16 ^ count) := by
  induction count generalizing n with
  | zero => simp [hexDigits, Nat.mod_one]
  | succ count ih =>
      rw [hexDigits, List.foldlM_append, ih]
      simp only [Option.bind_eq_bind, Option.bind_some, List.foldlM_cons, List.foldlM_nil,
        digitOf?_digitChar (Nat.mod_lt n (show 16 > 0 by decide)), Option.map_some, Option.pure_def]
      congr 1
      rw [Nat.pow_succ', Nat.mod_mul, Nat.add_mul, Nat.mul_assoc, Nat.mul_comm (16 ^ count) 16,
        Nat.mul_comm (n / 16 % 16 ^ count)]
      omega

theorem ofNat_value (u : Uuid) : ofNat u.value = u := by
  obtain ⟨v⟩ := u
  rw [ofNat]
  congr 1
  exact Fin.ext (Nat.mod_eq_of_lt v.isLt)

theorem ofHex?_hexDigits (u : Uuid) : ofHex? (hexDigits 32 u.value) = some u := by
  have hmod : (u.value : Nat) % 16 ^ 32 = u.value := Nat.mod_eq_of_lt u.value.isLt
  have hne : (hexDigits 32 u.value).isEmpty = false := by
    rw [List.isEmpty_eq_false_iff, ← List.length_pos_iff, length_hexDigits]
    decide
  rw [ofHex?, if_pos (length_hexDigits _ _), ofDigits?, hne]
  simp only [Bool.false_eq_true, if_false, foldlM_hexDigits, Nat.zero_mul, Nat.zero_add, hmod,
    Option.map_some, ofNat_value]

theorem length_hyphenated {cs : List Char} (h : cs.length = 32) : (hyphenated cs).length = 36 := by
  simp [hyphenated, h]

/-- Without its hyphens a written identifier is its digits. -/
theorem filter_hyphenated {cs : List Char} (h : ∀ c ∈ cs, c ≠ '-') :
    (hyphenated cs).filter (· ≠ '-') = cs := by
  have hstep : ∀ a b : List Char, (a ++ '-' :: b).filter (· ≠ '-') =
      a.filter (· ≠ '-') ++ b.filter (· ≠ '-') := fun a b => by simp
  have hall : cs.filter (· ≠ '-') = cs := by
    rw [List.filter_eq_self]
    exact fun c hc => decide_eq_true (h c hc)
  have hjoin : ∀ n k, (cs.drop n).take k ++ cs.drop (n + k) = cs.drop n := by
    intro n k
    rw [← List.drop_drop, List.take_append_drop]
  simp only [hyphenated, hstep]
  simp only [← List.filter_append, List.append_assoc, hjoin 16 4, hjoin 12 4, hjoin 8 4,
    List.take_append_drop, hall]

theorem ofText?_toText (u : Uuid) : ofText? u.toText = some u := by
  have hbare : (hyphenated (hexDigits 32 u.value)).filter (· ≠ '-') = hexDigits 32 u.value :=
    filter_hyphenated fun c => ne_hyphen_of_mem_hexDigits
  have hlength : (hyphenated (hexDigits 32 u.value)).length = 36 :=
    length_hyphenated (length_hexDigits _ _)
  have hhyphenated : ofHyphenated? (hyphenated (hexDigits 32 u.value)) = some u := by
    rw [ofHyphenated?, hbare, if_pos rfl, ofHex?_hexDigits]
  rw [ofText?, toText, String.toList_ofList, hlength, if_neg (by decide), if_pos rfl,
    hhyphenated]

theorem decode_str {o : Origin} {s : String} {u : Uuid} (h : ofText? s = some u) :
    decode o (.str s) = .ok u := by
  simp only [decode, Document.str, h]

instance : LawfulCodec Uuid := ⟨fun u _ _ => decode_str (ofText?_toText u)⟩

end Chronicle.Uuid
