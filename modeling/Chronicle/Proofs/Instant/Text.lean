import Chronicle.Instant.Text
import Chronicle.Proofs.Json.Codec
import Mathlib.Algebra.Group.Nat.Defs

/-!
# Reading a moment that was written

What is written of a moment is read back as the same moment, for every year of the calendar and for
leap seconds too.
-/

namespace Chronicle.Instant

open Text Json

/-! ## Digits -/

theorem isDigit_of_mem_padded {width n : Nat} {c : Char} (h : c ∈ padded width n) :
    c.isDigit = true := by
  rw [padded, List.mem_append, List.mem_replicate] at h
  rcases h with ⟨-, rfl⟩ | h
  · rfl
  · exact Nat.isDigit_of_mem_toDigits (by decide) (by decide) h

theorem padded_ne_nil (width n : Nat) : padded width n ≠ [] :=
  List.append_ne_nil_of_right_ne_nil _ Nat.toDigits_ne_nil

theorem length_padded_of_lt {width n : Nat} (h : n < 10 ^ width) (hw : 0 < width) :
    (padded width n).length = width := by
  have hlen : (Nat.toDigits 10 n).length ≤ width :=
    (Nat.length_toDigits_le_iff (by decide) hw).mpr h
  rw [padded, List.length_append, List.length_replicate]
  omega

theorem ofDigitChars_padded (width n : Nat) : Nat.ofDigitChars 10 (padded width n) 0 = n := by
  rw [padded, Nat.ofDigitChars_append, Nat.ofDigitChars_replicate_zero, Nat.mul_zero,
    Nat.ofDigitChars_ten_toDigits]

theorem isBlank_of_isDigit {c : Char} (h : c.isDigit = true) : isBlank c = false := by
  simp only [Char.isDigit, Bool.and_eq_true, decide_eq_true_eq, ge_iff_le,
    UInt32.le_iff_toNat_le] at h
  have hlow : 48 ≤ c.toNat := h.1
  have hhigh : c.toNat ≤ 57 := h.2
  simp only [isBlank, Bool.or_eq_false_iff, Bool.and_eq_false_iff, decide_eq_false_iff_not,
    beq_eq_false_iff_ne]
  omega

theorem dropBlank_cons {c : Char} (h : isBlank c = false) (rest : List Char) :
    dropBlank (c :: rest) = c :: rest := by
  rw [dropBlank, List.dropWhile_cons, h]
  rfl

theorem dropBlank_padded (width n : Nat) (rest : List Char) :
    dropBlank (padded width n ++ rest) = padded width n ++ rest := by
  obtain ⟨c, cs, hcs⟩ := List.exists_cons_of_ne_nil (padded_ne_nil width n)
  have hc : c ∈ padded width n := hcs ▸ List.mem_cons_self
  rw [hcs, List.cons_append]
  exact dropBlank_cons (isBlank_of_isDigit (isDigit_of_mem_padded hc)) _

/-- Digits are read up to the width or to something else than a digit. -/
theorem digits?_padded {limit width n : Nat} {rest : List Char}
    (hlimit : (padded width n).length ≤ limit)
    (hrest : (padded width n).length = limit ∨ ∀ c ∈ rest.head?, c.isDigit = false) :
    digits? limit (padded width n ++ rest) = some (padded width n, rest) := by
  have hall : ∀ c ∈ padded width n, c.isDigit = true := fun c => isDigit_of_mem_padded
  have hmore : (rest.take (limit - (padded width n).length)).takeWhile Char.isDigit = [] := by
    rcases hrest with hlen | hhead
    · rw [hlen, Nat.sub_self, List.take_zero, List.takeWhile_nil]
    · cases rest with
      | nil => rw [List.take_nil, List.takeWhile_nil]
      | cons c rest =>
          have hc : c.isDigit = false := hhead c rfl
          cases limit - (padded width n).length with
          | zero => rfl
          | succ k => rw [List.take_succ_cons, List.takeWhile_cons, hc]; rfl
  have htake : ((padded width n ++ rest).take limit).takeWhile Char.isDigit = padded width n := by
    rw [List.take_append, List.take_of_length_le hlimit, List.takeWhile_append_of_pos hall, hmore,
      List.append_nil]
  have hne : (padded width n).isEmpty = false := by
    rw [List.isEmpty_eq_false_iff]
    exact padded_ne_nil width n
  simp only [digits?, htake, hne, List.drop_left]
  rfl

theorem number?_padded {n : Nat} (h : n < 100) (rest : List Char) :
    number? 2 (padded 2 n ++ rest) = some (n, rest) := by
  have hlen : (padded 2 n).length = 2 := length_padded_of_lt h (by decide)
  rw [number?, dropBlank_padded, digits?_padded (Nat.le_of_eq hlen) (Or.inl hlen)]
  simp only [Option.map_some, ofDigitChars_padded]

theorem after?_cons {c : Char} (h : isBlank c = false) (rest : List Char) :
    after? c (c :: rest) = some rest := by
  rw [after?, dropBlank_cons h]
  exact if_pos rfl

/-! ## Years and fractions -/

theorem year?_yearChars (y : Int) (rest : List Char) :
    year? (yearChars y ++ '-' :: rest) = some (y, '-' :: rest) := by
  have hstop : ∀ c ∈ ('-' :: rest).head?, c.isDigit = false := by
    rintro c hc
    cases hc
    rfl
  have hsigned : ∀ n, digits? (padded 4 n ++ '-' :: rest).length (padded 4 n ++ '-' :: rest) =
      some (padded 4 n, '-' :: rest) := by
    intro n
    refine digits?_padded ?_ (Or.inr hstop)
    rw [List.length_append]
    omega
  unfold yearChars
  split
  next h =>
      have hlen : (padded 4 y.toNat).length = 4 :=
        length_padded_of_lt (by omega) (by decide)
      have hdigits := digits?_padded (Nat.le_of_eq hlen) (Or.inr hstop)
      obtain ⟨c, cs, hcs⟩ := List.exists_cons_of_ne_nil (padded_ne_nil 4 y.toNat)
      have hc : c.isDigit = true := isDigit_of_mem_padded (hcs ▸ List.mem_cons_self)
      have hneg : c ≠ '-' := by rintro rfl; cases hc
      have hpos : c ≠ '+' := by rintro rfl; cases hc
      rw [year?, dropBlank_padded]
      split
      next heq => rw [hcs] at heq; exact absurd (List.cons.inj heq).1 hneg
      next heq => rw [hcs] at heq; exact absurd (List.cons.inj heq).1 hpos
      next =>
          rw [hdigits]
          simp only [Option.map_some, ofDigitChars_padded, Int.toNat_of_nonneg h.1]
  next h =>
      split
      next hneg =>
          rw [List.cons_append, year?, dropBlank_cons (by decide)]
          simp only [hsigned, Option.map_some, ofDigitChars_padded]
          congr 2
          omega
      next hpos =>
          rw [List.cons_append, year?, dropBlank_cons (by decide)]
          simp only [hsigned, Option.map_some, ofDigitChars_padded]
          congr 2
          omega

theorem fraction?_padded {width n : Nat} (hw : 0 < width) (hwidth : width ≤ 9)
    (h : n < 10 ^ width) :
    fraction? ('.' :: (padded width n ++ ['Z'])) = some (n * 10 ^ (9 - width), ['Z']) := by
  have hlen : (padded width n).length = width := length_padded_of_lt h hw
  have hstop : ∀ c ∈ ['Z'].head?, c.isDigit = false := by
    rintro c hc
    cases hc
    rfl
  rw [fraction?, digits?_padded (by omega) (Or.inr hstop)]
  simp only [Option.map_some, ofDigitChars_padded, hlen]
  rfl

theorem fraction?_fractionChars {nano : Nat} (h : nano < 1_000_000_000) :
    fraction? (fractionChars nano ++ ['Z']) = some (nano, ['Z']) := by
  unfold fractionChars
  split
  next hzero => subst hzero; rfl
  next =>
      split
      next hmod =>
          rw [List.cons_append, fraction?_padded (by decide) (by decide) (by omega)]
          congr 2
          omega
      next =>
          split
          next hmod =>
              rw [List.cons_append, fraction?_padded (by decide) (by decide) (by omega)]
              congr 2
              omega
          next =>
              rw [List.cons_append, fraction?_padded (by decide) (by decide) (by omega)]
              congr 2
              omega

theorem ofFields?_self (i : Instant) :
    ofFields? i.year i.month i.day i.hour i.minute i.second i.nano = some i :=
  dif_pos i.valid

theorem daysInMonth_le (year : Int) (month : Nat) : daysInMonth year month ≤ 31 := by
  unfold daysInMonth
  split
  · split <;> decide
  · split <;> decide

theorem ofText?_toText (i : Instant) : ofText? i.toText = some i := by
  obtain ⟨-, hmonth, hday, hhour, hminute, hsecond, hnano⟩ := i.valid
  have hdays := daysInMonth_le i.year i.month
  have hdash : isBlank '-' = false := by decide
  have hcolon : isBlank ':' = false := by decide
  have hoffset : offset? (dropBlank ['Z']) = some (0, []) := by decide
  rw [ofText?, toText, String.toList_ofList]
  simp only [List.append_assoc, List.cons_append]
  -- The reader takes up what was written piece by piece.
  refine Option.bind_eq_some_iff.mpr ⟨_, year?_yearChars _ _, ?_⟩
  refine Option.bind_eq_some_iff.mpr ⟨_, after?_cons hdash _, ?_⟩
  refine Option.bind_eq_some_iff.mpr ⟨_, number?_padded (by omega) _, ?_⟩
  refine Option.bind_eq_some_iff.mpr ⟨_, after?_cons hdash _, ?_⟩
  refine Option.bind_eq_some_iff.mpr ⟨_, number?_padded (by omega) _, ?_⟩
  refine Option.bind_eq_some_iff.mpr ⟨_, rfl, ?_⟩
  refine Option.bind_eq_some_iff.mpr ⟨_, number?_padded (by omega) _, ?_⟩
  refine Option.bind_eq_some_iff.mpr ⟨_, after?_cons hcolon _, ?_⟩
  refine Option.bind_eq_some_iff.mpr ⟨_, number?_padded (by omega) _, ?_⟩
  refine Option.bind_eq_some_iff.mpr ⟨_, after?_cons hcolon _, ?_⟩
  refine Option.bind_eq_some_iff.mpr ⟨_, number?_padded (by omega) _, ?_⟩
  refine Option.bind_eq_some_iff.mpr ⟨_, fraction?_fractionChars hnano, ?_⟩
  refine Option.bind_eq_some_iff.mpr ⟨_, hoffset, ?_⟩
  exact Option.bind_eq_some_iff.mpr ⟨_, ofFields?_self i, rfl⟩

theorem decode_str {o : Origin} {s : String} {i : Instant} (h : ofText? s = some i) :
    decode o (.str s) = .ok i := by
  simp only [decode, Document.str, h]

instance : LawfulCodec Instant := ⟨fun i _ _ => decode_str (ofText?_toText i)⟩

end Chronicle.Instant
