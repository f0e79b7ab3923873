/-!
# Saturating arithmetic on 32-bit words

Sums and differences are taken in the integers and then clamped to the range of the word, so a
counter at the end of its range stays there instead of wrapping round.
-/

namespace Chronicle.Number

/-- The word nearest to an integer. -/
def clampUnsigned (n : Int) : UInt32 :=
  UInt32.ofNat (min n.toNat 0xFFFFFFFF)

def clampSigned (n : Int) : Int32 :=
  Int32.ofInt (max (-0x80000000) (min n 0x7FFFFFFF))

theorem toNat_clampUnsigned (n : Int) : (clampUnsigned n).toNat = min n.toNat 0xFFFFFFFF := by
  rw [clampUnsigned, UInt32.toNat_ofNat_of_lt']
  simp only [UInt32.size]
  omega

theorem toInt_clampSigned (n : Int) :
    (clampSigned n).toInt = max (-0x80000000) (min n 0x7FFFFFFF) := by
  rw [clampSigned, Int32.toInt_ofInt_of_le] <;> omega

/-- The sum of two unsigned words, at most `2 ^ 32 - 1`. -/
def satAdd (a b : UInt32) : UInt32 := clampUnsigned (a.toNat + b.toNat)

/-- The difference of two unsigned words, at least zero. -/
def satSub (a b : UInt32) : UInt32 := clampUnsigned (a.toNat - b.toNat : Int)

/-- An unsigned word moved by a signed one. -/
def satMove (a : UInt32) (delta : Int32) : UInt32 := clampUnsigned (a.toNat + delta.toInt)

def satAddSigned (a b : Int32) : Int32 := clampSigned (a.toInt + b.toInt)

def satSubSigned (a b : Int32) : Int32 := clampSigned (a.toInt - b.toInt)

theorem toNat_satAdd (a b : UInt32) :
    (satAdd a b).toNat = min (a.toNat + b.toNat) 0xFFFFFFFF := by
  rw [satAdd, toNat_clampUnsigned]; omega

theorem toNat_satSub (a b : UInt32) : (satSub a b).toNat = a.toNat - b.toNat := by
  have := a.toNat_lt
  rw [satSub, toNat_clampUnsigned]; omega

end Chronicle.Number
