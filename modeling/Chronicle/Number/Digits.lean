/-!
# Digits

Numbers written in a base of up to 36, where the letters of either case go on after nine.
-/

namespace Chronicle.Number

def digit? (c : Char) : Option Nat :=
  if '0' ≤ c ∧ c ≤ '9' then some (c.toNat - '0'.toNat)
  else if 'a' ≤ c ∧ c ≤ 'z' then some (c.toNat - 'a'.toNat + 10)
  else if 'A' ≤ c ∧ c ≤ 'Z' then some (c.toNat - 'A'.toNat + 10)
  else none

/-- The value of a character that is a digit of a base. -/
def digitOf? (base : Nat) (c : Char) : Option Nat :=
  (digit? c).bind fun d => if d < base then some d else none

/-- The number that a non-empty list of digits stands for. -/
def ofDigits? (base : Nat) (cs : List Char) : Option Nat :=
  if cs.isEmpty then none
  else cs.foldlM (fun n c => (digitOf? base c).map (n * base + ·)) 0

end Chronicle.Number
