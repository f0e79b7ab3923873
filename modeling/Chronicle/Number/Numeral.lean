import Chronicle.Number.Digits

/-!
# Numerals

A numeral is digits and nothing else, though a plus sign may come first. Leading zeros do not
matter. It is read from its beginning, so of two faults the one that comes first counts.
-/

namespace Chronicle.Number

inductive NumeralFault where
  | empty
  | notDigit
  | tooLarge
  deriving DecidableEq

def NumeralFault.message : NumeralFault → String
  | .empty => "cannot parse integer from empty string"
  | .notDigit => "invalid digit found in string"
  | .tooLarge => "number too large to fit in target type"

/-- The number so far, one digit on. -/
def addDigit (max n : Nat) (c : Char) : Except NumeralFault Nat :=
  match digitOf? 10 c with
  | none => .error .notDigit
  | some d => if max < n * 10 + d then .error .tooLarge else .ok (n * 10 + d)

/-- The number that a numeral stands for, up to `max`. -/
def ofNumeral (max : Nat) (s : String) : Except NumeralFault Nat :=
  match s.toList with
  | [] => .error .empty
  | ['+'] => .error .notDigit
  | '+' :: cs => cs.foldlM (addDigit max) 0
  | cs => cs.foldlM (addDigit max) 0

end Chronicle.Number
