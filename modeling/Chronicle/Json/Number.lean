import Chronicle.Json.Basic

/-!
# Number literals

A literal is an optional minus sign, digits without a leading zero, and optionally a fraction and
an exponent. A literal of the first two parts alone is an integer, except that a negated zero
keeps its sign and so is no integer.
-/

namespace Chronicle.Json

/-- The whole number written by a list of decimal digits. -/
def natOfDigits (ds : List Char) : Nat := Nat.ofDigitChars 10 ds 0

/-- The digits at the head of a text, and what follows them. -/
def splitDigits (cs : List Char) : List Char × List Char :=
  (cs.takeWhile Char.isDigit, cs.dropWhile Char.isDigit)

/-- An exponent with its sign, when that is all that is left of a literal; nothing at all is the
exponent zero. -/
def exponent? : List Char → Option Int
  | [] => some 0
  | c :: rest =>
    if c = 'e' ∨ c = 'E' then
      let (negative, ds) := match rest with
        | '-' :: ds => (true, ds)
        | '+' :: ds => (false, ds)
        | ds => (false, ds)
      if ds.isEmpty ∨ ¬ ds.all Char.isDigit then none
      else some (if negative then -natOfDigits ds else natOfDigits ds)
    else none

/-- The number a literal without its sign denotes. -/
def unsigned? (negative : Bool) (cs : List Char) : Option Token :=
  let (whole, rest) := splitDigits cs
  if whole.isEmpty ∨ (whole.head? = some '0' ∧ whole.length ≠ 1) then none
  else
    let signed (n : Nat) : Int := if negative then -n else n
    match rest with
    | [] =>
      let n := natOfDigits whole
      some (if negative ∧ n = 0 then .real 0 0 else .int (signed n))
    | '.' :: rest =>
      let (fraction, rest) := splitDigits rest
      if fraction.isEmpty then none
      else (exponent? rest).map fun e =>
        .real (signed (natOfDigits (whole ++ fraction))) (e - fraction.length)
    | rest => (exponent? rest).map (.real (signed (natOfDigits whole)))

def number? : List Char → Option Token
  | '-' :: cs => unsigned? true cs
  | cs => unsigned? false cs

/-! ### Literals character by character -/

/-- What has been read of a literal. -/
inductive Stage where
  | sign
  | zero
  | whole
  | point
  | fraction
  | mark
  | markSign
  | exponent
  deriving DecidableEq

namespace Stage

/-- Whether a literal can end here. -/
def complete : Stage → Bool
  | zero | whole | fraction | exponent => true
  | _ => false

/-- The stage after one more character of the literal, if the character belongs to it. -/
def next? (s : Stage) (c : Char) : Option Stage :=
  match s with
  | sign => if c = '0' then some zero else if c.isDigit then some whole else none
  | zero => if c = '.' then some point else if c = 'e' ∨ c = 'E' then some mark else none
  | whole =>
    if c.isDigit then some whole
    else if c = '.' then some point
    else if c = 'e' ∨ c = 'E' then some mark
    else none
  | point => if c.isDigit then some fraction else none
  | fraction =>
    if c.isDigit then some fraction else if c = 'e' ∨ c = 'E' then some mark else none
  | mark =>
    if c = '+' ∨ c = '-' then some markSign else if c.isDigit then some exponent else none
  | markSign | exponent => if c.isDigit then some exponent else none

/-- Whether a character that does not go on with a literal may follow it. A leading zero is not
followed by another digit. -/
def endsBefore (s : Stage) (c : Char) : Bool := s.complete && !(s = zero && c.isDigit)

end Stage

/-! ### Range -/

/-- The least magnitude that is rounded beyond the largest double. -/
def overflow : Nat := Nat.pow 2 1024 - Nat.pow 2 970

/-- Whether `m * 10 ^ e` is in the range of doubles. It is below the power of ten to the number of
digits, so powers are computed only near the end of the range. -/
def inRange (m e : Int) : Bool :=
  let size := (Nat.toDigits 10 m.natAbs).length + e
  if m = 0 ∨ size < 309 then true
  else if 309 < size then false
  else if e < 0 then m.natAbs < overflow * Nat.pow 10 e.natAbs
  else m.natAbs * Nat.pow 10 e.natAbs < overflow

/-- The nearest whole number of at most 53 binary digits and zeros after them; of two that are
equally near the one whose last digit is even. -/
def roundTo53 (n : Nat) : Nat :=
  let unit := Nat.pow 2 (n.log2 + 1 - 53)
  let (q, r) := (n / unit, n % unit)
  if unit < 2 * r ∨ (2 * r = unit ∧ q % 2 = 1) then (q + 1) * unit else q * unit

/-- The digits at the head of a number that make up no more than 64 bits, and how many follow. -/
def splitSignificand (n : Nat) : Nat × Nat :=
  (Nat.toDigits 10 n).foldl (fun (p : Nat × Nat) c =>
    let m := p.1 * 10 + (c.toNat - '0'.toNat)
    if p.2 = 0 ∧ m ≤ 0xFFFFFFFFFFFFFFFF then (m, 0) else (p.1, p.2 + 1)) (0, 0)

/-- Whether `m * 10 ^ e` is in range when it is worked out in doubles: the leading digits and the
power of ten are rounded before they are multiplied. -/
def inRoundedRange (m e : Int) : Bool :=
  let (significand, dropped) := splitSignificand m.natAbs
  let e := e + dropped
  if significand = 0 ∨ e < 0 then true
  else if 308 < e then false
  else roundTo53 significand * roundTo53 (Nat.pow 10 e.toNat) < overflow

end Chronicle.Json
