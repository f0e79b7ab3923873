import Chronicle.Json.Document
import Chronicle.Number.Digits

/-!
# YAML values

A scalar is a text, written plain or in quotes. What a plain scalar denotes depends on who asks:
under the core schema some plain texts are null, truth values or numbers, and all others are
themselves. A quoted text is always itself.
-/

namespace Chronicle.Yaml

open Json

structure Scalar where
  text : String
  plain : Bool
  deriving DecidableEq

/-- Anything can be a key. -/
inductive Node where
  | scalar (s : Scalar)
  | list (items : List Node)
  | map (members : List (Node × Node))
  deriving Inhabited

/-- What stands where nothing is written. -/
def Scalar.empty : Scalar := ⟨"", true⟩

def Node.empty : Node := .scalar .empty

/-! ### The core schema -/

def isNullText (s : String) : Bool := ["", "null", "Null", "NULL", "~"].contains s

def bool? (s : String) : Option Bool :=
  if ["true", "True", "TRUE"].contains s then some true
  else if ["false", "False", "FALSE"].contains s then some false
  else none

/-- Digits after a leading zero make no number. -/
def isPadded (cs : List Char) : Bool :=
  cs.head? = some '0' ∧ cs.length ≠ 1 ∧ cs.all Char.isDigit

/-- A number without a sign. -/
def nat? : List Char → Option Nat
  | '0' :: 'x' :: cs => Number.ofDigits? 16 cs
  | '0' :: 'o' :: cs => Number.ofDigits? 8 cs
  | '0' :: 'b' :: cs => Number.ofDigits? 2 cs
  | cs => if isPadded cs then none else Number.ofDigits? 10 cs

/-- A number with or without a plus sign. -/
def natural? : List Char → Option Nat
  | '+' :: cs => nat? cs
  | cs => nat? cs

/-- A number with a minus sign. -/
def negated? : List Char → Option Nat
  | '-' :: cs => nat? cs
  | _ => none

/-- What follows the sign, if there is one. -/
def dropSign : List Char → List Char
  | '-' :: cs => cs
  | '+' :: cs => cs
  | cs => cs

/-- A decimal number in the range of doubles, written with a fraction or an exponent or simply too
long for an integer. -/
def isDecimal (cs : List Char) : Bool :=
  let (whole, rest) := splitDigits cs
  let (fraction, rest) := match rest with
    | '.' :: rest => splitDigits rest
    | rest => ([], rest)
  let digits := whole ++ fraction
  !isPadded cs && !digits.isEmpty && match exponent? rest with
    | some e => inRange (natOfDigits digits) (e - fraction.length)
    | none => false

/-- A decimal number, infinity, or the text for what is no number, which has no sign. -/
def isReal (cs : List Char) : Bool :=
  isDecimal (dropSign cs)
    || [".inf", ".Inf", ".INF"].contains (String.ofList (dropSign cs))
    || [".nan", ".NaN", ".NAN"].contains (String.ofList cs)

/-- An integer, which can be kept if it has no more than 64 bits. One that has more than 128 is no
integer any more. -/
def integer? (cs : List Char) : Option Document :=
  match natural? cs, negated? cs with
  | some n, _ =>
    if n.log2 < 64 then some (.natural n) else if n.log2 < 128 then some .broken else none
  | none, some n =>
    if n ≤ 0x8000000000000000 then some (.negated n)
    else if n ≤ 0x80000000000000000000000000000000 then some .broken
    else none
  | none, none => none

/-- What a scalar denotes under the core schema. Of a number that is no integer only that much is
kept. -/
def Scalar.value (s : Scalar) : Document :=
  if !s.plain then .str s.text
  else if isNullText s.text then .null
  else match bool? s.text, integer? s.text.toList with
    | some b, _ => .bool b
    | none, some d => d
    | none, none => if isReal s.text.toList then .real 0 0 else .str s.text

end Chronicle.Yaml
