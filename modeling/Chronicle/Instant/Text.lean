import Chronicle.Instant.Basic
import Chronicle.Json.Codec
import Chronicle.Text.Blank

/-!
# Moments as text

Written as date, `T`, time and `Z`, with 0, 3, 6 or 9 digits of the second's fraction, the fewest
that lose nothing. The reader takes any offset from UTC and several looser spellings: blanks
before a number or a separator, numbers of fewer digits, a fraction of any length, of which nine
digits count.
-/

namespace Chronicle.Instant

open Text

/-- Decimal digits, filled up with zeros to `width`. -/
def padded (width n : Nat) : List Char :=
  let ds := Nat.toDigits 10 n
  List.replicate (width - ds.length) '0' ++ ds

/-- Years of more than four digits and years before 0 carry a sign. -/
def yearChars (y : Int) : List Char :=
  if 0 ≤ y ∧ y ≤ 9999 then padded 4 y.toNat
  else (if y < 0 then '-' else '+') :: padded 4 y.natAbs

def fractionChars (nano : Nat) : List Char :=
  if nano = 0 then []
  else if nano % 1_000_000 = 0 then '.' :: padded 3 (nano / 1_000_000)
  else if nano % 1_000 = 0 then '.' :: padded 6 (nano / 1_000)
  else '.' :: padded 9 nano

def toText (i : Instant) : String :=
  String.ofList (yearChars i.year ++ '-' :: padded 2 i.month ++ '-' :: padded 2 i.day
    ++ 'T' :: padded 2 i.hour ++ ':' :: padded 2 i.minute ++ ':' :: padded 2 i.second
    ++ fractionChars i.nano ++ ['Z'])

/-- The digits at the head of a text, at least one and at most `width`, and the text after them. -/
def digits? (width : Nat) (cs : List Char) : Option (List Char × List Char) :=
  let ds := (cs.take width).takeWhile Char.isDigit
  if ds.isEmpty then none else some (ds, cs.drop ds.length)

def number? (width : Nat) (cs : List Char) : Option (Nat × List Char) :=
  (digits? width (dropBlank cs)).map fun (ds, rest) => (Nat.ofDigitChars 10 ds 0, rest)

/-- A year of up to four digits, or of any number of digits after a sign. -/
def year? (cs : List Char) : Option (Int × List Char) :=
  match dropBlank cs with
  | '-' :: cs =>
    (digits? cs.length cs).map fun (ds, rest) => (-(Nat.ofDigitChars 10 ds 0 : Int), rest)
  | '+' :: cs =>
    (digits? cs.length cs).map fun (ds, rest) => (Nat.ofDigitChars 10 ds 0, rest)
  | cs => (digits? 4 cs).map fun (ds, rest) => (Nat.ofDigitChars 10 ds 0, rest)

/-- What follows a separator, which blanks may precede. -/
def after? (c : Char) (cs : List Char) : Option (List Char) :=
  match dropBlank cs with
  | d :: rest => if d = c then some rest else none
  | [] => none

/-- What follows the separator of date and time. -/
def afterDate? : List Char → Option (List Char)
  | c :: rest => if c = 'T' ∨ c = 't' ∨ c = ' ' then some rest else none
  | [] => none

/-- Nanoseconds of a fraction, if there is one. -/
def fraction? : List Char → Option (Nat × List Char)
  | '.' :: cs =>
    (digits? 9 cs).map fun (ds, rest) =>
      (Nat.ofDigitChars 10 ds 0 * Nat.pow 10 (9 - ds.length), rest.dropWhile Char.isDigit)
  | cs => some (0, cs)

/-- The minutes of an offset written as two digits for the hours and two for the minutes. -/
def offsetMinutes? (cs : List Char) : Option (Nat × List Char) :=
  match cs with
  | h :: h' :: cs =>
    if h.isDigit ∧ h'.isDigit then
      match cs.dropWhile (fun c => c = ':' || isBlank c) with
      | m :: m' :: rest =>
        if m.isDigit ∧ m'.isDigit then
          let hours := Nat.ofDigitChars 10 [h, h'] 0
          let minutes := Nat.ofDigitChars 10 [m, m'] 0
          if hours < 24 ∧ minutes < 60 then some (hours * 60 + minutes, rest) else none
        else none
      | _ => none
    else none
  | _ => none

/-- How many minutes the written time is ahead of UTC. -/
def offset? (cs : List Char) : Option (Int × List Char) :=
  match cs with
  | [] => none
  | c :: rest =>
    if c = 'Z' ∨ c = 'z' then some (0, rest)
    else if (cs.take 3).map Char.toUpper = ['U', 'T', 'C'] then some (0, cs.drop 3)
    else if c = '+' then (offsetMinutes? rest).map fun (n, rest) => ((n : Int), rest)
    else if c = '-' ∨ c = '\u2212' then
      (offsetMinutes? rest).map fun (n, rest) => (-(n : Int), rest)
    else none

def ofText? (s : String) : Option Instant := do
  let (year, cs) ← year? s.toList
  let cs ← after? '-' cs
  let (month, cs) ← number? 2 cs
  let cs ← after? '-' cs
  let (day, cs) ← number? 2 cs
  let cs ← afterDate? cs
  let (hour, cs) ← number? 2 cs
  let cs ← after? ':' cs
  let (minute, cs) ← number? 2 cs
  let cs ← after? ':' cs
  let (second, cs) ← number? 2 cs
  let (nano, cs) ← fraction? cs
  let (ahead, cs) ← offset? (dropBlank cs)
  let localTime ← ofFields? year month day hour minute second nano
  if (dropBlank cs).isEmpty then
    if ahead = 0 then some localTime else localTime.addMinutes? (-ahead)
  else none

instance : Json.Codec Instant where
  encode i := .str i.toText
  decode
    | _, .str s =>
      match ofText? s with
      | some i => .ok i
      | none => .error .form
    | _, d => .error d.misfit

end Chronicle.Instant
