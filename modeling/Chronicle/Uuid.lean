import Chronicle.Json.Codec
import Chronicle.Number.Digits

/-!
# Universally unique identifiers

Written as 32 lower-case hexadecimal digits in groups of 8, 4, 4, 4 and 12. They are also read
without hyphens, in braces, as a `urn:uuid:`, and with digits in either case.
-/

namespace Chronicle

structure Uuid where
  value : Fin 0x100000000000000000000000000000000
  deriving DecidableEq

namespace Uuid

instance : Ord Uuid := ⟨fun a b => compare a.value b.value⟩

instance : Std.LawfulEqOrd Uuid where
  compare_self {a} := by
    show compare a.value a.value = .eq
    exact Std.ReflCmp.compare_self
  eq_of_compare {a b} h := by
    cases a; cases b
    exact congrArg mk (Std.LawfulEqOrd.eq_of_compare h)

instance : Std.TransOrd Uuid where
  eq_swap {a b} := by
    show compare a.value b.value = (compare b.value a.value).swap
    exact Std.OrientedCmp.eq_swap
  isLE_trans {a b c} := by
    show (compare a.value b.value).isLE → (compare b.value c.value).isLE →
      (compare a.value c.value).isLE
    exact Std.TransCmp.isLE_trans

def nil : Uuid := ⟨0⟩

instance : Inhabited Uuid := ⟨nil⟩

/-- The id with a number, counted round from zero again once the ids are used up. -/
def ofNat (n : Nat) : Uuid :=
  ⟨⟨n % 0x100000000000000000000000000000000, Nat.mod_lt n (by decide)⟩⟩

/-- The digits of a value that has `count` of them, most significant first. -/
def hexDigits : Nat → Nat → List Char
  | 0, _ => []
  | count + 1, n => hexDigits count (n / 16) ++ [Nat.digitChar (n % 16)]

def hyphenated (cs : List Char) : List Char :=
  cs.take 8 ++ '-' :: (cs.drop 8).take 4 ++ '-' :: (cs.drop 12).take 4
    ++ '-' :: (cs.drop 16).take 4 ++ '-' :: cs.drop 20

def toText (u : Uuid) : String := String.ofList (hyphenated (hexDigits 32 u.value))

def ofHex? (cs : List Char) : Option Uuid :=
  if cs.length = 32 then (Number.ofDigits? 16 cs).map ofNat else none

def ofHyphenated? (cs : List Char) : Option Uuid :=
  let bare := cs.filter (· ≠ '-')
  if hyphenated bare = cs then ofHex? bare else none

/-- The text between a pair of braces. -/
def unbraced? : List Char → Option (List Char)
  | '\x7b' :: rest => if rest.getLast? = some '\x7d' then some rest.dropLast else none
  | _ => none

def ofText? (s : String) : Option Uuid :=
  let cs := s.toList
  if cs.length = 32 then ofHex? cs
  else if cs.length = 36 then ofHyphenated? cs
  else if cs.length = 38 then (unbraced? cs).bind ofHyphenated?
  else if cs.take 9 = "urn:uuid:".toList ∨ cs.take 9 = "URN:UUID:".toList then
    ofHyphenated? (cs.drop 9)
  else none

instance : Json.Codec Uuid where
  encode u := .str u.toText
  decode
    | _, .str s =>
      match ofText? s with
      | some u => .ok u
      | none => .error .form
    | _, d => .error d.misfit

end Uuid
end Chronicle
