import Chronicle.Number.Digits
import Chronicle.Text.Utf8

/-!
# Request targets

A target is a path and, after a question mark, a query; what follows a number sign is not part of
either. Before the path a scheme and a host may stand, and a target may also be a host alone or an
asterisk for the server as a whole. A path is cut at its slashes before the parts are decoded, so
an encoded slash does not cut. In a query a plus sign stands for a space.
-/

namespace Chronicle.Web

structure Target where
  /-- The parts of the path, still encoded. A path that begins with a slash has an empty first
  part. -/
  path : List String
  /-- Names and values, decoded. -/
  query : List (String × String)

/-- A percent sign and two hexadecimal digits stand for an octet. -/
def percentDecode : List Char → List UInt8
  | [] => []
  | ['%', a] => Text.Utf8.encode (String.ofList ['%', a])
  | '%' :: a :: b :: rest =>
    match Number.digitOf? 16 a, Number.digitOf? 16 b with
    | some h, some l => UInt8.ofNat (h * 16 + l) :: percentDecode rest
    | _, _ => 0x25 :: percentDecode (a :: b :: rest)
  | c :: rest => Text.Utf8.encode (String.singleton c) ++ percentDecode rest
  termination_by cs => cs.length

/-- A part of a path, if it decodes to a text. -/
def pathText? (s : String) : Option String := Text.Utf8.decode? (percentDecode s.toList)

def queryText (s : String) : String :=
  Text.Utf8.decode (percentDecode (s.toList.map fun c => if c = '+' then ' ' else c))

/-- A text before and after the first occurrence of a character. -/
def cut (c : Char) (s : String) : String × String :=
  let cs := s.toList
  (String.ofList (cs.takeWhile (· ≠ c)), String.ofList (cs.dropWhile (· ≠ c)).tail)

def queryPair (s : String) : String × String :=
  let (name, value) := cut '=' s
  (queryText name, queryText value)

/-- What follows a scheme, if a text begins with one. -/
def afterScheme? : List Char → Option (List Char)
  | ':' :: '/' :: '/' :: cs => some cs
  | _ :: cs => afterScheme? cs
  | [] => none

/-- A target without its scheme and host. There is no path where there is no more than a host, but
after a scheme an empty path is that of the root. -/
def origin (s : String) : String :=
  if s = "*" ∨ s.startsWith "/" then s
  else match afterScheme? s.toList with
    | some cs =>
      let rest := cs.dropWhile fun c => c ≠ '/' ∧ c ≠ '?' ∧ c ≠ '#'
      String.ofList (if rest.head? = some '/' then rest else '/' :: rest)
    | none => ""

def Target.ofText (s : String) : Target :=
  let (path, query) := cut '?' (cut '#' (origin s)).1
  ⟨path.splitOn "/", ((query.splitOn "&").filter (! ·.isEmpty)).map queryPair⟩

end Chronicle.Web
