import Chronicle.Json.Number

/-!
# Documents

A document is a value as it is met by a reader. Beside what a JSON value can be it may hold a fault
where its text broke off, texts that have no characters, and, in other formats, keys that are no
texts. So how a document is refused can depend on where in it the reader stops.
-/

namespace Chronicle.Json

inductive Document where
  | null
  | bool (b : Bool)
  | natural (n : Nat)
  /-- An integer with a minus sign, which a zero may have too. -/
  | negated (n : Nat)
  | real (mantissa exponent : Int)
  /-- A text, or what should be one but holds half of a surrogate pair. -/
  | text (s : Option String)
  | list (items : List Document)
  | map (members : List (Document × Document))
  /-- Nothing that can be read. -/
  | broken
  deriving Inhabited

namespace Document

def str (s : String) : Document := .text (some s)

def ofInt (n : Int) : Document := if n < 0 then .negated n.natAbs else .natural n.natAbs

mutual

/-- A value in memory as a document. -/
def ofJson : Json → Document
  | .null => .null
  | .bool b => .bool b
  | .int n => .ofInt n
  | .real m e => .real m e
  | .str s => .str s
  | .arr items => .list (ofItems items)
  | .obj members => .map (ofMembers members)

def ofItems : List Json → List Document
  | [] => []
  | j :: rest => ofJson j :: ofItems rest

def ofMembers : List (String × Json) → List (Document × Document)
  | [] => []
  | (k, j) :: rest => (.str k, ofJson j) :: ofMembers rest

end

mutual

/-- The value of a document that is one. -/
def json? : Document → Option Json
  | .null => some .null
  | .bool b => some (.bool b)
  | .natural n => some (.int n)
  | .negated n => some (.int (-n))
  | .real m e => some (.real m e)
  | .text s => s.map .str
  | .list items => (jsonItems? items).map .arr
  | .map members => (jsonMembers? members).map .obj
  | .broken => none

def jsonItems? : List Document → Option (List Json)
  | [] => some []
  | d :: rest => d.json?.bind fun j => (jsonItems? rest).map (j :: ·)

def jsonMembers? : List (Document × Document) → Option (List (String × Json))
  | [] => some []
  | (.text (some k), d) :: rest =>
    d.json?.bind fun j => (jsonMembers? rest).map ((k, j) :: ·)
  | _ :: _ => none

end

mutual

/-- Whether nothing in a document is broken. That is all that is asked of what nobody looks at. -/
def isSound : Document → Bool
  | .list items => areSound items
  | .map members => membersSound members
  | .broken => false
  | _ => true

def areSound : List Document → Bool
  | [] => true
  | d :: rest => d.isSound && areSound rest

def membersSound : List (Document × Document) → Bool
  | [] => true
  | (k, d) :: rest => k.isSound && d.isSound && membersSound rest

end

/-- Whether a document is in range if it is a number. -/
def numberFits : Document → Bool
  | .natural n | .negated n => n ≤ 0xFFFFFFFFFFFFFFFF || inRoundedRange n 0
  | .real m e => inRoundedRange m e
  | _ => true

/-- Whether a document can be kept: it can be read to its end, its texts have characters, its
numbers are in range, and no more than `room` containers are open at once anywhere in it. -/
def fits : Nat → Document → Bool
  | _, .broken | _, .text none => false
  | room + 1, .list items => items.all (fits room)
  | room + 1, .map members => members.all fun m => fits room m.1 && fits room m.2
  | 0, .list _ | 0, .map _ => false
  | _, d => d.numberFits

end Document
end Chronicle.Json
