import Chronicle.Yaml.Basic

/-!
# Scalars in a text

A scalar may go on over several lines. One line break then becomes a space and each further one a
line break, and the blanks around them are dropped. Each reader below takes the text from the
place it stands at and returns the scalar and what follows it, or nothing where the scalar is
faulty.
-/

namespace Chronicle.Yaml

/-! ### Characters and places -/

def isBreak (c : Char) : Bool := c = '\n' || c = '\u2028' || c = '\u2029'

def isBlank (c : Char) : Bool := c = ' ' || c = '\t'

def isSpace (c : Char) : Bool := isBlank c || isBreak c

def isBracketOrComma (c : Char) : Bool :=
  c = ',' || c = '[' || c = ']' || c = '\x7b' || c = '\x7d'

/-- Whether white space or the end follows. -/
def atSpace (cs : List Char) : Bool := cs.head?.all isSpace

/-- The line and column of a character, and how many octets come before it on its line. -/
structure Place where
  line : Nat
  column : Nat
  octets : Nat

def Place.after (p : Place) (c : Char) : Place :=
  if isBreak c then ⟨p.line + 1, 0, 0⟩ else ⟨p.line, p.column + 1, p.octets + c.utf8Size⟩

/-- Three dashes or dots at the very start of a line, which begin or end a document. -/
def isMarker (p : Place) (cs : List Char) : Bool :=
  p.column = 0 && match cs with
    | '-' :: '-' :: '-' :: cs => atSpace cs
    | '.' :: '.' :: '.' :: cs => atSpace cs
    | _ => false

/-! ### White space inside a scalar -/

/-- The white space last read. -/
inductive Gap where
  | blanks (rev : List Char)
  /-- A first line break, unless that one was escaped, and all further ones, last first. -/
  | breaks (first : Option Char) (rev : List Char)

namespace Gap

def none : Gap := .blanks []

/-- The characters a gap stands for, last first. -/
def rev : Gap → List Char
  | blanks cs => cs
  | breaks (some '\n') [] => [' ']
  | breaks (some '\n') cs => cs
  | breaks (some c) cs => cs ++ [c]
  | breaks .none cs => cs

def isEmpty : Gap → Bool
  | blanks cs => cs.isEmpty
  | breaks .. => false

def hasBreak : Gap → Bool
  | blanks _ => false
  | breaks .. => true

/-- The gap after one more white space character. -/
def add (g : Gap) (c : Char) : Gap :=
  match g with
  | blanks cs => if isBreak c then .breaks (some c) [] else .blanks (c :: cs)
  | breaks first cs => if isBreak c then .breaks first (c :: cs) else g

end Gap

/-- A scalar that has been read, the place after it and what follows there. -/
structure Scanned where
  scalar : Scalar
  place : Place
  rest : List Char
  /-- Whether a line break has been read after it. -/
  broken : Bool

/-- The scalar made up of characters, last first. -/
def scanned (plain : Bool) (rev : List Char) (place : Place) (rest : List Char) (broken : Bool) :
    Scanned :=
  ⟨⟨String.ofList rev.reverse, plain⟩, place, rest, broken⟩

/-! ### Scalars in quotes -/

/-- Reads on in single quotes. The characters read so far are kept last first. -/
def single? (p : Place) (rev : List Char) (gap : Gap) : List Char → Option Scanned
  | [] => none
  | '\'' :: '\'' :: cs =>
    single? ((p.after '\'').after '\'') ('\'' :: (gap.rev ++ rev)) .none cs
  | '\'' :: cs => some (scanned false (gap.rev ++ rev) (p.after '\'') cs false)
  | c :: cs =>
    if isSpace c then single? (p.after c) rev (gap.add c) cs
    else if isMarker p (c :: cs) then none
    else single? (p.after c) (c :: (gap.rev ++ rev)) .none cs

/-- The character a one-letter escape stands for. -/
def escaped? (c : Char) : Option Char :=
  match c with
  | '0' => some '\x00'
  | 'a' => some '\x07'
  | 'b' => some '\x08'
  | 't' => some '\t'
  | '\t' => some '\t'
  | 'n' => some '\n'
  | 'v' => some '\x0b'
  | 'f' => some '\x0c'
  | 'r' => some '\r'
  | 'e' => some '\x1b'
  | ' ' => some ' '
  | '"' => some '"'
  | '/' => some '/'
  | '\\' => some '\\'
  | 'N' => some '\u0085'
  | '_' => some '\u00a0'
  | 'L' => some '\u2028'
  | 'P' => some '\u2029'
  | _ => none

/-- How many hexadecimal digits follow the letter of an escape. -/
def escapeDigits? (c : Char) : Option Nat :=
  match c with
  | 'x' => some 2
  | 'u' => some 4
  | 'U' => some 8
  | _ => none

/-- What the reader of double quotes is in the middle of. -/
inductive Inside where
  | gap (g : Gap)
  | escape
  /-- Inside the digits of an escape: `due` are left and `value` is written by the others. -/
  | unit (due value : Nat)

/-- The characters read so far and what comes next, after the character that follows a
backslash. -/
def escape? (rev : List Char) (c : Char) : Option (List Char × Inside) :=
  if isBreak c then some (rev, .gap (.breaks none []))
  else match escapeDigits? c with
    | some due => some (rev, .unit due 0)
    | none => (escaped? c).map fun e => (e :: rev, .gap .none)

/-- The same after a digit of an escape. -/
def unit? (rev : List Char) (due value : Nat) (c : Char) : Option (List Char × Inside) :=
  (Number.digitOf? 16 c).bind fun d =>
    let value := value * 16 + d
    if 1 < due then some (rev, .unit (due - 1) value)
    else if h : value.isValidChar then some (Char.ofNatAux value h :: rev, .gap .none)
    else none

/-- Reads on in double quotes. -/
def double? (p : Place) (rev : List Char) (inside : Inside) : List Char → Option Scanned
  | [] => none
  | c :: cs =>
    match inside with
    | .escape =>
      match escape? rev c with
      | some (rev, inside) => double? (p.after c) rev inside cs
      | none => none
    | .unit due value =>
      match unit? rev due value c with
      | some (rev, inside) => double? (p.after c) rev inside cs
      | none => none
    | .gap g =>
      if isSpace c then double? (p.after c) rev (.gap (g.add c)) cs
      else if c = '"' then some (scanned false (g.rev ++ rev) (p.after c) cs false)
      else if isMarker p (c :: cs) then none
      else if c = '\\' then double? (p.after c) (g.rev ++ rev) .escape cs
      else double? (p.after c) (c :: (g.rev ++ rev)) (.gap .none) cs

/-! ### Plain scalars -/

/-- Whether a plain scalar ends before the white space last read: what comes next is a comment, a
marker, or further left than the scalar may stand. -/
def endsAfter (flow : Bool) (limit : Nat) (p : Place) (gap : Gap) (cs : List Char) : Bool :=
  !gap.isEmpty && (cs.head? = some '#' || isMarker p cs || (!flow && p.column < limit))

/-- Whether a plain scalar ends at a character. -/
def endsAt (flow : Bool) (c : Char) (cs : List Char) : Bool :=
  (c = ':' && atSpace cs) || (flow && isBracketOrComma c)

/-- In brackets a colon in a plain scalar is not followed by an indicator. -/
def isStrayColon (flow : Bool) (c : Char) (cs : List Char) : Bool :=
  flow && c = ':' && cs.head?.any fun d => isBracketOrComma d || d = '?'

/-- Reads on in a plain scalar. `flow` says that it stands in brackets; outside them no line of it
may begin left of the column `limit`. -/
def plain? (flow : Bool) (limit : Nat) (p : Place) (rev : List Char) (gap : Gap) :
    List Char → Option Scanned
  | [] => some (scanned true rev p [] gap.hasBreak)
  | c :: cs =>
    if isSpace c then
      if c = '\t' ∧ gap.hasBreak ∧ p.column < limit then none
      else plain? flow limit (p.after c) rev (gap.add c) cs
    else if endsAfter flow limit p gap (c :: cs) then
      some (scanned true rev p (c :: cs) gap.hasBreak)
    else if isStrayColon flow c cs then none
    else if endsAt flow c cs then some (scanned true rev p (c :: cs) gap.hasBreak)
    else plain? flow limit (p.after c) (c :: (gap.rev ++ rev)) .none cs

/-- Whether a plain scalar can begin with a character. -/
def beginsPlain (flow : Bool) (c : Char) (cs : List Char) : Bool :=
  if c = '-' then !cs.head?.any isBlank
  else if c = '?' ∨ c = ':' then !flow && !atSpace cs
  else !(isSpace c || isBracketOrComma c ||
    ['#', '&', '*', '!', '|', '>', '\'', '"', '%', '@', '\x60'].contains c)

end Chronicle.Yaml
