/-!
# Media types

A media type is a type and a subtype, each a token, and parameters after semicolons. A subtype may
end in a plus sign and the name of the format it builds on. Blanks may stand before the name of a
parameter and after a value in quotes.
-/

namespace Chronicle.Web

def isTokenChar (c : Char) : Bool :=
  c.isAlphanum || "!#$%&'*+-.^_\x60|~".toList.contains c

/-- Where a list of parameters is between two characters. -/
inductive ParameterState where
  | gap
  | name
  | valueDue
  | value
  /-- Inside quotes; `empty` says that nothing has been read there yet, so that a quote does not
  close them. -/
  | quoted (empty : Bool)
  | unquoted

namespace ParameterState

def next? (s : ParameterState) (c : Char) : Option ParameterState :=
  match s with
  | gap => if c = ' ' then some .gap else if isTokenChar c then some .name else none
  | name => if c = '=' then some .valueDue else if isTokenChar c then some .name else none
  | valueDue =>
    if c = '"' then some (.quoted true) else if isTokenChar c then some .value else none
  | value => if c = ';' then some .gap else if isTokenChar c then some .value else none
  | quoted empty =>
    if c = '"' ∧ ¬ empty then some .unquoted
    else if ' ' ≤ c ∧ c ≤ '~' then some (.quoted false)
    else none
  | unquoted => if c = ' ' then some .unquoted else if c = ';' then some .gap else none

def complete : ParameterState → Bool
  | name | quoted _ => false
  | _ => true

end ParameterState

structure MediaType where
  type : String
  subtype : String
  /-- The format that the subtype builds on. -/
  suffix : Option String

namespace MediaType

/-- A subtype without its suffix, and the suffix. A plus sign that begins a subtype is part of
it. -/
def splitSuffix (cs : List Char) : String × Option String :=
  let rev := cs.reverse
  match rev.dropWhile (· ≠ '+') with
  | '+' :: c :: rest =>
    (String.ofList (c :: rest).reverse, some (String.ofList (rev.takeWhile (· ≠ '+')).reverse))
  | _ => (String.ofList cs, none)

def lower (cs : List Char) : List Char := cs.map Char.toLower

def ofText? (s : String) : Option MediaType :=
  let cs := s.toList
  let type := cs.takeWhile isTokenChar
  match cs.dropWhile isTokenChar with
  | '/' :: cs =>
    let subtype := cs.takeWhile isTokenChar
    let parameters := cs.dropWhile isTokenChar
    let wellFormed : Bool := match parameters with
      | [] => true
      | c :: cs => c = ';' && (cs.foldlM ParameterState.next? .gap).any (·.complete)
    if type.isEmpty ∨ subtype.isEmpty ∨ ¬ wellFormed then none
    else
      let (subtype, suffix) := splitSuffix (lower subtype)
      some ⟨String.ofList (lower type), subtype, suffix⟩
  | _ => none

def isJson (m : MediaType) : Bool :=
  m.type = "application" && (m.subtype = "json" || m.suffix = some "json")

end MediaType
end Chronicle.Web
