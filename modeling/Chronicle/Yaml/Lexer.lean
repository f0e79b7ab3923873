import Chronicle.Yaml.Text

/-!
# From text to tokens

The lexer keeps track of the place in the text, since in block style the column says where a value
belongs, and of the places where a key may have begun. Only the colon after a key shows that it is
one, and then the token before it is put in afterwards. A key ends on the line it begins on and
within 1024 octets.
-/

namespace Chronicle.Yaml

inductive Token where
  /-- The marker before a document. -/
  | start
  /-- The marker after a document. -/
  | finish
  /-- A list or a map in block style begins. -/
  | blockList
  | blockMap
  | blockEnd
  /-- The dash before an item. -/
  | item
  /-- A key comes next. -/
  | key
  /-- The colon before a value. -/
  | value
  | listOpen
  | listClose
  | mapOpen
  | mapClose
  | comma
  | scalar (s : Scalar)

/-- What may turn out to be a key. -/
structure Candidate where
  /-- How many tokens come before it. -/
  number : Nat
  place : Place
  /-- Whether it cannot be anything else. -/
  required : Bool

/-- Whether a candidate can no longer be a key. -/
def Candidate.isStale (k : Candidate) (p : Place) : Bool :=
  k.place.line < p.line || k.place.octets + 1024 < p.octets

/-- A text being read. -/
structure Lexing where
  rest : List Char
  place : Place
  /-- The tokens so far, last first, and how many there are. -/
  rev : List Token
  count : Nat
  /-- The columns of the block collections that are open, the innermost first. -/
  columns : List Nat
  /-- Whether a key may begin here. -/
  fresh : Bool
  /-- What may be a key in the text outside all brackets and in each bracket that is open, the
  innermost first. -/
  candidates : List (Option Candidate)

namespace Lexing

def begin (cs : List Char) : Lexing := ⟨cs, ⟨0, 0, 0⟩, [], 0, [], true, [none]⟩

/-- Whether a bracket is open. -/
def flow (l : Lexing) : Bool :=
  match l.candidates with
  | _ :: _ :: _ => true
  | _ => false

def emit (l : Lexing) (t : Token) : Lexing := { l with rev := t :: l.rev, count := l.count + 1 }

/-- Passes over a character. -/
def pass (l : Lexing) : Lexing :=
  match l.rest with
  | c :: cs => { l with rest := cs, place := l.place.after c }
  | [] => l

/-- Puts a token in after the first `number` ones. -/
def insert (l : Lexing) (number : Nat) (t : Token) : Lexing :=
  let later := l.count - number
  { l with rev := l.rev.take later ++ t :: l.rev.drop later, count := l.count + 1 }

/-! ### Block collections -/

/-- Begins a block collection at a column, unless one is open there. -/
def openBlock (l : Lexing) (column number : Nat) (t : Token) : Lexing :=
  if !l.flow && l.columns.head?.all (· < column) then
    { l.insert number t with columns := column :: l.columns }
  else l

/-- Ends the innermost block collections as long as their columns satisfy a condition. -/
def closeWhile (l : Lexing) (p : Nat → Bool) : Lexing :=
  if l.flow then l
  else
    { (l.columns.takeWhile p).foldl (fun l _ => l.emit .blockEnd) l with
      columns := l.columns.dropWhile p }

/-- Ends the block collections that are further right than a column. -/
def closeBlocks (l : Lexing) (column : Nat) : Lexing := l.closeWhile (column < ·)

/-- Ends all block collections. -/
def closeAll (l : Lexing) : Lexing := l.closeWhile fun _ => true

/-! ### Candidates -/

/-- Gives up the candidate of the innermost bracket. One that has to be a key cannot be given
up. -/
def dropKey? (l : Lexing) : Option Lexing :=
  match l.candidates with
  | some k :: outer => if k.required then none else some { l with candidates := none :: outer }
  | _ => some l

/-- Gives it up if it can no longer be a key. -/
def dropStale? (l : Lexing) : Option Lexing :=
  match l.candidates with
  | some k :: _ => if k.isStale l.place then l.dropKey? else some l
  | _ => some l

/-- Notes that a key may begin here. -/
def noteKey? (l : Lexing) : Option Lexing :=
  if l.fresh then
    l.dropKey?.map fun l =>
      let k := ⟨l.count, l.place, !l.flow && l.columns.head? = some l.place.column⟩
      { l with candidates := some k :: l.candidates.tail }
  else some l

/-! ### Tokens -/

/-- A marker of a document. -/
def marker? (l : Lexing) (t : Token) : Option Lexing :=
  l.closeAll.dropKey?.map fun l => { l.pass.pass.pass.emit t with fresh := false }

def bracketOpen? (l : Lexing) (t : Token) : Option Lexing :=
  l.noteKey?.map fun l =>
    { l.pass.emit t with fresh := true, candidates := none :: l.candidates }

def bracketClose? (l : Lexing) (t : Token) : Option Lexing :=
  l.dropKey?.map fun l =>
    { l.pass.emit t with
      fresh := false
      candidates := if l.flow then l.candidates.tail else l.candidates }

def comma? (l : Lexing) : Option Lexing :=
  l.dropKey?.map fun l => { l.pass.emit .comma with fresh := true }

/-- An indicator that begins a block collection where none is open. Outside brackets it stands only
where a key may begin. -/
def indicator? (l : Lexing) (collection t : Token) (fresh : Bool) : Option Lexing :=
  if !l.flow && !l.fresh then none
  else
    (l.openBlock l.place.column l.count collection).dropKey?.map fun l =>
      { l.pass.emit t with fresh }

/-- The colon before a value, which may make a key of the candidate. -/
def value? (l : Lexing) : Option Lexing :=
  match l.candidates with
  | some k :: outer =>
    let l := (l.insert k.number .key).openBlock k.place.column k.number .blockMap
    some { l.pass.emit .value with fresh := false, candidates := none :: outer }
  | _ => l.indicator? .blockMap .value (!l.flow)

/-- A scalar. A key may follow it if a line break has been read after it. -/
def scalar? (l : Lexing) (read : Lexing → Option Scanned) : Option Lexing :=
  l.noteKey?.bind fun l =>
    (read l).map fun s =>
      { l.emit (.scalar s.scalar) with rest := s.rest, place := s.place, fresh := s.broken }

/-- The least column a line of a plain scalar may begin at. -/
def limit (l : Lexing) : Nat :=
  match l.columns with
  | c :: _ => c + 1
  | [] => 0

/-- A character that begins a token, and what follows it. -/
def token? (l : Lexing) (c : Char) (cs : List Char) : Option Lexing :=
  if l.place.column = 0 ∧ c = '%' then none
  else if isMarker l.place (c :: cs) then l.marker? (if c = '-' then .start else .finish)
  else if c = '[' then l.bracketOpen? .listOpen
  else if c = '\x7b' then l.bracketOpen? .mapOpen
  else if c = ']' then l.bracketClose? .listClose
  else if c = '\x7d' then l.bracketClose? .mapClose
  else if c = ',' then l.comma?
  else if c = '-' ∧ atSpace cs then l.indicator? .blockList .item true
  else if c = '?' ∧ (l.flow ∨ atSpace cs) then l.indicator? .blockMap .key (!l.flow)
  else if c = ':' ∧ (l.flow ∨ atSpace cs) then l.value?
  else if c = '\'' then l.scalar? fun l => single? (l.place.after c) [] .none cs
  else if c = '"' then l.scalar? fun l => double? (l.place.after c) [] (.gap .none) cs
  else if beginsPlain l.flow c cs then
    l.scalar? fun l => plain? l.flow l.limit l.place [] .none (c :: cs)
  else none

/-- Passes over what stands between tokens. Outside brackets a tab is no indentation, and after a
line break a key may begin. `comment` says that a comment is being read. -/
def gap (flow comment fresh : Bool) (p : Place) : List Char → Bool × Place × List Char
  | [] => (fresh, p, [])
  | c :: cs =>
    if isBreak c then gap flow false (fresh || !flow) (p.after c) cs
    else if comment then gap flow true fresh (p.after c) cs
    else if c = ' ' ∨ (c = '\t' ∧ (flow ∨ ¬ fresh)) ∨ (c = '\ufeff' ∧ p.column = 0) then
      gap flow false fresh (p.after c) cs
    else if c = '#' then gap flow true fresh (p.after c) cs
    else (fresh, p, c :: cs)

def skipGap (l : Lexing) : Lexing :=
  let (fresh, place, rest) := gap l.flow false l.fresh l.place l.rest
  { l with fresh, place, rest }

/-- The tokens at the end of a text. -/
def close? (l : Lexing) : Option Lexing := l.closeAll.dropKey?

/-- Reads on to the end. Every round passes over at least one character, so as many rounds as there
are characters are enough. -/
def run? : Nat → Lexing → Option Lexing
  | 0, _ => none
  | rounds + 1, l =>
    match l.skipGap.dropStale? with
    | none => none
    | some l =>
      match l.rest with
      | [] => l.close?
      | c :: cs =>
        match (l.closeBlocks l.place.column).token? c cs with
        | some l => run? rounds l
        | none => none

end Lexing

/-- A text with every line break but the separators written the same way. -/
def lines : List Char → List Char
  | '\r' :: '\n' :: cs => '\n' :: lines cs
  | '\r' :: cs => '\n' :: lines cs
  | '\u0085' :: cs => '\n' :: lines cs
  | c :: cs => c :: lines cs
  | [] => []

/-- The characters a document may hold. -/
def isPrintable (c : Char) : Bool :=
  let n := c.toNat
  c = '\t' || c = '\n' || c = '\r' || (0x20 ≤ n && n ≤ 0x7E) || n = 0x85
    || (0xA0 ≤ n && n ≤ 0xFFFD) || 0x10000 ≤ n

/-- The tokens of a text. -/
def lex? (cs : List Char) : Option (List Token) :=
  if cs.all isPrintable then
    ((Lexing.begin (lines cs)).run? (cs.length + 1)).map (·.rev.reverse)
  else none

end Chronicle.Yaml
