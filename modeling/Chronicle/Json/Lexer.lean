import Chronicle.Json.Number
import Chronicle.Number.Digits

/-!
# From text to tokens

The lexer is an automaton fed one character at a time. It stops for good at the first character
that no JSON text can have there, and keeps the tokens it read before. A word or a number ends as
soon as it cannot go on, whatever follows it.
-/

namespace Chronicle.Json

/-- What the lexer is in the middle of. The characters of a text read so far are kept last first;
there are none once half of a surrogate pair has stood alone. -/
inductive Mode where
  | gap
  | number (stage : Stage) (rev : List Char)
  /-- Inside a word of which `due` is left. -/
  | word (due : List Char) (token : Token)
  | text (rev : Option (List Char))
  | escape (rev : Option (List Char))
  /-- Inside the four digits of an escape: `due` are left and `value` is written by the others.
  `high` is the first half of a surrogate pair whose second half this is. -/
  | unit (rev : Option (List Char)) (high : Option Nat) (due value : Nat)
  /-- After the first half of a surrogate pair. -/
  | pair (rev : Option (List Char)) (high : Nat)
  | pairEscape (rev : Option (List Char)) (high : Nat)

def isGap (c : Char) : Bool := c = ' ' || c = '\t' || c = '\n' || c = '\r'

/-- The tokens that a character completes and the mode after it, unless reading ends there. -/
abbrev Advance := List Token × Option Mode

/-- A character read between tokens. -/
def openToken (c : Char) : Advance :=
  if isGap c then ([], some .gap)
  else if c = '[' then ([.arrOpen], some .gap)
  else if c = ']' then ([.arrClose], some .gap)
  else if c = '\x7b' then ([.objOpen], some .gap)
  else if c = '\x7d' then ([.objClose], some .gap)
  else if c = ',' then ([.comma], some .gap)
  else if c = ':' then ([.colon], some .gap)
  else if c = '"' then ([], some (.text (some [])))
  else if c = '-' then ([], some (.number .sign [c]))
  else if c = 'n' then ([], some (.word ['u', 'l', 'l'] .null))
  else if c = 't' then ([], some (.word ['r', 'u', 'e'] (.bool true)))
  else if c = 'f' then ([], some (.word ['a', 'l', 's', 'e'] (.bool false)))
  else ([], (Stage.sign.next? c).map fun stage => .number stage [c])

/-- The character a one-letter escape stands for. -/
def escaped? (c : Char) : Option Char :=
  match c with
  | '"' => some '"'
  | '\\' => some '\\'
  | '/' => some '/'
  | 'b' => some '\x08'
  | 'f' => some '\x0c'
  | 'n' => some '\n'
  | 'r' => some '\r'
  | 't' => some '\t'
  | _ => none

/-- A text after one more character. -/
def extend (rev : Option (List Char)) (c : Char) : Option (List Char) := rev.map (c :: ·)

/-- The mode after the last digit of an escape. -/
def closeUnit (rev : Option (List Char)) (high : Option Nat) (value : Nat) : Mode :=
  match high with
  | some h =>
    if 0xDC00 ≤ value ∧ value ≤ 0xDFFF then
      .text (extend rev (Char.ofNat (0x10000 + (h - 0xD800) * 0x400 + (value - 0xDC00))))
    else .text none
  | none =>
    if 0xDC00 ≤ value ∧ value ≤ 0xDFFF then .text none
    else if 0xD800 ≤ value ∧ value ≤ 0xDBFF then .pair rev value
    else .text (extend rev (Char.ofNat value))

/-- A character read inside a text. -/
def textChar (rev : Option (List Char)) (c : Char) : Advance :=
  if c = '"' then
    ([(rev.map fun rev => .str (String.ofList rev.reverse)).getD .halfPair], some .gap)
  else if c = '\\' then ([], some (.escape rev))
  else if c.toNat < 0x20 then ([], none)
  else ([], some (.text (extend rev c)))

/-- The character after a backslash. -/
def afterBackslash (rev : Option (List Char)) (c : Char) : Advance :=
  ([], if c = 'u' then some (.unit rev none 4 0)
    else (escaped? c).map fun e => .text (extend rev e))

/-- The number that ends before a character, and what the character itself does. -/
def endNumber (stage : Stage) (rev : List Char) (c : Char) : Advance :=
  if stage.endsBefore c then
    let (ts, m) := openToken c
    ((number? rev.reverse).toList ++ ts, m)
  else ([], none)

def Mode.next (m : Mode) (c : Char) : Advance :=
  match m with
  | .gap => openToken c
  | .number stage rev =>
    match stage.next? c with
    | some stage => ([], some (.number stage (c :: rev)))
    | none => endNumber stage rev c
  | .word [] _ => ([], none)
  | .word (d :: due) t =>
    if c ≠ d then ([], none)
    else if due.isEmpty then ([t], some .gap)
    else ([], some (.word due t))
  | .text rev => textChar rev c
  | .escape rev => afterBackslash rev c
  | .unit rev high due value =>
    ([], (Number.digitOf? 16 c).map fun d =>
      if due ≤ 1 then closeUnit rev high (value * 16 + d)
      else .unit rev high (due - 1) (value * 16 + d))
  | .pair rev high => if c = '\\' then ([], some (.pairEscape rev high)) else textChar none c
  | .pairEscape rev high =>
    if c = 'u' then ([], some (.unit rev (some high) 4 0)) else afterBackslash none c

/-- The tokens completed by the end of the text. -/
def Mode.finish : Mode → Option (List Token)
  | .gap => some []
  | .number stage rev => if stage.complete then (number? rev.reverse).map ([·]) else none
  | _ => none

/-- A text being read: its tokens so far, last first, and the mode unless reading has ended. -/
structure Lexing where
  rev : List Token
  mode : Option Mode

def Lexing.start : Lexing := ⟨[], some .gap⟩

def Lexing.feed (l : Lexing) (c : Char) : Lexing :=
  match l.mode with
  | some m =>
    let (ts, m) := m.next c
    ⟨ts.reverse ++ l.rev, m⟩
  | none => l

/-- The tokens of a text. `whole` says that they make up all of it, and not only what comes before
a fault. -/
structure Lexed where
  tokens : List Token
  whole : Bool

def lex (cs : List Char) : Lexed :=
  let l := cs.foldl Lexing.feed .start
  match l.mode.bind Mode.finish with
  | some ts => ⟨l.rev.reverse ++ ts, true⟩
  | none => ⟨l.rev.reverse, false⟩

end Chronicle.Json
