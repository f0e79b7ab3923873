import Chronicle.Json.Document
import Chronicle.Json.Lexer

/-!
# From tokens to documents

A stack automaton over tokens. Its state is what has been read of the value that is still open, so
of a text that breaks off the document holds all that came before the fault, and the fault in its
place.
-/

namespace Chronicle.Json

/-- A container that is being read, with what it already holds last first. -/
inductive Open where
  | items (rev : List Document)
  | members (rev : List (Document × Document)) (key : Document)

inductive State where
  /-- A value is due. -/
  | value (outer : List Open)
  /-- An array has just been opened. -/
  | item (outer : List Open)
  /-- A name is due; in a new object it may also close. -/
  | key (fresh : Bool) (rev : List (Document × Document)) (outer : List Open)
  | colon (rev : List (Document × Document)) (key : Document) (outer : List Open)
  /-- A value is complete. -/
  | done (v : Document) (outer : List Open)

/-- The value that a single token is. -/
def Token.leaf? : Token → Option Document
  | .null => some .null
  | .bool b => some (.bool b)
  | .int n => some (.ofInt n)
  | .real m e => some (.real m e)
  | .str s => some (.str s)
  | .halfPair => some (.text none)
  | _ => none

/-- The state after a token that begins a value. -/
def State.begin (outer : List Open) (t : Token) : Option State :=
  match t with
  | .arrOpen => some (.item outer)
  | .objOpen => some (.key true [] outer)
  | t => t.leaf?.map (.done · outer)

def State.next (s : State) (t : Token) : Option State :=
  match s with
  | .value outer => State.begin outer t
  | .item outer =>
    if t = .arrClose then some (.done (.list []) outer) else State.begin (.items [] :: outer) t
  | .key fresh rev outer =>
    match t with
    | .str k => some (.colon rev (.str k) outer)
    | .halfPair => some (.colon rev (.text none) outer)
    | .objClose => if fresh then some (.done (.map rev.reverse) outer) else none
    | _ => none
  | .colon rev k outer =>
    if t = .colon then some (.value (.members rev k :: outer)) else none
  | .done v (.items rev :: outer) =>
    match t with
    | .comma => some (.value (.items (v :: rev) :: outer))
    | .arrClose => some (.done (.list (v :: rev).reverse) outer)
    | _ => none
  | .done v (.members rev k :: outer) =>
    match t with
    | .comma => some (.key false ((k, v) :: rev) outer)
    | .objClose => some (.done (.map ((k, v) :: rev).reverse) outer)
    | _ => none
  | .done _ [] => none

/-- The document of a text that ends inside containers, with each of them closed after what it
holds last. -/
def close (v : Document) : List Open → Document
  | [] => v
  | .items rev :: outer => close (.list (v :: rev).reverse) outer
  | .members rev k :: outer => close (.map ((k, v) :: rev).reverse) outer

/-- The key that stands where a name is due. -/
def Token.asKey : Option Token → Document
  | some .arrOpen => .list []
  | some .objOpen => .map []
  | t => (t.bind Token.leaf?).getD .broken

/-- A text as a document. `complete` says that nothing stands after the value. -/
structure Source where
  root : Document
  complete : Bool

/-- What the text is when it ends in a state, or a token stands there that does not fit. -/
def State.source (s : State) (t : Option Token) (whole : Bool) : Source :=
  match s with
  | .value outer => ⟨close .broken outer, false⟩
  | .item outer => ⟨close (.list [.broken]) outer, false⟩
  | .key _ rev outer => ⟨close (.map ((Token.asKey t, .broken) :: rev).reverse) outer, false⟩
  | .colon rev k outer => ⟨close (.map ((k, .broken) :: rev).reverse) outer, false⟩
  | .done v [] => ⟨v, whole && t.isNone⟩
  | .done v (.items rev :: outer) => ⟨close (.list (.broken :: v :: rev).reverse) outer, false⟩
  | .done v (.members rev k :: outer) =>
    ⟨close (.map ((.broken, .broken) :: (k, v) :: rev).reverse) outer, false⟩

/-- The state after the tokens, or the last state before the first token that does not fit. -/
inductive Parsing where
  | running (s : State)
  | stopped (s : State) (t : Token)

def Parsing.feed : Parsing → Token → Parsing
  | .running s, t =>
    match s.next t with
    | some s' => .running s'
    | none => .stopped s t
  | p, _ => p

def parse (ts : List Token) : Parsing := ts.foldl Parsing.feed (.running (.value []))

def Parsing.source (whole : Bool) : Parsing → Source
  | .running s => s.source none whole
  | .stopped s t => s.source (some t) whole

/-- Reads a text as JSON. -/
def source (text : String) : Source :=
  let l := lex text.toList
  (parse l.tokens).source l.whole

/-- The value written by a text, if the text is JSON and nothing else. -/
def ofText? (text : String) : Option Json :=
  let s := source text
  if s.complete then s.root.json? else none

end Chronicle.Json
