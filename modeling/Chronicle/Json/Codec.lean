import Chronicle.Dict
import Chronicle.Json.Document

/-!
# Reading and writing domain values as JSON

A codec writes a value as JSON and reads it from a document. Reading takes, beside the document,
where it comes from, since a few alternative spellings are open to some origins only, and a text
may not be nested without end.

Records are maps with named fields. A field given twice is refused, a name that is no field is
ignored. A record without inlined parts may also be a list of its field values in order. A tagged
record names its variant in a member of its own and holds the variant's fields beside it.

A document is read from its beginning, and of several faults the one that is met first counts.
-/

namespace Chronicle.Json

inductive Origin where
  /-- A text that is being read, in which `room` more containers may be open at once. -/
  | text (room : Nat)
  /-- A value in memory. -/
  | tree
  /-- A part that was put aside until the variant of the record around it was known. -/
  | part
  deriving DecidableEq

namespace Origin

/-- A text at its beginning. -/
def start : Origin := .text 127

/-- The origin of what stands in a container. -/
def inner : Origin → Origin
  | text room => .text (room - 1)
  | o => o

end Origin

/-- Why a document could not be read. -/
inductive Fault where
  /-- It cannot go on like this where it stands. -/
  | grammar
  /-- It is well formed and something else than what is due. -/
  | form
  deriving DecidableEq

abbrev Reading := Except Fault

/-- The fault of a document of another form than the one due. What stands inside a list or a map
is not looked at any more. -/
def Document.misfit : Document → Fault
  | .broken | .text none => .grammar
  | d => if d.numberFits then .form else .grammar

/-- Puts a part aside, which has to be read in full. What is merely skipped may be nested as deeply
and hold numbers as large as it likes. -/
def putAside (o : Origin) (d : Document) : Reading Document :=
  match o with
  | .text room => if d.fits room then .ok d else .error .grammar
  | _ => .ok d

/-- What is read of a part that was put aside, which is well formed. -/
def late {α : Type} (r : Reading α) : Reading α := r.mapError fun _ => .form

/-- Skips what nobody looks at. -/
def skip (d : Document) : Reading Unit := if d.isSound then .ok () else .error .grammar

class Codec (α : Type) where
  encode : α → Json
  decode : Origin → Document → Reading α

export Codec (encode decode)

/-- Reads a value in memory. -/
def ofJson {α : Type} [Codec α] (j : Json) : Reading α := decode .tree (.ofJson j)

instance : Codec Bool where
  encode := .bool
  decode
    | _, .bool b => .ok b
    | _, d => .error d.misfit

instance : Codec String where
  encode := .str
  decode
    | _, .text (some s) => .ok s
    | _, d => .error d.misfit

/-- The integers of a fixed-width type. -/
def decodeInt {α : Type} (low high : Int) (ofInt : Int → α) (d : Document) : Reading α :=
  let checked (n : Int) : Reading α :=
    if low ≤ n ∧ n ≤ high then .ok (ofInt n) else .error d.misfit
  match d with
  | .natural n => checked n
  | .negated n => checked (-n)
  | d => .error d.misfit

instance : Codec UInt16 where
  encode n := .int n.toNat
  decode _ := decodeInt 0 0xFFFF fun n => UInt16.ofNat n.toNat

instance : Codec UInt32 where
  encode n := .int n.toNat
  decode _ := decodeInt 0 0xFFFFFFFF fun n => UInt32.ofNat n.toNat

instance : Codec UInt64 where
  encode n := .int n.toNat
  decode _ := decodeInt 0 0xFFFFFFFFFFFFFFFF fun n => UInt64.ofNat n.toNat

instance : Codec Int32 where
  encode n := .int n.toInt
  decode _ := decodeInt (-0x80000000) 0x7FFFFFFF Int32.ofInt

instance {α : Type} [Codec α] : Codec (List α) where
  encode l := .arr (l.map encode)
  decode
    | o, .list items => items.mapM (decode o.inner)
    | _, d => .error d.misfit

instance {α : Type} [Codec α] : Codec (Option α) where
  encode
    | some a => encode a
    | none => .null
  decode
    | _, .null => .ok none
    | o, d => some <$> decode o d

/-- Keys of a dictionary, written as the member names of an object. -/
class KeyText (κ : Type) where
  text : κ → String
  ofText? : String → Option κ

instance : KeyText String := ⟨id, some⟩

/-- One member of a dictionary. -/
def decodeEntry {κ α : Type} [KeyText κ] [Codec α] (o : Origin) (m : Document × Document) :
    Reading (κ × α) :=
  match m.1 with
  | .text (some s) =>
    match KeyText.ofText? s with
    | some k => (k, ·) <$> decode o m.2
    | none => .error .form
  | _ => .error .grammar

instance {κ α : Type} [Ord κ] [Std.TransOrd κ] [KeyText κ] [Codec α] : Codec (Dict κ α) where
  encode d := .obj (d.entries.map fun e => (KeyText.text e.1, encode e.2))
  decode
    | o, .map members => Dict.ofList <$> members.mapM (decodeEntry o.inner)
    | _, d => .error d.misfit

/-! ### Enumerations -/

/-- The value of an enumeration with a given name. -/
def named {α : Type} (all : List α) (name : α → String) (s : String) : Reading α :=
  match all.find? (fun a => name a == s) with
  | some a => .ok a
  | none => .error .form

/-- The value that a name stands for. In a part that was put aside it may also be numbered. -/
def pick {α : Type} (all : List α) (name : α → String) (o : Origin) : Document → Reading α
  | .text (some s) => named all name s
  | .natural n =>
    match o, all[n]? with
    | .part, some a => .ok a
    | _, _ => .error (Document.natural n).misfit
  | d => .error d.misfit

/-- Nothing, where a value without content is due. -/
def nothing : Document → Reading Unit
  | .null => .ok ()
  | d => .error d.misfit

/-- An enumeration is written as its name. It may also be read as a map whose one member has that
name and no content. -/
def decodeName {α : Type} (all : List α) (name : α → String) (o : Origin) :
    Document → Reading α
  | .text (some s) => named all name s
  | .map ((k, d) :: rest) =>
    match o with
    | .text _ => do
      let a ← pick all name o k
      nothing d
      if rest.isEmpty then return a else throw .grammar
    | _ => do
      let a ← pick all name o k
      match o, d, rest with
      | _, .null, [] | .part, .map [], [] => return a
      | _, _, _ => throw .form
  | _ => .error .grammar

/-! ### Fields -/

/-- What is read from the fields of a record, or the fault that is met first and how many members
come before it. -/
def Gathering (α : Type) := Except (Nat × Fault) α

namespace Gathering

def apply {α β : Type} : Gathering (α → β) → Gathering α → Gathering β
  | .ok f, .ok a => .ok (f a)
  | .error e, .ok _ | .ok _, .error e => .error e
  | .error e, .error e' => .error (if e'.1 < e.1 then e' else e)

instance : Applicative Gathering where
  pure := .ok
  seq f a := f.apply (a ())

/-- What is read of the member at a place. -/
def here {α : Type} (place : Nat) : Reading α → Gathering α
  | .ok a => .ok a
  | .error e => .error (place, e)

end Gathering

/-- What the key of a member tells. -/
inductive Role where
  | field (name : String)
  | other
  | fault (f : Fault)

/-- The role of a key in a record with named fields. In a part that was put aside the fields may
also be numbered. -/
def role (o : Origin) (names : List String) : Document → Role
  | .text (some s) => if names.contains s then .field s else .other
  | .natural n =>
    match o, names[n]? with
    | .part, some s => .field s
    | .part, none => .other
    | _, _ => .fault .grammar
  | _ => .fault .grammar

/-- The role of a key in a record that has an inlined part, where fields are not numbered. -/
def inlinedRole (o : Origin) (names : List String) (k : Document) : Role :=
  match o, k with
  | .part, .natural _ => .other
  | _, k => role o names k

/-- The first member that is faulty whatever its field may be: it has no key, it gives a field
again, or it belongs to no field and cannot be passed over. -/
def firstFlaw? (role : Document → Role) (pass : Document → Reading Unit) (seen : List String)
    (place : Nat) : List (Document × Document) → Option (Nat × Fault)
  | [] => none
  | (k, d) :: rest =>
    match role k with
    | .fault e => some (place, e)
    | .other =>
      match pass d with
      | .error e => some (place, e)
      | .ok _ => firstFlaw? role pass seen (place + 1) rest
    | .field name =>
      if seen.contains name then some (place, .form)
      else firstFlaw? role pass (name :: seen) (place + 1) rest

/-- The members that give fields, with their places. -/
def fieldMembers (role : Document → Role) (place : Nat) :
    List (Document × Document) → List (String × Nat × Document)
  | [] => []
  | (k, d) :: rest =>
    match role k with
    | .field name => (name, place, d) :: fieldMembers role (place + 1) rest
    | _ => fieldMembers role (place + 1) rest

/-- The items of a list as the fields with the names, in order. -/
def fieldItems (place : Nat) : List String → List Document → List (String × Nat × Document)
  | name :: names, d :: rest => (name, place, d) :: fieldItems (place + 1) names rest
  | _, _ => []

/-- The fields of a record that are present. -/
structure Fields where
  /-- The origin of the fields. -/
  origin : Origin
  /-- The name, place and value of each field. -/
  present : List (String × Nat × Document)
  /-- The place after the last member. -/
  size : Nat
  flaw? : Option (Nat × Fault)
  /-- Whether the fields are given by position. -/
  positional : Bool

/-- The fields of a record given as a map or as a list. -/
def fields (o : Origin) (names : List String) : Document → Reading Fields
  | .map members =>
    .ok ⟨o.inner, fieldMembers (role o names) 0 members, members.length,
      firstFlaw? (role o names) skip [] 0 members, false⟩
  | .list items =>
    .ok ⟨o.inner, fieldItems 0 names items, items.length,
      if names.length < items.length then some (names.length, .grammar) else none, true⟩
  | d => .error d.misfit

/-- Whether a member belongs to the inlined part of a record. -/
def isOther (role : Document → Role) (m : Document × Document) : Bool :=
  match role m.1 with
  | .other => true
  | _ => false

/-- The fields of a record that has an inlined part, and the other members, which belong to that
part. -/
def inlined (o : Origin) (names : List String) : Document → Reading (Fields × Document)
  | .map members =>
    let role := inlinedRole o names
    let pass (d : Document) : Reading Unit := (putAside o.inner d).map fun _ => ()
    .ok (⟨o.inner, fieldMembers role 0 members, members.length,
      firstFlaw? role pass [] 0 members, false⟩, .map (members.filter (isOther role)))
  | d => .error d.misfit

namespace Fields

def find (f : Fields) (name : String) : Option (Nat × Document) := f.present.lookup name

/-- A field as `read` reads it, or what stands for it where it is left out. -/
def get {α : Type} (f : Fields) (name : String) (read : Origin → Document → Reading α)
    (absent : Reading α) : Gathering α :=
  match f.find name with
  | some (place, d) => .here place (read f.origin d)
  | none => .here f.size absent

variable {α : Type} [Codec α]

/-- A field that must be there. -/
def need (f : Fields) (name : String) : Gathering α := f.get name decode (.error .form)

/-- A field that has a value of its own when it is left out. -/
def orElse (f : Fields) (name : String) (default : α) : Gathering α :=
  f.get name decode (.ok default)

/-- An optional field. By position it can be null but not left out. -/
def option (f : Fields) (name : String) : Gathering (Option α) :=
  f.get name decode (if f.positional then .error .form else .ok none)

/-- A part that is looked at when all members have been read. -/
def afterwards {β : Type} (f : Fields) (r : Reading β) : Gathering β := .here f.size (late r)

/-- Ends the reading of a record. -/
def close {β : Type} (f : Fields) (g : Gathering β) : Reading β :=
  match f.flaw?, g with
  | none, .ok b => .ok b
  | none, .error e => .error e.2
  | some flaw, .ok _ => .error flaw.2
  | some flaw, .error e => .error (if e.1 < flaw.1 then e.2 else flaw.2)

end Fields

/-- Reads a record with named fields. -/
def gather {α : Type} (o : Origin) (names : List String) (d : Document)
    (read : Fields → Gathering α) : Reading α :=
  (fields o names d).bind fun f => f.close (read f)

/-- Reads a record with named fields and an inlined part. -/
def gatherInlined {α : Type} (o : Origin) (names : List String) (d : Document)
    (read : Fields → Document → Gathering α) : Reading α :=
  (inlined o names d).bind fun (f, rest) => f.close (read f rest)

/-! ### Tagged records -/

/-- Whether a member is the tag. -/
def isTag (tag : String) (m : Document × Document) : Bool :=
  match m.1 with
  | .text (some s) => s == tag
  | _ => false

/-- The variant of a tagged record, and the other members. -/
def tagged (o : Origin) (tag : String) (variants : List String) :
    Document → Reading (String × Document)
  | .map members =>
    match members.filter (isTag tag) with
    | [(_, d)] => do
      let v ← pick variants id o d
      return (v, ← putAside o (.map (members.filter fun m => !isTag tag m)))
    | _ => .error .form
  | .list (d :: rest) => do
    let v ← pick variants id o d
    return (v, ← putAside o (.list rest))
  | d => .error d.misfit

/-- Reads a tagged record, its variant by `read` when all members have been read. -/
def gatherTagged {α : Type} (o : Origin) (tag : String) (variants : List String) (d : Document)
    (read : String → Document → Reading α) : Reading α := do
  let (v, rest) ← tagged o tag variants d
  late (read v rest)

/-- A variant without fields, beside which anything may stand in a map but nothing in a list. -/
def bare : Document → Reading Unit
  | .list (_ :: _) => .error .form
  | _ => .ok ()

/-- A member that is written only when there is a value. -/
def optional {α : Type} [Codec α] (name : String) : Option α → List (String × Json)
  | some a => [(name, encode a)]
  | none => []

/-- Writes a tagged record: the tag first, then the fields of the variant. -/
def tag (name variant : String) (members : List (String × Json)) : List (String × Json) :=
  (name, .str variant) :: members

end Chronicle.Json
