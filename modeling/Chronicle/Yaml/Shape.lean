import Chronicle.Json.Codec
import Chronicle.Yaml.Reader

/-!
# From nodes to documents

A node is taken over under a shape, which says what is expected of it. Where a text is expected a
scalar is its own text, whatever it would denote otherwise, and where a number or a truth value is
expected a text in quotes is none. Where nothing in particular is expected the core schema decides.
-/

namespace Chronicle.Yaml

open Json

inductive Shape where
  /-- What the core schema says, all the way down. -/
  | any
  /-- Nobody looks at it. -/
  | ignored
  | text
  | optionalText
  | flag
  | count
  | list (item : Shape)
  | dict (value : Shape)
  /-- The fields, and what is expected of all others. -/
  | record (fields : List (String × Shape)) (others : Shape)

namespace Shape

/-- A scalar under a shape. Nothing at all stands for a collection without content. -/
def scalar (sh : Shape) (s : Scalar) : Document :=
  match sh with
  | any => s.value
  | ignored => .null
  | text => .str s.text
  | optionalText => if s.plain && isNullText s.text then .null else .str s.text
  | flag => if s.plain then ((bool? s.text).map .bool).getD .broken else .broken
  | count => if s.plain then ((natural? s.text.toList).map .natural).getD .broken else .broken
  | list _ => if s = .empty then .list [] else .broken
  | dict _ | record _ _ => if s = .empty then .map [] else .broken

/-- The shape of the items of a list, where one may stand. -/
def item? : Shape → Option Shape
  | any => some .any
  | list item => some item
  | _ => none

/-- The shape of the keys and of the member with a key, where a map may stand. -/
def member? (sh : Shape) (k : Node) : Option (Shape × Shape) :=
  match sh, k with
  | any, _ => some (.any, .any)
  | dict v, .scalar _ => some (.text, v)
  | record fs others, .scalar s => some (.text, (fs.lookup s.text).getD others)
  | _, _ => none

end Shape

mutual

/-- The document that a node is under a shape, broken where it does not fit. -/
def Node.document (sh : Shape) : Node → Document
  | .scalar s => sh.scalar s
  | .list items =>
    match sh with
    | .ignored => .null
    | sh =>
      match sh.item? with
      | some item => .list (documents item items)
      | none => .broken
  | .map members =>
    match sh with
    | .ignored => .null
    | .any | .dict _ | .record _ _ => .map (memberDocuments sh members)
    | _ => .broken

def documents (item : Shape) : List Node → List Document
  | [] => []
  | n :: rest => n.document item :: documents item rest

def memberDocuments (sh : Shape) : List (Node × Node) → List (Document × Document)
  | [] => []
  | (k, n) :: rest =>
    (match sh.member? k with
    | some (key, value) => (k.document key, n.document value)
    | none => (.broken, .broken)) :: memberDocuments sh rest

end

/-- Reads a text as YAML under a shape. -/
def toDocument? (sh : Shape) (text : String) : Option Document :=
  (ofText? text).map (·.document sh)

end Chronicle.Yaml
