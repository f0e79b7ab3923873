import Chronicle.Json.Codec
import Chronicle.Json.Printer
import Chronicle.Json.Reader

/-!
# Domain values as JSON texts

A text is read from its beginning, so it may be refused for what it holds before its grammar is
found to be broken.
-/

namespace Chronicle.Json

/-- The compact text of a value. -/
def toText {α : Type} [Codec α] (a : α) : String := (encode a).compact

/-- Reads a text as JSON and what it holds as `read` does. Nothing may follow the value. -/
def readText {β : Type} (read : Document → Reading β) (text : String) : Reading β := do
  let s := source text
  let b ← read s.root
  if s.complete then return b else throw .grammar

def ofText {α : Type} [Codec α] (text : String) : Reading α := readText (decode .start) text

theorem readText_eq_ok_iff {β : Type} {read : Document → Reading β} {text : String} {b : β} :
    readText read text = .ok b ↔
      (source text).complete = true ∧ read (source text).root = .ok b := by
  cases h : read (source text).root <;> cases hc : (source text).complete <;>
    simp_all [readText, bind, Except.bind, pure, Except.pure, throw, throwThe, MonadExceptOf.throw]

end Chronicle.Json
