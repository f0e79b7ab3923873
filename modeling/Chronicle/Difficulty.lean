import Chronicle.Json.Codec

/-!
# Difficulties

From the easiest to the hardest. A campaign that names none is played on standard.
-/

namespace Chronicle

inductive Difficulty where
  | easy
  | standard
  | hard
  | expert
  deriving DecidableEq, Ord

namespace Difficulty

instance : Inhabited Difficulty := ⟨.standard⟩

instance : Std.LawfulEqOrd Difficulty where
  compare_self {a} := by cases a <;> rfl
  eq_of_compare {a b} := by cases a <;> cases b <;> decide

instance : Std.TransOrd Difficulty where
  eq_swap {a b} := by cases a <;> cases b <;> rfl
  isLE_trans {a b c} := by cases a <;> cases b <;> cases c <;> decide

def all : List Difficulty := [.easy, .standard, .hard, .expert]

def name : Difficulty → String
  | .easy => "easy"
  | .standard => "standard"
  | .hard => "hard"
  | .expert => "expert"

def ofName? (s : String) : Option Difficulty := all.find? (·.name == s)

instance : Json.Codec Difficulty where
  encode d := .str d.name
  decode := Json.decodeName all name

instance : Json.KeyText Difficulty := ⟨name, ofName?⟩

end Difficulty
end Chronicle
