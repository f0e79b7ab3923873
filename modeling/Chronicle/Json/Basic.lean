/-!
# JSON values

Objects keep their members in the order they were written, repeated names included: which repeats
are allowed is for the reader of a particular record to say.
-/

namespace Chronicle

/-- Numbers written with a fraction or an exponent are kept apart from integers, as
`mantissa * 10 ^ exponent`. -/
inductive Json where
  | null
  | bool (b : Bool)
  | int (n : Int)
  | real (mantissa exponent : Int)
  | str (s : String)
  | arr (items : List Json)
  | obj (members : List (String × Json))
  deriving Inhabited

namespace Json

/-- The pieces of a JSON text. -/
inductive Token where
  | arrOpen
  | arrClose
  | objOpen
  | objClose
  | comma
  | colon
  | null
  | bool (b : Bool)
  | int (n : Int)
  | real (mantissa exponent : Int)
  | str (s : String)
  /-- A text in which half of a surrogate pair stands alone, so that it has no characters. -/
  | halfPair
  deriving DecidableEq

mutual

/-- The compact text of a value, piece by piece. -/
def tokens : Json → List Token
  | .null => [.null]
  | .bool b => [.bool b]
  | .int n => [.int n]
  | .real m e => [.real m e]
  | .str s => [.str s]
  | .arr items => .arrOpen :: (itemTokens items ++ [.arrClose])
  | .obj members => .objOpen :: (memberTokens members ++ [.objClose])

def itemTokens : List Json → List Token
  | [] => []
  | j :: rest => j.tokens ++ moreItemTokens rest

def moreItemTokens : List Json → List Token
  | [] => []
  | j :: rest => .comma :: (j.tokens ++ moreItemTokens rest)

def memberTokens : List (String × Json) → List Token
  | [] => []
  | (k, j) :: rest => .str k :: .colon :: (j.tokens ++ moreMemberTokens rest)

def moreMemberTokens : List (String × Json) → List Token
  | [] => []
  | (k, j) :: rest => .comma :: .str k :: .colon :: (j.tokens ++ moreMemberTokens rest)

end

end Json
end Chronicle
