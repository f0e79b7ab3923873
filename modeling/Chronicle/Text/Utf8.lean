/-!
# UTF-8

The decoder takes one octet at a time and says where the text is malformed. Octets that could
begin a character, up to the first one that cannot go on with it, are malformed together.
-/

namespace Chronicle.Text.Utf8

inductive State where
  | start
  /-- Inside a character that is `due` octets short. The next one has to lie between `low` and
  `high`, and `value` is what the octets so far amount to. -/
  | inside (due low high value : Nat)

/-- The octet that begins a character. -/
def State.first (b : Nat) : List (Option Char) × State :=
  if b < 0x80 then ([some (Char.ofNat b)], .start)
  else if b < 0xC2 then ([none], .start)
  else if b ≤ 0xDF then ([], .inside 1 0x80 0xBF (b - 0xC0))
  else if b = 0xE0 then ([], .inside 2 0xA0 0xBF 0)
  else if b = 0xED then ([], .inside 2 0x80 0x9F 0xD)
  else if b ≤ 0xEF then ([], .inside 2 0x80 0xBF (b - 0xE0))
  else if b = 0xF0 then ([], .inside 3 0x90 0xBF 0)
  else if b ≤ 0xF3 then ([], .inside 3 0x80 0xBF (b - 0xF0))
  else if b = 0xF4 then ([], .inside 3 0x80 0x8F 4)
  else ([none], .start)

/-- The characters an octet completes, `none` for malformed ones, and the state after it. -/
def State.next (s : State) (b : Nat) : List (Option Char) × State :=
  match s with
  | .start => State.first b
  | .inside due low high value =>
    if low ≤ b ∧ b ≤ high then
      let value := value * 0x40 + (b - 0x80)
      if due ≤ 1 then ([some (Char.ofNat value)], .start)
      else ([], .inside (due - 1) 0x80 0xBF value)
    else
      let (out, s) := State.first b
      (none :: out, s)

/-- Octets being decoded, with the characters so far last first. -/
structure Decoding where
  rev : List (Option Char)
  state : State

def Decoding.feed (d : Decoding) (b : UInt8) : Decoding :=
  let (out, s) := d.state.next b.toNat
  ⟨out.reverse ++ d.rev, s⟩

def chars (octets : List UInt8) : List (Option Char) :=
  let d := octets.foldl Decoding.feed ⟨[], .start⟩
  match d.state with
  | .start => d.rev.reverse
  | .inside .. => (none :: d.rev).reverse

/-- The text of octets that are well formed throughout. -/
def decode? (octets : List UInt8) : Option String :=
  ((chars octets).mapM id).map String.ofList

/-- The text of octets, with a replacement character for each malformed piece. -/
def decode (octets : List UInt8) : String :=
  String.ofList ((chars octets).map (·.getD '\ufffd'))

def encode (s : String) : List UInt8 := s.toUTF8.toList

end Chronicle.Text.Utf8
