import Chronicle.Number.Digits

/-!
# Socket addresses

The address of a service: its host and the number of the service there. A host of the older kind is
four numbers with dots between them, one of the newer kind eight groups of hexadecimal digits with
colons between them, in brackets. The last two groups may be written as four numbers, and two
colons stand for groups of zeros.
-/

namespace Chronicle.Net

inductive Host where
  | four (octets : List Nat)
  /-- `zone` tells apart networks with the same addresses. -/
  | six (groups : List Nat) (zone : Nat)
  deriving DecidableEq

structure SocketAddress where
  host : Host
  service : Nat
  deriving DecidableEq

/-! ### Reading -/

/-- The number at the head of a text and what follows it. All digits there belong to it. -/
def number? (base max : Nat) (cs : List Char) : Option (Nat × List Char) :=
  let isDigit := fun c => (Number.digitOf? base c).isSome
  (Number.ofDigits? base (cs.takeWhile isDigit)).bind fun n =>
    if n ≤ max then some (n, cs.dropWhile isDigit) else none

def skip? (c : Char) : List Char → Option (List Char)
  | d :: cs => if c = d then some cs else none
  | [] => none

/-- A number without leading zeros. -/
def octet? (cs : List Char) : Option (Nat × List Char) :=
  if cs.head? = some '0' ∧ (cs.tail.head?.any Char.isDigit) then none else number? 10 255 cs

def octets? (cs : List Char) : Option (List Nat × List Char) := do
  let (a, cs) ← octet? cs
  let (b, cs) ← skip? '.' cs >>= octet?
  let (c, cs) ← skip? '.' cs >>= octet?
  let (d, cs) ← skip? '.' cs >>= octet?
  return ([a, b, c, d], cs)

/-- Four octets as two groups. -/
def pairOctets : List Nat → List Nat
  | a :: b :: rest => (a * 256 + b) :: pairOctets rest
  | _ => []

def group? (cs : List Char) : Option (Nat × List Char) :=
  if ((cs.takeWhile fun c => (Number.digitOf? 16 c).isSome).length) ≤ 4 then number? 16 0xFFFF cs
  else none

/-- As many groups as there are, up to a limit, whether the last ones were written as octets, and
what follows them. -/
def groups (first : Bool) : Nat → List Char → List Nat × Bool × List Char
  | 0, cs => ([], false, cs)
  | limit + 1, cs =>
    match if first then some cs else skip? ':' cs with
    | none => ([], false, cs)
    | some inner =>
      match if limit = 0 then none else octets? inner with
      | some (os, rest) => (pairOctets os, true, rest)
      | none =>
        match group? inner with
        | some (g, rest) =>
          let (gs, octets, rest) := groups false limit rest
          (g :: gs, octets, rest)
        | none => ([], false, cs)

def eightGroups? (cs : List Char) : Option (List Nat × List Char) :=
  let (front, octets, rest) := groups true 8 cs
  if front.length = 8 then some (front, rest)
  else if octets then none
  else do
    let rest ← skip? ':' rest >>= skip? ':'
    let (back, _, rest) := groups true (7 - front.length) rest
    return (front ++ List.replicate (8 - front.length - back.length) 0 ++ back, rest)

/-- The zone after an address, zero if none is given. -/
def zone? : List Char → Option (Nat × List Char)
  | '%' :: cs => number? 10 0xFFFFFFFF cs
  | cs => some (0, cs)

def host? (cs : List Char) : Option (Host × List Char) :=
  match cs with
  | '[' :: cs => do
    let (gs, cs) ← eightGroups? cs
    let (zone, cs) ← zone? cs
    let cs ← skip? ']' cs
    return (.six gs zone, cs)
  | cs => (octets? cs).map fun p => (.four p.1, p.2)

def SocketAddress.ofText? (s : String) : Option SocketAddress := do
  let (host, cs) ← host? s.toList
  let (service, cs) ← skip? ':' cs >>= number? 10 0xFFFF
  if cs.isEmpty then some ⟨host, service⟩ else none

/-! ### Writing -/

def octetsText (os : List Nat) : String := ".".intercalate (os.map toString)

def groupsText (gs : List Nat) : String :=
  ":".intercalate (gs.map fun g => String.ofList (Nat.toDigits 16 g))

/-- How many zeros a list begins with. -/
def zeros (gs : List Nat) : Nat := (gs.takeWhile (· = 0)).length

/-- The longest run of zeros, the first one of those of equal length, as its start and its length.
The list given begins at `start`. -/
def longestZeros (start : Nat) : List Nat → Nat × Nat
  | [] => (start, 0)
  | g :: gs =>
    let later := longestZeros (start + 1) gs
    if later.2 ≤ zeros (g :: gs) then (start, zeros (g :: gs)) else later

/-- The shortest form: a run of at least two zeros, the longest there is, is left out. An address
that embeds one of the older kind shows it. -/
def eightGroupsText (gs : List Nat) : String :=
  match gs with
  | [0, 0, 0, 0, 0, 0xFFFF, a, b] =>
    "::ffff:" ++ octetsText [a / 256, a % 256, b / 256, b % 256]
  | gs =>
    let (start, length) := longestZeros 0 gs
    if 1 < length then
      groupsText (gs.take start) ++ "::" ++ groupsText (gs.drop (start + length))
    else groupsText gs

def Host.text : Host → String
  | .four os => octetsText os
  | .six gs 0 => "[" ++ eightGroupsText gs ++ "]"
  | .six gs zone => "[" ++ eightGroupsText gs ++ "%" ++ toString zone ++ "]"

def SocketAddress.text (a : SocketAddress) : String := a.host.text ++ ":" ++ toString a.service

end Chronicle.Net
