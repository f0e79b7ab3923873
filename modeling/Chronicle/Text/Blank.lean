/-!
# Blank text

The characters with the Unicode property White_Space, and the texts made of nothing else. Format
characters such as the zero-width space and the byte order mark do not have the property, nor do
the four information separators.
-/

namespace Chronicle.Text

def isBlank (c : Char) : Bool :=
  let n := c.toNat
  (0x09 ≤ n && n ≤ 0x0D) || n == 0x20 || n == 0x85 || n == 0xA0 || n == 0x1680
    || (0x2000 ≤ n && n ≤ 0x200A) || n == 0x2028 || n == 0x2029 || n == 0x202F || n == 0x205F
    || n == 0x3000

/-- A text is blank when nothing is left of it once blank characters are trimmed from its ends. -/
def blank (s : String) : Bool :=
  s.toList.all isBlank

def dropBlank (cs : List Char) : List Char :=
  cs.dropWhile isBlank

end Chronicle.Text
