/-!
# Blanks and trimming

A blank is a character with the Unicode property `White_Space`. Texts are
handled as lists of characters. `trim` removes blanks at both ends and
nothing else.
-/

namespace FlatQuery.Text

/-- The code points with the property `White_Space`. -/
def isBlank (c : Char) : Bool :=
  let n := c.toNat
  (9 ≤ n && n ≤ 13) || n == 0x20 || n == 0x85 || n == 0xA0 || n == 0x1680 ||
    (0x2000 ≤ n && n ≤ 0x200A) || n == 0x2028 || n == 0x2029 || n == 0x202F ||
    n == 0x205F || n == 0x3000

def trimStart (s : List Char) : List Char := s.dropWhile isBlank

/-- Drops the blanks at the end: a blank goes when nothing is kept after it. -/
def trimEnd : List Char → List Char
  | [] => []
  | c :: r =>
    match trimEnd r with
    | [] => if isBlank c then [] else [c]
    | d :: t => c :: d :: t

def trim (s : List Char) : List Char := trimEnd (trimStart s)

/-- A string without the blanks at its ends. -/
def trimString (s : String) : String := String.ofList (trim s.toList)

end FlatQuery.Text
