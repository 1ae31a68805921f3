/-!
# Letter case

Keywords, function names and level names are compared by ASCII letter case
only: `Char.toUpper` and `Char.toLower` leave every other character alone.
-/

namespace FlatQuery.Text

def upper (s : List Char) : List Char := s.map Char.toUpper

def lower (s : List Char) : List Char := s.map Char.toLower

/-- Equality up to ASCII case. -/
def sameLetters (s t : List Char) : Bool := upper s == upper t

end FlatQuery.Text
