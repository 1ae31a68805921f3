import FlatQuery.Text.Ranges

/-!
# Letters, digits and word characters

Identifiers are made of alphabetic and numeric characters of the whole
Unicode range; names inside an aggregate call are made of word characters.
The two classes differ: `½` is numeric and no word character, a combining
accent is a word character and not alphabetic. They also follow different
versions of the Unicode standard: 17 for identifiers, 16 for words.
-/

namespace FlatQuery.Text

def inRanges (ranges : List (Nat × Nat)) (n : Nat) : Bool :=
  ranges.any fun (first, last) => first ≤ n && n ≤ last

def isAlphabetic (c : Char) : Bool :=
  if c.toNat < 0x80 then c.isAlpha else inRanges alphabeticRanges c.toNat

def isNumeric (c : Char) : Bool :=
  if c.toNat < 0x80 then c.isDigit else inRanges numericRanges c.toNat

/-- Alphabetic or numeric, or the underscore. -/
def isIdentifierChar (c : Char) : Bool := isAlphabetic c || isNumeric c || c == '_'

/-- Alphabetic, a mark, a decimal digit, connector punctuation or a joiner. -/
def isWordChar (c : Char) : Bool :=
  if c.toNat < 0x80 then c.isAlphanum || c == '_' else inRanges wordRanges c.toNat

/-- A nonempty run of identifier characters. -/
def isIdentifier (s : List Char) : Bool := !s.isEmpty && s.all isIdentifierChar

end FlatQuery.Text
