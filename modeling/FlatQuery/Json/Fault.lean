import FlatQuery.Json.Text
import FlatQuery.Text.Letter
import FlatQuery.Text.Utf8

/-!
# What can be wrong with a JSON text

Three kinds of fault: the text ends too early, the text is not JSON, or it is
JSON of a form that is not wanted. Reading stops at the first of them.
-/

namespace FlatQuery.Json

/-- What stands in a text, in the words of a message. -/
inductive Found
  | null
  | boolean (value : Bool)
  | integer (negative : Bool) (n : Nat)
  | double (value : Float)
  | string (value : String)
  | sequence
  | map
deriving DecidableEq, Repr

/-- What a member or a whole text is wrong in. -/
inductive Fault
  | endInArray
  | endInObject
  | endInString
  | endInValue
  | missingColon
  | missingArrayEnd
  | missingObjectEnd
  | brokenWord
  | missingValue
  | unknownEscape
  | badNumber
  | hugeNumber
  | controlCharacter
  | keyNotString
  | loneSurrogate
  | openSurrogate
  | trailingComma
  | trailingText
  | wrongType (found : Found) (wanted : String)
  | repeatedMember (name : String)
  | missingMember (name : String)
  | wrongLength (length : Nat) (wanted : String)
deriving DecidableEq, Repr

/-! ## Messages -/

/-- A character in a quotation: what cannot be seen is given by its code point. -/
def visible (c : Char) : List Char :=
  if c = '"' then ['\\', '"']
  else if c = '\\' then ['\\', '\\']
  else if c = '\n' then ['\\', 'n']
  else if c = '\r' then ['\\', 'r']
  else if c = '\t' then ['\\', 't']
  else if c = '\x00' then ['\\', '0']
  else if c.toNat < 0x20 ∨ c.toNat = 0x7F ∨ Text.inRanges Text.invisibleRanges c.toNat then
    ['\\', 'u', '\x7b'] ++ Nat.toDigits 16 c.toNat ++ ['\x7d']
  else [c]

def quotation (s : String) : String :=
  String.ofList ('"' :: (s.toList.flatMap visible ++ ['"']))

def Found.description : Found → String
  | null => "null"
  | boolean value => "boolean `" ++ (if value then "true" else "false") ++ "`"
  | integer negative n => "integer `" ++ Json.integer negative n ++ "`"
  | double value => "floating point `" ++ Json.double value ++ "`"
  | string value => "string " ++ quotation value
  | sequence => "sequence"
  | map => "map"

namespace Fault

def message : Fault → String
  | endInArray => "EOF while parsing a list"
  | endInObject => "EOF while parsing an object"
  | endInString => "EOF while parsing a string"
  | endInValue => "EOF while parsing a value"
  | missingColon => "expected `:`"
  | missingArrayEnd => "expected `,` or `]`"
  | missingObjectEnd => "expected `,` or `\x7d`"
  | brokenWord => "expected ident"
  | missingValue => "expected value"
  | unknownEscape => "invalid escape"
  | badNumber => "invalid number"
  | hugeNumber => "number out of range"
  | controlCharacter => "control character (\\u0000-\\u001F) found while parsing a string"
  | keyNotString => "key must be a string"
  | loneSurrogate => "lone leading surrogate in hex escape"
  | openSurrogate => "unexpected end of hex escape"
  | trailingComma => "trailing comma"
  | trailingText => "trailing characters"
  | wrongType found wanted => "invalid type: " ++ found.description ++ ", expected " ++ wanted
  | repeatedMember name => "duplicate field `" ++ name ++ "`"
  | missingMember name => "missing field `" ++ name ++ "`"
  | wrongLength length wanted =>
    "invalid length " ++ Decimal.numeral length ++ ", expected " ++ wanted

/-- Whether the text ended before the value did. -/
def isEnd : Fault → Bool
  | endInArray | endInObject | endInString | endInValue => true
  | _ => false

/-- Whether the text is JSON as far as it was read. -/
def isMisfit : Fault → Bool
  | wrongType _ _ | repeatedMember _ | missingMember _ | wrongLength _ _ => true
  | _ => false

end Fault

/-! ## Where a fault shows -/

/-- A fault, and how many bytes were still unread there. -/
structure Stop where
  fault : Fault
  unread : Nat
deriving DecidableEq, Repr

def byteCount (s : List Char) : Nat := s.foldr (fun c n => c.utf8Size + n) 0

/-- A fault in what was read last, with `rest` still to come. -/
def stopAt {α : Type} (fault : Fault) (rest : List Char) : Except Stop α :=
  .error ⟨fault, byteCount rest⟩

/-- A fault in the next byte. -/
def stopBefore {α : Type} (fault : Fault) (rest : List Char) : Except Stop α :=
  .error ⟨fault, byteCount rest - 1⟩

/-- A fault and the line, counted from one, and number of bytes into it where it shows. -/
structure LocatedFault where
  fault : Fault
  line : Nat
  column : Nat
deriving DecidableEq, Repr

def LocatedFault.message (f : LocatedFault) : String :=
  f.fault.message ++ " at line " ++ Decimal.numeral f.line ++ " column " ++ Decimal.numeral f.column

/-- Locates a fault in the text that was read. -/
def Stop.locate (stop : Stop) (text : String) : LocatedFault :=
  let before := (Text.encode text).take (text.utf8ByteSize - stop.unread)
  ⟨stop.fault, before.count 0x0A + 1, (before.reverse.takeWhile (· != 0x0A)).length⟩

end FlatQuery.Json
