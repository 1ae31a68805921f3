import FlatQuery.Row
import FlatQuery.Text.Utf8

/-!
# Delimited text

Records of fields, the first of which is the header. A field that begins with
a quote runs to the next single quote, and a doubled quote inside it stands
for one; whatever follows the closing quote up to the delimiter still belongs
to the field. A record ends at a line feed or a carriage return, and empty
lines are skipped, the line feed of a pair among them. At the end of the text
an open record is complete.

Every record must have as many fields as the header.
-/

namespace FlatQuery.Delimited

def quoteByte : UInt8 := 0x22
def lineFeed : UInt8 := 0x0A
def carriageReturn : UInt8 := 0x0D

def isLineEnd (b : UInt8) : Bool := b == lineFeed || b == carriageReturn

/-! ## Records -/

/-- A place in the text: the line, counted from one by line feeds, and the
number of bytes before it. -/
structure Place where
  line : Nat
  byte : Nat
deriving DecidableEq, Repr

structure Record where
  /-- Where the record before it ended. -/
  place : Place
  fields : List (List UInt8)
deriving DecidableEq, Repr

inductive Mode
  | betweenRecords
  | fieldStart
  | inField
  | inQuotes
  /-- After a quote inside a quoted field: its end, or half of a doubled quote. -/
  | afterQuote
deriving DecidableEq, Repr

structure Reader where
  mode : Mode
  /-- The open field, last byte first. -/
  field : List UInt8
  /-- The closed fields of the open record, last one first. -/
  closed : List (List UInt8)
  here : Place
  start : Place
deriving Repr

namespace Reader

/-- At the beginning of the text, after `skipped` bytes that do not count as text. -/
def initial (skipped : Nat) : Reader := ⟨.betweenRecords, [], [], ⟨1, skipped⟩, ⟨1, 0⟩⟩

def keep (r : Reader) (mode : Mode) (b : UInt8) : Reader :=
  { r with mode := mode, field := b :: r.field }

def closeField (r : Reader) : Reader :=
  { r with mode := .fieldStart, field := [], closed := r.field.reverse :: r.closed }

def record (r : Reader) : Record := ⟨r.start, (r.field.reverse :: r.closed).reverse⟩

def endRecord (r : Reader) : Reader × Option Record :=
  ({ r with mode := .betweenRecords, field := [], closed := [], start := r.here }, some r.record)

/-- A byte that may end the field, or else belongs to it. -/
def unquoted (delimiter : UInt8) (r : Reader) (b : UInt8) : Reader × Option Record :=
  if b = delimiter then (r.closeField, none)
  else if isLineEnd b then r.endRecord
  else (r.keep .inField b, none)

def startField (delimiter : UInt8) (r : Reader) (b : UInt8) : Reader × Option Record :=
  if b = quoteByte then ({ r with mode := .inQuotes }, none) else r.unquoted delimiter b

def advance (r : Reader) (b : UInt8) : Reader :=
  { r with here := ⟨r.here.line + (if b = lineFeed then 1 else 0), r.here.byte + 1⟩ }

/-- Takes up one byte, and gives the record that ends with it. -/
def step (delimiter : UInt8) (r : Reader) (b : UInt8) : Reader × Option Record :=
  let r := r.advance b
  match r.mode with
  | .betweenRecords => if isLineEnd b then (r, none) else r.startField delimiter b
  | .fieldStart => r.startField delimiter b
  | .inField => r.unquoted delimiter b
  | .inQuotes =>
    if b = quoteByte then ({ r with mode := .afterQuote }, none) else (r.keep .inQuotes b, none)
  | .afterQuote =>
    if b = quoteByte then (r.keep .inQuotes b, none) else r.unquoted delimiter b

/-- The record still open at the end of the text. -/
def finish (r : Reader) : List Record :=
  match r.mode with
  | .betweenRecords => []
  | _ => [r.record]

def run (delimiter : UInt8) (r : Reader) : List UInt8 → List Record
  | [] => r.finish
  | b :: rest =>
    match r.step delimiter b with
    | (next, none) => run delimiter next rest
    | (next, some record) => record :: run delimiter next rest

end Reader

/-- The records of a text. A byte order mark at its start is skipped. -/
def records (delimiter : UInt8) : List UInt8 → List Record
  | 0xEF :: 0xBB :: 0xBF :: rest => (Reader.initial 3).run delimiter rest
  | bytes => (Reader.initial 0).run delimiter bytes

/-! ## Rows -/

/-- What is wrong with a record; `index` counts records from the header on. -/
inductive Error
  | unequalLengths (index : Nat) (place : Place) (expected found : Nat)
  | invalidUtf8 (index : Nat) (place : Place) (field validBytes : Nat)
deriving DecidableEq, Repr

namespace Error

def message : Error → String
  | unequalLengths index place expected found =>
    "CSV error: record " ++ Decimal.numeral index ++
      " (line: " ++ Decimal.numeral place.line ++ ", byte: " ++ Decimal.numeral place.byte ++
      "): found record with " ++ Decimal.numeral found ++
      " fields, but the previous record has " ++ Decimal.numeral expected ++ " fields"
  | invalidUtf8 index place field validBytes =>
    "CSV parse error: record " ++ Decimal.numeral index ++
      " (line " ++ Decimal.numeral place.line ++ ", field: " ++ Decimal.numeral field ++
      ", byte: " ++ Decimal.numeral place.byte ++
      "): invalid utf-8: invalid UTF-8 in field " ++ Decimal.numeral field ++
      " near byte index " ++ Decimal.numeral validBytes

end Error

def isAsciiBlank (b : UInt8) : Bool :=
  b == 0x20 || b == 0x09 || b == 0x0A || b == 0x0C || b == 0x0D

/-- Drops ASCII blanks at both ends. -/
def trimAscii (bytes : List UInt8) : List UInt8 :=
  ((bytes.dropWhile isAsciiBlank).reverse.dropWhile isAsciiBlank).reverse

/-- Decodes the fields of a record from number `field` on; the texts are trimmed. -/
def decodeFields (index : Nat) (place : Place) (field : Nat) :
    List (List UInt8) → Except Error (List String)
  | [] => .ok []
  | bytes :: rest =>
    match Text.decode? bytes with
    | none => .error (.invalidUtf8 index place field (Text.validLength bytes))
    | some text => do
      return Text.trimString text :: (← decodeFields index place (field + 1) rest)

/-- The row of a data record. Its length is checked first, and bytes that are no
text are counted from behind the blanks at the start of the field. -/
def readRow (header : List String) (index : Nat) (record : Record) : Except Error Row :=
  if record.fields.length ≠ header.length then
    .error (.unequalLengths index record.place header.length record.fields.length)
  else do
    let cells ← decodeFields index record.place 0 (record.fields.map trimAscii)
    return OrderMap.ofList (header.zip (cells.map Cell.text))

def readRows (header : List String) (index : Nat) : List Record → Except Error (List Row)
  | [] => .ok []
  | record :: rest => do
    let row ← readRow header index record
    return row :: (← readRows header (index + 1) rest)

/-- The rows of a table text. A repeated name in the header stands for its last column. -/
def parse (delimiter : UInt8) (bytes : List UInt8) : Except Error (List Row) :=
  match records delimiter bytes with
  | [] => .ok []
  | first :: rest => do
    let header ← decodeFields 0 first.place 0 first.fields
    readRows header 1 rest

end FlatQuery.Delimited
