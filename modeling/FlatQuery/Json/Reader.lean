import FlatQuery.Json.Literal
import FlatQuery.Json.Number

/-!
# Reading values

`skip` reads over a value of any form, however deep. `record` reads an object
of which some members are wanted, all of them texts; an array of the texts in
order will do as well. Members that are not wanted are read over.
-/

namespace FlatQuery.Json

/-! ## Skipping -/

inductive Bracket
  | square
  | curly
deriving DecidableEq, Repr

namespace Bracket

def closing : Bracket → Char
  | square => ']'
  | curly => '\x7d'

/-- The fault of a text that ends inside. -/
def ended : Bracket → Fault
  | square => .endInArray
  | curly => .endInObject

/-- The fault of a character that neither goes on nor ends. -/
def unclosed : Bracket → Fault
  | square => .missingArrayEnd
  | curly => .missingObjectEnd

end Bracket

/-- The rest after a colon. -/
def colon (s : List Char) : Except Stop (List Char) :=
  match skipBlanks s with
  | ':' :: rest => .ok rest
  | [] => stopBefore .endInObject []
  | rest => stopBefore .missingColon rest

/-- The key of an object's member and the text after the colon. -/
def skipKey (s : List Char) : Except Stop (List Char) :=
  match skipBlanks s with
  | '"' :: rest => do
    let (_, rest) ← string false rest
    colon rest
  | [] => stopBefore .endInObject []
  | rest => stopBefore .keyNotString rest

/-- Reads over a value, or over its opening bracket. -/
def skipStart (s : List Char) : Except Stop (Option Bracket × List Char) :=
  match skipBlanks s with
  | [] => stopBefore .endInValue []
  | c :: rest =>
    if c = '[' then .ok (some .square, rest)
    else if c = '\x7b' then .ok (some .curly, rest)
    else if c = 'n' then (expectWord "ull".toList rest).map fun r => (none, r)
    else if c = 't' then (expectWord "rue".toList rest).map fun r => (none, r)
    else if c = 'f' then (expectWord "alse".toList rest).map fun r => (none, r)
    else if c = '"' then (string false rest).map fun (_, r) => (none, r)
    else if c = '-' ∨ c.isDigit then (numeral .badNumber (c :: rest)).map fun (_, r) => (none, r)
    else stopBefore .missingValue (c :: rest)

/-- After a value: closes brackets up to the next comma. Without open brackets
the value was the last one. -/
def skipClosing : List Bracket → List Char → Except Stop (List Bracket × List Char)
  | [], s => .ok ([], s)
  | bracket :: outer, s =>
    match skipBlanks s with
    | [] => stopBefore bracket.ended []
    | c :: rest =>
      if c = ',' then .ok (bracket :: outer, rest)
      else if c = bracket.closing then skipClosing outer rest
      else stopBefore bracket.unclosed (c :: rest)

/-- Reads over what stands before a value in the innermost bracket. -/
def skipLead : List Bracket → List Char → Except Stop (List Char)
  | .curly :: _, s => skipKey s
  | _, s => .ok s

/-- Reads over one item of the innermost bracket, up to where the next one begins. -/
def skipItem (opened : List Bracket) (s : List Char) :
    Except Stop (List Bracket × List Char) := do
  match ← skipStart (← skipLead opened s) with
  | (none, rest) => skipClosing opened rest
  | (some bracket, rest) =>
    match skipBlanks rest with
    | [] => stopBefore bracket.ended []
    | c :: after =>
      if c = bracket.closing then skipClosing opened after
      else .ok (bracket :: opened, c :: after)

/-- Reads over items until no bracket is open. Every item has a character of its
own, so `fuel` need not exceed their number. -/
def skipItems : (fuel : Nat) → List Bracket → List Char → Except Stop (List Char)
  | 0, _, s => stopAt .endInValue s
  | fuel + 1, opened, s => do
    match ← skipItem opened s with
    | ([], rest) => .ok rest
    | (bracket :: outer, rest) => skipItems fuel (bracket :: outer) rest

/-- The rest after a value. -/
def skip (s : List Char) : Except Stop (List Char) := skipItems (s.length + 1) [] s

/-! ## Texts -/

/-- What stands where no blank does; a sequence or map is not entered. -/
def found (s : List Char) : Except Stop (Found × List Char) :=
  match s with
  | [] => stopBefore .endInValue []
  | c :: rest =>
    if c = '[' then .ok (.sequence, s)
    else if c = '\x7b' then .ok (.map, s)
    else if c = 'n' then (expectWord "ull".toList rest).map fun r => (.null, r)
    else if c = 't' then (expectWord "rue".toList rest).map fun r => (.boolean true, r)
    else if c = 'f' then (expectWord "alse".toList rest).map fun r => (.boolean false, r)
    else if c = '"' then
      (string true rest).map fun (text, r) => (.string (String.ofList text), r)
    else if c = '-' ∨ c.isDigit then number s
    else stopBefore .missingValue s

/-- A text, where messages call what is wanted `wanted`. -/
def text (wanted : String) (s : List Char) : Except Stop (String × List Char) := do
  match ← found (skipBlanks s) with
  | (.string value, rest) => .ok (value, rest)
  | (other, rest) => stopAt (.wrongType other wanted) rest

/-! ## Records -/

/-- A member that is wanted. -/
structure Member where
  name : String
  /-- What messages call its value. -/
  wanted : String
  required : Bool
deriving DecidableEq, Repr

/-- What a record is called in messages, and the members that are wanted of it. -/
structure Form where
  title : String
  members : List Member
deriving DecidableEq, Repr

/-- The members that were read, by name. -/
abbrev Texts := List (String × String)

/-- Whether a bracket has another item. What is left begins with that item, or
else follows the closing bracket. -/
def nextItem (bracket : Bracket) (isFirst : Bool) (s : List Char) :
    Except Stop (Bool × List Char) :=
  match skipBlanks s with
  | [] => stopBefore bracket.ended []
  | c :: rest =>
    if c = bracket.closing then .ok (false, rest)
    else if isFirst then .ok (true, c :: rest)
    else if c = ',' then
      match skipBlanks rest with
      | [] => stopBefore .endInValue []
      | d :: after =>
        if d = bracket.closing then stopBefore .trailingComma (d :: after)
        else .ok (true, d :: after)
    else stopBefore bracket.unclosed (c :: rest)

def key (s : List Char) : Except Stop (String × List Char) :=
  match s with
  | '"' :: rest => (string true rest).map fun (name, r) => (String.ofList name, r)
  | _ => stopBefore .keyNotString s

/-- The rest of the object if it closes at once. -/
def pastCurly (s : List Char) : List Char :=
  match skipBlanks s with
  | '\x7d' :: rest => rest
  | rest => rest

/-- The members of an object, after those that are `known`. -/
def objectTexts (form : Form) :
    (fuel : Nat) → (isFirst : Bool) → (known : Texts) → List Char → Except Stop (Texts × List Char)
  | 0, _, _, s => stopAt .endInObject s
  | fuel + 1, isFirst, known, s => do
    let (more, s) ← nextItem .curly isFirst s
    if !more then
      match form.members.find? fun m => m.required && (known.lookup m.name).isNone with
      | some missing => stopAt (.missingMember missing.name) s
      | none => .ok (known, s)
    else
      let (name, s) ← key s
      match form.members.find? (·.name = name) with
      | none =>
        let s ← colon s
        let s ← skip s
        objectTexts form fuel false known s
      | some member =>
        if (known.lookup name).isSome then stopAt (.repeatedMember name) (pastCurly s)
        else
          let s ← colon s
          let (value, s) ← text member.wanted s
          objectTexts form fuel false (known ++ [(name, value)]) s

/-- The rest after an array all of whose items were read. -/
def endArray (s : List Char) : Except Stop (List Char) :=
  match skipBlanks s with
  | [] => stopBefore .endInArray []
  | ']' :: rest => .ok rest
  | ',' :: rest =>
    match skipBlanks rest with
    | ']' :: _ => stopBefore .trailingComma (skipBlanks rest)
    | after => stopBefore .trailingText after
  | rest => stopBefore .trailingText rest

/-- The items of an array for the members from the given one on. -/
def arrayTexts (form : Form) :
    List Member → (known : Texts) → List Char → Except Stop (Texts × List Char)
  | [], known, s => (endArray s).map fun rest => (known, rest)
  | member :: others, known, s => do
    let (more, s) ← nextItem .square known.isEmpty s
    if more then
      let (value, s) ← text member.wanted s
      arrayTexts form others (known ++ [(member.name, value)]) s
    else
      match (member :: others).findIdx? Member.required with
      | some distance =>
        stopAt (.wrongLength (known.length + distance)
          (form.title ++ " with " ++ Decimal.numeral form.members.length ++ " elements")) s
      | none => .ok (known, s)

/-- A record at the front of a text. -/
def recordTexts (form : Form) (s : List Char) : Except Stop (Texts × List Char) :=
  match skipBlanks s with
  | '\x7b' :: rest => objectTexts form (rest.length + 1) true [] rest
  | '[' :: rest => arrayTexts form form.members [] rest
  | s => do
    let (other, rest) ← found s
    stopAt (.wrongType other form.title) rest

/-- A record with nothing but blanks after it. -/
def onlyRecord (form : Form) (s : List Char) : Except Stop Texts := do
  let (texts, rest) ← recordTexts form s
  match skipBlanks rest with
  | [] => .ok texts
  | rest => stopBefore .trailingText rest

/-- Reads a text that is one record and nothing else. -/
def record (form : Form) (s : String) : Except LocatedFault Texts :=
  match onlyRecord form s.toList with
  | .ok texts => .ok texts
  | .error stop => .error (stop.locate s)

end FlatQuery.Json
