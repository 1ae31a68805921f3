import FlatQuery.Text.Blank

/-!
# Texts by byte offsets

A text has as many bytes as its characters have in UTF-8. An offset counts
bytes, and a part of a text is there only if its two offsets ascend, lie within
the text and fall between characters.
-/

namespace FlatQuery.Text

def bytes : List Char → Nat
  | [] => 0
  | c :: r => c.utf8Size + bytes r

/-- What stands before and after an offset, if it falls between characters. -/
def cut? (s : List Char) (offset : Nat) : Option (List Char × List Char) :=
  if offset = 0 then some ([], s)
  else
    match s with
    | [] => none
    | c :: r =>
      if offset < c.utf8Size then none
      else (cut? r (offset - c.utf8Size)).map fun (before, after) => (c :: before, after)

def slice? (s : List Char) (start stop : Nat) : Option (List Char) :=
  match cut? s start with
  | none => none
  | some (_, rest) =>
    if stop < start then none else (cut? rest (stop - start)).map fun (part, _) => part

/-- The offset of the first character with a property. -/
def offset? (p : Char → Bool) : List Char → Option Nat
  | [] => none
  | c :: r => if p c then some 0 else (offset? p r).map (c.utf8Size + ·)

/-! ## Words with their offsets -/

structure Span where
  text : List Char
  start : Nat
  stop : Nat
deriving DecidableEq, Repr

/-- The words that end in `rest`, which begins at the offset `i` of `s`. The
word being read, if any, began at `start`. -/
def scan (s : List Char) (start : Option Nat) (i : Nat) : List Char → Option (List Span)
  | [] =>
    match start with
    | some n => do
      let text ← slice? s n (bytes s)
      return [⟨text, n, bytes s⟩]
    | none => some []
  | c :: rest =>
    if isBlank c then
      match start with
      | some n => do
        let text ← slice? s n i
        let more ← scan s none (i + c.utf8Size) rest
        return ⟨text, n, i⟩ :: more
      | none => scan s none (i + c.utf8Size) rest
    else scan s (some (start.getD i)) (i + c.utf8Size) rest

/-- The words of a text, each cut out of it between its offsets. -/
def spans? (s : List Char) : Option (List Span) := scan s none 0 s

end FlatQuery.Text
