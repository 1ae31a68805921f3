import FlatQuery.Json.Fault

/-!
# Reading words and strings

A reader takes a value off the front of the text and gives it with the rest,
or stops at a fault. The rest after an escape is shorter than the text, which
is why `string` ends.
-/

namespace FlatQuery.Json

def isBlank (c : Char) : Bool := c == ' ' || c == '\n' || c == '\t' || c == '\r'

def skipBlanks (s : List Char) : List Char := s.dropWhile isBlank

/-- The rest after a word. -/
def expectWord : List Char → List Char → Except Stop (List Char)
  | [], s => .ok s
  | _ :: _, [] => stopAt .endInValue []
  | c :: word, d :: s => if c = d then expectWord word s else stopBefore .brokenWord (d :: s)

/-! ## Escapes -/

def hexDigit? (c : Char) : Option Nat :=
  if c.isDigit then some (c.toNat - '0'.toNat)
  else if 'a' ≤ c ∧ c ≤ 'f' then some (c.toNat - 'a'.toNat + 10)
  else if 'A' ≤ c ∧ c ≤ 'F' then some (c.toNat - 'A'.toNat + 10)
  else none

/-- The unit that four hexadecimal digits spell. -/
def unit (s : List Char) : Except Stop (Nat × List Char) :=
  if byteCount (s.take 4) < 4 then stopAt .endInString []
  else
    match (s.take 4).mapM hexDigit? with
    | some [a, b, c, d] => .ok (((a * 16 + b) * 16 + c) * 16 + d, s.drop 4)
    | _ => .error ⟨.unknownEscape, byteCount s - 4⟩

def isLeading (n : Nat) : Bool := 0xD800 ≤ n && n < 0xDC00

def isTrailing (n : Nat) : Bool := 0xDC00 ≤ n && n < 0xE000

/-- The trailing unit that has to follow a leading one. -/
def trailingUnit : List Char → Except Stop (Nat × List Char)
  | [] | ['\\'] => stopAt .endInString []
  | '\\' :: 'u' :: s => do
    let (n, rest) ← unit s
    if isTrailing n then .ok (n, rest) else stopAt .loneSurrogate rest
  | '\\' :: s => stopBefore .openSurrogate s
  | s => stopBefore .openSurrogate s

/-- The character of one unit or of a pair of surrogates. A text that is not
`kept` may have lone surrogates in it. -/
def codePoint (kept : Bool) (s : List Char) : Except Stop (Char × List Char) := do
  let (n, rest) ← unit s
  if kept && isTrailing n then stopAt .loneSurrogate rest
  else if kept && isLeading n then
    let (m, rest) ← trailingUnit rest
    .ok (Char.ofNat (0x10000 + (n - 0xD800) * 0x400 + (m - 0xDC00)), rest)
  else .ok (Char.ofNat n, rest)

/-- The character a single letter stands for after a backslash. -/
def shortEscape? : Char → Option Char
  | '"' => some '"'
  | '\\' => some '\\'
  | '/' => some '/'
  | 'b' => some '\x08'
  | 'f' => some '\x0c'
  | 'n' => some '\n'
  | 'r' => some '\r'
  | 't' => some '\t'
  | _ => none

/-- The character of an escape, after the backslash. -/
def unescape (kept : Bool) : List Char → Except Stop (Char × List Char)
  | [] => stopAt .endInString []
  | 'u' :: s => codePoint kept s
  | c :: s =>
    match shortEscape? c with
    | some d => .ok (d, s)
    | none => stopBefore .unknownEscape (c :: s)

theorem unit_length {s r : List Char} {n : Nat} (h : unit s = .ok (n, r)) :
    r.length ≤ s.length := by
  unfold unit at h
  split at h
  · cases h
  · split at h
    · injection h with h
      injection h with _ h
      subst h
      simp
    · cases h

theorem trailingUnit_length {s r : List Char} {n : Nat} (h : trailingUnit s = .ok (n, r)) :
    r.length ≤ s.length := by
  unfold trailingUnit at h
  split at h
  · cases h
  · cases h
  · next t =>
    cases hu : unit t with
    | error e => rw [hu] at h; cases h
    | ok p =>
      have hp := unit_length hu
      rw [hu] at h
      change (if isTrailing p.1 then Except.ok (p.1, p.2) else _) = _ at h
      split at h
      · injection h with h
        injection h with _ h
        subst h
        simp
        omega
      · cases h
  · cases h
  · cases h

theorem codePoint_length {kept : Bool} {s r : List Char} {c : Char}
    (h : codePoint kept s = .ok (c, r)) : r.length ≤ s.length := by
  unfold codePoint at h
  cases hu : unit s with
  | error e => rw [hu] at h; cases h
  | ok p =>
    have hp := unit_length hu
    rw [hu] at h
    simp only [bind, Except.bind] at h
    split at h
    · cases h
    · split at h
      · cases ht : trailingUnit p.2 with
        | error e => rw [ht] at h; cases h
        | ok q =>
          have hq := trailingUnit_length ht
          rw [ht] at h
          injection h with h
          injection h with _ h
          subst h
          omega
      · injection h with h
        injection h with _ h
        subst h
        exact hp

/-- An escape takes at least one character. -/
theorem unescape_length {kept : Bool} {s r : List Char} {c : Char}
    (h : unescape kept s = .ok (c, r)) : r.length < s.length := by
  unfold unescape at h
  split at h
  · cases h
  · have := codePoint_length h
    simp
    omega
  · split at h
    · injection h with h
      injection h with _ h
      subst h
      simp
    · cases h

/-! ## Strings -/

/-- The characters of a string, after the opening quote. A control character shows
where it ends in a text that is `kept`, and where it begins in another. -/
def string (kept : Bool) (s : List Char) : Except Stop (List Char × List Char) :=
  match s with
  | [] => stopAt .endInString []
  | '"' :: rest => .ok ([], rest)
  | '\\' :: rest =>
    match h : unescape kept rest with
    | .error stop => .error stop
    | .ok (c, after) =>
      have := unescape_length h
      (string kept after).map fun (cs, last) => (c :: cs, last)
  | c :: rest =>
    if c.toNat < 0x20 then stopAt .controlCharacter (if kept then rest else c :: rest)
    else (string kept rest).map fun (cs, last) => (c :: cs, last)
termination_by s.length

end FlatQuery.Json
