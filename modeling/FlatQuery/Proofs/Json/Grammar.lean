import FlatQuery.Json.Reader

/-!
# JSON as it is written

The grammar of JSON, said of the text alone: strings and what they spell
(`Quoted`), values of any form (`Value`), and objects and arrays of which only
the texts are of interest (`Holds`). No reader and no list of wanted members is
mentioned here.
-/

namespace FlatQuery.Json

/-! ## Strings -/

def Blanks (s : List Char) : Prop := ∀ c ∈ s, c = ' ' ∨ c = '\n' ∨ c = '\t' ∨ c = '\r'

/-- A hexadecimal digit, in either letter case. -/
def HexDigit (c : Char) (n : Nat) : Prop :=
  n < 16 ∧ (c = Nat.digitChar n ∨ c = (Nat.digitChar n).toUpper)

/-- Four hexadecimal digits, and the unit of UTF-16 that they spell. -/
inductive SpelledUnit : List Char → Nat → Prop
  | digits {a b c d : Char} {i j k l : Nat} (ha : HexDigit a i) (hb : HexDigit b j)
      (hc : HexDigit c k) (hd : HexDigit d l) :
      SpelledUnit [a, b, c, d] (((i * 16 + j) * 16 + k) * 16 + l)

/-- The letters after a backslash, and the characters they stand for. -/
def letters : List (Char × Char) :=
  [('"', '"'), ('\\', '\\'), ('/', '/'), ('b', '\x08'), ('f', '\x0c'), ('n', '\n'), ('r', '\r'),
    ('t', '\t')]

/-- The inside of a string and the characters it spells. In a string that is not
`kept` a surrogate may stand alone. -/
inductive Spelling (kept : Bool) : List Char → List Char → Prop
  | nil : Spelling kept [] []
  | itself {c : Char} {s cs : List Char} (hquote : c ≠ '"') (hbackslash : c ≠ '\\')
      (hcontrol : 0x20 ≤ c.toNat) (rest : Spelling kept s cs) : Spelling kept (c :: s) (c :: cs)
  | letter {d c : Char} {s cs : List Char} (hletter : (d, c) ∈ letters)
      (rest : Spelling kept s cs) : Spelling kept ('\\' :: d :: s) (c :: cs)
  | unit {u s cs : List Char} {n : Nat} (hunit : SpelledUnit u n)
      (hsurrogate : kept = true → n < 0xD800 ∨ 0xE000 ≤ n) (rest : Spelling kept s cs) :
      Spelling kept ('\\' :: 'u' :: (u ++ s)) (Char.ofNat n :: cs)
  | pair {u v s cs : List Char} {m n : Nat} (hleading : SpelledUnit u m)
      (htrailing : SpelledUnit v n) (hm : 0xD800 ≤ m ∧ m < 0xDC00) (hn : 0xDC00 ≤ n ∧ n < 0xE000)
      (rest : Spelling kept s cs) :
      Spelling kept ('\\' :: 'u' :: (u ++ '\\' :: 'u' :: (v ++ s)))
        (Char.ofNat (0x10000 + (m - 0xD800) * 0x400 + (n - 0xDC00)) :: cs)

/-- A string between its quotes. -/
def Quoted (v : String) (w : List Char) : Prop :=
  ∃ s, w = '"' :: (s ++ ['"']) ∧ Spelling true s v.toList

/-! ## Values -/

def Digits (s : List Char) : Prop := s ≠ [] ∧ ∀ c ∈ s, c.isDigit = true

inductive FractionPart : List Char → Prop
  | none : FractionPart []
  | point {ds : List Char} (hds : Digits ds) : FractionPart ('.' :: ds)

inductive ExponentPart : List Char → Prop
  | none : ExponentPart []
  | letter {e : Char} {sign ds : List Char} (he : e = 'e' ∨ e = 'E')
      (hsign : sign = [] ∨ sign = ['+'] ∨ sign = ['-']) (hds : Digits ds) :
      ExponentPart (e :: (sign ++ ds))

/-- A number. A zero in front of the point stands alone. -/
inductive Number : List Char → Prop
  | parts {sign whole fraction exponent : List Char} (hsign : sign = [] ∨ sign = ['-'])
      (hwhole : Digits whole) (hzero : whole.head? = some '0' → whole = ['0'])
      (hfraction : FractionPart fraction) (hexponent : ExponentPart exponent) :
      Number (sign ++ (whole ++ (fraction ++ exponent)))

def Bracket.opening : Bracket → Char
  | square => '['
  | curly => '\x7b'

mutual

/-- A value, without blanks around it. -/
inductive Value : List Char → Prop
  | word {w : String} (h : w ∈ ["null", "true", "false"]) : Value w.toList
  | number {s : List Char} (h : Number s) : Value s
  | string {s cs : List Char} (h : Spelling false s cs) : Value ('"' :: (s ++ ['"']))
  | empty (b : Bracket) {g : List Char} (hg : Blanks g) : Value (b.opening :: (g ++ [b.closing]))
  | items (b : Bracket) {g s t : List Char} (hg : Blanks g) (h : Item b s) (rest : Items b t) :
      Value (b.opening :: (g ++ (s ++ (t ++ [b.closing]))))

/-- What stands between two commas: in an object, a value after its name. -/
inductive Item : Bracket → List Char → Prop
  | plain {s : List Char} (h : Value s) : Item .square s
  | named {k cs g g' s : List Char} (hk : Spelling false k cs) (hg : Blanks g) (hg' : Blanks g')
      (h : Value s) : Item .curly ('"' :: (k ++ '"' :: (g ++ ':' :: (g' ++ s))))

/-- The items after the first one. -/
inductive Items : Bracket → List Char → Prop
  | nil {b : Bracket} {g : List Char} (hg : Blanks g) : Items b g
  | cons {b : Bracket} {g g' s t : List Char} (hg : Blanks g) (hg' : Blanks g') (h : Item b s)
      (rest : Items b t) : Items b (g ++ ',' :: (g' ++ (s ++ t)))

end

/-! ## Texts in objects and arrays -/

/-- A value, and the text it is if it is one. -/
inductive Datum : Option String → List Char → Prop
  | text {w : List Char} {v : String} (h : Quoted v w) : Datum (some v) w
  | other {w : List Char} (h : Value w) (hne : ∀ v, ¬ Quoted v w) : Datum none w

/-- A name with its value. -/
inductive Pair : String × Option String → List Char → Prop
  | named {e : String × Option String} {k g g' w : List Char} (hk : Quoted e.1 k) (hg : Blanks g)
      (hg' : Blanks g') (hw : Datum e.2 w) : Pair e (k ++ (g ++ ':' :: (g' ++ w)))

section
variable {α : Type} (P : α → List Char → Prop)

/-- Items of a list, of which all but the first follow a comma. -/
inductive Listed : (isFirst : Bool) → List α → List Char → Prop
  | nil {isFirst : Bool} {g : List Char} (hg : Blanks g) : Listed isFirst [] g
  | first {a : α} {as : List α} {g s t : List Char} (hg : Blanks g) (h : P a s)
      (rest : Listed false as t) : Listed true (a :: as) (g ++ (s ++ t))
  | next {a : α} {as : List α} {g g' s t : List Char} (hg : Blanks g) (hg' : Blanks g')
      (h : P a s) (rest : Listed false as t) :
      Listed false (a :: as) (g ++ ',' :: (g' ++ (s ++ t)))

/-- A list of items between brackets. -/
inductive Enclosed (b : Bracket) : List α → List Char → Prop
  | list {as : List α} {t : List Char} (h : Listed P true as t) :
      Enclosed b as (b.opening :: (t ++ [b.closing]))

end

/-- The text is an object with these members, or an array of texts, which go by
the given names in their order. -/
inductive Holds (names : List String) : List Char → List (String × Option String) → Prop
  | object {es : List (String × Option String)} {g s g' : List Char} (hg : Blanks g)
      (h : Enclosed Pair .curly es s) (hg' : Blanks g') : Holds names (g ++ (s ++ g')) es
  | array {vs : List String} {g s g' : List Char} (hg : Blanks g)
      (h : Enclosed Quoted .square vs s) (hlength : vs.length ≤ names.length)
      (hg' : Blanks g') : Holds names (g ++ (s ++ g')) (names.zip (vs.map some))

end FlatQuery.Json
