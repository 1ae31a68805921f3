import FlatQuery.Proofs.Text.Standing
import FlatQuery.Query.Parser

/-!
# Sentences

The written forms of a query. A sentence keeps every choice its writer has:
letter case of the keywords, blanks, quotes and connectives. `Sentence.text`
writes it out and `Sentence.plan` is what it asks for. Each part carries the
conditions the grammar puts on it, so a sentence is well formed by itself.

A sentence is clear if no keyword stands inside a part where it would begin
or end another one.
-/

namespace FlatQuery

open Text

/-! ## Blanks, keywords and names -/

/-- Blanks, possibly none. -/
structure Pad where
  chars : List Char
  blank : AllBlank chars

/-- One blank or more. -/
structure Gap extends Pad where
  nonempty : chars ≠ []

/-- A keyword in any letter case. -/
structure Keyword (name : String) where
  chars : List Char
  same : sameLetters chars name.toList = true

def Pad.none : Pad := ⟨[], allBlank_nil⟩

def Gap.single : Gap := ⟨⟨[' '], List.forall_mem_singleton.mpr (by decide)⟩, by decide⟩

def Keyword.plain (name : String) : Keyword name := ⟨name.toList, by simp [sameLetters]⟩

structure TableName where
  chars : List Char
  nonempty : chars ≠ []
  solid : Solid chars

/-- A column with its table, both identifiers. -/
structure QualifiedName where
  table : List Char
  column : List Char
  table_identifier : isIdentifier table = true
  column_identifier : isIdentifier column = true

def QualifiedName.text (n : QualifiedName) : List Char := n.table ++ '.' :: n.column

/-! ## Lists of fields -/

structure Entry where
  chars : List Char
  nonempty : chars ≠ []
  trimmed : trim chars = chars
  comma_free : ',' ∉ chars

inductive Listing
  | last (entry : Entry)
  | more (entry : Entry) (before after : Pad) (rest : Listing)

namespace Listing

def text : Listing → List Char
  | last entry => entry.chars
  | more entry before after rest =>
    entry.chars ++ (before.chars ++ ',' :: (after.chars ++ rest.text))

def entries : Listing → List Entry
  | last entry => [entry]
  | more entry _ _ rest => entry :: rest.entries

def fields (l : Listing) : List String := l.entries.map fun entry => String.ofList entry.chars

end Listing

/-! ## Conditions -/

/-- Between two equal quotes, single or double. -/
def Wrapped (s : List Char) : Prop := ∃ q v, (q = '\x27' ∨ q = '"') ∧ s = q :: (v ++ [q])

inductive Literal
  | single (value : List Char)
  | double (value : List Char)
  | bare (value : List Char) (nonempty : value ≠ []) (trimmed : trim value = value)
      (unwrapped : ¬ Wrapped value)

namespace Literal

def value : Literal → List Char
  | single value => value
  | double value => value
  | bare value .. => value

def text : Literal → List Char
  | single value => '\x27' :: (value ++ ['\x27'])
  | double value => '"' :: (value ++ ['"'])
  | bare value .. => value

end Literal

/-- Free of operator characters. -/
def Plain (s : List Char) : Prop := ∀ c ∈ s, isOperatorChar c = false

instance (s : List Char) : Decidable (Plain s) := List.decidableBAll (isOperatorChar · = false) s

/-- A field, a comparison and a value. A bare value that begins with an
operator character needs a blank before it. -/
structure Segment where
  field : List Char
  field_nonempty : field ≠ []
  field_trimmed : trim field = field
  field_plain : Plain field
  before : Pad
  comparison : Comparison
  after : Pad
  literal : Literal
  apart : literal.text.head?.any isOperatorChar = true → after.chars ≠ []

namespace Segment

def text (s : Segment) : List Char :=
  s.field ++ (s.before.chars ++ (s.comparison.symbol.toList ++ (s.after.chars ++ s.literal.text)))

def condition (s : Segment) : Condition :=
  ⟨String.ofList s.field, s.comparison, String.ofList s.literal.value⟩

end Segment

/-- `AND` or `OR`, in any letter case. -/
structure Connective where
  chars : List Char
  same : sameLetters chars "AND".toList = true ∨ sameLetters chars "OR".toList = true

inductive Conjunction
  | last (segment : Segment)
  | more (segment : Segment) (before : Gap) (connective : Connective) (after : Gap)
      (rest : Conjunction)

namespace Conjunction

def text : Conjunction → List Char
  | last segment => segment.text
  | more segment before connective after rest =>
    segment.text ++ (before.chars ++ (connective.chars ++ (after.chars ++ rest.text)))

def segments : Conjunction → List Segment
  | last segment => [segment]
  | more segment _ _ _ rest => segment :: rest.segments

def conditions (c : Conjunction) : List Condition := c.segments.map Segment.condition

end Conjunction

/-! ## Clauses -/

/-- ` KIND JOIN table ON left = right`, with the gap before it. -/
structure JoinPhrase where
  kindGap : Gap
  kind : JoinKind
  kindWord : Keyword kind.name
  joinGap : Gap
  joinWord : Keyword "JOIN"
  tableGap : Gap
  table : TableName
  onGap : Gap
  onWord : Keyword "ON"
  leftGap : Gap
  left : QualifiedName
  before : Pad
  after : Pad
  right : QualifiedName

namespace JoinPhrase

def equality (j : JoinPhrase) : List Char :=
  j.left.text ++ (j.before.chars ++ '=' :: (j.after.chars ++ j.right.text))

def text (j : JoinPhrase) : List Char :=
  j.kindGap.chars ++ (j.kindWord.chars ++ (j.joinGap.chars ++ (j.joinWord.chars ++
    (j.tableGap.chars ++ (j.table.chars ++ (j.onGap.chars ++ (j.onWord.chars ++
      (j.leftGap.chars ++ j.equality))))))))

def clause (j : JoinPhrase) : JoinClause :=
  ⟨j.kind, String.ofList j.table.chars, String.ofList j.left.text, String.ofList j.right.text⟩

end JoinPhrase

/-- ` WHERE conditions`, with the gap before it. -/
structure FilterPhrase where
  whereGap : Gap
  whereWord : Keyword "WHERE"
  gap : Gap
  conjunction : Conjunction

def FilterPhrase.text (f : FilterPhrase) : List Char :=
  f.whereGap.chars ++ (f.whereWord.chars ++ (f.gap.chars ++ f.conjunction.text))

/-- ` GROUP BY fields`, with the gap before it. -/
structure GroupPhrase where
  groupGap : Gap
  groupWord : Keyword "GROUP"
  byGap : Gap
  byWord : Keyword "BY"
  gap : Gap
  list : Listing

def GroupPhrase.text (g : GroupPhrase) : List Char :=
  g.groupGap.chars ++ (g.groupWord.chars ++ (g.byGap.chars ++ (g.byWord.chars ++
    (g.gap.chars ++ g.list.text))))

/-! ## Sentences -/

/-- `SELECT fields FROM table` and the clauses that follow. -/
structure Sentence where
  selectWord : Keyword "SELECT"
  listGap : Gap
  list : Listing
  fromGap : Gap
  fromWord : Keyword "FROM"
  tableGap : Gap
  table : TableName
  join : Option JoinPhrase
  filter : Option FilterPhrase
  group : Option GroupPhrase

/-- The keywords that begin a clause after the head. -/
def clauseRows : List (List String) :=
  [["WHERE"], ["GROUP", "BY"], ["INNER", "JOIN"], ["LEFT", "JOIN"], ["RIGHT", "JOIN"]]

namespace Sentence

def text (s : Sentence) : List Char :=
  s.selectWord.chars ++ (s.listGap.chars ++ (s.list.text ++ (s.fromGap.chars ++
    (s.fromWord.chars ++ (s.tableGap.chars ++ (s.table.chars ++ (s.join.elim [] JoinPhrase.text ++
      (s.filter.elim [] FilterPhrase.text ++ s.group.elim [] GroupPhrase.text))))))))

def plan (s : Sentence) : Plan where
  fields := s.list.fields
  table := String.ofList s.table.chars
  conditions := s.filter.elim [] fun f => f.conjunction.conditions
  join := s.join.map JoinPhrase.clause
  groupBy := s.group.map fun g => g.list.fields

/-- No keyword stands in a part where it would end the part or begin a clause. -/
structure Clear (s : Sentence) : Prop where
  list : Avoids (["FROM"] :: ["JOIN"] :: clauseRows) s.list.text
  table : Avoids (["JOIN"] :: clauseRows) s.table.chars
  join : ∀ j ∈ s.join, Avoids (["ON"] :: ["JOIN"] :: clauseRows) j.table.chars
  filter : ∀ f ∈ s.filter, ∀ segment ∈ f.conjunction.segments,
    Avoids (["AND"] :: ["OR"] :: clauseRows) segment.text
  group : ∀ g ∈ s.group, Avoids clauseRows g.list.text

end Sentence

/-! ## Keywords and marks -/

def keywords : List String :=
  ["FROM", "ON", "WHERE", "GROUP", "BY", "JOIN", "INNER", "LEFT", "RIGHT", "AND", "OR"]

/-- The characters that hold the parts of names, lists and conditions together. -/
def marks : List Char := [',', '.', '=', '!', '<', '>', '\x27', '"']

theorem foreign_mark {c : Char} (hc : c ∈ marks) {keys : List String} (hk : keys ⊆ keywords) :
    Foreign c keys := by
  have h :
      (marks.all fun c => isBlank c = false ∧ ∀ k ∈ keywords, c.toUpper ∉ upper k.toList) =
        true := by
    decide
  obtain ⟨hb, hu⟩ := of_decide_eq_true (List.all_eq_true.mp h c hc)
  exact ⟨hb, fun k hmem => hu k (hk hmem)⟩

theorem mark_of_symbol (comparison : Comparison) : comparison.symbol.toList ⊆ marks := by
  cases comparison <;> decide

/-! ## Keywords and names as words -/

theorem Keyword.word {name : String} (k : Keyword name) (h : Solid name.toList ∧ name.toList ≠ []) :
    Solid k.chars ∧ k.chars ≠ [] := by
  have hk := k.same
  refine ⟨.of_sameLetters hk h.1, fun he => h.2 ?_⟩
  rw [he, sameLetters, beq_iff_eq] at hk
  exact List.map_eq_nil_iff.mp hk.symm

theorem Keyword.words_cons {name : String} (k : Keyword name)
    (h : Solid name.toList ∧ name.toList ≠ []) {g r : List Char} (hg : AllBlank g)
    (hr : BlankFirst r) : words (g ++ (k.chars ++ r)) = ⟨g, k.chars⟩ :: words r :=
  Text.words_cons hg (k.word h).1 (k.word h).2 hr

theorem Connective.word (c : Connective) : Solid c.chars ∧ c.chars ≠ [] :=
  c.same.elim (fun h => (⟨c.chars, h⟩ : Keyword "AND").word (by decide))
    fun h => (⟨c.chars, h⟩ : Keyword "OR").word (by decide)

theorem isIdentifierChar_of_mem {s : List Char} (h : isIdentifier s = true) :
    s ≠ [] ∧ ∀ c ∈ s, isIdentifierChar c = true := by
  rw [isIdentifier, Bool.and_eq_true, List.all_eq_true] at h
  exact ⟨by simpa using h.1, h.2⟩

theorem isBlank_of_isIdentifierChar {c : Char} (h : isIdentifierChar c = true) :
    isBlank c = false := isBlank_of_class (by decide +kernel) h

theorem QualifiedName.char (n : QualifiedName) :
    ∀ c ∈ n.text, isIdentifierChar c = true ∨ c = '.' := by
  intro c hc
  rw [QualifiedName.text, List.mem_append, List.mem_cons] at hc
  rcases hc with hc | rfl | hc
  · exact .inl ((isIdentifierChar_of_mem n.table_identifier).2 c hc)
  · exact .inr rfl
  · exact .inl ((isIdentifierChar_of_mem n.column_identifier).2 c hc)

theorem QualifiedName.solid (n : QualifiedName) : Solid n.text := by
  intro c hc
  rcases n.char c hc with h | rfl
  · exact isBlank_of_isIdentifierChar h
  · decide

/-! ## The parts of a sentence are tight -/

theorem Entry.tight (e : Entry) : Tight e.chars := tight_iff_trim.mpr ⟨e.nonempty, e.trimmed⟩

theorem Listing.tight (l : Listing) : Tight l.text := by
  induction l with
  | last e => exact e.tight
  | more e before after rest ih =>
    have := e.tight.between ih (before.chars ++ ',' :: after.chars)
    simpa [Listing.text] using this

theorem QualifiedName.tight (n : QualifiedName) : Tight n.text := n.solid.tight (by simp [text])

theorem JoinPhrase.tight_equality (j : JoinPhrase) : Tight j.equality := by
  have := j.left.tight.between j.right.tight (j.before.chars ++ '=' :: j.after.chars)
  simpa [equality] using this

theorem Literal.tight (l : Literal) : Tight l.text := by
  have quote : ∀ q, isBlank q = false → ∀ v : List Char, Tight (q :: (v ++ [q])) := by
    intro q hq v
    have hs : Solid [q] := by simpa [Solid] using hq
    exact (hs.tight (by simp)).between (hs.tight (by simp)) v
  cases l with
  | single v => exact quote _ (by decide) v
  | double v => exact quote _ (by decide) v
  | bare v hne ht _ => exact tight_iff_trim.mpr ⟨hne, ht⟩

theorem Segment.tight (s : Segment) : Tight s.text := by
  have hf : Tight s.field := tight_iff_trim.mpr ⟨s.field_nonempty, s.field_trimmed⟩
  have :=
    hf.between s.literal.tight (s.before.chars ++ (s.comparison.symbol.toList ++ s.after.chars))
  simpa [text] using this

theorem Conjunction.tight (c : Conjunction) : Tight c.text := by
  induction c with
  | last s => exact s.tight
  | more s before connective after rest ih =>
    have := s.tight.between ih (before.chars ++ (connective.chars ++ after.chars))
    simpa [Conjunction.text] using this

end FlatQuery
