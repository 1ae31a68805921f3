import FlatQuery.Proofs.Query.Soundness

/-!
# Writing plans

`Plan.render` writes a plan with single blanks, upper case keywords and single
quotes, and reading it back gives the plan again if it was read from a query
at all. What is written is the tidy form of the sentence that was read
(`Sentence.text_tidy`). No keyword stands in the tidy form that did not stand
in the sentence, since only marks move closer to the words (`Stands.replace`).
-/

namespace FlatQuery

open Text

/-! ## Rendering -/

/-- A condition without blanks, its value in single quotes. -/
def Condition.glued (c : Condition) : String :=
  c.field ++ c.comparison.symbol ++ "\x27" ++ c.value ++ "\x27"

def JoinClause.glued (j : JoinClause) : String :=
  j.kind.name ++ " JOIN " ++ j.table ++ " ON " ++ j.left ++ "=" ++ j.right

def Plan.render (p : Plan) : String :=
  "SELECT " ++ ",".intercalate p.fields ++ " FROM " ++ p.table ++
    (p.join.elim "" fun j => " " ++ j.glued) ++
    (if p.conditions.isEmpty then ""
      else " WHERE " ++ " AND ".intercalate (p.conditions.map Condition.glued)) ++
    (p.groupBy.elim "" fun fields => " GROUP BY " ++ ",".intercalate fields)

/-! ## Tidy sentences -/

namespace Listing

def tidy : Listing → Listing
  | last entry => last entry
  | more entry _ _ rest => more entry .none .none rest.tidy

theorem fields_tidy (l : Listing) : l.tidy.fields = l.fields := by
  induction l with
  | last e => rfl
  | more e before after rest ih =>
    simp only [fields, entries, tidy, List.map_cons] at ih ⊢
    rw [ih]

theorem text_tidy (l : Listing) : l.tidy.text = (",".intercalate l.fields).toList := by
  induction l with
  | last e => simp [tidy, text, fields, entries]
  | more e before after rest ih =>
    have hne : rest.fields ≠ [] := rest.listed.1
    rw [show (more e before after rest).fields = String.ofList e.chars :: rest.fields from rfl,
      String.intercalate_cons_of_ne_nil hne]
    simp [tidy, text, ih, Pad.none]

/-- What stands in the tidy list stands in the list, after whatever text. -/
theorem stands_of_tidy {keys : List String} (hk : keys ⊆ keywords) (l : Listing) {x : List Char}
    (h : Stands keys (x ++ l.tidy.text)) : Stands keys (x ++ l.text) := by
  induction l generalizing x with
  | last e => exact h
  | more e before after rest ih =>
    have hc : Foreign ',' keys := foreign_mark (by decide) hk
    have hs : Stands keys ((x ++ e.chars) ++ ',' :: rest.tidy.text) := by
      simpa [tidy, text, Pad.none] using h
    have := ih (x := x ++ (e.chars ++ (before.chars ++ ',' :: after.chars)))
      (by simpa using hs.replace hc (before.chars ++ ',' :: after.chars))
    simpa [text] using this

theorem avoids_tidy {rows : List (List String)} (hr : ∀ keys ∈ rows, keys ⊆ keywords) {l : Listing}
    (h : Avoids rows l.text) : Avoids rows l.tidy.text := fun keys hk hs =>
  h keys hk (l.stands_of_tidy (hr keys hk) (x := []) hs)

end Listing

theorem Literal.exists_quote (l : Literal) : ∃ z, l.text = z ++ (l.value ++ z) := by
  cases l with
  | single v => exact ⟨['\x27'], rfl⟩
  | double v => exact ⟨['"'], rfl⟩
  | bare v => exact ⟨[], by simp [text, value]⟩

namespace Segment

def tidy (g : Segment) : Segment :=
  { g with
    before := .none
    after := .none
    literal := .single g.literal.value
    apart := fun h => absurd (show isOperatorChar '\x27' = true from h) (by decide) }

theorem text_tidy (g : Segment) : g.tidy.text = g.condition.glued.toList := by
  simp [tidy, text, Literal.text, Pad.none, condition, Condition.glued]

/-- What stands in the tidy condition stands in the condition: the quotes and
the comparison are only marks between the field and the value. -/
theorem stands_of_tidy {keys : List String} (hk : keys ⊆ keywords) (g : Segment)
    (h : Stands keys g.tidy.text) : Stands keys g.text := by
  have hq : Foreign '\x27' keys := foreign_mark (by decide) hk
  obtain ⟨z, hz⟩ := g.literal.exists_quote
  obtain ⟨c, cs, hc⟩ := List.exists_cons_of_ne_nil g.comparison.symbol_chars.1
  have hf : Foreign c keys := foreign_mark (mark_of_symbol g.comparison (by simp [hc])) hk
  -- from the outside in: the closing quote, the opening one, the comparison
  have h₁ : Stands keys
      ((g.field ++ (c :: cs ++ '\x27' :: g.literal.value)) ++ '\x27' :: []) := by
    simpa [tidy, text, Literal.text, Pad.none, hc] using h
  have h₂ : Stands keys ((g.field ++ c :: cs) ++ '\x27' :: (g.literal.value ++ z)) := by
    simpa using h₁.replace hq z
  have h₃ : Stands keys (g.field ++ c :: (cs ++ (g.after.chars ++ g.literal.text))) := by
    simpa [hz] using h₂.replace hq (g.after.chars ++ z)
  simpa [text, hc] using h₃.replace hf (g.before.chars ++ [c])

end Segment

namespace Conjunction

def tidy : Conjunction → Conjunction
  | last segment => last segment.tidy
  | more segment _ _ _ rest => more segment.tidy .single ⟨"AND".toList, by decide⟩ .single rest.tidy

theorem segments_tidy (c : Conjunction) : c.tidy.segments = c.segments.map Segment.tidy := by
  induction c with
  | last s => rfl
  | more s before connective after rest ih => simp [tidy, segments, ih]

theorem conditions_tidy (c : Conjunction) : c.tidy.conditions = c.conditions := by
  rw [conditions, segments_tidy, conditions, List.map_map]
  rfl

theorem text_tidy (c : Conjunction) :
    c.tidy.text = (" AND ".intercalate (c.conditions.map Condition.glued)).toList := by
  induction c with
  | last s => simp [tidy, text, conditions, segments, s.text_tidy]
  | more s before connective after rest ih =>
    have hne : rest.conditions.map Condition.glued ≠ [] := by
      simpa using rest.conditions_ne_nil
    have hconditions : (more s before connective after rest).conditions =
        s.condition :: rest.conditions := rfl
    rw [hconditions, List.map_cons, String.intercalate_cons_of_ne_nil hne]
    simp [tidy, text, ih, s.text_tidy, Gap.single]

end Conjunction

namespace JoinPhrase

def tidy (j : JoinPhrase) : JoinPhrase where
  kindGap := .single
  kind := j.kind
  kindWord := .plain _
  joinGap := .single
  joinWord := .plain _
  tableGap := .single
  table := j.table
  onGap := .single
  onWord := .plain _
  leftGap := .single
  left := j.left
  before := .none
  after := .none
  right := j.right

theorem text_tidy (j : JoinPhrase) : j.tidy.text = ' ' :: j.clause.glued.toList := by
  simp [tidy, text, equality, clause, JoinClause.glued, Gap.single, Pad.none, Keyword.plain]

end JoinPhrase

def FilterPhrase.tidy (f : FilterPhrase) : FilterPhrase where
  whereGap := .single
  whereWord := .plain _
  gap := .single
  conjunction := f.conjunction.tidy

def GroupPhrase.tidy (g : GroupPhrase) : GroupPhrase where
  groupGap := .single
  groupWord := .plain _
  byGap := .single
  byWord := .plain _
  gap := .single
  list := g.list.tidy

namespace Sentence

def tidy (s : Sentence) : Sentence where
  selectWord := .plain _
  listGap := .single
  list := s.list.tidy
  fromGap := .single
  fromWord := .plain _
  tableGap := .single
  table := s.table
  join := s.join.map JoinPhrase.tidy
  filter := s.filter.map FilterPhrase.tidy
  group := s.group.map GroupPhrase.tidy

theorem plan_tidy (s : Sentence) : s.tidy.plan = s.plan := by
  have hjoin : (s.join.map JoinPhrase.tidy).map JoinPhrase.clause =
      s.join.map JoinPhrase.clause := by
    rw [Option.map_map]; rfl
  have hfilter : ((s.filter.map FilterPhrase.tidy).elim [] fun f => f.conjunction.conditions) =
      s.filter.elim [] fun f => f.conjunction.conditions := by
    cases s.filter with
    | none => rfl
    | some f => exact f.conjunction.conditions_tidy
  have hgroup : ((s.group.map GroupPhrase.tidy).map fun g => g.list.fields) =
      s.group.map fun g => g.list.fields := by
    cases s.group with
    | none => rfl
    | some g => exact congrArg some g.list.fields_tidy
  simp only [plan, tidy, hjoin, hfilter, hgroup, Listing.fields_tidy]

theorem text_tidy (s : Sentence) : s.tidy.text = s.plan.render.toList := by
  have hjoin : (s.tidy.join.elim [] JoinPhrase.text) =
      (s.plan.join.elim "" fun j => " " ++ j.glued).toList := by
    unfold tidy plan
    cases s.join with
    | none => rfl
    | some j => simp [j.text_tidy]
  have hfilter : (s.tidy.filter.elim [] FilterPhrase.text) =
      (if s.plan.conditions.isEmpty then ""
        else " WHERE " ++ " AND ".intercalate (s.plan.conditions.map Condition.glued)).toList := by
    unfold tidy plan
    cases s.filter with
    | none => rfl
    | some f =>
      have hne : f.conjunction.conditions.isEmpty = false := by
        simpa using f.conjunction.conditions_ne_nil
      simp [FilterPhrase.tidy, FilterPhrase.text, f.conjunction.text_tidy, hne,
        Gap.single, Keyword.plain]
  have hgroup : (s.tidy.group.elim [] GroupPhrase.text) =
      (s.plan.groupBy.elim "" fun fields => " GROUP BY " ++ ",".intercalate fields).toList := by
    unfold tidy plan
    cases s.group with
    | none => rfl
    | some g =>
      simp [GroupPhrase.tidy, GroupPhrase.text, g.list.text_tidy, Gap.single, Keyword.plain]
  have hhead : s.tidy.selectWord.chars ++ (s.tidy.listGap.chars ++ (s.tidy.list.text ++
      (s.tidy.fromGap.chars ++ (s.tidy.fromWord.chars ++ (s.tidy.tableGap.chars ++
        s.tidy.table.chars))))) =
      ("SELECT " ++ ",".intercalate s.plan.fields ++ " FROM " ++ s.plan.table).toList := by
    simp [tidy, plan, s.list.text_tidy, Gap.single, Keyword.plain]
  rw [Plan.render, String.toList_append, String.toList_append, String.toList_append, ← hhead,
    ← hjoin, ← hfilter, ← hgroup, text]
  simp only [List.append_assoc]

/-- No clause begins in the tidy form that does not begin in the sentence. -/
theorem Clear.tidy {s : Sentence} (hs : s.Clear) : s.tidy.Clear where
  list := Listing.avoids_tidy (by decide) hs.list
  table := hs.table
  join := by
    intro j hj
    obtain ⟨k, hk, rfl⟩ := Option.map_eq_some_iff.mp hj
    exact hs.join k hk
  filter := by
    intro f hf g hg
    obtain ⟨p, hp, rfl⟩ := Option.map_eq_some_iff.mp hf
    rw [FilterPhrase.tidy, Conjunction.segments_tidy] at hg
    obtain ⟨segment, hsegment, rfl⟩ := List.mem_map.mp hg
    have hr : ∀ keys ∈ ["AND"] :: ["OR"] :: clauseRows, keys ⊆ keywords := by decide
    exact fun keys hk h => hs.filter p hp segment hsegment keys hk
      (segment.stands_of_tidy (hr keys hk) h)
  group := by
    intro g hg
    obtain ⟨p, hp, rfl⟩ := Option.map_eq_some_iff.mp hg
    exact Listing.avoids_tidy (by decide) (hs.group p hp)

end Sentence

/-- **Rendering.** The plan of any query that is read is written out and read
back unchanged. -/
theorem Plan.parse_render {q : String} {plan : Plan} (h : Plan.parse q = .ok plan) :
    Plan.parse plan.render = .ok plan := by
  obtain ⟨s, hs, -, rfl⟩ := exists_sentence h
  have := hs.tidy.parse_text allBlank_nil allBlank_nil
  rwa [List.nil_append, List.append_nil, s.text_tidy, String.ofList_toList, s.plan_tidy] at this

theorem eq_ok_of_toOption {ε α : Type} {x : Except ε α} {a : α} (h : x.toOption = some a) :
    x = .ok a := by
  cases x with
  | error e => cases h
  | ok b => exact congrArg Except.ok (Option.some.inj h)

/-- A keyword glued to a comma, a JOIN in a value and quotes within quotes. -/
theorem Plan.parse_render_glued :
    ∃ plan, Plan.parse "select a, b,FROM from t where f = x join y OR g=\"it\x27s\"" = .ok plan ∧
      plan.render = "SELECT a,b,FROM FROM t WHERE f=\x27x join y\x27 AND g=\x27it\x27s\x27" ∧
      Plan.parse plan.render = .ok plan := by
  have h : Plan.parse "select a, b,FROM from t where f = x join y OR g=\"it\x27s\"" =
      .ok ⟨["a", "b", "FROM"], "t", [⟨"f", .eq, "x join y"⟩, ⟨"g", .eq, "it\x27s"⟩], none, none⟩ :=
    eq_ok_of_toOption (by decide +kernel)
  exact ⟨_, h, by decide +kernel, parse_render h⟩

end FlatQuery
