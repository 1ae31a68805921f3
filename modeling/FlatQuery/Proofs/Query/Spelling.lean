import FlatQuery.Proofs.Query.Sentence

/-!
# The plans that sentences ask for

A plan has a written form iff it is well formed (`exists_spelling`,
`Sentence.wellFormed_plan`). If none of its texts has a reserved word among
its words, every written form of it is clear (`Plan.Unreserved.clear`).
-/

namespace FlatQuery

open Text

/-! ## Well-formed plans -/

namespace Plan

def Listed (fields : List String) : Prop :=
  fields ≠ [] ∧ ∀ f ∈ fields, f.toList ≠ [] ∧ trim f.toList = f.toList ∧ ',' ∉ f.toList

def Named (table : String) : Prop := table.toList ≠ [] ∧ Solid table.toList

/-- A table and a column with a dot between, both identifiers. -/
def Qualified (name : String) : Prop :=
  ∃ table column, isIdentifier table = true ∧ isIdentifier column = true ∧
    name.toList = table ++ '.' :: column

structure WellFormed (p : Plan) : Prop where
  fields : Listed p.fields
  table : Named p.table
  join : ∀ j ∈ p.join, Named j.table ∧ Qualified j.left ∧ Qualified j.right
  conditions : ∀ c ∈ p.conditions, c.field.toList ≠ [] ∧ trim c.field.toList = c.field.toList ∧
    Plain c.field.toList
  groupBy : ∀ fields ∈ p.groupBy, Listed fields

end Plan

theorem Listing.entries_ne_nil (l : Listing) : l.entries ≠ [] := by
  cases l <;> simp [entries]

theorem Listing.listed (l : Listing) : Plan.Listed l.fields := by
  refine ⟨by simp [fields, l.entries_ne_nil], ?_⟩
  intro f hf
  obtain ⟨e, -, rfl⟩ := List.mem_map.mp hf
  rw [String.toList_ofList]
  exact ⟨e.nonempty, e.trimmed, e.comma_free⟩

theorem TableName.named (t : TableName) : Plan.Named (String.ofList t.chars) := by
  rw [Plan.Named, String.toList_ofList]
  exact ⟨t.nonempty, t.solid⟩

theorem QualifiedName.qualified (n : QualifiedName) : Plan.Qualified (String.ofList n.text) :=
  ⟨n.table, n.column, n.table_identifier, n.column_identifier, String.toList_ofList⟩

theorem Sentence.wellFormed_plan (s : Sentence) : s.plan.WellFormed where
  fields := s.list.listed
  table := s.table.named
  join := by
    intro j hj
    obtain ⟨p, -, rfl⟩ := Option.map_eq_some_iff.mp hj
    exact ⟨p.table.named, p.left.qualified, p.right.qualified⟩
  conditions := by
    intro c hc
    unfold plan at hc
    cases hf : s.filter with
    | none => rw [hf] at hc; cases hc
    | some f =>
      rw [hf] at hc
      obtain ⟨g, -, rfl⟩ := List.mem_map.mp hc
      rw [Segment.condition, String.toList_ofList]
      exact ⟨g.field_nonempty, g.field_trimmed, g.field_plain⟩
  groupBy := by
    intro fields hf
    obtain ⟨g, -, rfl⟩ := Option.map_eq_some_iff.mp hf
    exact g.list.listed

/-! ## Every well-formed plan has a written form -/

namespace Plan

theorem Listed.exists_listing {fields : List String} (h : Listed fields) :
    ∃ l : Listing, l.fields = fields := by
  obtain ⟨hne, hf⟩ := h
  induction fields with
  | nil => exact absurd rfl hne
  | cons f fields ih =>
    obtain ⟨h₁, h₂, h₃⟩ := hf f (by simp)
    cases fields with
    | nil => exact ⟨.last ⟨f.toList, h₁, h₂, h₃⟩, by simp [Listing.fields, Listing.entries]⟩
    | cons g fields =>
      obtain ⟨l, hl⟩ := ih (by simp) fun e he => hf e (List.mem_cons_of_mem _ he)
      refine ⟨.more ⟨f.toList, h₁, h₂, h₃⟩ .none .none l, ?_⟩
      rw [← hl]
      simp [Listing.fields, Listing.entries]

theorem Named.exists_table {name : String} (h : Named name) :
    ∃ t : TableName, String.ofList t.chars = name :=
  ⟨⟨name.toList, h.1, h.2⟩, String.ofList_toList⟩

theorem Qualified.exists_name {name : String} (h : Qualified name) :
    ∃ n : QualifiedName, String.ofList n.text = name := by
  obtain ⟨table, column, ht, hc, hn⟩ := h
  exact ⟨⟨table, column, ht, hc⟩, by rw [QualifiedName.text, ← hn, String.ofList_toList]⟩

theorem exists_segment (c : Condition) (hne : c.field.toList ≠ [])
    (ht : trim c.field.toList = c.field.toList)
    (hp : Plain c.field.toList) : ∃ g : Segment, g.condition = c := by
  refine ⟨⟨c.field.toList, hne, ht, hp, .none, c.comparison, .none, .single c.value.toList, ?_⟩, ?_⟩
  · exact fun h => absurd (show isOperatorChar '\x27' = true from h) (by decide)
  · simp [Segment.condition, Literal.value]

theorem exists_conjunction {cs : List Condition} (hne : cs ≠ [])
    (h : ∀ c ∈ cs, c.field.toList ≠ [] ∧ trim c.field.toList = c.field.toList ∧
      Plain c.field.toList) : ∃ c : Conjunction, c.conditions = cs := by
  induction cs with
  | nil => exact absurd rfl hne
  | cons c cs ih =>
    obtain ⟨h₁, h₂, h₃⟩ := h c (by simp)
    obtain ⟨g, hg⟩ := exists_segment c h₁ h₂ h₃
    cases cs with
    | nil => exact ⟨.last g, by simp [Conjunction.conditions, Conjunction.segments, hg]⟩
    | cons d cs =>
      obtain ⟨r, hr⟩ := ih (by simp) fun e he => h e (List.mem_cons_of_mem _ he)
      refine ⟨.more g .single ⟨"AND".toList, by decide⟩ .single r, ?_⟩
      rw [← hr]
      simp [Conjunction.conditions, Conjunction.segments, hg]

theorem exists_map_eq {α β : Type} {f : α → β} {o : Option β} (h : ∀ y ∈ o, ∃ x, f x = y) :
    ∃ p : Option α, p.map f = o := by
  cases o with
  | none => exact ⟨none, rfl⟩
  | some y =>
    obtain ⟨x, rfl⟩ := h y rfl
    exact ⟨some x, rfl⟩

theorem WellFormed.exists_spelling {p : Plan} (h : p.WellFormed) : ∃ s : Sentence, s.plan = p := by
  obtain ⟨fields, table, conditions, join, groupBy⟩ := p
  obtain ⟨list, rfl⟩ := h.fields.exists_listing
  obtain ⟨table, rfl⟩ := h.table.exists_table
  obtain ⟨join, rfl⟩ : ∃ p : Option JoinPhrase, p.map JoinPhrase.clause = join := by
    refine exists_map_eq fun j hj => ?_
    obtain ⟨hn, hl, hr⟩ := h.join j hj
    obtain ⟨name, hname⟩ := hn.exists_table
    obtain ⟨left, hleft⟩ := hl.exists_name
    obtain ⟨right, hright⟩ := hr.exists_name
    exact ⟨⟨.single, j.kind, .plain _, .single, .plain _, .single, name, .single, .plain _, .single,
      left, .none, .none, right⟩, by rw [JoinPhrase.clause, hname, hleft, hright]⟩
  obtain ⟨filter, rfl⟩ : ∃ f : Option FilterPhrase,
      (f.elim [] fun f => f.conjunction.conditions) = conditions := by
    rcases eq_or_ne conditions [] with rfl | hne
    · exact ⟨none, rfl⟩
    · obtain ⟨c, rfl⟩ := exists_conjunction hne h.conditions
      exact ⟨some ⟨.single, .plain _, .single, c⟩, rfl⟩
  obtain ⟨group, rfl⟩ : ∃ g : Option GroupPhrase, (g.map fun g => g.list.fields) = groupBy := by
    refine exists_map_eq fun fields hf => ?_
    obtain ⟨l, rfl⟩ := (h.groupBy fields hf).exists_listing
    exact ⟨⟨.single, .plain _, .single, .plain _, .single, l⟩, rfl⟩
  exact ⟨⟨.plain _, .single, list, .single, .plain _, .single, table, join, filter, group⟩, rfl⟩

end Plan

/-! ## Reserved words -/

/-- The words that end a part of a query, or begin one. -/
def reserved : List String := ["FROM", "JOIN", "ON", "WHERE", "GROUP", "AND", "OR"]

namespace Plan

/-- All names and values of a plan. -/
def texts (p : Plan) : List String :=
  p.fields ++ p.table :: (p.join.elim [] (fun j => [j.table, j.left, j.right]) ++
    (p.conditions.flatMap (fun c => [c.field, c.value]) ++ p.groupBy.getD []))

/-- No word of a name or value is reserved. -/
def Unreserved (p : Plan) : Prop :=
  ∀ t ∈ p.texts, ∀ w ∈ words t.toList, ∀ k ∈ reserved, w.is k = false

end Plan

/-- No reserved word stands in the text. -/
def Text.Free (s : List Char) : Prop := ∀ k ∈ reserved, ¬ Stands [k] s

theorem Plan.Unreserved.free {p : Plan} (h : p.Unreserved) {s : List Char}
    (hs : String.ofList s ∈ p.texts) : Free s := by
  intro k hk hstands
  obtain ⟨w, hw, hwk⟩ := (stands_one_iff rfl).mp hstands
  have := h _ hs w (by rwa [String.toList_ofList]) k hk
  rw [hwk] at this; cases this

theorem Text.Free.avoids {s : List Char} (h : Free s) {rows : List (List String)}
    (hr : ∀ keys ∈ rows, ∃ k ∈ keys, k ∈ reserved) : Avoids rows s := by
  intro keys hkeys hs
  obtain ⟨k, hk, hres⟩ := hr keys hkeys
  exact h k hres (hs.single hk)

theorem Text.Free.between {x y m : List Char} (hx : Free x) (hy : Free y) (hm : m ⊆ marks)
    (hne : m ≠ []) : Free (x ++ (m ++ y)) := by
  have hr : reserved ⊆ keywords := by decide
  induction m generalizing x with
  | nil => exact absurd rfl hne
  | cons c m ih =>
    rw [List.cons_subset] at hm
    have hrest : Free (m ++ y) := by
      rcases eq_or_ne m [] with rfl | hm'
      · exact hy
      · exact ih (fun k _ => not_stands_nil [k]) hm.2 hm'
    intro k hk hs
    rcases hs.side (foreign_mark hm.1 (by simpa using hr hk)) with hs | hs
    · exact hx k hk hs
    · exact hrest k hk hs

theorem Text.free_nil : Free [] := fun k _ => not_stands_nil [k]

theorem Text.Free.pad_left {s : List Char} (h : Free s) (p : Pad) : Free (p.chars ++ s) := by
  intro k hk hs
  exact h k hk ((stands_allBlank_append p.blank).mp hs)

theorem Text.Free.pad_right {s : List Char} (h : Free s) (p : Pad) : Free (s ++ p.chars) := by
  intro k hk hs
  exact h k hk ((stands_append_allBlank p.blank).mp hs)

theorem Listing.free (l : Listing) (h : ∀ e ∈ l.entries, Free e.chars) : Free l.text := by
  induction l with
  | last e => exact h e (by simp [entries])
  | more e before after rest ih =>
    have he := (h e (by simp [entries])).pad_right before
    have hr := (ih fun x hx => h x (by simp [entries, hx])).pad_left after
    have := he.between hr (m := [',']) (by decide) (by decide)
    simpa [Listing.text] using this

theorem Literal.free (l : Literal) (h : Free l.value) : Free l.text := by
  have quote : ∀ q ∈ marks, ∀ v : List Char, Free v → Free (q :: (v ++ [q])) := by
    intro q hq v hv
    have hm : [q] ⊆ marks := by simpa using hq
    exact free_nil.between (hv.between free_nil hm (by simp)) hm (by simp)
  cases l with
  | single v => exact quote _ (by decide) v h
  | double v => exact quote _ (by decide) v h
  | bare v => exact h

theorem Segment.free (g : Segment) (hf : Free g.field) (hv : Free g.literal.value) :
    Free g.text := by
  have hleft := hf.pad_right g.before
  have hright := (g.literal.free hv).pad_left g.after
  have := hleft.between hright (mark_of_symbol g.comparison) (by cases g.comparison <;> decide)
  simpa [text] using this

/-- All written forms of a plan without reserved words are clear. -/
theorem Plan.Unreserved.clear {s : Sentence} (h : s.plan.Unreserved) : s.Clear := by
  have listing : ∀ l : Listing, (∀ f ∈ l.fields, f ∈ s.plan.texts) → Free l.text := fun l hl =>
    l.free fun e he => h.free (hl _ (List.mem_map_of_mem he))
  constructor
  · refine (listing s.list fun f hf => ?_).avoids (by decide)
    simp [texts, Sentence.plan, hf]
  · refine (h.free ?_).avoids (by decide)
    simp [texts, Sentence.plan]
  · intro j hj
    refine (h.free ?_).avoids (by decide)
    simp [texts, Sentence.plan, Option.mem_def.mp hj, JoinPhrase.clause]
  · intro f hf g hg
    have hmem : ∀ t ∈ [g.condition.field, g.condition.value], t ∈ s.plan.texts := by
      intro t ht
      have hc : t ∈ s.plan.conditions.flatMap fun c => [c.field, c.value] := by
        have hg' : g.condition ∈ f.conjunction.conditions := List.mem_map_of_mem hg
        exact List.mem_flatMap.mpr ⟨_, by simpa [Sentence.plan, Option.mem_def.mp hf] using hg', ht⟩
      simp only [texts, List.mem_append, List.mem_cons]
      tauto
    refine (g.free (h.free ?_) (h.free ?_)).avoids (by decide)
    · exact hmem _ (by simp [Segment.condition])
    · exact hmem _ (by simp [Segment.condition])
  · intro g hg
    refine (listing g.list fun f hf => ?_).avoids (by decide)
    simp [texts, Sentence.plan, Option.mem_def.mp hg, hf]

end FlatQuery
