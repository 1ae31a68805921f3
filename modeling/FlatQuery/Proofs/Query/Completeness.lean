import FlatQuery.Proofs.Query.Clauses
import FlatQuery.Proofs.Query.Outline
import FlatQuery.Proofs.Query.Spelling

/-!
# Sentences are read

The words of a clear sentence are the head and the clauses of an outline
(`Sentence.Clear.ofWords_words`), and each part is read as what it says
(`Sentence.Clear.ofOutline_outline`), so the query is read as the plan of the
sentence (`Sentence.Clear.parse_text`). A plan without reserved words is read
from each of its written forms.
-/

namespace FlatQuery

open Text

/-! ## Ordinary texts -/

theorem opens_iff {w v : Word} :
    Opens w v ↔ ∃ k j, [k, j] ∈ clauseRows ∧ w.is k = true ∧ v.is j = true := by
  constructor
  · rintro (⟨hw, hv⟩ | ⟨hv, kind, hw⟩)
    · exact ⟨"GROUP", "BY", by simp [clauseRows], hw, hv⟩
    · exact ⟨kind.name, "JOIN", by cases kind <;> simp [clauseRows, JoinKind.name], hw, hv⟩
  · rintro ⟨k, j, hkj, hw, hv⟩
    simp only [clauseRows, List.mem_cons, List.cons.injEq, and_true, List.not_mem_nil, or_false,
      reduceCtorEq, and_false, false_or] at hkj
    rcases hkj with ⟨rfl, rfl⟩ | ⟨rfl, rfl⟩ | ⟨rfl, rfl⟩ | ⟨rfl, rfl⟩
    · exact .inl ⟨hw, hv⟩
    · exact .inr ⟨hv, .inner, hw⟩
    · exact .inr ⟨hv, .left, hw⟩
    · exact .inr ⟨hv, .right, hw⟩

theorem ordinary_iff {s : List Char} {ws : List Word} (h : ws.map Word.text = wordTexts s) :
    Ordinary ws ↔ Avoids clauseRows s := by
  have hpair : (ws.IsChain fun w v => ¬ Opens w v) ↔
      ∀ k j, [k, j] ∈ clauseRows → ¬ Stands [k, j] s := by
    rw [List.isChain_iff_forall_rel_of_append_cons_cons]
    constructor
    · intro ho k j hkj hs
      obtain ⟨xs, w, v, ys, rfl, hw, hv⟩ := (stands_two_iff h).mp hs
      exact ho rfl (opens_iff.mpr ⟨k, j, hkj, hw, hv⟩)
    · intro ha w v xs ys hws ho
      obtain ⟨k, j, hkj, hw, hv⟩ := opens_iff.mp ho
      exact ha k j hkj ((stands_two_iff h).mpr ⟨xs, w, v, ys, hws, hw, hv⟩)
  have hone : (∀ w ∈ ws, w.is "WHERE" = false) ↔ ¬ Stands ["WHERE"] s := by
    rw [stands_one_iff h]
    simp
  rw [Ordinary, hpair, hone, Avoids]
  constructor
  · rintro ⟨h₁, h₂⟩ keys hk
    obtain rfl | ⟨k, j, rfl⟩ : keys = ["WHERE"] ∨ ∃ k j, keys = [k, j] := by
      simp only [clauseRows, List.mem_cons, List.not_mem_nil, or_false] at hk
      rcases hk with rfl | rfl | rfl | rfl | rfl <;> simp
    · exact h₁
    · exact h₂ k j hk
  · exact fun ha => ⟨ha _ (by simp [clauseRows]), fun k j hkj => ha _ hkj⟩

theorem wordFree_iff {k : String} {s : List Char} {ws : List Word}
    (h : ws.map Word.text = wordTexts s) : (∀ w ∈ ws, w.is k = false) ↔ ¬ Stands [k] s := by
  rw [stands_one_iff h]
  simp

/-- No clause begins among these words, and no JOIN is one of them. -/
def Bare (ws : List Word) : Prop := Ordinary ws ∧ ∀ w ∈ ws, w.is "JOIN" = false

theorem bare_iff {s : List Char} {ws : List Word} (h : ws.map Word.text = wordTexts s) :
    Bare ws ↔ Avoids (["JOIN"] :: clauseRows) s := by
  rw [avoids_cons, ← wordFree_iff h, ← ordinary_iff h]
  exact and_comm

theorem bare_nil : Bare [] := ⟨ordinary_nil, by simp⟩

theorem Bare.within {xs ys : List Word} (h : Bare ys) (hx : xs <:+: ys) : Bare xs :=
  ⟨h.1.within hx, fun w hw => h.2 w (hx.subset hw)⟩

theorem Bare.neutral {xs ys : List Word} (hx : Bare xs) {w : Word} (hw : w.Neutral)
    (hy : Bare ys) : Bare (xs ++ w :: ys) := by
  refine ⟨hx.1.neutral hw hy.1, ?_⟩
  intro v hv
  rcases List.mem_append.mp hv with hv | hv
  · exact hx.2 v hv
  · rcases List.mem_cons.mp hv with rfl | hv
    · exact hw _ (by simp)
    · exact hy.2 v hv

/-! ## The words of a sentence -/

theorem Keyword.is {name : String} (k : Keyword name) (g : List Char) :
    (⟨g, k.chars⟩ : Word).is name = true := k.same

theorem Gap.first (g : Gap) {s : List Char} : BlankFirst (g.chars ++ s) :=
  g.blank.first.append g.nonempty

theorem TableName.wordTexts (t : TableName) (g : List Char) :
    [(⟨g, t.chars⟩ : Word)].map Word.text = wordTexts t.chars := by
  have := words_single allBlank_nil t.solid t.nonempty
  rw [List.nil_append] at this
  rw [Text.wordTexts, this]; rfl

theorem elim_ends {α : Type} {text : α → List Char}
    (h : ∀ x, BlankFirst (text x) ∧ SolidLast (text x)) (o : Option α) :
    BlankFirst (o.elim [] text) ∧ SolidLast (o.elim [] text) := by
  cases o with
  | none => exact ⟨blankFirst_nil, solidLast_nil⟩
  | some x => exact h x

namespace JoinPhrase

theorem ends (j : JoinPhrase) : BlankFirst j.text ∧ SolidLast j.text := by
  refine ⟨j.kindGap.first, ?_⟩
  have h := j.tight_equality
  rw [text]
  simp only [← List.append_assoc]
  exact h.last.append h.nonempty

/-- The words after the keyword. -/
def body (j : JoinPhrase) : List Word :=
  ⟨j.tableGap.chars, j.table.chars⟩ :: ⟨j.onGap.chars, j.onWord.chars⟩ ::
    words (j.leftGap.chars ++ j.equality)

theorem words_text (j : JoinPhrase) :
    words j.text =
      [⟨j.kindGap.chars, j.kindWord.chars⟩, ⟨j.joinGap.chars, j.joinWord.chars⟩] ++ j.body := by
  have hkind : Solid j.kind.name.toList ∧ j.kind.name.toList ≠ [] := by
    cases j.kind <;> decide
  rw [text, j.kindWord.words_cons hkind j.kindGap.blank j.joinGap.first,
    j.joinWord.words_cons (by decide) j.joinGap.blank j.tableGap.first,
    words_cons j.tableGap.blank j.table.solid j.table.nonempty j.onGap.first,
    j.onWord.words_cons (by decide) j.onGap.blank j.leftGap.first]
  rfl

theorem readJoin_body (j : JoinPhrase) (h : ¬ Stands ["ON"] j.table.chars) :
    readJoin j.kind j.body = .ok j.clause := by
  have ht : (⟨j.tableGap.chars, j.table.chars⟩ : Word).is "ON" = false :=
    (wordFree_iff (j.table.wordTexts j.tableGap.chars)).mpr h _ (by simp)
  refine readJoin_eq_ok_iff.mpr ⟨_, _, _, _, _, rfl, ht, j.onWord.is _, ?_, rfl⟩
  rw [j.tight_equality.phrase_words j.leftGap.blank, readEquality?_eq_some_iff]
  refine ⟨.none, j.before, j.after, .none, j.left, j.right, ?_, rfl, rfl⟩
  simp [equality, Pad.none]

/-- No keyword stands in the equality: its dots and its sign are in no keyword. -/
theorem not_stands_equality (j : JoinPhrase) {keys : List String} (hk : keys ⊆ keywords) :
    ¬ Stands keys j.equality := by
  have hd : Foreign '.' keys := foreign_mark (by decide) hk
  have he : Foreign '=' keys := foreign_mark (by decide) hk
  have name : ∀ n : QualifiedName, ¬ Stands keys n.text := by
    intro n h
    have hs := solid_append.mp n.solid
    rcases stands_around hd h with ⟨u, b, r, hu, hb, -⟩ | ⟨r, b, u, hu, hb, -⟩
    · have := hs.1 b (by simp [hu])
      rw [hb] at this; cases this
    · have := hs.2 b (by simp [hu])
      rw [hb] at this; cases this
  intro h
  rw [equality, ← List.append_assoc] at h
  rcases h.side he with h | h
  · exact name _ ((stands_append_allBlank j.before.blank).mp h)
  · exact name _ ((stands_allBlank_append j.after.blank).mp h)

theorem bare_body (j : JoinPhrase) (h : Avoids (["JOIN"] :: clauseRows) j.table.chars) :
    Bare j.body := by
  have hk : ∀ keys ∈ ["JOIN"] :: clauseRows, keys ⊆ keywords := by decide
  have ht := (bare_iff (j.table.wordTexts j.tableGap.chars)).mpr h
  have he := (bare_iff (wordTexts_allBlank_append j.leftGap.blank _)).mpr fun keys hkeys =>
    j.not_stands_equality (hk keys hkeys)
  exact ht.neutral (Word.neutral (j.onWord.is _) (by simp)) he

end JoinPhrase

namespace FilterPhrase

theorem ends (f : FilterPhrase) : BlankFirst f.text ∧ SolidLast f.text := by
  refine ⟨f.whereGap.first, ?_⟩
  have h := f.conjunction.tight
  rw [text]
  simp only [← List.append_assoc]
  exact h.last.append h.nonempty

def body (f : FilterPhrase) : List Word := words (f.gap.chars ++ f.conjunction.text)

theorem words_text (f : FilterPhrase) :
    words f.text = [⟨f.whereGap.chars, f.whereWord.chars⟩] ++ f.body :=
  f.whereWord.words_cons (by decide) f.whereGap.blank f.gap.first

end FilterPhrase

namespace GroupPhrase

theorem ends (g : GroupPhrase) : BlankFirst g.text ∧ SolidLast g.text := by
  refine ⟨g.groupGap.first, ?_⟩
  have h := g.list.tight
  rw [text]
  simp only [← List.append_assoc]
  exact h.last.append h.nonempty

def body (g : GroupPhrase) : List Word := words (g.gap.chars ++ g.list.text)

theorem words_text (g : GroupPhrase) :
    words g.text =
      [⟨g.groupGap.chars, g.groupWord.chars⟩, ⟨g.byGap.chars, g.byWord.chars⟩] ++ g.body := by
  rw [text, g.groupWord.words_cons (by decide) g.groupGap.blank g.byGap.first,
    g.byWord.words_cons (by decide) g.byGap.blank g.gap.first]
  rfl

end GroupPhrase

theorem readFields_text {list : FieldList} (l : Listing) : readFields list l.text = .ok l.fields :=
  readFields_eq_ok_iff.mpr ⟨.none, .none, l, by simp [Pad.none], rfl⟩

theorem words_ne_nil {g s : List Char} (hs : Tight s) (hg : AllBlank g) : words (g ++ s) ≠ [] := by
  intro h
  have := hs.phrase_words hg
  rw [h] at this
  exact hs.nonempty this.symm

namespace Conjunction

theorem words_more {segment : Segment} {before : Gap} {connective : Connective} {after : Gap}
    {rest : Conjunction} {g : List Char} :
    words (g ++ (more segment before connective after rest).text) =
      words (g ++ segment.text) ++
        ⟨before.chars, connective.chars⟩ :: words (after.chars ++ rest.text) := by
  rw [text, words_tight_append segment.tight before.first,
    words_cons before.blank connective.word.1 connective.word.2 after.first]

theorem readConditions_words (c : Conjunction)
    (h : ∀ segment ∈ c.segments, Avoids [["AND"], ["OR"]] segment.text) {g : List Char}
    (hg : AllBlank g) : readConditions (words (g ++ c.text)) = .ok c.conditions := by
  have one : ∀ {g : List Char} (s : Segment), AllBlank g →
      readCondition (phrase (words (g ++ s.text))) = .ok s.condition := by
    intro g s hg
    rw [s.tight.phrase_words hg, readCondition_eq_ok_iff]
    exact ⟨.none, .none, s, by simp [Pad.none], rfl⟩
  induction c generalizing g with
  | last s =>
    have hs := isConnective_free (h s (by simp [segments])) (wordTexts_allBlank_append hg _)
    exact (readConditions_last hs).mpr ⟨_, one s hg, rfl⟩
  | more s before connective after rest ih =>
    have hs := isConnective_free (h s (by simp [segments])) (wordTexts_allBlank_append hg _)
    have hw : (⟨before.chars, connective.chars⟩ : Word).isConnective = true := by
      rw [Word.isConnective, Bool.or_eq_true]
      exact connective.same
    rw [words_more, readConditions_more hs hw]
    exact ⟨_, _, one s hg, ih (fun t ht => h t (by simp [segments, ht])) after.blank, rfl⟩

theorem ordinary_words (c : Conjunction)
    (h : ∀ segment ∈ c.segments, Avoids clauseRows segment.text) {g : List Char} (hg : AllBlank g) :
    Ordinary (words (g ++ c.text)) := by
  induction c generalizing g with
  | last s => exact (ordinary_iff (wordTexts_allBlank_append hg _)).mpr (h s (by simp [segments]))
  | more s before connective after rest ih =>
    have hs := (ordinary_iff (wordTexts_allBlank_append hg _)).mpr (h s (by simp [segments]))
    have hw : (⟨before.chars, connective.chars⟩ : Word).Neutral :=
      connective.same.elim (fun h => Word.neutral h (by simp)) fun h => Word.neutral h (by simp)
    rw [words_more]
    exact hs.neutral hw (ih (fun t ht => h t (by simp [segments, ht])) after.blank)

end Conjunction

/-! ## A clear sentence is read -/

theorem Plan.ofOutline_eq_ok_iff {o : Outline} {plan : Plan} :
    ofOutline o = .ok plan ↔ readHead o.head = .ok (plan.fields, plan.table) ∧
      o.join.mapM (fun p => readJoin p.1 p.2) = .ok plan.join ∧
      o.filter.elim (.ok []) readConditions = .ok plan.conditions ∧
      o.group.mapM (fun body => readFields .groupBy (phrase body)) = .ok plan.groupBy := by
  have ho : ofOutline o = do
      let head ← readHead o.head
      let join ← o.join.mapM fun p => readJoin p.1 p.2
      let conditions ← o.filter.elim (.ok []) readConditions
      let groupBy ← o.group.mapM fun body => readFields .groupBy (phrase body)
      return ⟨head.1, head.2, conditions, join, groupBy⟩ := by
    obtain ⟨_, _, _ | _, _⟩ := o <;> rfl
  rw [ho]
  simp only [bind_eq_ok_iff, pure_eq_ok_iff]
  constructor
  · intro h
    obtain ⟨head, hhead, join, hjoin, conditions, hconditions, groupBy, hgroupBy, rfl⟩ := h
    exact ⟨hhead, hjoin, hconditions, hgroupBy⟩
  · intro h
    obtain ⟨hhead, hjoin, hconditions, hgroupBy⟩ := h
    exact ⟨_, hhead, _, hjoin, _, hconditions, _, hgroupBy, rfl⟩

namespace Sentence

def clauses (s : Sentence) : List Char :=
  s.join.elim [] JoinPhrase.text ++ (s.filter.elim [] FilterPhrase.text ++
    s.group.elim [] GroupPhrase.text)

theorem first_clauses (s : Sentence) : BlankFirst s.clauses :=
  blankFirst_append (elim_ends JoinPhrase.ends s.join).1
    (blankFirst_append (elim_ends FilterPhrase.ends s.filter).1
      (elim_ends GroupPhrase.ends s.group).1)

theorem last_clauses (s : Sentence) : SolidLast s.clauses :=
  solidLast_append (elim_ends JoinPhrase.ends s.join).2
    (solidLast_append (elim_ends FilterPhrase.ends s.filter).2
      (elim_ends GroupPhrase.ends s.group).2)

theorem words_clauses (s : Sentence) :
    words s.clauses = words (s.join.elim [] JoinPhrase.text) ++
      (words (s.filter.elim [] FilterPhrase.text) ++ words (s.group.elim [] GroupPhrase.text)) := by
  have hf := elim_ends FilterPhrase.ends s.filter
  have hg := elim_ends GroupPhrase.ends s.group
  rw [clauses, words_append (elim_ends JoinPhrase.ends s.join).2 (blankFirst_append hf.1 hg.1),
    words_append hf.2 hg.1]

/-- The words before the clauses, with `a` before the first of them. -/
def head (s : Sentence) (a : List Char) : List Word :=
  ⟨a, s.selectWord.chars⟩ :: (words (s.listGap.chars ++ s.list.text) ++
    [⟨s.fromGap.chars, s.fromWord.chars⟩, ⟨s.tableGap.chars, s.table.chars⟩])

theorem words_text (s : Sentence) {a : List Char} (ha : AllBlank a) :
    words (a ++ s.text) = s.head a ++ words s.clauses := by
  rw [text, s.selectWord.words_cons (by decide) ha s.listGap.first,
    words_tight_append s.list.tight s.fromGap.first,
    s.fromWord.words_cons (by decide) s.fromGap.blank s.tableGap.first, ← clauses,
    words_cons s.tableGap.blank s.table.solid s.table.nonempty s.first_clauses]
  simp [head]

theorem solidLast_text (s : Sentence) : SolidLast s.text := by
  have h : SolidLast (s.table.chars ++ s.clauses) :=
    solidLast_append s.table.solid.last s.last_clauses
  rw [text, ← clauses]
  simp only [← List.append_assoc] at h ⊢
  exact solidLast_append (s := _ ++ s.table.chars) ((s.table.solid.last).append s.table.nonempty)
    s.last_clauses

def outline (s : Sentence) (a : List Char) : Outline where
  head := s.head a
  join := s.join.map fun j => (j.kind, j.body)
  filter := s.filter.map FilterPhrase.body
  group := s.group.map GroupPhrase.body

variable {s : Sentence}

theorem Clear.bare_head (hs : s.Clear) (a : List Char) : Bare (s.head a) := by
  have hl := (bare_iff (wordTexts_allBlank_append s.listGap.blank _)).mpr (avoids_cons.mp hs.list).2
  have ht := (bare_iff (s.table.wordTexts s.tableGap.chars)).mpr hs.table
  exact bare_nil.neutral (Word.neutral (s.selectWord.is a) (by simp))
    (hl.neutral (Word.neutral (s.fromWord.is _) (by simp)) ht)

theorem Clear.readHead_head (hs : s.Clear) (a : List Char) :
    readHead (s.head a) = .ok (s.plan.fields, s.plan.table) := by
  have hl :=
    (wordFree_iff (wordTexts_allBlank_append s.listGap.blank _)).mpr (avoids_cons.mp hs.list).1
  refine readHead_eq_ok_iff.mpr ⟨_, _, _, _, rfl, s.selectWord.is a, hl, s.fromWord.is _,
    words_ne_nil s.list.tight s.listGap.blank, ?_, rfl⟩
  rw [s.list.tight.phrase_words s.listGap.blank]
  exact readFields_text s.list

theorem Clear.bare_join (hs : s.Clear) : ∀ j ∈ s.join, Bare j.body :=
  fun j hj => j.bare_body (avoids_cons.mp (hs.join j hj)).2

theorem Clear.covers_join (hs : s.Clear) (a : List Char) :
    Covers (s.outline a).joinPart (words (s.join.elim [] JoinPhrase.text)) := by
  unfold Outline.joinPart outline
  cases hj : s.join with
  | none => exact words_of_allBlank allBlank_nil
  | some j =>
    exact ⟨by simp [JoinPhrase.body], (hs.bare_join j hj).1, _,
      .join (j.kindWord.is _) (j.joinWord.is _), j.words_text⟩

theorem Clear.covers_filter (hs : s.Clear) (a : List Char) :
    Covers (s.outline a).filterPart (words (s.filter.elim [] FilterPhrase.text)) := by
  unfold Outline.filterPart outline
  cases hf : s.filter with
  | none => exact words_of_allBlank allBlank_nil
  | some f =>
    have ho := f.conjunction.ordinary_words (fun segment hg =>
      (avoids_cons.mp (avoids_cons.mp (hs.filter f hf segment hg)).2).2) f.gap.blank
    exact ⟨words_ne_nil f.conjunction.tight f.gap.blank, ho, _, .filter (f.whereWord.is _),
      f.words_text⟩

theorem Clear.covers_group (hs : s.Clear) (a : List Char) :
    Covers (s.outline a).groupPart (words (s.group.elim [] GroupPhrase.text)) := by
  unfold Outline.groupPart outline
  cases hg : s.group with
  | none => exact words_of_allBlank allBlank_nil
  | some g =>
    have ho := (ordinary_iff (wordTexts_allBlank_append g.gap.blank _)).mpr (hs.group g hg)
    exact ⟨words_ne_nil g.list.tight g.gap.blank, ho, _, .group (g.groupWord.is _) (g.byWord.is _),
      g.words_text⟩

theorem Clear.ofWords_words (hs : s.Clear) {a : List Char} (ha : AllBlank a) :
    Outline.ofWords (words (a ++ s.text)) = .ok (s.outline a) := by
  have hjoin : ∀ p ∈ (s.outline a).join, ∀ w ∈ p.2, w.is "JOIN" = false := by
    intro p hp
    obtain ⟨j, hj, rfl⟩ := Option.map_eq_some_iff.mp hp
    exact (hs.bare_join j hj).2
  rw [s.words_text ha, s.words_clauses]
  exact Outline.ofWords_eq_ok_iff.mpr ⟨_, _, _, rfl, (hs.bare_head a).1, hs.covers_join a,
    hs.covers_filter a, hs.covers_group a, (hs.bare_head a).2, hjoin⟩

theorem Clear.ofOutline_outline (hs : s.Clear) (a : List Char) :
    Plan.ofOutline (s.outline a) = .ok s.plan := by
  refine Plan.ofOutline_eq_ok_iff.mpr ⟨hs.readHead_head a, ?_, ?_, ?_⟩
  · unfold outline plan
    cases hj : s.join with
    | none => exact mapM_none_eq_ok_iff.mpr rfl
    | some j =>
      have hon : ¬ Stands ["ON"] j.table.chars := hs.join j hj _ (by simp)
      exact mapM_some_eq_ok_iff.mpr ⟨_, j.readJoin_body hon, rfl⟩
  · unfold outline plan
    cases hf : s.filter with
    | none => rfl
    | some f =>
      have hrows : [["AND"], ["OR"]] ⊆ ["AND"] :: ["OR"] :: clauseRows := by decide
      exact f.conjunction.readConditions_words (fun segment hg keys hk =>
        hs.filter f hf segment hg keys (hrows hk)) f.gap.blank
  · unfold outline plan
    cases hg : s.group with
    | none => exact mapM_none_eq_ok_iff.mpr rfl
    | some g =>
      refine mapM_some_eq_ok_iff.mpr ⟨_, ?_, rfl⟩
      rw [GroupPhrase.body, g.list.tight.phrase_words g.gap.blank]
      exact readFields_text g.list

/-- A clear sentence is read, with blanks around it. -/
theorem Clear.parse_text (hs : s.Clear) {a b : List Char} (ha : AllBlank a) (hb : AllBlank b) :
    Plan.parse (String.ofList (a ++ (s.text ++ b))) = .ok s.plan := by
  -- the blanks at the end belong to no word
  have hw : words (a ++ (s.text ++ b)) = words (a ++ s.text) := by
    have := s.selectWord.word (by decide)
    have ht : s.text ≠ [] := fun h => this.2 (List.append_eq_nil_iff.mp h).1
    rw [← List.append_assoc, words_append (s.solidLast_text.append ht) hb.first,
      words_of_allBlank hb, List.append_nil]
  rw [Plan.parse, String.toList_ofList, hw, hs.ofWords_words ha]
  exact hs.ofOutline_outline a

end Sentence

/-- **Completeness.** A well-formed plan without reserved words has a written
form, and it is read from every one of them, with blanks around it. -/
theorem Plan.parse_spelling {p : Plan} (hp : p.WellFormed) (hr : p.Unreserved) :
    (∃ s : Sentence, s.plan = p) ∧ ∀ s : Sentence, s.plan = p → ∀ a b : Pad,
      Plan.parse (String.ofList (a.chars ++ (s.text ++ b.chars))) = .ok p := by
  refine ⟨hp.exists_spelling, ?_⟩
  rintro s rfl a b
  exact hr.clear.parse_text a.blank b.blank

/-- A sentence with all clauses. -/
def Sentence.sample : Sentence where
  selectWord := ⟨"Select".toList, by decide⟩
  listGap := .single
  list := .more ⟨"users.name".toList, by decide, by decide, by decide⟩ Gap.single.toPad .none
    (.last ⟨"age".toList, by decide, by decide, by decide⟩)
  fromGap := .single
  fromWord := .plain _
  tableGap := .single
  table := ⟨"users".toList, by decide, by decide⟩
  join := some {
    kindGap := .single
    kind := .left
    kindWord := .plain _
    joinGap := .single
    joinWord := ⟨"join".toList, by decide⟩
    tableGap := .single
    table := ⟨"cities".toList, by decide, by decide⟩
    onGap := .single
    onWord := .plain _
    leftGap := .single
    left := ⟨"users".toList, "city".toList, by decide, by decide⟩
    before := .none
    after := Gap.single.toPad
    right := ⟨"cities".toList, "id".toList, by decide, by decide⟩ }
  filter := some {
    whereGap := .single
    whereWord := .plain _
    gap := .single
    conjunction := .more
      ⟨"age".toList, by decide, by decide, by decide, .none, .ge, .none, .double "18".toList,
        by decide⟩
      .single ⟨"or".toList, by decide⟩ .single
      (.last ⟨"city".toList, by decide, by decide, by decide, .none, .ne, .none, .single [],
        by decide⟩) }
  group := some {
    groupGap := .single
    groupWord := .plain _
    byGap := .single
    byWord := .plain _
    gap := .single
    list := .last ⟨"age".toList, by decide, by decide, by decide⟩ }

theorem Sentence.unreserved_sample : sample.plan.Unreserved := by
  unfold Plan.Unreserved
  decide +kernel

theorem Sentence.text_sample :
    "Select users.name ,age FROM users LEFT join cities ON users.city= cities.id " ++
      "WHERE age>=\"18\" or city!=\x27\x27 GROUP BY age" = String.ofList sample.text := by
  decide +kernel

theorem Plan.parse_sample :
    Sentence.sample.plan.WellFormed ∧ Sentence.sample.plan.Unreserved ∧
      Plan.parse ("Select users.name ,age FROM users LEFT join cities ON users.city= cities.id " ++
        "WHERE age>=\"18\" or city!=\x27\x27 GROUP BY age") = .ok Sentence.sample.plan := by
  have hr := Sentence.unreserved_sample
  have h := (parse_spelling Sentence.sample.wellFormed_plan hr).2 _ rfl .none .none
  rw [Sentence.text_sample]
  exact ⟨Sentence.sample.wellFormed_plan, hr, by simpa [Pad.none] using h⟩

-- without a blank the comparison takes in the first character of a bare value
example : (Plan.parse "select a from t where a>=5").toOption.map Plan.conditions =
    some [⟨"a", .ge, "5"⟩] := by
  decide +kernel

end FlatQuery
