import FlatQuery.Proofs.Query.Completeness

/-!
# What is read is a sentence

A sentence is put together from the words that were read, clause by clause
(`Plan.exists_sentence`). So a query is read exactly if its text, blanks at
the ends apart, is a clear sentence, and the plan is what the sentence asks
for (`Plan.parse_eq_ok_iff`).
-/

namespace FlatQuery

open Text

/-! ## Words that follow others -/

/-- Words that follow others: every one has a gap before it. -/
structure Trailing (ws : List Word) : Prop extends Proper ws where
  gapped : ∀ w ∈ ws, w.gap ≠ []

theorem Text.Proper.trailing {w : Word} {ws : List Word} (h : Proper (w :: ws)) : Trailing ws where
  toProper := h.tail
  gapped := h.apart

namespace Trailing

theorem left {xs ys : List Word} (h : Trailing (xs ++ ys)) : Trailing xs where
  toProper := h.toProper.left
  gapped w hw := h.gapped w (List.mem_append_left _ hw)

theorem right {xs ys : List Word} (h : Trailing (xs ++ ys)) : Trailing ys where
  toProper := h.toProper.right
  gapped w hw := h.gapped w (List.mem_append_right _ hw)

theorem exists_gap {ws : List Word} (h : Trailing ws) (hne : ws ≠ []) :
    ∃ g : Gap, spell ws = g.chars ++ phrase ws := by
  obtain ⟨w, ws, rfl⟩ := List.exists_cons_of_ne_nil hne
  exact ⟨⟨⟨w.gap, h.blank w (by simp)⟩, h.gapped w (by simp)⟩, spell_cons w ws⟩

theorem tail {w : Word} {ws : List Word} (h : Trailing (w :: ws)) : Trailing ws where
  toProper := h.toProper.tail
  gapped v hv := h.gapped v (List.mem_cons_of_mem _ hv)

def gap {ws : List Word} (h : Trailing ws) {w : Word} (hw : w ∈ ws) : Gap where
  chars := w.gap
  blank := h.blank w hw
  nonempty := h.gapped w hw

end Trailing

def Keyword.ofWord {name : String} {w : Word} (h : w.is name = true) : Keyword name := ⟨w.text, h⟩

def TableName.ofWord {ws : List Word} (h : Proper ws) {w : Word} (hw : w ∈ ws) : TableName where
  chars := w.text
  nonempty := h.nonempty w hw
  solid := h.solid w hw

theorem Text.Proper.within {xs ys : List Word} (h : Proper ys) (hx : xs <:+: ys) : Proper xs := by
  obtain ⟨p, q, rfl⟩ := hx
  exact h.left.right

theorem exists_listing {list : FieldList} {ws : List Word} (hp : Proper ws) {fields : List String}
    (h : readFields list (phrase ws) = .ok fields) :
    ∃ l : Listing, l.text = phrase ws ∧ l.fields = fields := by
  obtain ⟨a, b, l, hs, rfl⟩ := readFields_eq_ok_iff.mp h
  exact ⟨l, (phrase_between hp l.tight hs).2.symm, rfl⟩

theorem exists_equality {ws : List Word} (hp : Proper ws) {l r : String}
    (h : readEquality? (phrase ws) = some (l, r)) :
    ws ≠ [] ∧ ∃ (left right : QualifiedName) (before after : Pad),
      phrase ws = left.text ++ (before.chars ++ '=' :: (after.chars ++ right.text)) ∧
        l = String.ofList left.text ∧ r = String.ofList right.text := by
  obtain ⟨a, before, after, b, left, right, hs, rfl, rfl⟩ := readEquality?_eq_some_iff.mp h
  have ht := left.tight.between right.tight (before.chars ++ '=' :: after.chars)
  obtain ⟨hne, he⟩ := phrase_between (a := a) (b := b) hp ht (by rw [hs]; simp)
  exact ⟨hne, left, right, before, after, by rw [he]; simp, rfl, rfl⟩

theorem exists_join {join : Option (JoinKind × List Word)} {js : List Word}
    (hc : Covers (join.map fun p => (.join p.1, p.2)) js) (ht : Trailing js)
    (hn : ∀ p ∈ join, ∀ w ∈ p.2, w.is "JOIN" = false) {clause : Option JoinClause}
    (h : join.mapM (fun p => readJoin p.1 p.2) = .ok clause) :
    ∃ j : Option JoinPhrase, j.elim [] JoinPhrase.text = spell js ∧
      j.map JoinPhrase.clause = clause ∧
      ∀ p ∈ j, Avoids (["ON"] :: ["JOIN"] :: clauseRows) p.table.chars := by
  cases join with
  | none =>
    obtain rfl := mapM_none_eq_ok_iff.mp h
    rw [show js = [] from hc]
    exact ⟨none, rfl, rfl, by simp⟩
  | some p =>
    obtain ⟨kind, body⟩ := p
    obtain ⟨-, ho, _, hkw, rfl⟩ := hc
    obtain ⟨w, v, rfl, hk, hj⟩ := begins_join_iff.mp hkw
    obtain ⟨clause, hr, rfl⟩ := mapM_some_eq_ok_iff.mp h
    obtain ⟨name, onWord, body, l, r, rfl, hname, hon, he, rfl⟩ := readJoin_eq_ok_iff.mp hr
    have hbody : Trailing body := ht.right.tail.tail
    obtain ⟨hne, left, right, before, after, hs, rfl, rfl⟩ := exists_equality hbody.toProper he
    obtain ⟨g, hg⟩ := hbody.exists_gap hne
    let table := TableName.ofWord ht.toProper (w := name) (by simp)
    refine ⟨some ⟨ht.gap (w := w) (by simp), kind, .ofWord hk, ht.gap (w := v) (by simp),
      .ofWord hj, ht.gap (w := name) (by simp), table, ht.gap (w := onWord) (by simp), .ofWord hon,
      g, left, before, after, right⟩, ?_, rfl, ?_⟩
    · simp only [List.cons_append, List.nil_append, spell_cons, hg, hs]
      rfl
    · rintro _ ⟨⟩
      have hw : [name].map Word.text = wordTexts table.chars := table.wordTexts name.gap
      have hbare : Bare (name :: onWord :: body) := ⟨ho, hn _ rfl⟩
      refine avoids_cons.mpr ⟨(wordFree_iff hw).mp (by simpa using hname), (bare_iff hw).mp ?_⟩
      exact hbare.within ⟨[], onWord :: body, rfl⟩

theorem exists_filter {filter : Option (List Word)} {fs : List Word}
    (hc : Covers (filter.map (.filter, ·)) fs) (ht : Trailing fs) {conditions : List Condition}
    (h : filter.elim (.ok []) readConditions = .ok conditions) :
    ∃ f : Option FilterPhrase, f.elim [] FilterPhrase.text = spell fs ∧
      (f.elim [] fun p => p.conjunction.conditions) = conditions ∧
      ∀ p ∈ f, ∀ segment ∈ p.conjunction.segments,
        Avoids (["AND"] :: ["OR"] :: clauseRows) segment.text := by
  cases filter with
  | none =>
    cases h
    rw [show fs = [] from hc]
    exact ⟨none, rfl, rfl, by simp⟩
  | some body =>
    obtain ⟨-, ho, _, hkw, rfl⟩ := hc
    obtain ⟨w, rfl, hw⟩ := begins_filter_iff.mp hkw
    have hbody : Trailing body := ht.right
    obtain ⟨hne, c, hs, rfl, hsegments⟩ := exists_conjunction hbody.toProper h
    obtain ⟨g, hg⟩ := hbody.exists_gap hne
    refine ⟨some ⟨ht.gap (w := w) (by simp), .ofWord hw, g, c⟩, ?_, rfl, ?_⟩
    · simp only [List.cons_append, List.nil_append, spell_cons, hg, ← hs]
      rfl
    · rintro _ ⟨⟩ segment hsegment
      obtain ⟨run, hin, hrun, hfree⟩ := hsegments segment hsegment
      have hp := (hbody.toProper.within hin).wordTexts_phrase
      rw [hrun]
      refine avoids_cons.mpr ⟨(wordFree_iff hp.symm).mp fun w hw => ?_, avoids_cons.mpr
        ⟨(wordFree_iff hp.symm).mp fun w hw => ?_, (ordinary_iff hp.symm).mp (ho.within hin)⟩⟩
      · exact (Bool.or_eq_false_iff.mp (hfree w hw)).1
      · exact (Bool.or_eq_false_iff.mp (hfree w hw)).2

theorem exists_group {group : Option (List Word)} {gs : List Word}
    (hc : Covers (group.map (.group, ·)) gs) (ht : Trailing gs) {fields : Option (List String)}
    (h : group.mapM (fun body => readFields .groupBy (phrase body)) = .ok fields) :
    ∃ g : Option GroupPhrase, g.elim [] GroupPhrase.text = spell gs ∧
      (g.map fun p => p.list.fields) = fields ∧ ∀ p ∈ g, Avoids clauseRows p.list.text := by
  cases group with
  | none =>
    obtain rfl := mapM_none_eq_ok_iff.mp h
    rw [show gs = [] from hc]
    exact ⟨none, rfl, rfl, by simp⟩
  | some body =>
    obtain ⟨hne, ho, _, hkw, rfl⟩ := hc
    obtain ⟨w, v, rfl, hw, hv⟩ := begins_group_iff.mp hkw
    obtain ⟨fields, hr, rfl⟩ := mapM_some_eq_ok_iff.mp h
    have hbody : Trailing body := ht.right
    obtain ⟨l, hs, rfl⟩ := exists_listing hbody.toProper hr
    obtain ⟨g, hg⟩ := hbody.exists_gap hne
    refine
      ⟨some ⟨ht.gap (w := w) (by simp), .ofWord hw, ht.gap (w := v) (by simp), .ofWord hv, g, l⟩,
        ?_, rfl, ?_⟩
    · simp only [List.cons_append, List.nil_append, spell_cons, hg, ← hs]
      rfl
    · rintro _ ⟨⟩
      rw [hs]
      exact (ordinary_iff hbody.toProper.wordTexts_phrase.symm).mp ho

namespace Plan

theorem exists_sentence {q : String} {plan : Plan} (h : parse q = .ok plan) :
    ∃ s : Sentence, s.Clear ∧ trim q.toList = s.text ∧ s.plan = plan := by
  rw [← phrase_words]
  have hp := proper_words q.toList
  rw [parse] at h
  obtain ⟨o, ho, h⟩ := bind_eq_ok_iff.mp h
  obtain ⟨hhead, hjoin, hfilter, hgroup⟩ := ofOutline_eq_ok_iff.mp h
  obtain ⟨js, fs, gs, hws, hord, hj, hf, hg, hfree, hfreej⟩ := Outline.ofWords_eq_ok_iff.mp ho
  obtain ⟨first, list, fromWord, name, he, hfirst, hlist, hfrom, hne, hfields, htable⟩ :=
    readHead_eq_ok_iff.mp hhead
  -- all words but the first have a gap, so every part takes its gaps from them
  have hbare : Bare o.head := ⟨hord, hfree⟩
  rw [he] at hbare
  rw [hws, he, List.cons_append] at hp ⊢
  have ht := hp.trailing
  obtain ⟨j, hjt, hjc, hja⟩ := exists_join hj ht.right.left hfreej hjoin
  obtain ⟨f, hft, hfc, hfa⟩ := exists_filter hf ht.right.right.left hfilter
  obtain ⟨g, hgt, hgf, hga⟩ := exists_group hg ht.right.right.right hgroup
  have hlt : Trailing list := ht.left.left
  obtain ⟨l, hl, hlf⟩ := exists_listing hlt.toProper hfields
  obtain ⟨gap, hgap⟩ := hlt.exists_gap hne
  have hlw := hlt.toProper.wordTexts_phrase.symm
  have hnt : [name].map Word.text = wordTexts name.text :=
    (TableName.ofWord ht.toProper (w := name) (by simp)).wordTexts name.gap
  refine ⟨⟨.ofWord hfirst, gap, l, ht.gap (w := fromWord) (by simp), .ofWord hfrom,
    ht.gap (w := name) (by simp), .ofWord ht.toProper (w := name) (by simp), j, f, g⟩,
    ⟨?_, ?_, hja, hfa, hga⟩, ?_, ?_⟩
  · rw [hl]
    refine avoids_cons.mpr ⟨(wordFree_iff hlw).mp hlist, (bare_iff hlw).mp ?_⟩
    exact hbare.within ⟨[first], [fromWord, name], by simp⟩
  · exact (bare_iff hnt).mp (hbare.within ⟨first :: (list ++ [fromWord]), [], by simp⟩)
  · simp only [phrase_cons, spell_append, spell_cons, hgap, ← hl, ← hjt, ← hft, ← hgt,
      List.append_assoc]
    rfl
  · obtain ⟨_, _, _, _, _⟩ := plan
    simp only at hfc hgf hjc hlf htable
    subst hfc hgf hjc hlf htable
    rfl

/-- **Reading.** A query is read exactly if it is a clear sentence, with
blanks around it, and the plan is the plan of the sentence. -/
theorem parse_eq_ok_iff {q : String} {plan : Plan} :
    parse q = .ok plan ↔ ∃ s : Sentence, s.Clear ∧ trim q.toList = s.text ∧ s.plan = plan := by
  constructor
  · exact exists_sentence
  · rintro ⟨s, hs, hq, rfl⟩
    obtain ⟨a, b, ha, hb, -, -, he⟩ := exists_trim q.toList
    rw [hq] at he
    rw [← hs.parse_text ha hb, ← he, String.ofList_toList]

end Plan

/-- A text has one reading. -/
theorem Sentence.Clear.plan_eq {s r : Sentence} (hs : s.Clear) (hr : r.Clear)
    (h : s.text = r.text) : s.plan = r.plan := by
  have := hs.parse_text allBlank_nil allBlank_nil
  rw [h, hr.parse_text allBlank_nil allBlank_nil] at this
  exact (Except.ok.inj this).symm

theorem Conjunction.conditions_ne_nil (c : Conjunction) : c.conditions ≠ [] := by
  cases c <;> simp [conditions, segments]

namespace Plan

/-- **Soundness.** A query that is read is a clear sentence from its first
word to its last, with the clauses that the plan has. Every other reading of
it gives the same plan. -/
theorem reading_of_parse {q : String} {plan : Plan} (h : parse q = .ok plan) :
    plan.WellFormed ∧ ∃ s : Sentence, trim q.toList = s.text ∧ s.Clear ∧ s.plan = plan ∧
      (s.join = none ↔ plan.join = none) ∧ (s.filter = none ↔ plan.conditions = []) ∧
      (s.group = none ↔ plan.groupBy = none) ∧
      ∀ r : Sentence, r.Clear → trim q.toList = r.text → r.plan = plan := by
  obtain ⟨s, hs, hq, rfl⟩ := exists_sentence h
  refine ⟨s.wellFormed_plan, s, hq, hs, rfl, ?_, ?_, ?_, fun r hr hqr => ?_⟩
  · exact Option.map_eq_none_iff.symm
  · unfold Sentence.plan
    cases s.filter with
    | none => simp
    | some f => simpa using f.conjunction.conditions_ne_nil
  · exact Option.map_eq_none_iff.symm
  · exact hr.plan_eq hs (hqr.symm.trans hq)

theorem reading_of_sample :
    parse (String.ofList Sentence.sample.text) = .ok Sentence.sample.plan ∧
      Sentence.sample.plan.WellFormed ∧ ∃ s : Sentence,
        trim (String.ofList Sentence.sample.text).toList = s.text ∧ s.Clear ∧
          s.plan = Sentence.sample.plan := by
  have h := Sentence.unreserved_sample.clear.parse_text allBlank_nil allBlank_nil
  rw [List.nil_append, List.append_nil] at h
  obtain ⟨hw, s, hq, hs, hp, -⟩ := reading_of_parse h
  exact ⟨h, hw, s, hq, hs, hp⟩

end Plan

end FlatQuery
