import FlatQuery.Proofs.Query.Soundness
import FlatQuery.Proofs.Query.UntypedJoin

/-!
# Where the clauses begin

The markers of a row of words are the clause keywords at all of its places.
The cut into segments finds these and no others (`markers_eq`), so a text is
divided exactly if its markers ascend and no clause is empty. The words of the
parts and the keywords are then all the words of the text
(`Outline.ofWords_divides`).
-/

namespace FlatQuery

open Text

/-! ## Markers -/

/-- The marker whose keyword these words begin with. -/
def opening? : List Word → Option Marker
  | [] => none
  | w :: rest => (marker? w rest).map Prod.fst

/-- The markers at all places of a row of words, from left to right. -/
def markers (ws : List Word) : List Marker := ws.tails.filterMap opening?

theorem opening?_eq_some_iff {ws : List Word} {m : Marker} :
    opening? ws = some m ↔ ∃ kw rest, Begins m kw ∧ ws = kw ++ rest := by
  constructor
  · intro h
    cases ws with
    | nil => cases h
    | cons w ws =>
      obtain ⟨p, hp, rfl⟩ := Option.map_eq_some_iff.mp h
      obtain ⟨kw, hkw, hws⟩ := marker?_eq_some hp
      exact ⟨kw, p.2, hkw, hws⟩
  · intro h
    obtain ⟨kw, rest, hkw, rfl⟩ := h
    obtain ⟨w, kw, rfl⟩ := List.exists_cons_of_ne_nil hkw.ne_nil
    rw [List.cons_append, opening?, marker?_of_begins hkw]; rfl

theorem Begins.rest_unique {m m' : Marker} {kw kw' rest rest' : List Word} (h : Begins m kw)
    (h' : Begins m' kw') (heq : kw ++ rest = kw' ++ rest') : rest = rest' := by
  obtain ⟨w, kw, rfl⟩ := List.exists_cons_of_ne_nil h.ne_nil
  obtain ⟨w', kw', rfl⟩ := List.exists_cons_of_ne_nil h'.ne_nil
  rw [List.cons_append, List.cons_append] at heq
  obtain ⟨rfl, htail⟩ := List.cons.inj heq
  have hmarker := marker?_of_begins h rest
  rw [htail, marker?_of_begins h' rest'] at hmarker
  cases hmarker
  rfl

theorem Begins.second_free {m : Marker} {v : Word} {kw : List Word} (h : Begins m (v :: kw)) :
    v.is "BY" = false ∧ v.is "JOIN" = false := by
  cases h with
  | filter h => exact ⟨Word.is_false h (by decide), Word.is_false h (by decide)⟩
  | group h => exact ⟨Word.is_false h (by decide), Word.is_false h (by decide)⟩
  | @join kind _ _ h =>
    exact ⟨Word.is_false h (kind.upper_name_ne (by decide)),
      Word.is_false h (kind.upper_name_ne (by decide))⟩

/-- The words up to the next marker are enough to find the marker at a word. -/
theorem opening?_segments (w : Word) (ws : List Word) :
    opening? (w :: (segments ws).1) = opening? (w :: ws) := by
  cases ws with
  | nil => rfl
  | cons v ws =>
    cases hm : marker? v (segments ws).1 with
    | none =>
      rw [segments_cons_none hm]
      simp only [opening?, marker?]
      split
      · rfl
      · split
        · rfl
        · split <;> simp [Option.map_map, Function.comp_def]
    | some p =>
      rw [segments_cons_some hm]
      obtain ⟨kw, hkw, hv⟩ := marker?_eq_some hm
      obtain ⟨u, kw, rfl⟩ := List.exists_cons_of_ne_nil hkw.ne_nil
      obtain ⟨rfl, -⟩ := List.cons.inj hv
      obtain ⟨hby, hjoin⟩ := hkw.second_free
      simp [opening?, marker?, hby, hjoin]

theorem markers_cons (w : Word) (ws : List Word) :
    markers (w :: ws) = (opening? (w :: ws)).toList ++ markers ws := by
  unfold markers
  rw [List.tails_cons, List.filterMap_cons]
  cases opening? (w :: ws) <;> rfl

theorem markers_eq (ws : List Word) : markers ws = (segments ws).2.map Prod.fst := by
  induction ws with
  | nil => rfl
  | cons w ws ih =>
    rw [markers_cons, ih, ← opening?_segments, opening?]
    cases hm : marker? w (segments ws).1 with
    | none => rw [segments_cons_none hm]; rfl
    | some p => rw [segments_cons_some hm]; rfl

/-! ## Empty clauses -/

/-- A keyword is followed at once by another one, or by nothing. -/
def EmptyClause (ws : List Word) : Prop :=
  ∃ m kw rest, Begins m kw ∧ kw ++ rest <:+ ws ∧ (rest = [] ∨ (opening? rest).isSome)

theorem segments_fst_eq_nil_iff {ws : List Word} :
    (segments ws).1 = [] ↔ ws = [] ∨ (opening? ws).isSome := by
  cases ws with
  | nil => simp [segments]
  | cons w ws =>
    rw [← opening?_segments, opening?]
    cases hm : marker? w (segments ws).1 with
    | none => simp [segments_cons_none hm]
    | some p => simp [segments_cons_some hm]

theorem emptyClause_iff {ws : List Word} : EmptyClause ws ↔ ∃ p ∈ (segments ws).2, p.2 = [] := by
  induction ws with
  | nil =>
    constructor
    · intro h
      obtain ⟨m, kw, rest, hkw, hs, -⟩ := h
      exact absurd (List.append_eq_nil_iff.mp (List.suffix_nil.mp hs)).1 hkw.ne_nil
    · simp [segments]
  | cons w ws ih =>
    have hcons : EmptyClause (w :: ws) ↔ (∃ m kw rest, Begins m kw ∧ kw ++ rest = w :: ws ∧
        (segments rest).1 = []) ∨ EmptyClause ws := by
      simp only [EmptyClause, ← segments_fst_eq_nil_iff, List.suffix_cons_iff, or_and_right,
        and_or_left, exists_or]
    rw [hcons, ih]
    cases hm : marker? w (segments ws).1 with
    | none =>
      have hnone : opening? (w :: ws) = none := by rw [← opening?_segments, opening?, hm]; rfl
      rw [segments_cons_none hm]
      refine or_iff_right ?_
      intro h
      obtain ⟨m, kw, rest, hkw, hws, -⟩ := h
      rw [opening?_eq_some_iff.mpr ⟨kw, rest, hkw, hws.symm⟩] at hnone
      cases hnone
    | some p =>
      have hs := segments_cons_some hm
      obtain ⟨kw, rest, hkw, hws, hrest⟩ := segments_keyword hs
      rw [hs, List.exists_mem_cons_iff]
      refine or_congr_left ?_
      constructor
      · intro h
        obtain ⟨m, kw', rest', hkw', hws', hrest'⟩ := h
        obtain rfl := hkw'.rest_unique hkw (hws'.trans hws)
        rw [hrest] at hrest'
        exact hrest'
      · intro h
        exact ⟨p.1, kw, rest, hkw, hws.symm, by rw [hrest]; exact h⟩

namespace Outline

/-! ## Texts with an outline -/

theorem checkOrder_eq_ok_iff {clauses : List Clause} :
    checkOrder clauses = .ok () ↔ (clauses.map Clause.rank).Pairwise (· < ·) := by
  rw [← List.isChain_iff_pairwise, List.isChain_map]
  induction clauses with
  | nil => simp [checkOrder]
  | cons c clauses ih => rw [checkOrder_cons, ih, List.isChain_cons]

theorem exists_ofWords_iff {ws : List Word} (h : untypedJoin? none ws = none) :
    (∃ o, ofWords ws = .ok o) ↔
      ((markers ws).map fun m => m.clause.rank).Pairwise (· < ·) ∧ ¬ EmptyClause ws := by
  have hranks : ((markers ws).map fun m => m.clause.rank) =
      ((segments ws).2.map (·.1.clause)).map Clause.rank := by
    rw [markers_eq, List.map_map, List.map_map]; rfl
  rw [hranks, ← checkOrder_eq_ok_iff, emptyClause_iff]
  simp only [ofWords_eq_ok]
  constructor
  · intro ho
    obtain ⟨o, -, hs, hne⟩ := ho
    rw [hs]
    exact ⟨o.checkOrder_parts, fun ⟨p, hp, he⟩ => hne p hp he⟩
  · intro ho
    obtain ⟨horder, hne⟩ := ho
    obtain ⟨o, hhead, hparts⟩ := exists_parts (segments ws).1 horder
    exact ⟨o, h, by rw [hhead, hparts], by rw [hparts]; exact fun p hp he => hne ⟨p, hp, he⟩⟩

/-- The words of a clause that may be absent: its keyword, and those of its text. -/
def Clausal (part : Option (Marker × List Word)) (texts : List (List Char)) : Prop :=
  match part with
  | none => texts = []
  | some (m, body) => ∃ kw, Begins m kw ∧ texts = kw.map Word.text ++ wordTexts (phrase body)

/-- The parts and the keywords are the words of the text, and in no part is
there a keyword that would begin another. -/
structure Divides (o : Outline) (q : List Char) : Prop where
  words : ∃ js fs gs, wordTexts q = wordTexts (phrase o.head) ++ (js ++ (fs ++ gs)) ∧
    Clausal o.joinPart js ∧ Clausal o.filterPart fs ∧ Clausal o.groupPart gs
  trimmed : trim (phrase o.head) = phrase o.head
  tight : ∀ p ∈ o.parts, Tight (phrase p.2)
  head : Avoids (["JOIN"] :: clauseRows) (phrase o.head)
  join : ∀ p ∈ o.join, Avoids (["JOIN"] :: clauseRows) (phrase p.2)
  filter : ∀ body ∈ o.filter, Avoids clauseRows (phrase body)
  group : ∀ body ∈ o.group, Avoids clauseRows (phrase body)

theorem Clausal.of_covers {part : Option (Marker × List Word)} {ws : List Word} (hp : Proper ws)
    (h : Covers part ws) : Clausal part (ws.map Word.text) := by
  cases part with
  | none =>
    obtain rfl : ws = [] := h
    rfl
  | some p =>
    obtain ⟨-, -, kw, hkw, rfl⟩ := h
    exact ⟨kw, hkw, by rw [List.map_append, hp.right.wordTexts_phrase]⟩

theorem Covers.body {part : Option (Marker × List Word)} {ws : List Word} (h : Covers part ws)
    (hp : Proper ws) : ∀ p ∈ part, Proper p.2 ∧ p.2 ≠ [] ∧ Ordinary p.2 := by
  intro p hpart
  obtain rfl := Option.mem_def.mp hpart
  obtain ⟨hne, ho, kw, -, rfl⟩ := h
  exact ⟨hp.right, hne, ho⟩

theorem divides_of_ofWords {q : List Char} {o : Outline} (h : ofWords (Text.words q) = .ok o) :
    o.Divides q := by
  obtain ⟨js, fs, gs, hws, hhead, hj, hf, hg, hfree, hfreej⟩ := ofWords_eq_ok_iff.mp h
  have hp := proper_words q
  rw [hws] at hp
  have hjs : Proper js := hp.right.left
  have hfs : Proper fs := hp.right.right.left
  have hgs : Proper gs := hp.right.right.right
  have hbodyj := Covers.body hj hjs
  have hbodyf := Covers.body hf hfs
  have hbodyg := Covers.body hg hgs
  refine ⟨⟨js.map Word.text, fs.map Word.text, gs.map Word.text, ?_, .of_covers hjs hj,
    .of_covers hfs hf, .of_covers hgs hg⟩, ?_, ?_, ?_, ?_, ?_, ?_⟩
  · rw [wordTexts, hws, hp.left.wordTexts_phrase]
    simp only [List.map_append]
  · exact trim_eq_self_iff.mpr ⟨hp.left.solidFirst_phrase, hp.left.solidLast_phrase⟩
  · intro p hpart
    rw [parts, List.mem_append, List.mem_append, Option.mem_toList, Option.mem_toList,
      Option.mem_toList] at hpart
    obtain ⟨hproper, hne, -⟩ := hpart.elim (hbodyj p) fun h => h.elim (hbodyf p) (hbodyg p)
    exact hproper.tight_phrase hne
  · exact (bare_iff hp.left.wordTexts_phrase.symm).mp ⟨hhead, hfree⟩
  · intro p hjoin
    have hpart : o.joinPart = some (.join p.1, p.2) := Option.map_eq_some_iff.mpr ⟨p, hjoin, rfl⟩
    obtain ⟨hproper, -, ho⟩ := hbodyj _ hpart
    exact (bare_iff hproper.wordTexts_phrase.symm).mp ⟨ho, hfreej p hjoin⟩
  · intro body hfilter
    have hpart : o.filterPart = some (.filter, body) :=
      Option.map_eq_some_iff.mpr ⟨body, hfilter, rfl⟩
    obtain ⟨hproper, -, ho⟩ := hbodyf _ hpart
    exact (ordinary_iff hproper.wordTexts_phrase.symm).mp ho
  · intro body hgroup
    have hpart : o.groupPart = some (.group, body) := Option.map_eq_some_iff.mpr ⟨body, hgroup, rfl⟩
    obtain ⟨hproper, -, ho⟩ := hbodyg _ hpart
    exact (ordinary_iff hproper.wordTexts_phrase.symm).mp ho

/-- **Clauses.** A text that has an outline is divided by it, without a word
lost or added. If no join without a kind stands in it, it has none exactly if
its markers do not ascend or one of its clauses is empty. -/
theorem ofWords_divides (q : String) :
    (∀ o, ofWords (Text.words q.toList) = .ok o → o.Divides q.toList) ∧
    ((∀ before w after, Text.words q.toList = before ++ w :: after → ¬ UntypedJoin before w) →
      ((∃ e, ofWords (Text.words q.toList) = .error e ∧ e.code = "FLATSQL_MALFORMED_QUERY") ↔
        ¬ ((markers (Text.words q.toList)).map fun m => m.clause.rank).Pairwise (· < ·) ∨
          EmptyClause (Text.words q.toList))) := by
  refine ⟨fun o ho => divides_of_ofWords ho, ?_⟩
  intro hjoin
  have hscan := untypedJoin?_eq_none_iff.mpr hjoin
  have hiff := exists_ofWords_iff hscan
  constructor
  · intro h
    obtain ⟨e, he, -⟩ := h
    by_contra hnot
    rw [not_or, not_not] at hnot
    obtain ⟨o, ho⟩ := hiff.mpr hnot
    rw [ho] at he
    cases he
  · intro h
    cases hwords : ofWords (Text.words q.toList) with
    | error e => exact ⟨e, rfl, fails_ofWords hscan e hwords⟩
    | ok o =>
      obtain ⟨hascend, hnonempty⟩ := hiff.mp ⟨o, hwords⟩
      exact (h.elim (fun hn => hn hascend) hnonempty).elim

theorem ofWords_divides_sample :
    let q := "SELECT a FROM t LEFT JOIN u ON k = k GROUP BY a"
    let q' := "SELECT a FROM t GROUP BY a WHERE a = JOIN"
    (∃ o, ofWords (Text.words q.toList) = .ok o ∧ o.Divides q.toList) ∧
      (∀ before w after, Text.words q'.toList = before ++ w :: after → ¬ UntypedJoin before w) ∧
        ∃ e, ofWords (Text.words q'.toList) = .error e ∧ e.code = "FLATSQL_MALFORMED_QUERY" := by
  intro q q'
  constructor
  · have hok : (ofWords (Text.words q.toList)).isOk = true := by decide +kernel
    cases ho : ofWords (Text.words q.toList) with
    | error e => rw [ho] at hok; cases hok
    | ok o => exact ⟨o, rfl, (ofWords_divides q).1 o ho⟩
  · have hscan : untypedJoin? none (Text.words q'.toList) = none := by decide +kernel
    have hjoin := untypedJoin?_eq_none_iff.mp hscan
    have hranks :
        ¬ ((markers (Text.words q'.toList)).map fun m => m.clause.rank).Pairwise (· < ·) := by
      decide +kernel
    exact ⟨hjoin, ((ofWords_divides q').2 hjoin).mpr (.inl hranks)⟩

end Outline

end FlatQuery
