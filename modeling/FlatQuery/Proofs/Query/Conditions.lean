import FlatQuery.Proofs.Query.Clauses
import FlatQuery.Proofs.Query.Fault

/-!
# Conditions as they are written

A condition has one written form, up to the blanks around it: the text tells
the field, the operator and the value (`PaddedSegment.text_injective`). Its
operator is the first run of operator characters, and a text without a reading
fails by this run (`readCondition_reading`). A WHERE clause is read segment by
segment, whichever connectives stand between them (`readConditions_linked`).
-/

namespace FlatQuery

open Text

/-! ## One written form -/

theorem Comparison.symbol_injective {c d : Comparison} (h : c.symbol = d.symbol) : c = d := by
  have hc := Comparison.parse_eq_ok_iff.mpr h
  rw [Comparison.parse_eq_ok_iff.mpr rfl] at hc
  exact Except.ok.inj hc

theorem Pad.eq_of_chars {a b : Pad} (h : a.chars = b.chars) : a = b := by
  cases a
  cases b
  cases h
  rfl

theorem Literal.text_injective {l m : Literal} (h : l.text = m.text) : l = m := by
  have quoted : ∀ {q r : Char} {v w : List Char},
      q :: (v ++ [q]) = r :: (w ++ [r]) → q = r ∧ v = w := by
    intro q r v w he
    obtain ⟨rfl, he⟩ := List.cons.inj he
    exact ⟨rfl, List.append_cancel_right he⟩
  cases l with
  | single v =>
    cases m with
    | single w => rw [(quoted h).2]
    | double w => exact absurd (quoted h).1 (by decide)
    | bare w _ _ hw => exact absurd ⟨_, v, .inl rfl, h.symm⟩ hw
  | double v =>
    cases m with
    | single w => exact absurd (quoted h).1 (by decide)
    | double w => rw [(quoted h).2]
    | bare w _ _ hw => exact absurd ⟨_, v, .inr rfl, h.symm⟩ hw
  | bare v _ _ hv =>
    cases m with
    | single w => exact absurd ⟨_, w, .inl rfl, h⟩ hv
    | double w => exact absurd ⟨_, w, .inr rfl, h⟩ hv
    | bare w _ _ _ =>
      cases h
      rfl

theorem Segment.text_injective {g k : Segment} (h : g.text = k.text) : g = k := by
  obtain ⟨hleft, hsymbol, hright⟩ := g.cut.unique (h ▸ k.cut)
  have hfield : g.field = k.field := by rw [← g.trim_left, hleft, k.trim_left]
  have hliteral : g.literal = k.literal :=
    Literal.text_injective (by rw [← g.trim_right, hright, k.trim_right])
  rw [hfield] at hleft
  rw [hliteral] at hright
  have hbefore := Pad.eq_of_chars (List.append_cancel_left hleft)
  have hafter := Pad.eq_of_chars (List.append_cancel_right hright)
  have hcomparison := Comparison.symbol_injective (String.toList_inj.mp hsymbol)
  cases g
  cases k
  cases hfield
  cases hbefore
  cases hcomparison
  cases hafter
  cases hliteral
  rfl

/-- A condition with blanks around it. -/
structure PaddedSegment where
  lead : Pad
  segment : Segment
  trail : Pad

namespace PaddedSegment

def text (p : PaddedSegment) : List Char := p.lead.chars ++ (p.segment.text ++ p.trail.chars)

theorem trim_text (p : PaddedSegment) : trim p.text = p.segment.text :=
  trim_eq p.lead.blank p.trail.blank p.segment.tight.first p.segment.tight.last

theorem lead_text (p : PaddedSegment) : p.text.takeWhile isBlank = p.lead.chars :=
  (takeWhile_dropWhile p.lead.blank (p.segment.tight.first.append p.segment.tight.nonempty)).1

theorem text_injective {p q : PaddedSegment} (h : p.text = q.text) : p = q := by
  have hsegment : p.segment = q.segment :=
    Segment.text_injective (by rw [← p.trim_text, h, q.trim_text])
  have hlead : p.lead = q.lead := Pad.eq_of_chars (by rw [← p.lead_text, h, q.lead_text])
  have htrail : p.trail = q.trail := by
    unfold text at h
    rw [hlead, hsegment] at h
    exact Pad.eq_of_chars (List.append_cancel_left (List.append_cancel_left h))
  cases p
  cases q
  cases hsegment
  cases hlead
  cases htrail
  rfl

end PaddedSegment

/-! ## Texts that are no condition -/

theorem plain_of_allBlank {s : List Char} (h : AllBlank s) : Plain s :=
  fun c hc => isOperatorChar_blank (h c hc)

theorem Cut.of_trim {s f o v : List Char} (h : Cut (trim s) f o v) : ∃ f' v', Cut s f' o v' := by
  obtain ⟨a, b, ha, hb, -, -, hs⟩ := exists_trim s
  refine ⟨a ++ f, v ++ b, ?_, ?_, h.nonempty, h.operators, ?_⟩
  · rw [hs, h.text]
    simp only [List.append_assoc]
  · intro c hc
    exact (List.mem_append.mp hc).elim (plain_of_allBlank ha c) (h.plain c)
  · intro c hc
    by_cases hv : v = []
    · rw [hv, List.nil_append] at hc
      exact plain_of_allBlank hb c (List.mem_of_mem_head? hc)
    · rw [List.head?_append_of_ne_nil _ hv] at hc
      exact h.stop c hc

theorem not_cut_of_plain {s f o v : List Char} (h : Plain (trim s)) : ¬ Cut s f o v := by
  intro hcut
  obtain ⟨a, b, ha, hb, -, -, hs⟩ := exists_trim s
  obtain ⟨c, o, rfl⟩ := List.exists_cons_of_ne_nil hcut.nonempty
  have hc : c ∈ a ++ (trim s ++ b) := by
    rw [← hs, hcut.text]
    simp
  have hplain : isOperatorChar c = false := by
    obtain hc | hc := List.mem_append.mp hc
    · exact plain_of_allBlank ha c hc
    · exact (List.mem_append.mp hc).elim (h c) (plain_of_allBlank hb c)
  rw [hcut.operators c (by simp)] at hplain
  cases hplain

/-- The first run of operator characters is there and is none of the operators. -/
def WrongOperator (s : List Char) : Prop :=
  ∃ f o v, Cut s f o v ∧ ∀ comparison : Comparison, o ≠ comparison.symbol.toList

theorem Comparison.parse_eq_error {o : List Char}
    (h : ∀ comparison : Comparison, o ≠ comparison.symbol.toList) :
    Comparison.parse (String.ofList o) = .error (.unknownOperator (String.ofList o)) := by
  unfold Comparison.parse
  split
  · next comparison hc =>
    have hsymbol : comparison.symbol = String.ofList o := by simpa using List.find?_some hc
    exact absurd (by rw [hsymbol, String.toList_ofList]) (h comparison)
  · rfl

theorem readCondition_wrongOperator {s f o v : List Char} (h : Cut s f o v)
    (ho : ∀ comparison : Comparison, o ≠ comparison.symbol.toList) :
    readCondition s = .error (.unknownOperator (String.ofList o)) := by
  obtain hplain | ⟨f', o', v', hcut⟩ := exists_cut (trim s)
  · exact absurd h (not_cut_of_plain hplain)
  · obtain ⟨_, _, hcut'⟩ := hcut.of_trim
    obtain ⟨-, rfl, -⟩ := h.unique hcut'
    rw [readCondition_cut hcut, Comparison.parse_eq_error ho]
    rfl

theorem fails_readCondition_malformed {s : List Char} (h : ¬ WrongOperator s) :
    Fails Malformed (readCondition s) := by
  obtain hplain | ⟨f, o, v, hcut⟩ := exists_cut (trim s)
  · rw [readCondition_plain hplain]
    exact fails_error rfl
  · have ho : ∃ comparison : Comparison, o = comparison.symbol.toList := by
      by_contra hno
      obtain ⟨f', v', hcut'⟩ := hcut.of_trim
      exact h ⟨f', o, v', hcut', fun comparison he => hno ⟨comparison, he⟩⟩
    obtain ⟨comparison, rfl⟩ := ho
    rw [readCondition_cut hcut, String.ofList_toList, Comparison.parse_eq_ok_iff.mpr rfl]
    simp only [bind, Except.bind]
    split
    · exact fails_error rfl
    · exact fails_ok _

theorem readCondition_eq_ok_iff_padded {s : List Char} {c : Condition} :
    readCondition s = .ok c ↔ ∃ p : PaddedSegment, p.text = s ∧ p.segment.condition = c := by
  rw [readCondition_eq_ok_iff]
  constructor
  · intro h
    obtain ⟨a, b, g, rfl, rfl⟩ := h
    exact ⟨⟨a, g, b⟩, rfl, rfl⟩
  · intro h
    obtain ⟨p, rfl, rfl⟩ := h
    exact ⟨p.lead, p.trail, p.segment, rfl, rfl⟩

theorem Malformed.code_ne {e : QueryError} (h : Malformed e) :
    e.code ≠ "FLATSQL_INVALID_OPERATOR" := by
  rw [h]
  decide

theorem exists_invalidOperator_iff {s : List Char} :
    (∃ e, readCondition s = .error e ∧ e.code = "FLATSQL_INVALID_OPERATOR") ↔ WrongOperator s := by
  constructor
  · intro h
    obtain ⟨e, he, hcode⟩ := h
    by_contra hno
    exact (fails_readCondition_malformed hno e he).code_ne hcode
  · intro h
    obtain ⟨f, o, v, hcut, ho⟩ := h
    exact ⟨_, readCondition_wrongOperator hcut ho, rfl⟩

theorem exists_malformed_iff {s : List Char} :
    (∃ e, readCondition s = .error e ∧ e.code = "FLATSQL_MALFORMED_QUERY") ↔
      (¬ ∃ p : PaddedSegment, p.text = s) ∧ ¬ WrongOperator s := by
  constructor
  · intro h
    obtain ⟨e, he, hcode⟩ := h
    constructor
    · intro hp
      obtain ⟨p, hp⟩ := hp
      rw [readCondition_eq_ok_iff_padded.mpr ⟨p, hp, rfl⟩] at he
      cases he
    · intro hw
      obtain ⟨e', he', hcode'⟩ := exists_invalidOperator_iff.mpr hw
      rw [he] at he'
      cases he'
      exact Malformed.code_ne hcode hcode'
  · intro h
    obtain ⟨hnone, hright⟩ := h
    cases hs : readCondition s with
    | ok c =>
      obtain ⟨p, hp, -⟩ := readCondition_eq_ok_iff_padded.mp hs
      exact absurd ⟨p, hp⟩ hnone
    | error e => exact ⟨e, rfl, fails_readCondition_malformed hright e hs⟩

/-- **Conditions.** A text is read as a condition exactly if it is one written
form of it, with blanks around it. It is rejected for its operator if the first
run of operator characters is none of the six, even if there is no field or no
value, and is malformed in all other cases. -/
theorem readCondition_reading (s : List Char) :
    (∀ c, readCondition s = .ok c ↔
      ∃ p : PaddedSegment, p.text = s ∧ p.segment.condition = c ∧
        ∀ p' : PaddedSegment, p'.text = s → p' = p) ∧
    ((∃ e, readCondition s = .error e ∧ e.code = "FLATSQL_INVALID_OPERATOR") ↔ WrongOperator s) ∧
    ((∃ e, readCondition s = .error e ∧ e.code = "FLATSQL_MALFORMED_QUERY") ↔
      (¬ ∃ p : PaddedSegment, p.text = s) ∧ ¬ WrongOperator s) := by
  refine ⟨?_, exists_invalidOperator_iff, exists_malformed_iff⟩
  intro c
  rw [readCondition_eq_ok_iff_padded]
  refine exists_congr fun p => and_congr_right fun hp => ?_
  exact (and_iff_left fun p' hp' => PaddedSegment.text_injective (hp'.trans hp.symm)).symm

-- a lone quote is a value, and two quotes are the empty one
example : (readCondition "a = \x27".toList).toOption = some ⟨"a", .eq, "\x27"⟩ ∧
    (readCondition "a=\"\"".toList).toOption = some ⟨"a", .eq, ""⟩ := by
  decide +kernel

/-! ## Segments between connectives -/

/-- A connective with gaps around it, and the text that it adds. -/
structure Link where
  before : Gap
  connective : Connective
  after : Gap
  segment : List Char

/-- Texts one after the other, with connectives between them. -/
def linked (first : List Char) (links : List Link) : List Char :=
  first ++ links.flatMap fun l =>
    l.before.chars ++ (l.connective.chars ++ (l.after.chars ++ l.segment))

theorem linked_cons (first : List Char) (l : Link) (links : List Link) :
    linked first (l :: links) =
      first ++
        (l.before.chars ++ (l.connective.chars ++ (l.after.chars ++ linked l.segment links))) := by
  simp [linked]

theorem readCondition_trim (s : List Char) : readCondition (trim s) = readCondition s := by
  unfold readCondition
  rw [trim_trim]

theorem readConditions_eq (ws : List Word) :
    readConditions ws = ((splitAtConnectives ws).map phrase).mapM readCondition := by
  rw [List.mapM_map]
  rfl

theorem length_splitAtConnectives (ws : List Word) :
    (splitAtConnectives ws).length = ws.countP Word.isConnective + 1 := by
  induction ws using split_induction Word.isConnective with
  | last ws h =>
    rw [splitAtConnectives_last h, List.countP_eq_zero.mpr (by simpa using h)]
    rfl
  | more xs w ws h hw ih =>
    have hnone : xs.countP Word.isConnective = 0 := List.countP_eq_zero.mpr (by simpa using h)
    rw [splitAtConnectives_more h hw, List.length_cons, ih, List.countP_append, List.countP_cons,
      hnone, if_pos hw, Nat.zero_add]

/-- A word after a gap ends the words before it, whatever blanks come before the gap. -/
theorem exists_words_between {g t r : List Char} (hg : AllBlank g) (hgne : g ≠ []) (ht : Solid t)
    (hne : t ≠ []) (hr : BlankFirst r) (s : List Char) :
    ∃ g', words (s ++ (g ++ (t ++ r))) = words s ++ ⟨g', t⟩ :: words r := by
  have hlast : BlankLast (s ++ g) := hg.last.append hgne
  obtain ⟨g', -, hwords⟩ := exists_words_run hlast ht hne hr
  exact ⟨g', by rw [← List.append_assoc, hwords, words_append_allBlank hg]⟩

theorem words_linked_cons (g first : List Char) (l : Link) (links : List Link) :
    ∃ w : Word, w.isConnective = true ∧ words (g ++ linked first (l :: links)) =
      words (g ++ first) ++ w :: words (l.after.chars ++ linked l.segment links) := by
  obtain ⟨g', hwords⟩ := exists_words_between l.before.blank l.before.nonempty l.connective.word.1
    l.connective.word.2 (l.after.blank.first.append (t := linked l.segment links) l.after.nonempty)
    (g ++ first)
  refine ⟨⟨g', l.connective.chars⟩, ?_, ?_⟩
  · rw [Word.isConnective, Bool.or_eq_true]
    exact l.connective.same
  · rw [linked_cons, ← List.append_assoc, hwords]

theorem phrases_linked {g first : List Char} {links : List Link} (hg : AllBlank g)
    (h : ∀ t ∈ first :: links.map Link.segment, Avoids [["AND"], ["OR"]] t) :
    (splitAtConnectives (words (g ++ linked first links))).map phrase =
      (first :: links.map Link.segment).map trim := by
  have hphrase : ∀ {g : List Char} (s : List Char), AllBlank g →
      phrase (words (g ++ s)) = trim s := by
    intro g s hg
    have htrim := trim_between hg allBlank_nil s
    rwa [List.append_nil, ← phrase_words] at htrim
  have hfirst := isConnective_free (h first (by simp)) (wordTexts_allBlank_append hg first)
  induction links generalizing g first with
  | nil =>
    have hnil : linked first [] = first := List.append_nil first
    rw [hnil, splitAtConnectives_last hfirst, List.map_cons, hphrase first hg]
    rfl
  | cons l links ih =>
    obtain ⟨w, hw, hwords⟩ := words_linked_cons g first l links
    have hrest : ∀ t ∈ l.segment :: links.map Link.segment, Avoids [["AND"], ["OR"]] t :=
      fun t ht => h t (List.mem_cons_of_mem _ ht)
    rw [hwords, splitAtConnectives_more hfirst hw, List.map_cons, hphrase first hg,
      ih l.after.blank hrest (isConnective_free (hrest _ (by simp))
        (wordTexts_allBlank_append l.after.blank _))]
    rfl

/-- **Connectives.** A WHERE clause is read segment by segment, and fails with
the first segment that fails. Other connectives and other gaps between the same
segments make no difference, and there is one condition more than connectives. -/
theorem readConditions_linked (first : List Char) (links : List Link)
    (h : ∀ t ∈ first :: links.map Link.segment, Avoids [["AND"], ["OR"]] t) :
    readConditions (words (linked first links)) =
        (first :: links.map Link.segment).mapM readCondition ∧
      (∀ e, readConditions (words (linked first links)) = .error e ↔
        ∃ ts t us, first :: links.map Link.segment = ts ++ t :: us ∧
          (∀ s ∈ ts, ∃ c, readCondition s = .ok c) ∧ readCondition t = .error e) ∧
      (∀ links' : List Link, links'.map Link.segment = links.map Link.segment →
        readConditions (words (linked first links')) =
          readConditions (words (linked first links))) ∧
      (words (linked first links)).countP Word.isConnective = links.length ∧
      ∀ cs, readConditions (words (linked first links)) = .ok cs →
        cs.length = links.length + 1 := by
  have hread : ∀ links' : List Link, links'.map Link.segment = links.map Link.segment →
      readConditions (words (linked first links')) =
        (first :: links.map Link.segment).mapM readCondition := by
    intro links' hl
    have hphrases := phrases_linked (g := []) allBlank_nil (hl ▸ h)
    rw [List.nil_append, hl] at hphrases
    rw [readConditions_eq, hphrases, List.mapM_map]
    simp only [Function.comp_def, readCondition_trim]
  have hcount := length_splitAtConnectives (words (linked first links))
  have hphrases := congrArg List.length (phrases_linked (g := []) allBlank_nil h)
  simp only [List.length_map, List.length_cons, List.nil_append] at hphrases
  refine ⟨hread links rfl, ?_, ?_, by omega, ?_⟩
  · intro e
    rw [hread links rfl, mapM_eq_error_iff]
  · intro links' hl
    rw [hread links' hl, hread links rfl]
  · intro cs hcs
    rw [hread links rfl] at hcs
    rw [length_of_mapM hcs, List.length_cons, List.length_map]

/-- Two further segments, of which the first is no condition and the second has
a wrong operator. -/
def Link.sample : List Link :=
  [⟨.single, ⟨"OR".toList, by decide⟩, .single, "b".toList⟩,
    ⟨.single, ⟨"And".toList, by decide⟩, .single, "c ! 2".toList⟩]

theorem readConditions_linked_sample :
    (∀ t ∈ "a >= 1".toList :: Link.sample.map Link.segment, Avoids [["AND"], ["OR"]] t) ∧
      linked "a >= 1".toList Link.sample = "a >= 1 OR b And c ! 2".toList ∧
      readConditions (words "a >= 1 OR b And c ! 2".toList) = .error (.invalidCondition "b") := by
  have havoids : ∀ t ∈ "a >= 1".toList :: Link.sample.map Link.segment,
      Avoids [["AND"], ["OR"]] t := by
    decide +kernel
  have htext : linked "a >= 1".toList Link.sample = "a >= 1 OR b And c ! 2".toList := by
    decide +kernel
  have herror := ((readConditions_linked _ _ havoids).2.1 (.invalidCondition "b")).mpr
    ⟨["a >= 1".toList], "b".toList, ["c ! 2".toList], rfl,
      List.forall_mem_singleton.mpr ⟨⟨"a", .ge, "1"⟩, by rfl⟩, by rfl⟩
  exact ⟨havoids, htext, htext ▸ herror⟩

end FlatQuery
