import FlatQuery.Proofs.Fault
import FlatQuery.Proofs.Query.Sentence
import FlatQuery.Proofs.Text.Split

/-!
# Readers of the clauses

Each reader accepts exactly the written forms of its clause and gives what
they say: lists of fields (`readFields_eq_ok_iff`), the head
(`readHead_eq_ok_iff`), the equality of a join (`readEquality?_eq_some_iff`),
one condition (`readCondition_eq_ok_iff`).
-/

namespace FlatQuery

open Text

/-! ## Cutting at a keyword -/

theorem splitAtKeyword?_last {k : String} {ws : List Word} (h : ∀ w ∈ ws, w.is k = false) :
    splitAtKeyword? k ws = none := by
  induction ws with
  | nil => rfl
  | cons v ws ih =>
    rw [splitAtKeyword?, h v (by simp), ih fun w hw => h w (by simp [hw])]; rfl

theorem splitAtKeyword?_more {k : String} {ws : List Word} (h : ∀ w ∈ ws, w.is k = false) {w : Word}
    (hw : w.is k = true) (after : List Word) :
    splitAtKeyword? k (ws ++ w :: after) = some (ws, after) := by
  induction ws with
  | nil => simp [splitAtKeyword?, hw]
  | cons v ws ih =>
    rw [List.cons_append, splitAtKeyword?, h v (by simp), ih fun w hw => h w (by simp [hw])]; rfl

theorem splitAtKeyword?_eq_some_iff {k : String} {ws before after : List Word} :
    splitAtKeyword? k ws = some (before, after) ↔
      ∃ w, ws = before ++ w :: after ∧ w.is k = true ∧ ∀ x ∈ before, x.is k = false := by
  constructor
  · intro h
    induction ws using split_induction (Word.is · k) with
    | last ws hws => rw [splitAtKeyword?_last hws] at h; cases h
    | more ws w r hws hw _ =>
      rw [splitAtKeyword?_more hws hw] at h
      cases h
      exact ⟨w, rfl, hw, hws⟩
  · rintro ⟨w, rfl, hw, h⟩
    exact splitAtKeyword?_more h hw after

/-! ## Lists of fields -/

theorem readFields_last {list : FieldList} {s : List Char} (h : ',' ∉ s) {fields : List String} :
    readFields list s = .ok fields ↔ trim s ≠ [] ∧ fields = [String.ofList (trim s)] := by
  rw [readFields, splitAll_last h, List.mapM_cons, List.mapM_nil]
  cases ht : trim s with
  | nil => simp [bind, Except.bind]
  | cons c t => simp [bind, Except.bind, pure, Except.pure, eq_comm]

theorem readFields_more {list : FieldList} {s : List Char} (h : ',' ∉ s) (r : List Char)
    {fields : List String} :
    readFields list (s ++ ',' :: r) = .ok fields ↔
      trim s ≠ [] ∧ ∃ more, readFields list r = .ok more ∧
        fields = String.ofList (trim s) :: more := by
  rw [readFields, splitAll_more h, mapM_cons_eq_ok_iff, ← readFields]
  cases trim s <;> simp [eq_comm]

def Entry.ofPiece (s : List Char) (hne : trim s ≠ []) (h : ',' ∉ s) : Entry where
  chars := trim s
  nonempty := hne
  trimmed := trim_trim s
  comma_free hm := by
    obtain ⟨a, b, -, -, -, -, he⟩ := exists_trim s
    exact h (he ▸ by simp [hm])

theorem readFields_eq_ok_iff {list : FieldList} {s : List Char} {fields : List String} :
    readFields list s = .ok fields ↔
      ∃ (a b : Pad) (l : Listing), s = a.chars ++ (l.text ++ b.chars) ∧ fields = l.fields := by
  constructor
  · intro h
    induction s using split_induction (· == ',') generalizing fields with
    | last s hs =>
      have hc : ',' ∉ s := fun hm => by simpa using hs _ hm
      obtain ⟨hne, rfl⟩ := (readFields_last hc).mp h
      obtain ⟨a, b, ha, hb, -, -, he⟩ := exists_trim s
      exact ⟨⟨a, ha⟩, ⟨b, hb⟩, .last (Entry.ofPiece s hne hc), he, rfl⟩
    | more s c r hs hc ih =>
      obtain rfl : c = ',' := by simpa using hc
      have hc : ',' ∉ s := fun hm => by simpa using hs _ hm
      obtain ⟨hne, more, hr, rfl⟩ := (readFields_more hc r).mp h
      obtain ⟨after, b', l, rfl, rfl⟩ := ih hr
      obtain ⟨a, b, ha, hb, -, -, he⟩ := exists_trim s
      refine ⟨⟨a, ha⟩, b', .more (Entry.ofPiece s hne hc) ⟨b, hb⟩ after l, ?_, rfl⟩
      conv => lhs; rw [he]
      simp [Listing.text, Entry.ofPiece]
  · rintro ⟨a, b, l, rfl, rfl⟩
    induction l generalizing a with
    | last e =>
      have ht := trim_eq a.blank b.blank e.tight.first e.tight.last
      have hc : ',' ∉ a.chars ++ (e.chars ++ b.chars) := by
        simp [a.blank.notMem (c := ',') (by decide), b.blank.notMem (c := ',') (by decide),
          e.comma_free]
      rw [Listing.text, readFields_last hc, ht]
      exact ⟨e.nonempty, rfl⟩
    | more e before after rest ih =>
      have ht := trim_eq a.blank before.blank e.tight.first e.tight.last
      have hc : ',' ∉ a.chars ++ (e.chars ++ before.chars) := by
        simp [a.blank.notMem (c := ',') (by decide), before.blank.notMem (c := ',') (by decide),
          e.comma_free]
      have hs : a.chars ++ ((Listing.more e before after rest).text ++ b.chars) =
          (a.chars ++ (e.chars ++ before.chars)) ++
            ',' :: (after.chars ++ (rest.text ++ b.chars)) := by
        simp [Listing.text]
      rw [hs, readFields_more hc, ht]
      exact ⟨e.nonempty, rest.fields, ih after, rfl⟩

/-! ## SELECT and FROM -/

theorem readHead_eq_ok_iff {ws : List Word} {fields : List String} {table : String} :
    readHead ws = .ok (fields, table) ↔
      ∃ first list fromWord name, ws = first :: (list ++ [fromWord, name]) ∧
        first.is "SELECT" = true ∧ (∀ w ∈ list, w.is "FROM" = false) ∧
        fromWord.is "FROM" = true ∧ list ≠ [] ∧
        readFields .select (phrase list) = .ok fields ∧ table = String.ofList name.text := by
  constructor
  · intro h
    cases ws with
    | nil => cases h
    | cons first rest =>
      rw [readHead] at h
      split at h
      · cases h
      · next hs =>
        split at h
        · cases h
        · cases h
        · next list after hx hk =>
          obtain ⟨fromWord, rfl, hf, hl⟩ := splitAtKeyword?_eq_some_iff.mp hk
          obtain ⟨fs, hr, h⟩ := bind_eq_ok_iff.mp h
          match after, h with
          | [name], h =>
            cases h
            exact ⟨first, list, fromWord, name, rfl, by simpa using hs, hl, hf,
              by rintro rfl; exact hx rfl, hr, rfl⟩
          | [], h => cases h
          | _ :: _ :: _, h => cases h
  · rintro ⟨first, list, fromWord, name, rfl, hs, hl, hf, hne, hr, rfl⟩
    obtain ⟨v, vs, rfl⟩ := List.exists_cons_of_ne_nil hne
    rw [readHead, splitAtKeyword?_more hl hf]
    simp [hs, hr, bind, Except.bind]

/-! ## JOIN -/

theorem notMem_identifier {s : List Char} (h : isIdentifier s = true) {c : Char}
    (hc : isIdentifierChar c = false) : c ∉ s := fun hm => by
  rw [(isIdentifierChar_of_mem h).2 c hm] at hc; cases hc

theorem isQualifiedField_iff {s : List Char} :
    isQualifiedField s = true ↔ ∃ n : QualifiedName, n.text = s := by
  constructor
  · intro h
    rw [isQualifiedField] at h
    split at h
    · next table column hs =>
      obtain ⟨rfl, -⟩ := splitFirst?_eq_some_iff.mp hs
      rw [Bool.and_eq_true] at h
      exact ⟨⟨table, column, h.1, h.2⟩, rfl⟩
    · cases h
  · rintro ⟨⟨table, column, ht, hc⟩, rfl⟩
    have := splitFirst?_more (notMem_identifier ht (c := '.') (by decide)) column
    simp [isQualifiedField, QualifiedName.text, this, ht, hc]

theorem QualifiedName.equal_free (n : QualifiedName) : '=' ∉ n.text := by
  intro hm
  rcases n.char _ hm with h | h
  · exact absurd h (by decide)
  · cases h

theorem readEquality?_eq_some_iff {s : List Char} {l r : String} :
    readEquality? s = some (l, r) ↔
      ∃ (a b c d : Pad) (left right : QualifiedName),
        s = (a.chars ++ (left.text ++ b.chars)) ++ '=' :: (c.chars ++ (right.text ++ d.chars)) ∧
          l = String.ofList left.text ∧ r = String.ofList right.text := by
  constructor
  · intro h
    rw [readEquality?] at h
    split at h
    · cases h
    · next x y hs =>
      obtain ⟨rfl, -⟩ := splitFirst?_eq_some_iff.mp hs
      split at h
      · next hq =>
        cases h
        rw [Bool.and_eq_true] at hq
        obtain ⟨left, hl⟩ := isQualifiedField_iff.mp hq.1
        obtain ⟨right, hr⟩ := isQualifiedField_iff.mp hq.2
        obtain ⟨a, b, ha, hb, -, -, hx⟩ := exists_trim x
        obtain ⟨c, d, hc, hd, -, -, hy⟩ := exists_trim y
        rw [← hl] at hx
        rw [← hr] at hy
        exact ⟨⟨a, ha⟩, ⟨b, hb⟩, ⟨c, hc⟩, ⟨d, hd⟩, left, right, by rw [hx, hy], by rw [hl],
          by rw [hr]⟩
      · cases h
  · rintro ⟨a, b, c, d, left, right, rfl, rfl, rfl⟩
    have hne : '=' ∉ a.chars ++ (left.text ++ b.chars) := by
      simp [a.blank.notMem (c := '=') (by decide), b.blank.notMem (c := '=') (by decide),
        left.equal_free]
    have hl := trim_eq a.blank b.blank left.tight.first left.tight.last
    have hr := trim_eq c.blank d.blank right.tight.first right.tight.last
    have hq : isQualifiedField left.text = true ∧ isQualifiedField right.text = true :=
      ⟨isQualifiedField_iff.mpr ⟨left, rfl⟩, isQualifiedField_iff.mpr ⟨right, rfl⟩⟩
    rw [readEquality?, splitFirst?_more hne]
    simp [hl, hr, hq]

theorem readJoin_eq_ok_iff {kind : JoinKind} {body : List Word} {clause : JoinClause} :
    readJoin kind body = .ok clause ↔
      ∃ table onWord after l r, body = table :: onWord :: after ∧ table.is "ON" = false ∧
        onWord.is "ON" = true ∧ readEquality? (phrase after) = some (l, r) ∧
        clause = ⟨kind, String.ofList table.text, l, r⟩ := by
  constructor
  · intro h
    rw [readJoin] at h
    split at h
    · cases h
    · next table after hk =>
      obtain ⟨onWord, rfl, ho, ht⟩ := splitAtKeyword?_eq_some_iff.mp hk
      split at h
      · next l r he =>
        cases h
        exact ⟨table, onWord, after, l, r, rfl, ht table (by simp), ho, he, rfl⟩
      · cases h
    · cases h
  · rintro ⟨table, onWord, after, l, r, rfl, ht, ho, he, rfl⟩
    have := splitAtKeyword?_more (List.forall_mem_singleton.mpr ht) ho after
    rw [List.singleton_append] at this
    simp [readJoin, this, he]

/-! ## Conditions -/

theorem Comparison.parse_eq_ok_iff {s : String} {c : Comparison} :
    Comparison.parse s = .ok c ↔ s = c.symbol := by
  constructor
  · intro h
    rw [Comparison.parse] at h
    split at h
    · next c' hc =>
      cases h
      have := List.find?_some hc
      simpa [eq_comm] using this
    · cases h
  · rintro rfl
    cases c <;> rfl

theorem Comparison.symbol_chars (c : Comparison) :
    c.symbol.toList ≠ [] ∧ ∀ d ∈ c.symbol.toList, isOperatorChar d = true := by
  rw [← List.all_eq_true]
  cases c <;> decide

theorem isOperatorChar_blank {c : Char} (h : isBlank c = true) : isOperatorChar c = false := by
  rw [Bool.eq_false_iff]
  intro hc
  simp only [isOperatorChar, Bool.or_eq_true, beq_iff_eq] at hc
  rcases hc with ((rfl | rfl) | rfl) | rfl <;> exact absurd h (by decide)

theorem isQuotedBy_iff {q : Char} {s : List Char} :
    isQuotedBy q s = true ↔ ∃ v, s = q :: (v ++ [q]) := by
  constructor
  · intro h
    simp only [isQuotedBy, Bool.and_eq_true, decide_eq_true_eq, beq_iff_eq] at h
    obtain ⟨⟨hl, hf⟩, he⟩ := h
    cases s with
    | nil => cases hf
    | cons c t =>
      obtain rfl := Option.some.inj hf
      rcases List.eq_nil_or_concat t with rfl | ⟨v, d, rfl⟩
      · simp at hl
      · rw [List.concat_eq_append] at he ⊢
        rw [← List.cons_append, List.getLast?_concat] at he
        obtain rfl := Option.some.inj he
        exact ⟨v, rfl⟩
  · rintro ⟨v, rfl⟩
    rw [← List.cons_append]
    simp [isQuotedBy, List.getLast?_cons]

theorem unquote_wrapped {q : Char} (hq : q = '\x27' ∨ q = '"') (v : List Char) :
    unquote (q :: (v ++ [q])) = v := by
  have h : (isQuotedBy '\x27' (q :: (v ++ [q])) || isQuotedBy '"' (q :: (v ++ [q]))) = true := by
    rw [Bool.or_eq_true]
    exact hq.imp (fun h => isQuotedBy_iff.mpr ⟨v, by rw [h]⟩)
      fun h => isQuotedBy_iff.mpr ⟨v, by rw [h]⟩
  rw [unquote, if_pos h, List.tail_cons, List.dropLast_concat]

theorem unquote_unwrapped {s : List Char} (h : ¬ Wrapped s) : unquote s = s := by
  rw [unquote, if_neg]
  rw [Bool.or_eq_true]
  rintro (hq | hq)
  · exact h ((isQuotedBy_iff.mp hq).elim fun v hv => ⟨_, v, .inl rfl, hv⟩)
  · exact h ((isQuotedBy_iff.mp hq).elim fun v hv => ⟨_, v, .inr rfl, hv⟩)

theorem Literal.unquote_text (l : Literal) : unquote l.text = l.value := by
  cases l with
  | single v => exact unquote_wrapped (.inl rfl) v
  | double v => exact unquote_wrapped (.inr rfl) v
  | bare v _ _ h => exact unquote_unwrapped h

theorem exists_literal {s : List Char} (hs : Tight s) : ∃ l : Literal, l.text = s := by
  by_cases h : Wrapped s
  · obtain ⟨q, v, rfl | rfl, rfl⟩ := h
    · exact ⟨.single v, rfl⟩
    · exact ⟨.double v, rfl⟩
  · obtain ⟨hne, ht⟩ := tight_iff_trim.mp hs
    exact ⟨.bare s hne ht h, rfl⟩

theorem takeWhile_dropWhile {p : Char → Bool} {s r : List Char} (hs : ∀ c ∈ s, p c = true)
    (hr : ∀ c ∈ r.head?, p c = false) :
    (s ++ r).takeWhile p = s ∧ (s ++ r).dropWhile p = r := by
  rw [List.takeWhile_append_of_pos hs, List.dropWhile_append_of_pos hs]
  cases r with
  | nil => simp
  | cons c r => simp [hr c rfl]

/-- A text cut by its first run of operator characters. -/
structure Cut (s field run value : List Char) : Prop where
  text : s = field ++ (run ++ value)
  plain : Plain field
  nonempty : run ≠ []
  operators : ∀ c ∈ run, isOperatorChar c = true
  stop : ∀ c ∈ value.head?, isOperatorChar c = false

namespace Cut

theorem found {s f o v : List Char} (h : Cut s f o v) :
    (s.takeWhile (!isOperatorChar ·) = f ∧ s.dropWhile (!isOperatorChar ·) = o ++ v) ∧
      (o ++ v).takeWhile isOperatorChar = o ∧ (o ++ v).dropWhile isOperatorChar = v := by
  have hfirst : ∀ c ∈ (o ++ v).head?, (!isOperatorChar c) = false := by
    obtain ⟨d, o, rfl⟩ := List.exists_cons_of_ne_nil h.nonempty
    simpa using h.operators d (by simp)
  have hplain : ∀ c ∈ f, (!isOperatorChar c) = true := fun c hc => by simp [h.plain c hc]
  rw [h.text]
  exact ⟨takeWhile_dropWhile hplain hfirst, takeWhile_dropWhile h.operators h.stop⟩

theorem unique {s f o v f' o' v' : List Char} (h : Cut s f o v) (h' : Cut s f' o' v') :
    f = f' ∧ o = o' ∧ v = v' := by
  obtain ⟨⟨hf, hrest⟩, ho, hv⟩ := h.found
  obtain ⟨⟨hf', hrest'⟩, ho', hv'⟩ := h'.found
  have he : o ++ v = o' ++ v' := hrest.symm.trans hrest'
  exact ⟨hf.symm.trans hf', by rw [← ho, he, ho'], by rw [← hv, he, hv']⟩

end Cut

/-- What the reader of a condition does with a text cut at its operators. -/
theorem readCondition_cut {s f o v : List Char} (h : Cut (trim s) f o v) :
    readCondition s = (do
      let comparison ← Comparison.parse (String.ofList o)
      if (trim f).isEmpty || (trim v).isEmpty then
        .error (.invalidCondition (String.ofList (trim s)))
      else return ⟨String.ofList (trim f), comparison, String.ofList (unquote (trim v))⟩) := by
  obtain ⟨⟨hf, hrest⟩, ho, hv⟩ := h.found
  have he : (o ++ v).isEmpty = false := by simp [h.nonempty]
  unfold readCondition
  simp only [hf, hrest, ho, hv, he, Bool.false_eq_true, if_false]

theorem readCondition_cut_eq_ok_iff {s f o v : List Char} (h : Cut (trim s) f o v) {c : Condition} :
    readCondition s = .ok c ↔
      ∃ comparison : Comparison, o = comparison.symbol.toList ∧ trim f ≠ [] ∧ trim v ≠ [] ∧
        c = ⟨String.ofList (trim f), comparison, String.ofList (unquote (trim v))⟩ := by
  rw [readCondition_cut h, bind_eq_ok_iff]
  refine exists_congr fun comparison => ?_
  rw [Comparison.parse_eq_ok_iff, ← String.toList_inj, String.toList_ofList]
  refine and_congr_right fun _ => ?_
  by_cases hx : trim f = [] ∨ trim v = []
  · have hempty : ((trim f).isEmpty || (trim v).isEmpty) = true := by simpa using hx
    rw [if_pos hempty]
    constructor
    · intro h; cases h
    · intro h; exact absurd hx (by simp [h.1, h.2.1])
  · obtain ⟨hf, hv⟩ := not_or.mp hx
    have hempty : ((trim f).isEmpty || (trim v).isEmpty) = false := by simp [hf, hv]
    rw [if_neg (by simp [hempty]), pure_eq_ok_iff]
    simp [hf, hv, eq_comm]

theorem Segment.trim_left (g : Segment) : trim (g.field ++ g.before.chars) = g.field := by
  have hf : Tight g.field := tight_iff_trim.mpr ⟨g.field_nonempty, g.field_trimmed⟩
  exact trim_eq allBlank_nil g.before.blank hf.first hf.last

theorem Segment.trim_right (g : Segment) :
    trim (g.after.chars ++ g.literal.text) = g.literal.text := by
  simpa using trim_eq g.after.blank allBlank_nil g.literal.tight.first g.literal.tight.last

theorem Segment.cut (g : Segment) :
    Cut g.text (g.field ++ g.before.chars) g.comparison.symbol.toList
      (g.after.chars ++ g.literal.text) where
  text := by simp [Segment.text]
  plain := by
    intro c hc
    rcases List.mem_append.mp hc with hc | hc
    · exact g.field_plain c hc
    · exact isOperatorChar_blank (g.before.blank c hc)
  nonempty := g.comparison.symbol_chars.1
  operators := g.comparison.symbol_chars.2
  stop := by
    intro c hc
    rcases eq_or_ne g.after.chars [] with ha | ha
    · rw [ha, List.nil_append] at hc
      rw [Bool.eq_false_iff]
      exact fun ho => g.apart (by rw [Option.mem_def.mp hc]; exact ho) ha
    · rw [List.head?_append_of_ne_nil _ ha] at hc
      exact isOperatorChar_blank (g.after.blank c (List.mem_of_mem_head? hc))

/-- A text has no operator, or is cut by the first run of operator characters. -/
theorem exists_cut (s : List Char) : Plain s ∨ ∃ f o v, Cut s f o v := by
  induction s using split_induction isOperatorChar with
  | last s hs => exact .inl hs
  | more f d r hf hd _ =>
    refine .inr ⟨f, d :: r.takeWhile isOperatorChar, r.dropWhile isOperatorChar, ?_, hf, by simp,
      ?_, ?_⟩
    · rw [List.cons_append, List.takeWhile_append_dropWhile]
    · simpa [hd] using fun c hc => List.mem_takeWhile_imp (p := isOperatorChar) (l := r) hc
    · intro c hc
      have := List.head?_dropWhile_not isOperatorChar r
      rwa [Option.mem_def.mp hc] at this

theorem readCondition_plain {s : List Char} (h : Plain (trim s)) :
    readCondition s = .error (.invalidCondition (String.ofList (trim s))) := by
  have hr : (trim s).dropWhile (!isOperatorChar ·) = [] :=
    List.dropWhile_eq_nil_iff.mpr fun c hc => by simp [h c hc]
  simp [readCondition, hr]

theorem readCondition_eq_ok_iff {s : List Char} {c : Condition} :
    readCondition s = .ok c ↔
      ∃ (a b : Pad) (g : Segment), s = a.chars ++ (g.text ++ b.chars) ∧ c = g.condition := by
  constructor
  · intro h
    obtain ⟨a, b, ha, hb, h₁, h₂, hs⟩ := exists_trim s
    rcases exists_cut (trim s) with hplain | ⟨f, o, v, hcut⟩
    · rw [readCondition_plain hplain] at h; cases h
    · obtain ⟨comparison, rfl, hfne, hvne, rfl⟩ := (readCondition_cut_eq_ok_iff hcut).mp h
      rw [hcut.text] at h₁ h₂
      have hf₁ : SolidFirst f := fun c hc => h₁ c (List.mem_head?_append_of_mem_head? hc)
      obtain ⟨y, hy, hfy⟩ := exists_trimEnd hf₁
      obtain ⟨x, hx, hvx⟩ := exists_trimStart h₂.of_append.of_append
      obtain ⟨l, hl⟩ := exists_literal (tight_iff_trim.mpr ⟨hvne, trim_trim v⟩)
      have hplain : Plain (trim f) := fun c hc =>
        hcut.plain c (hfy ▸ List.mem_append_left _ hc)
      have hapart : l.text.head?.any isOperatorChar = true → x ≠ [] := by
        rintro hany rfl
        rw [hl, ← List.nil_append (trim v), ← hvx] at hany
        obtain ⟨c, hc, hop⟩ := (Option.any_eq_true isOperatorChar _).mp hany
        rw [hcut.stop c hc] at hop; cases hop
      refine ⟨⟨a, ha⟩, ⟨b, hb⟩, ⟨trim f, hfne, trim_trim f, hplain, ⟨y, hy⟩, comparison, ⟨x, hx⟩, l,
        hapart⟩, ?_, ?_⟩
      · calc s = a ++ (f ++ (comparison.symbol.toList ++ v) ++ b) := by rw [← hcut.text, ← hs]
          _ = a ++ ((trim f ++ y) ++ (comparison.symbol.toList ++ (x ++ trim v)) ++ b) := by
            rw [← hfy, ← hvx]
          _ = _ := by simp [Segment.text, hl]
      · rw [Segment.condition, ← l.unquote_text, hl]
  · rintro ⟨a, b, g, rfl, rfl⟩
    have ht := trim_eq a.blank b.blank g.tight.first g.tight.last
    have hcut : Cut (trim (a.chars ++ (g.text ++ b.chars))) _ _ _ := ht ▸ g.cut
    rw [readCondition_cut_eq_ok_iff hcut, g.trim_left, g.trim_right]
    refine ⟨g.comparison, rfl, g.field_nonempty, g.literal.tight.nonempty, ?_⟩
    rw [g.literal.unquote_text]; rfl

/-! ## WHERE -/

def Text.Word.isConnective (w : Word) : Bool := w.is "AND" || w.is "OR"

theorem splitAtConnectives_last {ws : List Word} (h : ∀ w ∈ ws, w.isConnective = false) :
    splitAtConnectives ws = [ws] := by
  induction ws with
  | nil => rfl
  | cons w ws ih =>
    have hw : (w.is "AND" || w.is "OR") = false := h w (by simp)
    simp [splitAtConnectives, hw, ih fun v hv => h v (by simp [hv])]

theorem splitAtConnectives_more {xs : List Word} (h : ∀ w ∈ xs, w.isConnective = false) {w : Word}
    (hw : w.isConnective = true) (ws : List Word) :
    splitAtConnectives (xs ++ w :: ws) = xs :: splitAtConnectives ws := by
  induction xs with
  | nil =>
    have hw' : (w.is "AND" || w.is "OR") = true := hw
    simp [splitAtConnectives, hw']
  | cons x xs ih =>
    have hx : (x.is "AND" || x.is "OR") = false := h x (by simp)
    simp [splitAtConnectives, hx, ih fun v hv => h v (by simp [hv])]

theorem readConditions_last {ws : List Word} (h : ∀ w ∈ ws, w.isConnective = false)
    {cs : List Condition} :
    readConditions ws = .ok cs ↔ ∃ c, readCondition (phrase ws) = .ok c ∧ cs = [c] := by
  rw [readConditions, splitAtConnectives_last h, mapM_cons_eq_ok_iff]
  simp [pure_eq_ok_iff]

theorem readConditions_more {xs : List Word} (h : ∀ w ∈ xs, w.isConnective = false) {w : Word}
    (hw : w.isConnective = true) (ws : List Word) {cs : List Condition} :
    readConditions (xs ++ w :: ws) = .ok cs ↔
      ∃ c more, readCondition (phrase xs) = .ok c ∧ readConditions ws = .ok more ∧
        cs = c :: more := by
  rw [readConditions, splitAtConnectives_more h hw, mapM_cons_eq_ok_iff]; rfl

/-- A tight text with blanks around it that a run of words spells. -/
theorem phrase_between {ws : List Word} (hp : Proper ws) {a b : Pad} {s : List Char} (hs : Tight s)
    (h : phrase ws = a.chars ++ (s ++ b.chars)) : ws ≠ [] ∧ phrase ws = s := by
  have ht := trim_eq a.blank b.blank hs.first hs.last
  rw [← h] at ht
  have hne : ws ≠ [] := by
    rintro rfl
    exact hs.nonempty ht.symm
  exact ⟨hne, by rw [← ht, (tight_iff_trim.mp (hp.tight_phrase hne)).2]⟩

theorem exists_segment {run : List Word} (hp : Proper run) {c : Condition}
    (h : readCondition (phrase run) = .ok c) :
    run ≠ [] ∧ ∃ g : Segment, g.text = phrase run ∧ g.condition = c := by
  obtain ⟨a, b, g, hs, rfl⟩ := readCondition_eq_ok_iff.mp h
  obtain ⟨hne, hg⟩ := phrase_between hp g.tight hs
  exact ⟨hne, g, hg.symm, rfl⟩

theorem phrase_append {xs : List Word} (hx : xs ≠ []) (ys : List Word) :
    phrase (xs ++ ys) = phrase xs ++ spell ys := by
  obtain ⟨x, xs, rfl⟩ := List.exists_cons_of_ne_nil hx
  rw [List.cons_append, phrase_cons, spell_append, phrase_cons, List.append_assoc]

/-- The conjunction that the words of a WHERE clause spell. Its segments are
the runs of words between the connectives. -/
theorem exists_conjunction {body : List Word} (hp : Proper body) {cs : List Condition}
    (h : readConditions body = .ok cs) :
    body ≠ [] ∧ ∃ c : Conjunction, c.text = phrase body ∧ c.conditions = cs ∧
      ∀ g ∈ c.segments, ∃ run, run <:+: body ∧ g.text = phrase run ∧
        ∀ w ∈ run, w.isConnective = false := by
  induction body using split_induction Word.isConnective generalizing cs with
  | last run hr =>
    obtain ⟨c, hc, rfl⟩ := (readConditions_last hr).mp h
    obtain ⟨hne, g, hg, rfl⟩ := exists_segment hp hc
    exact ⟨hne, .last g, hg, rfl, by
      simpa [Conjunction.segments] using ⟨run, List.infix_rfl, hg, hr⟩⟩
  | more run w rest hr hw ih =>
    obtain ⟨c, more, hc, hm, rfl⟩ := (readConditions_more hr hw rest).mp h
    obtain ⟨hne, g, hg, rfl⟩ := exists_segment hp.left hc
    have hrest : Proper rest := hp.right.tail
    obtain ⟨hne', conj, ht, rfl, hsegs⟩ := ih hrest hm
    obtain ⟨v, vs, rfl⟩ := List.exists_cons_of_ne_nil hne'
    have hapart : ∀ u ∈ [w, v], u.gap ≠ [] := by
      intro u hu
      refine hp.apart u ?_
      obtain ⟨x, xs, rfl⟩ := List.exists_cons_of_ne_nil hne
      simp only [List.mem_cons, List.not_mem_nil, or_false] at hu
      rcases hu with rfl | rfl <;> simp
    have hgap : ∀ u ∈ [w, v], AllBlank u.gap := by
      intro u hu
      refine hp.blank u ?_
      simp only [List.mem_cons, List.not_mem_nil, or_false] at hu
      rcases hu with rfl | rfl <;> simp
    have hconn :
        sameLetters w.text "AND".toList = true ∨ sameLetters w.text "OR".toList = true := by
      rw [Word.isConnective, Bool.or_eq_true] at hw
      exact hw
    refine ⟨by simp, .more g ⟨⟨w.gap, hgap w (by simp)⟩, hapart w (by simp)⟩ ⟨w.text, hconn⟩
      ⟨⟨v.gap, hgap v (by simp)⟩, hapart v (by simp)⟩ conj, ?_, rfl, ?_⟩
    · rw [phrase_append hne, spell_cons, spell_cons, ← phrase_cons, Conjunction.text, hg, ht]
    · intro k hk
      rcases List.mem_cons.mp hk with rfl | hk
      · exact ⟨run, (List.prefix_append run _).isInfix, hg, hr⟩
      · obtain ⟨run', hin, hk'⟩ := hsegs k hk
        exact ⟨run', hin.trans ⟨run ++ [w], [], by simp⟩, hk'⟩

theorem isConnective_free {s : List Char} (h : Avoids [["AND"], ["OR"]] s) {ws : List Word}
    (hw : ws.map Word.text = wordTexts s) : ∀ w ∈ ws, w.isConnective = false := by
  intro w hmem
  rw [Word.isConnective, Bool.or_eq_false_iff]
  refine ⟨Bool.eq_false_iff.mpr fun hk => ?_, Bool.eq_false_iff.mpr fun hk => ?_⟩
  · exact h _ (by simp) ((stands_one_iff hw).mpr ⟨w, hmem, hk⟩)
  · exact h _ (by simp) ((stands_one_iff hw).mpr ⟨w, hmem, hk⟩)

end FlatQuery
