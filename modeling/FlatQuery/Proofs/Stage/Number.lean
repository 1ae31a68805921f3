import FlatQuery.Proofs.Cell
import FlatQuery.Proofs.OrderMap
import FlatQuery.Stage.Filter
import FlatQuery.Stage.Group

/-!
# Numbers as keys

Grouping and filtering compare the texts of cells. For numbers that is comparing
the numbers: a number reads back from its text, so two rows that differ in a number
have the same key, or meet the same conditions, exactly if the numbers are equal
(`number_text_exact`).
-/

namespace FlatQuery

/-! ## Keys -/

/-- A text without the separator ends where the separator stands. -/
theorem append_separator_inj {sep : Char} {t t' u u' : List Char} (ht : sep ∉ t) (ht' : sep ∉ t')
    (h : t ++ sep :: u = t' ++ sep :: u') : t = t' := by
  have hbefore : ∀ {t u : List Char}, sep ∉ t → (t ++ sep :: u).takeWhile (· ≠ sep) = t := by
    intro t u ht
    rw [List.takeWhile_append_of_pos (by simpa using fun c hc => ne_of_mem_of_not_mem hc ht),
      List.takeWhile_cons_of_neg (by simp), List.append_nil]
  rw [← hbefore (u := u) ht, h, hbefore ht']

/-- Texts are joined, and then others that are the same but for one text, which may
stand in several places. If the joined texts are the same, so is that one. -/
theorem intercalate_inj {sep : Char} {t t' : List Char} (ht : sep ∉ t) (ht' : sep ∉ t')
    {pairs : List (List Char × List Char)} (hpairs : ∀ p ∈ pairs, p = (t, t') ∨ p.1 = p.2)
    (hmem : (t, t') ∈ pairs)
    (h : [sep].intercalate (pairs.map Prod.fst) = [sep].intercalate (pairs.map Prod.snd)) :
    t = t' := by
  induction pairs with
  | nil => cases hmem
  | cons p pairs ih =>
    cases pairs with
    | nil =>
      obtain rfl := List.mem_singleton.mp hmem
      simpa using h
    | cons q pairs =>
      simp only [List.map_cons, List.intercalate_cons_cons, List.append_assoc,
        List.singleton_append] at h
      obtain rfl | hsame := hpairs p List.mem_cons_self
      · exact append_separator_inj ht ht' h
      · obtain rfl | hmem := List.mem_cons.mp hmem
        · exact hsame
        · rw [hsame] at h
          exact ih (fun r hr => hpairs r (List.mem_cons_of_mem _ hr)) hmem
            (List.cons.inj (List.append_cancel_left h)).2

theorem Row.cellOrNull_insert (r : Row) (field f : String) (c : Cell) :
    Row.cellOrNull (r.insert field c) f = if f = field then c else r.cellOrNull f := by
  unfold Row.cellOrNull
  rw [OrderMap.get?_insert]
  by_cases hf : f = field
  · rw [if_pos hf, if_pos hf.symm]
    rfl
  · rw [if_neg hf, if_neg (Ne.symm hf)]

/-- Rows that differ in one grouping cell have the same key if that has the same text. -/
theorem Group.key_insert_eq_iff {fields : List String} {field : String} {c d : Cell} (r : Row)
    (h : field ∈ fields) (hc : '\x1f' ∉ c.render.toList) (hd : '\x1f' ∉ d.render.toList) :
    key fields (r.insert field c) = key fields (r.insert field d) ↔ c.render = d.render := by
  let cellText (c : Cell) (f : String) : List Char :=
    (Row.cellOrNull (r.insert field c) f).render.toList
  have hkey : ∀ c, (key fields (r.insert field c)).toList =
      ['\x1f'].intercalate (fields.map (cellText c)) := by
    intro c
    rw [key, String.toList_intercalate, List.map_map]
    rfl
  have htext : ∀ c, cellText c field = c.render.toList := by
    intro c
    simp only [cellText, Row.cellOrNull_insert, if_true]
  have hother : ∀ f, f ≠ field → cellText c f = cellText d f := by
    intro f hf
    simp only [cellText, Row.cellOrNull_insert, hf, if_false]
  rw [← String.toList_inj, hkey, hkey, ← String.toList_inj]
  constructor
  · intro heq
    let pairs := fields.map fun f => (cellText c f, cellText d f)
    refine @intercalate_inj _ _ _ hc hd pairs ?_ ?_ ?_
    · intro p hp
      obtain ⟨f, -, rfl⟩ := List.mem_map.mp hp
      by_cases hf : f = field
      · left
        rw [hf, htext, htext]
      · exact .inr (hother f hf)
    · exact List.mem_map.mpr ⟨field, h, by rw [htext, htext]⟩
    · simpa [pairs, Function.comp_def] using heq
  · intro heq
    congr 1
    apply List.map_congr_left
    intro f _
    by_cases hf : f = field
    · rw [hf, htext, htext, heq]
    · exact hother f hf

/-! ## Conditions -/

theorem Condition.holds_insert_iff {field value : String} (r : Row) (x : Float) :
    holds ⟨field, .eq, value⟩ (r.insert field (.number x)) = true ↔
      (Cell.number x).render = value := by
  unfold holds
  rw [OrderMap.get?_insert, if_pos rfl]
  exact beq_iff_eq

/-- **Numbers and their texts.** The text of a cell with a number reads back as an
equal number: no number as no number, the infinities as themselves, either zero as
zero, and any other number as itself. So two numbers have the same text exactly if
they are equal; and of rows that differ in the number only, the keys are the same and
the same equations hold in that case and in no other. -/
theorem number_text_exact :
    (∀ x : Float,
      let back := (Cell.text (Cell.number x).render).toFloat
      (x.isNaN = true → back.isNaN = true) ∧ (x.isInf = true → back = x) ∧
        (x.isNaN = false → (back == x) = true ∧ back = if x == 0 then 0 else x)) ∧
    ∀ x y : Float, x.isNaN = false → y.isNaN = false →
      ((Cell.number x).render = (Cell.number y).render ↔ (x == y) = true) ∧
      (∀ (fields : List String) (field : String) (r : Row), field ∈ fields →
        (Group.key fields (r.insert field (.number x)) =
          Group.key fields (r.insert field (.number y)) ↔ (x == y) = true)) ∧
      ∀ (field : String) (r : Row),
        (∀ value, Condition.holds ⟨field, .eq, value⟩ (r.insert field (.number x)) =
          Condition.holds ⟨field, .eq, value⟩ (r.insert field (.number y))) ↔ (x == y) = true := by
  constructor
  · intro x
    exact ⟨Cell.isNaN_toFloat_render, Cell.toFloat_render_of_isInf,
      fun hx => ⟨(Cell.toFloat_render_beq hx).2, Cell.toFloat_render hx⟩⟩
  · intro x y hx hy
    have hrender := Cell.render_number_eq_iff hx hy
    refine ⟨hrender, fun fields field r h => ?_, fun field r => ?_⟩
    · rw [Group.key_insert_eq_iff r h (Cell.notMem_render_number x) (Cell.notMem_render_number y)]
      exact hrender
    · rw [← hrender]
      constructor
      · intro h
        apply (Condition.holds_insert_iff r x).mp
        rw [h]
        exact (Condition.holds_insert_iff r y).mpr rfl
      · intro h value
        rw [Bool.eq_iff_iff, Condition.holds_insert_iff, Condition.holds_insert_iff, h]

/-- A tenth and a half, neither of which its text has as an integer, and the negative
zero. -/
theorem number_text_exact_sample :
    let r : Row := OrderMap.ofList [("id", .text "7"), ("n", .null)]
    (Cell.number 0.1).render = "0.1" ∧ ((Cell.text "0.1").toFloat == 0.1) = true ∧
      (Cell.number (-0.0)).render = "0" ∧ (Cell.text "0").toFloat = 0 ∧
      Group.key ["id", "n"] (r.insert "n" (.number 0.1)) ≠
        Group.key ["id", "n"] (r.insert "n" (.number 0.5)) ∧
      Group.key ["id", "n"] (r.insert "n" (.number 0)) =
        Group.key ["id", "n"] (r.insert "n" (.number (-0.0))) := by
  intro r
  have htenth : (0.1 : Float).isNaN = false := by decide +kernel
  have hhalf : (0.5 : Float).isNaN = false := by decide +kernel
  have hzero : (0 : Float).isNaN = false := by decide +kernel
  have hminus : (-0.0 : Float).isNaN = false := by decide +kernel
  have hrender : (Cell.number 0.1).render = "0.1" := by decide +kernel
  have hrender0 : (Cell.number (-0.0)).render = "0" := by decide +kernel
  obtain ⟨hback, hpairs⟩ := number_text_exact
  have hback01 := ((hback 0.1).2.2 htenth).1
  have hback0 := ((hback (-0.0)).2.2 hminus).2
  rw [hrender] at hback01
  rw [hrender0, if_pos (by decide +kernel)] at hback0
  have hkey := (hpairs 0.1 0.5 htenth hhalf).2.1 ["id", "n"] "n" r (by decide)
  have hkey0 := (hpairs 0 (-0.0) hzero hminus).2.1 ["id", "n"] "n" r (by decide)
  refine ⟨hrender, hback01, hrender0, hback0, ?_, hkey0.mpr (by decide +kernel)⟩
  rw [ne_eq, hkey]
  decide +kernel

end FlatQuery
