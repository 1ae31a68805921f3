import FlatQuery.Cell
import FlatQuery.Proofs.Decimal.Double
import FlatQuery.Proofs.Decimal.Numeral
import FlatQuery.Proofs.Text.Words

/-!
# Numbers and their texts

A finite number is rendered as digits that stand for it, behind its sign
(`exists_spells_renderNumber`). So the text of a number reads back as the number,
up to the sign of zero (`toFloat_render`), and numbers have the same text exactly if
they are equal (`render_number_eq_iff`).
-/

namespace FlatQuery.Cell

open Decimal

/-! ## Texts of finite numbers -/

/-- The integer of a small number stands for that number. -/
theorem toMagnitude_smallInteger {x : Float} {n : Nat} (hx : magnitude x < infinityWord)
    (h : smallInteger? x = some n) :
    toMagnitude ⟨n, 0⟩ = magnitude x ∧ (n = 0 ↔ magnitude x = 0) := by
  obtain ⟨hn, hlt⟩ := Option.filter_eq_some_iff.mp h
  have hnearest := nearest_of_natural? hx hn
  have hzero : n = 0 ↔ magnitude x = 0 := by
    constructor
    · rintro rfl
      exact hnearest.symm
    · intro hm
      rw [hm, natural?_zero] at hn
      exact (Option.some.inj hn).symm
  refine ⟨?_, hzero⟩
  obtain rfl | hpos := Nat.eq_zero_or_pos n
  · exact hnearest
  · have hlength : (digitsOf n).length ≤ 15 :=
      (length_digitsOf_le_iff (by decide)).mpr (by simpa using hlt)
    have hfirst := length_digitsOf_pos n
    rw [toMagnitude_of_bounds hpos.ne' (by unfold leading; dsimp only; omega)
      (by unfold leading; dsimp only; omega)]
    simpa [ratio] using hnearest

theorem renderNumber_of_finite {x : Float} (hx : magnitude x < infinityWord) :
    renderNumber x =
      match smallInteger? x with
      | some n => Json.integer (isNegative x) n
      | none => String.ofList
          ((if isNegative x then ['-'] else []) ++ (shortest .up (magnitude x)).positional) := by
  have hnan : x.isNaN = false := by
    rw [← Bool.not_eq_true, isNaN_iff]
    omega
  have hinf : x.isInf = false := by
    rw [← Bool.not_eq_true, isInf_iff]
    omega
  unfold renderNumber
  rw [hnan, hinf]
  rfl

/-- Digits that stand for a number, and a sign unless it is zero. -/
theorem exists_spells_renderNumber {x : Float} (hx : magnitude x < infinityWord) :
    ∃ negative body d, (renderNumber x).toList = (if negative then ['-'] else []) ++ body ∧
      Spells body d ∧ d.toMagnitude = magnitude x ∧
      (negative = if magnitude x = 0 then false else isNegative x) := by
  rw [renderNumber_of_finite hx]
  cases hsmall : smallInteger? x with
  | some n =>
    obtain ⟨hmagnitude, hzero⟩ := toMagnitude_smallInteger hx hsmall
    refine ⟨isNegative x && decide (n ≠ 0), digitsOf n, _, ?_, spells_digitsOf n, hmagnitude, ?_⟩
    · simp [Json.integer]
    · by_cases hn : n = 0
      · simp [hn, hzero.mp hn]
      · simp [hn, mt hzero.mpr hn]
  | none =>
    have hne : magnitude x ≠ 0 := by
      intro hm
      simp [smallInteger?, hm, natural?_zero] at hsmall
    obtain ⟨d, hspells, hd⟩ := exists_spells_positional (shortest .up (magnitude x))
    refine ⟨isNegative x, _, d, ?_, hspells, hd.trans (toMagnitude_shortest .up hx), ?_⟩
    · simp
    · rw [if_neg hne]

/-! ## Reading back -/

def isNumeralChar (c : Char) : Bool := c.isDigit || c == '.' || c == '-'

theorem isNumeralChar_renderNumber {x : Float} (hx : magnitude x < infinityWord) {c : Char}
    (hc : c ∈ (renderNumber x).toList) : isNumeralChar c = true := by
  obtain ⟨negative, body, d, htext, hspells, -⟩ := exists_spells_renderNumber hx
  rw [htext] at hc
  obtain hc | hc := List.mem_append.mp hc
  · cases negative with
    | true => rw [List.mem_singleton.mp hc]; rfl
    | false => cases hc
  · obtain hc | rfl := hspells.char hc
    · simp [isNumeralChar, hc]
    · rfl

/-- The text of a finite number has no blanks to be trimmed. -/
theorem toFloat_renderNumber {x : Float} (hx : magnitude x < infinityWord) :
    (text (renderNumber x)).toFloat =
      ofMagnitude (if magnitude x = 0 then false else isNegative x) (magnitude x) := by
  obtain ⟨negative, body, d, htext, hspells, hd, hnegative⟩ := exists_spells_renderNumber hx
  have hsolid : Text.Solid (renderNumber x).toList := fun c hc =>
    Text.isBlank_of_class (p := isNumeralChar) (by decide) (isNumeralChar_renderNumber hx hc)
  have hne : (renderNumber x).toList ≠ [] := by
    obtain ⟨c, rest, rfl, -⟩ := hspells.first
    simp [htext]
  have htrim : Text.trim (renderNumber x).toList = (renderNumber x).toList :=
    (Text.tight_iff_trim.mp (hsolid.tight hne)).2
  change (readFloat? (Text.trim (renderNumber x).toList)).getD (0 / 0) = _
  rw [htrim, htext, readFloat?_spelled hspells, hd, hnegative]
  rfl

theorem renderNumber_of_isNaN {x : Float} (hx : x.isNaN = true) : renderNumber x = "NaN" :=
  if_pos hx

theorem renderNumber_of_isInf {x : Float} (hx : x.isInf = true) :
    renderNumber x = if isNegative x then "-inf" else "inf" := by
  have hnan : x.isNaN = false := by
    rw [← Bool.not_eq_true, isNaN_iff, (isInf_iff x).mp hx]
    exact Nat.lt_irrefl _
  unfold renderNumber
  rw [hnan, hx]
  rfl

/-- What is no number is none again. -/
theorem isNaN_toFloat_render {x : Float} (hx : x.isNaN = true) :
    (text (number x).render).toFloat.isNaN = true := by
  rw [render, renderNumber_of_isNaN hx]
  exact isNaN_nan

theorem toFloat_render_of_isInf {x : Float} (hx : x.isInf = true) :
    (text (number x).render).toFloat = x := by
  have hword := (isInf_iff x).mp hx
  have hx' := ofMagnitude_magnitude x
  rw [hword] at hx'
  rw [render, renderNumber_of_isInf hx]
  cases hneg : isNegative x with
  | true =>
    rw [hneg] at hx'
    exact hx'
  | false =>
    rw [hneg] at hx'
    exact hx'

/-- The text of a number reads back as that number, but zero loses its sign. -/
theorem toFloat_render {x : Float} (hx : x.isNaN = false) :
    (text (number x).render).toFloat = if x == 0 then 0 else x := by
  have hle : magnitude x ≤ infinityWord := by
    rw [← Nat.not_lt, ← isNaN_iff, hx]
    exact Bool.false_ne_true
  obtain hlt | heq := hle.lt_or_eq
  · rw [render, toFloat_renderNumber hlt]
    by_cases hzero : magnitude x = 0
    · rw [if_pos hzero, hzero, ofMagnitude_zero, if_pos ((beq_zero_iff hx).mpr hzero)]
    · rw [if_neg hzero, ofMagnitude_magnitude, if_neg (mt (beq_zero_iff hx).mp hzero)]
  · have hne : ¬ (x == 0) = true := by
      rw [beq_zero_iff hx, heq]
      decide
    rw [toFloat_render_of_isInf ((isInf_iff x).mpr heq), if_neg hne]

theorem toFloat_render_beq {x : Float} (hx : x.isNaN = false) :
    (text (number x).render).toFloat.isNaN = false ∧
      ((text (number x).render).toFloat == x) = true := by
  rw [toFloat_render hx]
  by_cases hzero : (x == 0) = true
  · rw [if_pos hzero]
    have hnan : (0 : Float).isNaN = false := by decide +kernel
    refine ⟨hnan, ?_⟩
    rw [beq_iff_rank hnan hx]
    exact ((beq_iff_rank hx hnan).mp hzero).symm
  · rw [if_neg hzero]
    exact ⟨hx, beq_self hx⟩

/-- A character that is in no numeral and in no word for a number. -/
theorem notMem_render_number (x : Float) : '\x1f' ∉ (number x).render.toList := by
  by_cases hnan : x.isNaN = true
  · rw [render, renderNumber_of_isNaN hnan]
    decide
  by_cases hinf : x.isInf = true
  · rw [render, renderNumber_of_isInf hinf]
    split <;> decide
  have hfinite : magnitude x < infinityWord := by
    rw [isNaN_iff] at hnan
    rw [isInf_iff] at hinf
    omega
  intro hc
  exact absurd (isNumeralChar_renderNumber hfinite hc) (by decide)

/-! ## Equal numbers -/

/-- The sign of zero does not show. -/
theorem renderNumber_of_zero {x : Float} (hx : magnitude x = 0) : renderNumber x = "0" := by
  have hsmall : smallInteger? x = some 0 := by
    rw [smallInteger?, hx, natural?_zero]
    rfl
  have hfinite : magnitude x < infinityWord := by
    rw [hx]
    decide
  rw [renderNumber_of_finite hfinite, hsmall]
  cases isNegative x <;> rfl

theorem render_number_eq_iff {x y : Float} (hx : x.isNaN = false) (hy : y.isNaN = false) :
    (number x).render = (number y).render ↔ (x == y) = true := by
  constructor
  · intro h
    obtain ⟨hnan, hback⟩ := toFloat_render_beq hx
    obtain ⟨hnan', hback'⟩ := toFloat_render_beq hy
    rw [← h] at hback'
    rw [beq_iff_rank hx hy, ← (beq_iff_rank hnan hx).mp hback, (beq_iff_rank hnan hy).mp hback']
  · intro h
    obtain rfl | ⟨hx0, hy0⟩ := (beq_iff hx hy).mp h
    · rfl
    · exact (renderNumber_of_zero hx0).trans (renderNumber_of_zero hy0).symm

end FlatQuery.Cell
