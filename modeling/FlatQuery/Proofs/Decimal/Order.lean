import FlatQuery.Decimal.Double
import Mathlib.Data.Prod.Lex

/-!
# Doubles in order

Every double that is a number has a rank, and comparing such doubles is
comparing their ranks (`lt_iff_rank`, `beq_iff_rank`). So they are ordered
totally, up to the sign of zero.
-/

namespace FlatQuery.Decimal

open Float.Model

/-- The place of a number among the others: its sign, then exponent and significand. -/
def unpackedRank : UnpackedFloat → Int ×ₗ Int ×ₗ Int
  | .notANumber => toLex (0, toLex (0, 0))
  | .infinity .negative => toLex (-2, toLex (0, 0))
  | .finite .negative m e _ => toLex (-1, toLex (-e, -(m : Int)))
  | .zero _ => toLex (0, toLex (0, 0))
  | .finite .positive m e _ => toLex (1, toLex (e, (m : Int)))
  | .infinity .positive => toLex (2, toLex (0, 0))

theorem compare_toLex (a b c x y z : Int) :
    compare (toLex (a, toLex (b, c))) (toLex (x, toLex (y, z))) =
      (compare a x).then ((compare b y).then (compare c z)) := rfl

theorem compare_neg (a b : Int) : compare (-a) (-b) = compare b a := by
  rcases lt_trichotomy a b with h | h | h
  · rw [compare_gt_iff_gt.mpr (Int.neg_lt_neg h), compare_gt_iff_gt.mpr h]
  · rw [h, Std.compare_self, Std.compare_self]
  · rw [compare_lt_iff_lt.mpr (Int.neg_lt_neg h), compare_lt_iff_lt.mpr h]

theorem compare_natCast (m n : Nat) : compare (m : Int) (n : Int) = compare m n := by
  rcases lt_trichotomy m n with h | h | h
  · rw [compare_lt_iff_lt.mpr h, compare_lt_iff_lt.mpr (Int.ofNat_lt.mpr h)]
  · rw [h, Std.compare_self, Std.compare_self]
  · rw [compare_gt_iff_gt.mpr h, compare_gt_iff_gt.mpr (Int.ofNat_lt.mpr h)]

theorem compare_eq_rank {a b : UnpackedFloat} (ha : a.isNaN = false) (hb : b.isNaN = false) :
    a.compare b = some (compare (unpackedRank a) (unpackedRank b)) := by
  cases a with
  | notANumber => cases ha
  | zero =>
    cases b with
    | notANumber => cases hb
    | zero => rfl
    | infinity t => cases t <;> rfl
    | finite t => cases t <;> rfl
  | infinity s =>
    cases b with
    | notANumber => cases hb
    | zero => cases s <;> rfl
    | infinity t => cases s <;> cases t <;> rfl
    | finite t => cases s <;> cases t <;> rfl
  | finite s m₁ e₁ =>
    cases b with
    | notANumber => cases hb
    | zero => cases s <;> rfl
    | infinity t => cases s <;> cases t <;> rfl
    | finite t m₂ e₂ =>
      cases s <;> cases t
      case positive.positive =>
        change some ((compare e₁ e₂).then (compare m₁ m₂)) = some (compare
          (toLex ((1 : Int), toLex (e₁, (m₁ : Int)))) (toLex ((1 : Int), toLex (e₂, (m₂ : Int)))))
        rw [compare_toLex, compare_natCast, Std.compare_self, Ordering.eq_then]
      case negative.negative =>
        -- below zero the order of exponents and significands is the other way round
        change some ((compare e₁ e₂).then (compare m₁ m₂)).swap = some (compare
          (toLex ((-1 : Int), toLex (-e₁, -(m₁ : Int))))
          (toLex ((-1 : Int), toLex (-e₂, -(m₂ : Int)))))
        rw [compare_toLex, compare_neg e₁, compare_neg m₁, compare_natCast, Std.compare_self,
          Ordering.eq_then, Ordering.swap_then, ← Std.OrientedCmp.eq_swap,
          ← Std.OrientedCmp.eq_swap]
      case positive.negative => rfl
      case negative.positive => rfl

/-! ## Comparing doubles -/

theorem isNaN_nan : (0 / 0 : Float).isNaN = true := by decide +kernel

theorem compare_notANumber (u : UnpackedFloat) : u.compare .notANumber = none := by
  cases u with
  | infinity s => cases s <;> rfl
  | finite s => cases s <;> rfl
  | _ => rfl

/-- What is no number is not equal to anything. -/
theorem beq_of_isNaN {a b : Float} (h : a.isNaN = true ∨ b.isNaN = true) : (a == b) = false := by
  have hnan : ∀ u : UnpackedFloat, u.isNaN = true → u = .notANumber := by
    intro u hu
    cases u <;> first | rfl | cases hu
  change (a.toModel.unpack.compare b.toModel.unpack == some .eq) = false
  obtain h | h := h
  · rw [hnan _ h]
    rfl
  · rw [hnan _ h, compare_notANumber]
    rfl

/-- The place of a double among the numbers; both zeros have one place. -/
def rank (x : Float) : Int ×ₗ Int ×ₗ Int := unpackedRank x.toModel.unpack

section
variable {a b : Float} (ha : a.isNaN = false) (hb : b.isNaN = false)
include ha hb

theorem lt_iff_rank : a < b ↔ rank a < rank b := by
  change (decide ((a.toModel.unpack.compare b.toModel.unpack == some .lt) = true)) = true ↔ _
  rw [compare_eq_rank ha hb, decide_eq_true_iff, beq_iff_eq, Option.some_inj]
  exact compare_lt_iff_lt

theorem beq_iff_rank : (a == b) = true ↔ rank a = rank b := by
  change (a.toModel.unpack.compare b.toModel.unpack == some .eq) = true ↔ _
  rw [compare_eq_rank ha hb, beq_iff_eq, Option.some_inj]
  exact compare_eq_iff_eq

end

theorem beq_swap (a b : Float) : (a == b) = (b == a) := by
  by_cases h : a.isNaN = true ∨ b.isNaN = true
  · rw [beq_of_isNaN h, beq_of_isNaN h.symm]
  · obtain ⟨ha, hb⟩ := not_or.mp h
    have ha : a.isNaN = false := Bool.eq_false_iff.mpr ha
    have hb : b.isNaN = false := Bool.eq_false_iff.mpr hb
    rw [Bool.eq_iff_iff, beq_iff_rank ha hb, beq_iff_rank hb ha, eq_comm]

end FlatQuery.Decimal
