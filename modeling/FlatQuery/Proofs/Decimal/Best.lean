import FlatQuery.Proofs.Decimal.Order
import Mathlib.Data.List.Induction

/-!
# The best of some doubles

The better of two numbers is the one with the lower place in a total order.
Taken over a list it gives a best value (`Best.foldl`), and up to the sign of
zero there is only one, in whatever order the values come (`Best.same`).
-/

namespace FlatQuery.Decimal

/-! ## The better of two numbers -/

/-- `beats` compares numbers by their place in a total order. -/
structure Ranks {β : Type} [LinearOrder β] (place : Float → β) (beats : Float → Float → Prop) :
    Prop where
  beats_iff : ∀ {a b : Float}, a.isNaN = false → b.isNaN = false → (beats a b ↔ place a < place b)
  beq_iff : ∀ {a b : Float}, a.isNaN = false → b.isNaN = false →
    ((a == b) = true ↔ place a = place b)

theorem ranks_less : Ranks rank (fun a b => a < b) :=
  ⟨lt_iff_rank, beq_iff_rank⟩

theorem ranks_greater : Ranks (fun x => OrderDual.toDual (rank x)) (fun a b => b < a) :=
  ⟨fun ha hb => lt_iff_rank hb ha, beq_iff_rank⟩

/-- The second of two numbers if it beats the first. -/
def better (beats : Float → Float → Prop) [DecidableRel beats] (a b : Float) : Float :=
  if a.isNaN || b.isNaN then 0 / 0 else if beats b a then b else a

theorem better_of_numbers {beats : Float → Float → Prop} [DecidableRel beats] {a b : Float}
    (ha : a.isNaN = false) (hb : b.isNaN = false) :
    better beats a b = if beats b a then b else a := by
  unfold better
  rw [ha, hb]
  rfl

theorem better_of_isNaN {beats : Float → Float → Prop} [DecidableRel beats] {a b : Float}
    (h : a.isNaN = true ∨ b.isNaN = true) : better beats a b = 0 / 0 :=
  if_pos (by rwa [Bool.or_eq_true])

theorem isNaN_better_iff {beats : Float → Float → Prop} [DecidableRel beats] {a b : Float} :
    (better beats a b).isNaN = true ↔ a.isNaN = true ∨ b.isNaN = true := by
  by_cases h : a.isNaN = true ∨ b.isNaN = true
  · rw [better_of_isNaN h, isNaN_nan]
    exact ⟨fun _ => h, fun _ => rfl⟩
  · simp only [not_or, Bool.not_eq_true] at h
    have hn : (better beats a b).isNaN = false := by
      rw [better_of_numbers h.1 h.2]
      by_cases hb : beats b a
      · rw [if_pos hb, h.2]
      · rw [if_neg hb, h.1]
    rw [hn, h.1, h.2]
    exact ⟨Or.inl, fun hf => hf.elim id id⟩

theorem better_self {beats : Float → Float → Prop} [DecidableRel beats] {a : Float}
    (ha : a.isNaN = false) : better beats a a = a := by
  rw [better_of_numbers ha ha, ite_self]

/-- To meet the same number once more changes nothing. -/
theorem better_better (beats : Float → Float → Prop) [DecidableRel beats] (a b : Float) :
    better beats (better beats a b) b = better beats a b := by
  by_cases h : a.isNaN = true ∨ b.isNaN = true
  · rw [better_of_isNaN h, better_of_isNaN (Or.inl isNaN_nan)]
  · simp only [not_or, Bool.not_eq_true] at h
    rw [better_of_numbers h.1 h.2]
    by_cases hb : beats b a
    · rw [if_pos hb, better_self h.2]
    · rw [if_neg hb, better_of_numbers h.1 h.2, if_neg hb]

namespace Ranks

variable {β : Type} [LinearOrder β] {place : Float → β} {beats : Float → Float → Prop}
  (h : Ranks place beats)
include h

theorem not_beats_iff {a b : Float} (ha : a.isNaN = false) (hb : b.isNaN = false) :
    ¬ beats a b ↔ place b ≤ place a := by
  rw [h.beats_iff ha hb, not_lt]

theorem place_better_le [DecidableRel beats] {a b : Float} (ha : a.isNaN = false)
    (hb : b.isNaN = false) :
    place (better beats a b) ≤ place a ∧ place (better beats a b) ≤ place b := by
  rw [better_of_numbers ha hb]
  by_cases hba : beats b a
  · rw [if_pos hba]
    exact ⟨((h.beats_iff hb ha).mp hba).le, le_refl _⟩
  · rw [if_neg hba]
    exact ⟨le_refl _, (h.not_beats_iff hb ha).mp hba⟩

end Ranks

/-! ## The best of some values -/

/-- One of the values that no value beats; not a number if one of them is not. -/
structure Best (beats : Float → Float → Prop) (values : List Float) (x : Float) : Prop where
  isNaN_iff : x.isNaN = true ↔ ∃ v ∈ values, v.isNaN = true
  mem : x.isNaN = false → x ∈ values
  unbeaten : x.isNaN = false → ∀ v ∈ values, ¬ beats v x

/-- Equal numbers, which may differ in the sign of zero, or no numbers both. -/
def SameNumber (x y : Float) : Prop := (x == y) = true ∨ x.isNaN = true ∧ y.isNaN = true

namespace Best

variable {β : Type} [LinearOrder β] {place : Float → β} {beats : Float → Float → Prop}
  (h : Ranks place beats)

theorem isNaN_of_mem {values : List Float} {x : Float} (hx : Best beats values x)
    (hn : x.isNaN = false) {v : Float} (hv : v ∈ values) : v.isNaN = false := by
  rw [← Bool.not_eq_true] at hn ⊢
  intro hvn
  exact hn (hx.isNaN_iff.mpr ⟨v, hv, hvn⟩)

include h in
theorem single [DecidableRel beats] (v : Float) : Best beats [v] (better beats v v) := by
  have hv : (better beats v v).isNaN = true ↔ v.isNaN = true := by rw [isNaN_better_iff, or_self]
  have hself : (better beats v v).isNaN = false → v.isNaN = false ∧ better beats v v = v := by
    intro hn
    rw [← Bool.not_eq_true, hv, Bool.not_eq_true] at hn
    exact ⟨hn, better_self hn⟩
  refine ⟨?_, fun hn => ?_, fun hn w hw => ?_⟩
  · rw [hv]
    simp only [List.mem_singleton, exists_eq_left]
  · rw [(hself hn).2]
    exact List.mem_singleton_self v
  · obtain ⟨hn, hx⟩ := hself hn
    rw [hx, List.mem_singleton.mp hw, h.not_beats_iff hn hn]

include h in
theorem concat [DecidableRel beats] {values : List Float} {x : Float} (hx : Best beats values x)
    (w : Float) : Best beats (values ++ [w]) (better beats x w) := by
  have hnumbers : (better beats x w).isNaN = false → x.isNaN = false ∧ w.isNaN = false := by
    intro hn
    rw [← Bool.not_eq_true, isNaN_better_iff] at hn
    simpa only [not_or, Bool.not_eq_true] using hn
  refine ⟨?_, fun hn => ?_, fun hn v hv => ?_⟩
  · rw [isNaN_better_iff, hx.isNaN_iff]
    simp only [List.mem_append, List.mem_singleton, or_and_right, exists_or, exists_eq_left]
  · obtain ⟨hxn, hwn⟩ := hnumbers hn
    rw [better_of_numbers hxn hwn]
    by_cases hb : beats w x
    · simp [hb]
    · simp [hb, hx.mem hxn]
  · obtain ⟨hxn, hwn⟩ := hnumbers hn
    obtain ⟨hlex, hlew⟩ := h.place_better_le hxn hwn
    rcases List.mem_append.mp hv with hv | hv
    · -- the value was not before the old best, which is not before the new one
      have hvn := hx.isNaN_of_mem hxn hv
      have hle := (h.not_beats_iff hvn hxn).mp (hx.unbeaten hxn v hv)
      exact (h.not_beats_iff hvn hn).mpr (hlex.trans hle)
    · rw [List.mem_singleton.mp hv]
      exact (h.not_beats_iff hwn hn).mpr hlew

include h in
theorem foldl [DecidableRel beats] (v : Float) (values : List Float) :
    Best beats (v :: values) (values.foldl (better beats) (better beats v v)) := by
  induction values using List.reverseRecOn with
  | nil => exact single h v
  | append_singleton values w ih =>
    rw [List.foldl_append, ← List.cons_append]
    exact concat h ih w

include h in
/-- There is only one best value, in whatever order the values come. -/
theorem same {values others : List Float} {x y : Float} (hx : Best beats values x)
    (hy : Best beats others y) (hp : values.Perm others) : SameNumber x y := by
  have hiff : x.isNaN = true ↔ y.isNaN = true := by
    rw [hx.isNaN_iff, hy.isNaN_iff]
    simp only [hp.mem_iff]
  by_cases hxn : x.isNaN = true
  · exact Or.inr ⟨hxn, hiff.mp hxn⟩
  · have hyn : y.isNaN = false := by rwa [← Bool.not_eq_true, ← hiff]
    rw [Bool.not_eq_true] at hxn
    have hxy := (h.not_beats_iff hyn hxn).mp (hx.unbeaten hxn y (hp.mem_iff.mpr (hy.mem hyn)))
    have hyx := (h.not_beats_iff hxn hyn).mp (hy.unbeaten hyn x (hp.mem_iff.mp (hx.mem hxn)))
    exact Or.inl ((h.beq_iff hxn hyn).mpr (le_antisymm hxy hyx))

end Best

end FlatQuery.Decimal
