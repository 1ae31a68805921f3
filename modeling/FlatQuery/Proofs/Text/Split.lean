import FlatQuery.Text.Split

/-!
# Cutting a text

A text is a last piece, or a piece, the separator and a further text
(`split_induction`), and the functions that cut a text follow this shape.
-/

namespace FlatQuery

open Text

/-- Induction along the pieces of a list, cut where `p` holds. -/
theorem split_induction {α : Type} (p : α → Bool) {P : List α → Prop}
    (last : ∀ s, (∀ c ∈ s, p c = false) → P s)
    (more : ∀ s c r, (∀ d ∈ s, p d = false) → p c = true → P r → P (s ++ c :: r)) (s : List α) :
    P s := by
  suffices h : ∀ t : List α, (∀ c ∈ t, p c = false) → P (t ++ s) from h [] (by simp)
  induction s with
  | nil => simpa using last
  | cons c r ih =>
    intro t ht
    cases hc : p c with
    | true => exact more t c r ht hc (ih [] (by simp))
    | false =>
      have := ih (t ++ [c]) (by simpa [or_imp, forall_and] using ⟨ht, hc⟩)
      rwa [List.append_assoc] at this

theorem splitAll_last {sep : Char} {s : List Char} (h : sep ∉ s) : splitAll sep s = [s] := by
  induction s with
  | nil => rfl
  | cons c s ih =>
    simp only [List.mem_cons, not_or] at h
    rw [splitAll, if_neg (Ne.symm h.1), ih h.2]

theorem splitAll_more {sep : Char} {s : List Char} (h : sep ∉ s) (r : List Char) :
    splitAll sep (s ++ sep :: r) = s :: splitAll sep r := by
  induction s with
  | nil => simp [splitAll]
  | cons c s ih =>
    simp only [List.mem_cons, not_or] at h
    rw [List.cons_append, splitAll, if_neg (Ne.symm h.1), ih h.2]

theorem splitFirst?_last {sep : Char} {s : List Char} (h : sep ∉ s) : splitFirst? sep s = none := by
  induction s with
  | nil => rfl
  | cons c s ih =>
    simp only [List.mem_cons, not_or] at h
    rw [splitFirst?, if_neg (Ne.symm h.1), ih h.2]; rfl

theorem splitFirst?_more {sep : Char} {s : List Char} (h : sep ∉ s) (r : List Char) :
    splitFirst? sep (s ++ sep :: r) = some (s, r) := by
  induction s with
  | nil => simp [splitFirst?]
  | cons c s ih =>
    simp only [List.mem_cons, not_or] at h
    rw [List.cons_append, splitFirst?, if_neg (Ne.symm h.1), ih h.2]; rfl

theorem splitFirst?_eq_some_iff {sep : Char} {s a b : List Char} :
    splitFirst? sep s = some (a, b) ↔ s = a ++ sep :: b ∧ sep ∉ a := by
  constructor
  · intro h
    by_cases hs : sep ∈ s
    · obtain ⟨x, y, rfl, hx⟩ := List.eq_append_cons_of_mem hs
      rw [splitFirst?_more hx] at h
      cases h
      exact ⟨rfl, hx⟩
    · rw [splitFirst?_last hs] at h; cases h
  · rintro ⟨rfl, h⟩
    exact splitFirst?_more h b

end FlatQuery
