import FlatQuery.Proofs.Stage.Mirror
import Mathlib.Algebra.GroupWithZero.Nat
import Mathlib.Data.List.Perm.Basic

/-!
# Outer joins against inner joins

The pairs of a driving table are its rows with their partners, and the rows
without partners once each (`filter_not_padded`, `filter_padded`). The partners
of all left rows and those of all right rows make the same pairs
(`partners_perm`), so a left and a right join are the inner join and the rows
of their own side that match nothing.
-/

namespace FlatQuery.Join

/-- A row of the pair is missing. -/
def padded (pair : Option Row × Option Row) : Bool := pair.1.isNone || pair.2.isNone

/-! ## The pairs of a driving table -/

section
variable (partners : Row → List Row) (driving : List Row)
  {embed : Row × Option Row → Option Row × Option Row}
  (hembed : ∀ row other, padded (embed (row, other)) = other.isNone)
include hembed

theorem filter_not_padded :
    (((outerPairs partners driving).map embed).filter fun pair => !padded pair) =
      driving.flatMap fun row => (partners row).map fun other => embed (row, some other) := by
  unfold outerPairs
  rw [List.map_flatMap, List.filter_flatMap]
  congr 1
  funext row
  cases partners row with
  | nil => simp [hembed]
  | cons found more => simp [hembed, Function.comp_def, List.filter_map]

theorem filter_padded :
    ((outerPairs partners driving).map embed).filter padded =
      (driving.filter fun row => (partners row).isEmpty).map fun row => embed (row, none) := by
  induction driving with
  | nil => rfl
  | cons row rest ih =>
    rw [outerPairs, List.flatMap_cons, List.map_append, List.filter_append, ← outerPairs, ih,
      List.filter_cons]
    cases partners row with
    | nil => simp [hembed]
    | cons found more => simp [hembed]

end

/-! ## Partners from either side -/

theorem map_filter_eq_flatMap {α γ : Type} (p : α → Bool) (f : α → γ) (l : List α) :
    (l.filter p).map f = l.flatMap fun a => if p a then [f a] else [] := by
  induction l with
  | nil => rfl
  | cons a l ih =>
    rw [List.flatMap_cons, ← ih, List.filter_cons]
    by_cases h : p a <;> simp [h]

/-- The pairs of all right rows with their partners are, in another order, those
of all left rows with theirs. -/
theorem partners_perm {γ : Type} (p : Row → Row → Bool) (f : Row → Row → γ)
    (left right : List Row) :
    (right.flatMap fun r => (left.filter fun l => p l r).map fun l => f l r).Perm
      (left.flatMap fun l => (right.filter (p l)).map (f l)) := by
  induction left with
  | nil => simp
  | cons l left ih =>
    have hsplit : (fun r => ((l :: left).filter fun l => p l r).map fun l => f l r) = fun r =>
        (if p l r then [f l r] else []) ++ (left.filter fun l => p l r).map fun l => f l r := by
      funext r
      by_cases h : p l r <;> simp [h]
    -- every right row has the first left row before its other partners
    rw [hsplit, List.flatMap_cons, map_filter_eq_flatMap]
    exact (List.flatMap_append_perm right _ _).symm.trans (ih.append_left _)

/-! ## Outer pairs and inner pairs -/

section
variable (p : Row → Row → Bool) (left right : List Row)

theorem inner_of_left :
    ((pairs .left p left right).filter fun pair => !padded pair) = pairs .inner p left right :=
  filter_not_padded _ left fun _ _ => rfl

theorem matched_of_right :
    ((pairs .right p left right).filter fun pair => !padded pair) =
      right.flatMap fun r => (left.filter fun l => p l r).map fun l => (some l, some r) :=
  filter_not_padded _ right fun _ _ => Bool.or_false _

theorem inner_of_right :
    ((pairs .right p left right).filter fun pair => !padded pair).Perm
      (pairs .inner p left right) := by
  rw [matched_of_right]
  exact partners_perm p (fun l r => (some l, some r)) left right

theorem padded_of_left :
    (pairs .left p left right).filter padded =
      (left.filter fun l => (right.filter (p l)).isEmpty).map fun l => (some l, none) :=
  filter_padded _ left fun _ _ => rfl

theorem padded_of_right :
    (pairs .right p left right).filter padded =
      (right.filter fun r => (left.filter fun l => p l r).isEmpty).map fun r => (none, some r) :=
  filter_padded _ right fun _ _ => Bool.or_false _

theorem length_inner_left :
    (pairs .inner p left right).length = (left.map fun l => right.countP (p l)).sum := by
  unfold pairs
  simp only [List.length_flatMap, List.length_map, List.countP_eq_length_filter]

theorem length_inner_right :
    (pairs .inner p left right).length = (right.map fun r => left.countP fun l => p l r).sum := by
  rw [← (inner_of_right p left right).length_eq, matched_of_right]
  simp only [List.length_flatMap, List.length_map, List.countP_eq_length_filter]

/-- What an outer join has more than the inner join are its padded pairs. -/
theorem length_eq_add_padded {kind : JoinKind}
    (h : ((pairs kind p left right).filter fun pair => !padded pair).Perm
      (pairs .inner p left right)) :
    (pairs kind p left right).length =
      (pairs .inner p left right).length + ((pairs kind p left right).filter padded).length := by
  rw [List.length_eq_length_filter_add padded, h.length_eq, Nat.add_comm]

variable {p left right}

theorem exists_partner_of_left {kind : JoinKind} (hk : kind ≠ .left)
    {pair : Option Row × Option Row} (h : pair ∈ pairs kind p left right) {l : Row}
    (hl : pair.1 = some l) : ∃ r ∈ right, p l r = true := by
  rcases pairs_cases h with ⟨l', _, r, hr, hagree, rfl⟩ | ⟨he, _⟩ | ⟨_, r, _, rfl⟩
  · cases hl
    exact ⟨r, hr, hagree⟩
  · exact absurd he hk
  · cases hl

theorem exists_partner_of_right {kind : JoinKind} (hk : kind ≠ .right)
    {pair : Option Row × Option Row} (h : pair ∈ pairs kind p left right) {r : Row}
    (hr : pair.2 = some r) : ∃ l ∈ left, p l r = true := by
  rcases pairs_cases h with ⟨l, hl, r', _, hagree, rfl⟩ | ⟨_, l, _, rfl⟩ | ⟨he, _⟩
  · cases hr
    exact ⟨l, hl, hagree⟩
  · cases hr
  · exact absurd he hk

end

/-! ## Outer joins -/

theorem isEmpty_filter_eq {α : Type} (p : α → Prop) [DecidablePred p] (l : List α) :
    (l.filter fun a => p a).isEmpty = decide (∀ a ∈ l, ¬ p a) := by
  rw [Bool.eq_iff_iff, List.isEmpty_iff, List.filter_eq_nil_iff, decide_eq_true_iff]
  simp

/-- **Outer joins.** Without its padded rows a left join is the inner join, and
a right join is the inner join in another order. The padded rows are the rows of
the own side that match nothing, each once, and these have no part in the other
joins. So the inner join counts the matches of all left rows, or of all right
rows, and an outer join the rows of its own side that match nothing as well. -/
theorem rows_outer (first second onLeft onRight : String) (fields : List String)
    (left right : List Row) :
    let keys := orientedKeys ⟨.inner, second, onLeft, onRight⟩ first
    let lonelyLeft : Row → Bool := fun l => ∀ r ∈ right, ¬ Match keys l r
    let lonelyRight : Row → Bool := fun r => ∀ l ∈ left, ¬ Match keys l r
    let origins := fun kind => pairs kind (agree keys) left right
    let row := combine first second fields left.head? right.head?
    let output := fun kind => rows ⟨kind, second, onLeft, onRight⟩ fields first left right
    (∀ kind, output kind = (origins kind).map row) ∧
      ((origins .left).filter fun pair => !padded pair).map row = output .inner ∧
      (((origins .right).filter fun pair => !padded pair).map row).Perm (output .inner) ∧
      (origins .left).filter padded = (left.filter lonelyLeft).map (fun l => (some l, none)) ∧
      (origins .right).filter padded = (right.filter lonelyRight).map (fun r => (none, some r)) ∧
      (∀ l, lonelyLeft l = true → ∀ kind ≠ .left, ∀ pair ∈ origins kind, pair.1 ≠ some l) ∧
      (∀ r, lonelyRight r = true → ∀ kind ≠ .right, ∀ pair ∈ origins kind, pair.2 ≠ some r) ∧
      (output .inner).length = (left.map fun l => right.countP fun r => Match keys l r).sum ∧
      (output .inner).length = (right.map fun r => left.countP fun l => Match keys l r).sum ∧
      (output .left).length = (output .inner).length + left.countP lonelyLeft ∧
      (output .right).length = (output .inner).length + right.countP lonelyRight := by
  intro keys lonelyLeft lonelyRight origins row output
  have horigins : ∀ kind, origins kind = pairs kind (fun l r => Match keys l r) left right :=
    fun kind => congrArg (fun p => pairs kind p left right) (agree_eq keys)
  have hlength : ∀ kind, (output kind).length = (origins kind).length := fun kind =>
    List.length_map _
  have hleft : (origins .left).filter padded =
      (left.filter lonelyLeft).map fun l => (some l, none) := by
    rw [horigins, padded_of_left]
    simp only [isEmpty_filter_eq, lonelyLeft]
  have hright : (origins .right).filter padded =
      (right.filter lonelyRight).map fun r => (none, some r) := by
    rw [horigins, padded_of_right]
    simp only [isEmpty_filter_eq, lonelyRight]
  refine ⟨fun kind => rfl, ?_, ?_, hleft, hright, ?_, ?_, ?_, ?_, ?_, ?_⟩
  · exact congrArg (List.map row) (inner_of_left (agree keys) left right)
  · exact (inner_of_right (agree keys) left right).map row
  · intro l hl kind hk pair hp hpl
    obtain ⟨r, hr, hagree⟩ := exists_partner_of_left hk hp hpl
    exact of_decide_eq_true hl r hr (agree_iff.mp hagree)
  · intro r hr kind hk pair hp hpr
    obtain ⟨l, hl, hagree⟩ := exists_partner_of_right hk hp hpr
    exact of_decide_eq_true hr l hl (agree_iff.mp hagree)
  · rw [hlength, horigins, length_inner_left]
  · rw [hlength, horigins, length_inner_right]
  · have hcount : ((origins .left).filter padded).length = left.countP lonelyLeft := by
      rw [hleft, List.length_map, List.countP_eq_length_filter]
    rw [hlength, hlength, ← hcount]
    exact length_eq_add_padded _ left right (.of_eq (inner_of_left (agree keys) left right))
  · have hcount : ((origins .right).filter padded).length = right.countP lonelyRight := by
      rw [hright, List.length_map, List.countP_eq_length_filter]
    rw [hlength, hlength, ← hcount]
    exact length_eq_add_padded _ left right (inner_of_right (agree keys) left right)

/-- Two rows on either side with one key, a null key and two keys without a match. -/
theorem rows_outer_sample :
    let users : List Row := [.ofList [("city", .text "1")], .ofList [("city", .null)],
      .ofList [("city", .text "1")], .ofList [("city", .text "9")]]
    let cities : List Row := [.ofList [("id", .text "1")], .ofList [("id", .text "2")],
      .ofList [("cities.id", .text "1"), ("id", .text "9")]]
    let output := fun kind =>
      rows ⟨kind, "cities", "users.city", "cities.id"⟩ ["city"] "users" users cities
    (output .inner).length = 4 ∧ (output .left).length = 4 + 2 ∧ (output .right).length = 4 + 1 ∧
      ∀ pair ∈ pairs .right (agree ("users.city", "cities.id")) users cities,
        pair.1 ≠ some (.ofList [("city", .null)]) := by
  intro users cities output
  obtain ⟨-, -, -, -, -, hlonely, -, hinner, -, hleft, hright⟩ :=
    rows_outer "users" "cities" "users.city" "cities.id" ["city"] users cities
  have hfour : (output .inner).length = 4 := hinner.trans (by decide +kernel)
  refine ⟨hfour, ?_, ?_, ?_⟩
  · exact hleft.trans (congrArg₂ (· + ·) hfour (by decide +kernel))
  · exact hright.trans (congrArg₂ (· + ·) hfour (by decide +kernel))
  · exact hlonely (.ofList [("city", .null)]) (by decide +kernel) .right (by decide)

end FlatQuery.Join
