import FlatQuery.Proofs.Stage.Group
import FlatQuery.Proofs.Stage.Outer
import Mathlib.Algebra.Group.Action.Defs
import Mathlib.Algebra.Order.BigOperators.Group.List

/-!
# Counted rows from stage to stage

A join has a row for every row that its kind keeps and at most one for every
pair of rows, but for those that keep their side (`admits_length_rows`).
Conditions add no row, every group has a row (`length_keys_le`,
`keys_eq_nil_iff`), and projecting keeps the number of rows. So the counts of a
result bound each other, and the last of them is the number of its rows.
-/

namespace FlatQuery

/-- The numbers of rows that a join of so many left and right rows can have. -/
def JoinKind.Admits (kind : JoinKind) (left right joined : Nat) : Prop :=
  match kind with
  | .inner => joined ≤ left * right
  | .left => left ≤ joined ∧ joined ≤ max left (left * right)
  | .right => right ≤ joined ∧ joined ≤ max right (left * right)

namespace Join

/-! ## Joined rows -/

theorem length_outerPairs (partners : Row → List Row) (driving : List Row) :
    (outerPairs partners driving).length =
      (driving.map fun row => max 1 (partners row).length).sum := by
  unfold outerPairs
  rw [List.length_flatMap]
  congr 2
  funext row
  cases partners row with
  | nil => rfl
  | cons found more => simp

/-- Every driving row has one pair at least, and one for each of its partners at most. -/
theorem length_outerPairs_bounds {partners : Row → List Row} {n : Nat}
    (h : ∀ row, (partners row).length ≤ n) (driving : List Row) :
    driving.length ≤ (outerPairs partners driving).length ∧
      (outerPairs partners driving).length ≤ max driving.length (driving.length * n) := by
  rw [length_outerPairs]
  constructor
  · have hone : ∀ k ∈ driving.map fun row => max 1 (partners row).length, 1 ≤ k := by
      rw [List.forall_mem_map]
      exact fun row _ => Nat.le_max_left 1 _
    simpa using List.card_nsmul_le_sum _ 1 hone
  · have hmost : ∀ k ∈ driving.map fun row => max 1 (partners row).length, k ≤ max 1 n := by
      rw [List.forall_mem_map]
      intro row _
      have := h row
      omega
    have hsum := List.sum_le_card_nsmul _ (max 1 n) hmost
    rw [List.length_map, smul_eq_mul, ← Nat.mul_max_mul_left, Nat.mul_one] at hsum
    exact hsum

theorem admits_length_pairs (kind : JoinKind) (p : Row → Row → Bool) (left right : List Row) :
    kind.Admits left.length right.length (pairs kind p left right).length := by
  cases kind with
  | inner =>
    have hmost : ∀ k ∈ left.map fun l => right.countP (p l), k ≤ right.length := by
      rw [List.forall_mem_map]
      exact fun l _ => List.countP_le_length
    rw [JoinKind.Admits, length_inner_left]
    simpa using List.sum_le_card_nsmul _ right.length hmost
  | left =>
    rw [JoinKind.Admits, pairs, List.length_map]
    exact length_outerPairs_bounds (fun l => List.length_filter_le _ right) left
  | right =>
    rw [JoinKind.Admits, pairs, List.length_map, Nat.mul_comm]
    exact length_outerPairs_bounds (fun r => List.length_filter_le _ left) right

theorem admits_length_rows (clause : JoinClause) (fields : List String) (leftTable : String)
    (left right : List Row) :
    clause.kind.Admits left.length right.length
      (rows clause fields leftTable left right).length := by
  unfold rows
  rw [List.length_map]
  exact admits_length_pairs ..

end Join

/-! ## Groups -/

namespace Group

variable (fields : List String) (input : List Row)

theorem length_keys_le : (keys fields input).length ≤ input.length := by
  have hsub : keys fields input ⊆ input.map (key fields) := fun k hk => List.mem_eraseDups.mp hk
  simpa using (List.subperm_of_subset (nodup_keys fields input) hsub).length_le

theorem keys_eq_nil_iff : keys fields input = [] ↔ input = [] := by
  unfold keys
  simp only [List.eq_nil_iff_forall_not_mem, List.mem_eraseDups, List.mem_map]
  constructor
  · exact fun h r hr => h (key fields r) ⟨r, hr, rfl⟩
  · rintro h k ⟨r, hr, -⟩
    exact h r hr

end Group

/-! ## Results -/

/-- What the counts of a result say of each other, for a plan over tables of so many rows. -/
structure Result.Counted (plan : Plan) (left right : Nat) (result : Result) : Prop where
  loaded : result.loaded = left
  joined_isSome : result.joined.isSome = plan.join.isSome
  groups_isSome : result.groups.isSome = plan.groupBy.isSome
  filtered_le : result.filtered ≤ result.joined.getD result.loaded
  joined : ∀ clause ∈ plan.join, ∀ count ∈ result.joined, clause.kind.Admits left right count
  groups : ∀ count ∈ result.groups,
    count ≤ result.filtered ∧ (count = 0 ↔ result.filtered = 0)
  length_rows : result.rows.length = result.groups.getD result.filtered
  keys_rows : ∀ row ∈ result.rows, row.keys = plan.fields.eraseDups

namespace Plan

variable (plan : Plan) (rows : List Row) (joined : Option (List Row))

/-- A join is counted if there is one, and the count is the number of rows that go on. -/
theorem count_joinStage :
    (plan.joinStage rows joined).2.1.isSome = plan.join.isSome ∧
      (plan.joinStage rows joined).1.length =
        (plan.joinStage rows joined).2.1.getD rows.length := by
  unfold joinStage
  cases plan.join with
  | none => exact ⟨rfl, rfl⟩
  | some clause => exact ⟨rfl, rfl⟩

theorem count_groupStage :
    (plan.groupStage rows).2.1.isSome = plan.groupBy.isSome ∧
      (plan.groupStage rows).1.length = (plan.groupStage rows).2.1.getD rows.length := by
  unfold groupStage
  cases plan.groupBy with
  | none => exact ⟨rfl, rfl⟩
  | some fields => exact ⟨rfl, rfl⟩

/-- A result counts the stages that its plan has. -/
theorem isSome_run :
    (plan.run rows joined).1.joined.isSome = plan.join.isSome ∧
      (plan.run rows joined).1.groups.isSome = plan.groupBy.isSome :=
  ⟨(plan.count_joinStage rows joined).1, (plan.count_groupStage _).1⟩

theorem admits_joinStage {clause : JoinClause} (hj : plan.join = some clause) {count : Nat}
    (hc : (plan.joinStage rows joined).2.1 = some count) :
    clause.kind.Admits rows.length (joined.getD []).length count := by
  obtain ⟨hrows, hcount⟩ := joinStage_some hj rows joined
  rw [hcount, hrows, Option.some_inj] at hc
  rw [← hc]
  exact Join.admits_length_rows ..

/-- There are no more groups than rows, and none only without rows. -/
theorem groups_bounds {count : Nat} (hc : (plan.groupStage rows).2.1 = some count) :
    count ≤ rows.length ∧ (count = 0 ↔ rows.length = 0) := by
  unfold groupStage at hc
  cases hg : plan.groupBy with
  | none =>
    rw [hg] at hc
    cases hc
  | some fields =>
    have hlength : (Group.rows fields plan.fields rows).length =
        (Group.keys fields rows).length := by
      rw [Group.rows_eq, List.length_map]
    rw [hg, Option.some_inj, hlength] at hc
    subst hc
    refine ⟨Group.length_keys_le fields rows, ?_⟩
    rw [List.length_eq_zero_iff, List.length_eq_zero_iff, Group.keys_eq_nil_iff]

theorem keys_run {row : Row} (h : row ∈ (plan.run rows joined).1.rows) :
    row.keys = plan.fields.eraseDups := by
  obtain ⟨r, -, rfl⟩ := List.mem_map.mp h
  exact OrderMap.keys_ofList_map ..

/-- **Counts.** The counts of every result are there if their stage is, bound each
other, and end with the number of rows; all rows have the selected fields as
their keys. A missing joined table counts as an empty one. -/
theorem run_counted (plan : Plan) (rows : List Row) (joined : Option (List Row)) :
    (plan.run rows joined).1.Counted plan rows.length (joined.getD []).length where
  loaded := rfl
  joined_isSome := (plan.isSome_run rows joined).1
  groups_isSome := (plan.isSome_run rows joined).2
  filtered_le :=
    (List.length_filter_le _ _).trans_eq (plan.count_joinStage rows joined).2
  joined _ hj _ hc := plan.admits_joinStage rows joined hj hc
  groups _ hc := plan.groups_bounds _ hc
  length_rows := (List.length_map _).trans (plan.count_groupStage _).2
  keys_rows _ hr := plan.keys_run rows joined hr

end Plan

end FlatQuery
