import FlatQuery.Proofs.OrderMap
import FlatQuery.Proofs.Text.Split
import FlatQuery.Stage.Pipeline
import Mathlib.Data.List.ProdSigma

/-!
# Joined rows

The pairs of a join are the candidate pairs that fit, in order: every row of
the driving side with every row of the other, and for an outer join with none
(`pairs_eq_fitting`). A selected field keeps its place in the joined row
against all that is written before it (`get?_combine`), so an ungrouped query
with a join selects from the two rows of each pair.
-/

namespace FlatQuery

open Text

/-! ## Looking up a field -/

theorem Row.present?_isNull {r : Row} {key : String} {c : Cell} (h : r.present? key = some c) :
    c.isNull = false := by
  simpa using (Option.filter_eq_some_iff.mp h).2

theorem Row.lookup_isNull {r : Row} {field : String} {c : Cell} (h : r.lookup field = some c) :
    c.isNull = false := by
  rw [Row.lookup, Option.or_eq_some_iff] at h
  rcases h with h | ⟨-, h⟩
  · exact present?_isNull h
  · split at h
    · exact present?_isNull h
    · cases h

namespace Join

/-! ## Pairs of rows -/

/-- The keys of both rows are there, not null, and equal. -/
def Match (keys : String × String) (l r : Row) : Prop :=
  ∃ a b, l.lookup keys.1 = some a ∧ r.lookup keys.2 = some b ∧ a.isNull = false ∧
    b.isNull = false ∧ (a == b) = true

theorem agree_iff {keys : String × String} {l r : Row} :
    agree keys l r = true ↔ Match keys l r := by
  rw [agree, Match]
  cases hl : l.lookup keys.1 with
  | none => simp
  | some a =>
    cases hr : r.lookup keys.2 with
    | none => simp
    | some b => simp [Row.lookup_isNull hl, Row.lookup_isNull hr]

instance (keys : String × String) (l r : Row) : Decidable (Match keys l r) :=
  decidable_of_iff _ agree_iff

theorem agree_eq (keys : String × String) : agree keys = fun l r => decide (Match keys l r) := by
  funext l r
  rw [Bool.eq_iff_iff, agree_iff, decide_eq_true_iff]

/-- A partner fits if it matches, no partner if nothing else does. -/
def Fits (p : Row → Prop) (others : List Row) : Option Row → Prop
  | some other => p other
  | none => ∀ other ∈ others, ¬ p other

instance (p : Row → Prop) [DecidablePred p] (others : List Row) (o : Option Row) :
    Decidable (Fits p others o) :=
  match o with
  | some other => inferInstanceAs (Decidable (p other))
  | none => inferInstanceAs (Decidable (∀ other ∈ others, ¬ p other))

/-- Every row with all possible partners, none being the last. -/
def candidates (driving others : List Row) : List (Row × Option Row) :=
  driving.product (others.map some ++ [none])

/-- The pairs of a join: the candidates that fit, in the order of the driving
side and then of the other. -/
def fitting (kind : JoinKind) (keys : String × String) (left right : List Row) :
    List (Option Row × Option Row) :=
  match kind with
  | .inner =>
    ((left.product right).filter fun p => Match keys p.1 p.2).map fun p => (some p.1, some p.2)
  | .left =>
    ((candidates left right).filter fun p => Fits (fun r => Match keys p.1 r) right p.2).map
      fun p => (some p.1, p.2)
  | .right =>
    ((candidates right left).filter fun p => Fits (fun l => Match keys l p.1) left p.2).map
      fun p => (p.2, some p.1)

section
variable (p : Row → Row → Prop) [∀ row other, Decidable (p row other)] (others : List Row)

theorem fitting_partners (row : Row) :
    (((others.map some ++ [none]).map (Prod.mk row)).filter fun c => Fits (p c.1) others c.2) =
      match others.filter fun other => p row other with
      | [] => [(row, none)]
      | found => found.map fun other => (row, some other) := by
  -- the rows among the candidates are filtered alone, then none is decided
  have hsome :
      ((others.map fun other => (row, some other)).filter fun c => Fits (p c.1) others c.2) =
      (others.filter fun other => p row other).map fun other => (row, some other) := List.filter_map
  rw [List.map_append, List.map_map, List.filter_append, List.map_singleton]
  refine (congrArg (· ++ _) hsome).trans ?_
  cases h : others.filter fun other => p row other with
  | nil =>
    have hnone : Fits (p row) others none := by simpa [Fits] using List.filter_eq_nil_iff.mp h
    simp [hnone]
  | cons found more =>
    have hmem : found ∈ others.filter fun other => p row other := h ▸ List.mem_cons_self
    obtain ⟨hfound, hp⟩ := List.mem_filter.mp hmem
    have hnone : ¬ Fits (p row) others none := fun hn => hn found hfound (of_decide_eq_true hp)
    simp [hnone]

theorem outerPairs_eq (driving : List Row) :
    outerPairs (fun row => others.filter fun other => p row other) driving =
      (candidates driving others).filter fun c => Fits (p c.1) others c.2 := by
  rw [candidates, List.product, List.filter_flatMap, outerPairs]
  congr 1
  funext row
  exact (fitting_partners p others row).symm

end

theorem pairs_eq_fitting (kind : JoinKind) (keys : String × String) (left right : List Row) :
    pairs kind (agree keys) left right = fitting kind keys left right := by
  rw [agree_eq]
  cases kind with
  | inner =>
    simp only [pairs, fitting, List.product, List.filter_flatMap, List.map_flatMap, List.filter_map,
      List.map_map]
    rfl
  | left =>
    rw [fitting, ← outerPairs_eq (fun l r => Match keys l r)]
    rfl
  | right =>
    rw [fitting, ← outerPairs_eq (fun r l => Match keys l r)]
    rfl

/-! ## Joined rows -/

/-- The row that a selected field is read from: the right one if the text
before the first dot is there and not the left table. -/
def sideOf (leftTable : String) (pair : Option Row × Option Row) (field : String) : Option Row :=
  if '.' ∈ field.toList ∧ field.toList.takeWhile (· ≠ '.') ≠ leftTable.toList then pair.2
  else pair.1

def cellOf (leftTable : String) (pair : Option Row × Option Row) (field : String) : Cell :=
  ((sideOf leftTable pair field).bind fun row => row.lookup field).getD .null

theorem selectedCell_eq (leftTable : String) (pair : Option Row × Option Row) (field : String) :
    selectedCell leftTable pair.1 pair.2 field = cellOf leftTable pair field := by
  rw [cellOf, selectedCell, sideOf, splitQualified]
  by_cases hd : '.' ∈ field.toList
  · obtain ⟨table, column, hf, ht⟩ := List.eq_append_cons_of_mem hd
    have hs := splitFirst?_more ht column
    have hw : field.toList.takeWhile (· ≠ '.') = table := by
      have hp : ∀ c ∈ table, decide (c ≠ '.') = true := fun c hc =>
        decide_eq_true fun h => ht (h ▸ hc)
      rw [hf, List.takeWhile_append_of_pos hp]
      simp
    rw [← hf] at hs
    simp only [hs, hw, hd, true_and]
    by_cases he : table = leftTable.toList
    · simp [he]
    · have : String.ofList table ≠ leftTable := fun h => he (by rw [← h, String.toList_ofList])
      simp [he, this]
  · rw [splitFirst?_last hd, if_neg fun h => hd h.1]

/-- No cell of a side takes the place of a selected field. -/
theorem get?_combine {leftTable rightTable : String} {fields : List String}
    {leftShape rightShape : Option Row} {pair : Option Row × Option Row} {field : String}
    (h : field ∈ fields) :
    (combine leftTable rightTable fields leftShape rightShape pair).get? field =
      some (cellOf leftTable pair field) := by
  rw [combine, OrderMap.get?_ofList_append, OrderMap.get?_ofList_map, if_pos h, selectedCell_eq]
  rfl

theorem entries_project_combine (leftTable rightTable : String) (fields : List String)
    (leftShape rightShape : Option Row) (pair : Option Row × Option Row) :
    (Row.project fields (combine leftTable rightTable fields leftShape rightShape pair)).entries =
      fields.eraseDups.map fun field => (field, cellOf leftTable pair field) := by
  rw [Row.project, OrderMap.entries_ofList_map]
  refine List.map_congr_left fun field hf => ?_
  rw [Row.cellOrNull, get?_combine (List.mem_eraseDups.mp hf)]
  rfl

end Join

namespace Plan

theorem joinStage_some {plan : Plan} {clause : JoinClause} (h : plan.join = some clause)
    (rows : List Row) (joined : Option (List Row)) :
    (plan.joinStage rows joined).1 = Join.rows clause plan.fields plan.table rows (joined.getD []) ∧
      (plan.joinStage rows joined).2.1 = some (plan.joinStage rows joined).1.length := by
  simp only [joinStage, h, and_self]

theorem run_ungrouped {plan : Plan} (h : plan.groupBy = none) (rows : List Row)
    (joined : Option (List Row)) :
    (plan.run rows joined).1.rows =
      ((plan.joinStage rows joined).1.filter (Condition.allHold plan.conditions)).map
        (Row.project plan.fields) := by
  simp only [run, filterStage, groupStage, h]

/-- **Joins.** An ungrouped query with a join counts the pairs of rows that
fit. It selects, in their order, from the two rows of each pair whose joined
row satisfies all conditions. -/
theorem run_join {plan : Plan} {clause : JoinClause} (hj : plan.join = some clause)
    (hg : plan.groupBy = none) (left : List Row) (joined : Option (List Row)) :
    let right := joined.getD []
    let pairs := Join.fitting clause.kind (Join.orientedKeys clause plan.table) left right
    let row := Join.combine plan.table clause.table plan.fields left.head? right.head?
    (plan.run left joined).1.joined = some pairs.length ∧
      (plan.run left joined).1.rows.map OrderMap.entries =
        (pairs.filter fun pair => ∀ c ∈ plan.conditions, c.holds (row pair) = true).map fun pair =>
          plan.fields.eraseDups.map fun field => (field, Join.cellOf plan.table pair field) := by
  intro right pairs row
  obtain ⟨hrows, hcount⟩ := joinStage_some hj left joined
  rw [Join.rows, Join.pairs_eq_fitting] at hrows
  have hall : ∀ pair, Condition.allHold plan.conditions (row pair) =
      decide (∀ c ∈ plan.conditions, c.holds (row pair) = true) := fun pair => by
    rw [Bool.eq_iff_iff, decide_eq_true_iff, Condition.allHold, List.all_eq_true]
  constructor
  · rw [show (plan.run left joined).1.joined = (plan.joinStage left joined).2.1 from rfl, hcount,
      hrows, List.length_map]
  · rw [run_ungrouped hg, hrows, List.filter_map, List.map_map, List.map_map]
    have hfilter : (Condition.allHold plan.conditions ∘ row) =
        fun pair => decide (∀ c ∈ plan.conditions, c.holds (row pair) = true) := funext hall
    rw [hfilter]
    exact List.map_congr_left fun pair _ => Join.entries_project_combine ..

/-- A right row without a match, and a field that is selected twice. -/
theorem run_join_right :
    let plan : Plan := ⟨["name", "cities.name", "name"], "users", [],
      some ⟨.right, "cities", "users.city", "cities.id"⟩, none⟩
    let left : List Row := [.ofList [("name", .text "Ann"), ("city", .text "1")]]
    let right : List Row := [.ofList [("id", .text "2"), ("name", .text "Oslo")],
      .ofList [("id", .text "1"), ("name", .text "Rome")]]
    (plan.run left (some right)).1.joined = some 2 ∧
      ((plan.run left (some right)).1.rows.map OrderMap.entries).map
          (List.map fun (key, cell) => (key, cell.text?)) =
        [[("name", none), ("cities.name", some "Oslo")],
          [("name", some "Ann"), ("cities.name", some "Rome")]] := by
  intro plan left right
  obtain ⟨hcount, hrows⟩ :=
    run_join (rfl : plan.join = _) (rfl : plan.groupBy = none) left (some right)
  rw [hcount, hrows]
  exact ⟨by decide +kernel, by decide +kernel⟩

end Plan

end FlatQuery
