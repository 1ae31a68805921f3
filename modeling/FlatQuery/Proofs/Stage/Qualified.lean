import FlatQuery.Proofs.Stage.Columns
import FlatQuery.Proofs.Stage.Mirror

/-!
# Qualified columns of a joined row

A joined row has the cells of both sides and then the selected fields
(`cellOrNull_combine`). If the tables have different names, and neither these
nor the column names of the rows have a dot, then `T.c` is the column `c` of
the row from `T`, whatever is selected (`cellOrNull_first`,
`cellOrNull_second`). So a condition on `T.c` can be decided before the join.
-/

namespace FlatQuery

open Text

/-! ## Names with a dot -/

theorem toList_dotted (table column : String) :
    (table ++ "." ++ column).toList = table.toList ++ '.' :: column.toList := by
  simp

theorem splitQualified_dotted {table : String} (ht : '.' ∉ table.toList) (column : String) :
    splitQualified (table ++ "." ++ column) = (some table, column) := by
  rw [splitQualified, toList_dotted, splitFirst?_more ht]
  simp

theorem dotted_ne {table other : String} (ht : '.' ∉ table.toList) (ho : '.' ∉ other.toList)
    (hne : other ≠ table) (column key : String) : other ++ "." ++ key ≠ table ++ "." ++ column := by
  intro h
  have hs := congrArg (fun field => (splitQualified field).1) h
  simp only [splitQualified_dotted ht, splitQualified_dotted ho] at hs
  exact hne (Option.some.inj hs)

theorem dotted_injective (table : String) : (fun column => table ++ "." ++ column).Injective :=
  fun _ _ h => String.append_right_inj _ |>.mp h

/-- A row whose column names have no dot. -/
def Row.Dotless (r : Row) : Prop := ∀ key ∈ r.keys, '.' ∉ key.toList

instance (r : Row) : Decidable r.Dotless :=
  inferInstanceAs (Decidable (∀ key ∈ r.keys, '.' ∉ key.toList))

theorem Row.get?_dotted {r : Row} (hr : r.Dotless) (table column : String) :
    r.get? (table ++ "." ++ column) = none := by
  rw [← Option.not_isSome_iff_eq_none]
  intro h
  apply hr _ (OrderMap.contains_iff.mp h)
  rw [toList_dotted]
  simp

theorem Row.present?_getD (r : Row) (column : String) :
    (r.present? column).getD .null = r.cellOrNull column := by
  unfold present? cellOrNull
  cases r.get? column with
  | none => rfl
  | some cell => cases cell <;> rfl

/-- Looking up `T.c` in a row without dots gives the cell of `c`. -/
theorem Row.lookup_dotted {r : Row} (hr : r.Dotless) {table : String} (ht : '.' ∉ table.toList)
    (column : String) : (r.lookup (table ++ "." ++ column)).getD .null = r.cellOrNull column := by
  have hfield : r.present? (table ++ "." ++ column) = none := by
    rw [present?, get?_dotted hr]
    rfl
  rw [← present?_getD, lookup, hfield, splitQualified_dotted ht]
  rfl

namespace Join

/-! ## The cells of one side -/

theorem qualify_dotless {key : String} (hk : '.' ∉ key.toList) (table : String) :
    qualify table key = table ++ "." ++ key := if_neg hk

theorem cellOrNull_of_nulls {l : List (String × Cell)} (h : ∀ e ∈ l, e.2 = .null) (key : String) :
    Row.cellOrNull (.ofList l) key = .null := by
  unfold Row.cellOrNull
  by_cases hk : ∀ e ∈ l, e.1 ≠ key
  · rw [OrderMap.get?_ofList_eq_none hk]
    rfl
  · simp only [not_forall, not_not] at hk
    obtain ⟨⟨_, cell⟩, he, rfl⟩ := hk
    have hcell : cell = .null := h _ he
    rw [OrderMap.get?_ofList_eq_some (hcell ▸ he) fun e hm _ => h e hm]
    rfl

/-- A side brings the cells of its row. A missing side brings nulls. -/
theorem cellOrNull_sideCells (table : String) (shape : Option Row) {side : Option Row}
    (hs : ∀ row, side = some row → row.Dotless) (column : String) :
    Row.cellOrNull (.ofList (sideCells table shape side)) (table ++ "." ++ column) =
      (side.getD .empty).cellOrNull column := by
  cases side with
  | some row =>
    have hcells : sideCells table shape (some row) =
        row.entries.map fun e => (table ++ "." ++ e.1, e.2) := by
      apply List.map_congr_left
      intro e he
      rw [← qualify_dotless (hs row rfl e.1 (List.mem_map_of_mem he))]
    unfold Row.cellOrNull
    rw [hcells, OrderMap.get?_ofList_rename row (dotted_injective table)]
    rfl
  | none =>
    apply cellOrNull_of_nulls
    cases shape with
    | none => exact fun e he => nomatch he
    | some row =>
      intro e he
      obtain ⟨key, _, rfl⟩ := List.mem_map.mp he
      rfl

/-- A side writes nothing under the columns of the other table. -/
theorem get?_sideCells {table other : String} (ht : '.' ∉ table.toList) (ho : '.' ∉ other.toList)
    (hne : other ≠ table) {shape side : Option Row}
    (hs : ∀ row, side = some row ∨ shape = some row → row.Dotless) (column : String) :
    (OrderMap.ofList (sideCells other shape side)).get? (table ++ "." ++ column) = none := by
  apply OrderMap.get?_ofList_eq_none
  intro e he
  obtain ⟨row, hrow, key, hk, hname⟩ := exists_column he
  rw [hname, qualify_dotless (hs row hrow key hk)]
  exact dotted_ne ht ho hne column key

/-! ## The cells of a joined row -/

/-- What the rows of a pair bring to the joined row, the selected fields apart. -/
def sides (leftTable rightTable : String) (leftShape rightShape : Option Row)
    (pair : Option Row × Option Row) : Row :=
  .ofList (sideCells leftTable leftShape pair.1 ++ sideCells rightTable rightShape pair.2)

theorem cellOrNull_combine (leftTable rightTable : String) (fields : List String)
    (leftShape rightShape : Option Row) (pair : Option Row × Option Row) (field : String) :
    (combine leftTable rightTable fields leftShape rightShape pair).cellOrNull field =
      if field ∈ fields then cellOf leftTable pair field
      else (sides leftTable rightTable leftShape rightShape pair).cellOrNull field := by
  unfold Row.cellOrNull
  by_cases h : field ∈ fields
  · rw [if_pos h, get?_combine h]
    rfl
  · rw [if_neg h, combine, OrderMap.get?_ofList_append, OrderMap.get?_ofList_map, if_neg h,
      Option.none_or]
    rfl

theorem mem_pairs {kind : JoinKind} {p : Row → Row → Bool} {left right : List Row}
    {pair : Option Row × Option Row} (h : pair ∈ pairs kind p left right) :
    (∀ l, pair.1 = some l → l ∈ left) ∧ ∀ r, pair.2 = some r → r ∈ right := by
  rcases pairs_cases h with ⟨l, hl, r, hr, _, rfl⟩ | ⟨_, l, hl, rfl⟩ | ⟨_, r, hr, rfl⟩
  · exact ⟨fun l' he => Option.some.inj he ▸ hl, fun r' he => Option.some.inj he ▸ hr⟩
  · exact ⟨fun l' he => Option.some.inj he ▸ hl, nofun⟩
  · exact ⟨nofun, fun r' he => Option.some.inj he ▸ hr⟩

/-- The columns of two tables can be told apart by their qualified names. -/
structure Apart (first second : String) (left right : List Row) : Prop where
  ne : first ≠ second
  first : '.' ∉ first.toList
  second : '.' ∉ second.toList
  left : ∀ row ∈ left, row.Dotless
  right : ∀ row ∈ right, row.Dotless

namespace Apart

variable {first second : String} {left right : List Row} (h : Apart first second left right)
  {kind : JoinKind} {p : Row → Row → Bool} {pair : Option Row × Option Row}
  (hp : pair ∈ pairs kind p left right)
include h hp

theorem dotless_left : ∀ row, pair.1 = some row ∨ left.head? = some row → row.Dotless := by
  intro row hrow
  exact h.left row (hrow.elim ((mem_pairs hp).1 row) List.mem_of_head?)

theorem dotless_right : ∀ row, pair.2 = some row ∨ right.head? = some row → row.Dotless := by
  intro row hrow
  exact h.right row (hrow.elim ((mem_pairs hp).2 row) List.mem_of_head?)

variable (column : String)

theorem sides_first :
    (sides first second left.head? right.head? pair).cellOrNull (first ++ "." ++ column) =
      (pair.1.getD .empty).cellOrNull column := by
  rw [sides, Row.cellOrNull, OrderMap.get?_ofList_append,
    get?_sideCells h.first h.second h.ne.symm (h.dotless_right hp), Option.none_or]
  exact cellOrNull_sideCells first left.head?
    (fun row hrow => h.dotless_left hp row (Or.inl hrow)) column

theorem sides_second :
    (sides first second left.head? right.head? pair).cellOrNull (second ++ "." ++ column) =
      (pair.2.getD .empty).cellOrNull column := by
  rw [sides, Row.cellOrNull, OrderMap.get?_ofList_append,
    get?_sideCells h.second h.first h.ne (h.dotless_left hp), Option.or_none]
  exact cellOrNull_sideCells second right.head?
    (fun row hrow => h.dotless_right hp row (Or.inl hrow))
    column

theorem cellOf_first :
    cellOf first pair (first ++ "." ++ column) = (pair.1.getD .empty).cellOrNull column := by
  rw [← selectedCell_eq, selectedCell, splitQualified_dotted h.first]
  simp only [if_true]
  cases hl : pair.1 with
  | none => rfl
  | some row => exact Row.lookup_dotted (h.dotless_left hp row (Or.inl hl)) h.first column

theorem cellOf_second :
    cellOf first pair (second ++ "." ++ column) = (pair.2.getD .empty).cellOrNull column := by
  rw [← selectedCell_eq, selectedCell, splitQualified_dotted h.second]
  simp only [if_neg h.ne.symm]
  cases hr : pair.2 with
  | none => rfl
  | some row => exact Row.lookup_dotted (h.dotless_right hp row (Or.inl hr)) h.second column

/-- Whatever is selected, a qualified column is the column of its own side. -/
theorem combine_first (fields : List String) :
    (combine first second fields left.head? right.head? pair).cellOrNull (first ++ "." ++ column) =
      (pair.1.getD .empty).cellOrNull column := by
  rw [cellOrNull_combine, h.cellOf_first hp, h.sides_first hp, ite_self]

theorem combine_second (fields : List String) :
    (combine first second fields left.head? right.head? pair).cellOrNull (second ++ "." ++ column) =
      (pair.2.getD .empty).cellOrNull column := by
  rw [cellOrNull_combine, h.cellOf_second hp, h.sides_second hp, ite_self]

end Apart

end Join

/-! ## Conditions on qualified columns -/

/-- The condition on the column of a table. -/
def Condition.qualified (table : String) (c : Condition) : Condition :=
  { c with field := table ++ "." ++ c.field }

namespace Join

section
variable {first second : String} {left right : List Row} (h : Apart first second left right)
  {kind : JoinKind} {p : Row → Row → Bool} {pair : Option Row × Option Row}
  (hp : pair ∈ pairs kind p left right) (fields : List String)
include h hp

theorem holds_combine (c : Condition) :
    let row := combine first second fields left.head? right.head? pair
    (c.qualified first).holds row = c.holds (pair.1.getD .empty) ∧
      (c.qualified second).holds row = c.holds (pair.2.getD .empty) := by
  intro row
  rw [Condition.holds_eq, Condition.holds_eq, Condition.holds_eq, Condition.holds_eq]
  exact ⟨congrArg _ (h.combine_first hp c.field fields),
    congrArg _ (h.combine_second hp c.field fields)⟩

theorem allHold_combine (conditions : List Condition) :
    Condition.allHold (conditions.map (Condition.qualified first))
        (combine first second fields left.head? right.head? pair) =
      Condition.allHold conditions (pair.1.getD .empty) := by
  unfold Condition.allHold
  rw [List.all_map]
  congr 1
  funext c
  exact (holds_combine h hp fields c).1

end

/-! ## Filtering the driving table -/

theorem filter_flatMap_driving {α β : Type} {q : α → Bool} {q' : β → Bool} {f : α → List β}
    (h : ∀ a, ∀ b ∈ f a, q' b = q a) (l : List α) :
    (l.flatMap f).filter q' = (l.filter q).flatMap f := by
  induction l with
  | nil => rfl
  | cons a l ih =>
    rw [List.flatMap_cons, List.filter_append, ih, List.filter_cons]
    by_cases ha : q a = true
    · rw [if_pos ha, List.flatMap_cons, List.filter_eq_self.mpr fun b hb => (h a b hb).trans ha]
    · rw [if_neg ha, List.filter_eq_nil_iff.mpr fun b hb => by rw [h a b hb]; exact ha]
      rfl

theorem filter_outerPairs (partners : Row → List Row) (driving : List Row) (q : Row → Bool) :
    ((outerPairs partners driving).filter fun c => q c.1) =
      outerPairs partners (driving.filter q) := by
  apply filter_flatMap_driving
  intro row c hc
  cases h : partners row with
  | nil =>
    rw [h] at hc
    cases List.mem_singleton.mp hc
    rfl
  | cons found more =>
    rw [h] at hc
    obtain ⟨other, _, rfl⟩ := List.mem_map.mp hc
    rfl

theorem filter_pairs {kind : JoinKind} (hk : kind ≠ .right) (p : Row → Row → Bool)
    (left right : List Row) (q : Row → Bool) :
    ((pairs kind p left right).filter fun pair => q (pair.1.getD .empty)) =
      pairs kind p (left.filter q) right := by
  cases kind with
  | inner =>
    apply filter_flatMap_driving
    intro l pair hp
    obtain ⟨r, _, rfl⟩ := List.mem_map.mp hp
    rfl
  | left =>
    unfold pairs
    rw [← filter_outerPairs, List.filter_map]
    rfl
  | right => exact absurd rfl hk

theorem exists_left {kind : JoinKind} (hk : kind ≠ .right) {p : Row → Row → Bool}
    {left right : List Row} {pair : Option Row × Option Row} (h : pair ∈ pairs kind p left right) :
    ∃ l, pair.1 = some l := by
  rcases pairs_cases h with ⟨l, _, r, _, _, rfl⟩ | ⟨_, l, _, rfl⟩ | ⟨he, _⟩
  · exact ⟨l, rfl⟩
  · exact ⟨l, rfl⟩
  · exact absurd he hk

/-- **Qualified conditions.** In the join of two tables with columns that can be
told apart, a condition on a qualified column holds of a joined row exactly if
it holds of the row of this table, whatever is selected. A missing row is a row
without columns. So conditions on the left table may filter its rows before an
inner or a left join. -/
theorem rows_qualified {clause : JoinClause} {first : String} {left right : List Row}
    (h : Apart first clause.table left right) (fields : List String) :
    List.Forall₂ (fun pair row => ∀ c : Condition,
        (c.qualified first).holds row = c.holds (pair.1.getD .empty) ∧
          (c.qualified clause.table).holds row = c.holds (pair.2.getD .empty))
      (pairs clause.kind (agree (orientedKeys clause first)) left right)
      (rows clause fields first left right) ∧
    (clause.kind ≠ .right → ∀ conditions : List Condition,
      (rows clause fields first left right).filter
          (Condition.allHold (conditions.map (Condition.qualified first))) =
        rows clause fields first (left.filter (Condition.allHold conditions)) right) := by
  constructor
  · unfold rows
    rw [List.forall₂_map_right_iff]
    exact List.forall₂_same.mpr fun pair hp => holds_combine h hp fields
  · intro hk conditions
    unfold rows
    rw [List.filter_map, ← filter_pairs hk]
    generalize hp : pairs clause.kind (agree (orientedKeys clause first)) left right = origins
    have hfilter : origins.filter (Condition.allHold (conditions.map (Condition.qualified first)) ∘
        combine first clause.table fields left.head? right.head?) =
          origins.filter fun pair => Condition.allHold conditions (pair.1.getD .empty) :=
      List.filter_congr fun pair hm => allHold_combine h (hp ▸ hm) fields conditions
    rw [hfilter]
    apply List.map_congr_left
    intro pair hm
    obtain ⟨l, hl⟩ := exists_left hk (hp ▸ List.mem_of_mem_filter hm)
    -- the first left row gives a shape to missing rows only
    unfold combine
    rw [hl]
    rfl

/-- Two users without a city, and a selected field that a condition reads. -/
theorem rows_qualified_sample :
    let users : List Row := [.ofList [("city", .text "1"), ("age", .text "40")],
      .ofList [("city", .text "9"), ("age", .text "7")], .ofList [("age", .text "5")]]
    let cities : List Row := [.ofList [("id", .text "1"), ("name", .text "Oslo")]]
    let clause : JoinClause := ⟨.left, "cities", "users.city", "cities.id"⟩
    let elsewhere : Condition := ⟨"name", .ne, "Oslo"⟩
    let older : Condition := ⟨"age", .gt, "5"⟩
    let joined := rows clause ["cities.name", "age"] "users" users cities
    joined.map (elsewhere.qualified "cities").holds = [false, true, true] ∧
      joined.filter (Condition.allHold [older.qualified "users"]) =
        rows clause ["cities.name", "age"] "users" (users.filter (Condition.allHold [older]))
          cities ∧
      (users.filter (Condition.allHold [older])).length = 1 := by
  intro users cities clause elsewhere older joined
  have hapart : Apart "users" "cities" users cities :=
    ⟨by decide, by decide +kernel, by decide +kernel, by decide +kernel, by decide +kernel⟩
  obtain ⟨hreads, hfilter⟩ := @rows_qualified clause _ _ _ hapart ["cities.name", "age"]
  have hholds : (pairs clause.kind (agree (orientedKeys clause "users")) users cities).map
      (fun pair => elsewhere.holds (pair.2.getD .empty)) =
        joined.map (elsewhere.qualified "cities").holds := by
    rw [← List.forall₂_eq_eq_eq, List.forall₂_map_left_iff, List.forall₂_map_right_iff]
    exact hreads.imp fun pair row hrow => (hrow elsewhere).2.symm
  refine ⟨?_, hfilter (by decide) [older], by decide +kernel⟩
  rw [← hholds]
  decide +kernel

end Join

end FlatQuery
