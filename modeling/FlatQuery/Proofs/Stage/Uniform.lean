import FlatQuery.Proofs.Stage.Qualified
import FlatQuery.Proofs.Table.Delimited

/-!
# Joins of uniform tables

The columns that one side brings to a joined row are those of its row, or those
of the first row of its table when the row is missing (`columns_sideCells`). In
a table whose rows all have the same columns this makes no difference
(`columns_side`), so matched and padded rows have the same columns in the same
order.
-/

namespace FlatQuery

/-- A table all of whose rows have these columns, in this order. -/
def Row.Uniform (columns : List String) (rows : List Row) : Prop := ∀ row ∈ rows, row.keys = columns

instance (columns : List String) (rows : List Row) : Decidable (Row.Uniform columns rows) :=
  inferInstanceAs (Decidable (∀ row ∈ rows, row.keys = columns))

namespace Join

/-! ## The columns of one side -/

theorem columns_sideCells (table : String) (shape side : Option Row) :
    (sideCells table shape side).map Prod.fst =
      ((side.or shape).elim [] OrderMap.keys).map (qualify table) := by
  unfold sideCells
  cases side with
  | some row => simp [OrderMap.keys]
  | none =>
    cases shape with
    | some row => simp
    | none => rfl

/-- The columns that a uniform table brings to a join. A table without rows brings none. -/
def broughtColumns (table : String) (columns : List String) (rows : List Row) : List String :=
  if rows.isEmpty then [] else columns.map (qualify table)

theorem columns_side {columns : List String} {rows : List Row} (h : Row.Uniform columns rows)
    {side : Option Row} (hs : ∀ row, side = some row → row ∈ rows) (table : String) :
    (sideCells table rows.head? side).map Prod.fst = broughtColumns table columns rows := by
  rw [columns_sideCells, broughtColumns]
  cases rows with
  | nil =>
    cases side with
    | some row => cases hs row rfl
    | none => rfl
  | cons first rest =>
    -- the row itself, or the first row in its place: both are rows of the table
    have hrow : ∃ row ∈ first :: rest, side.or (first :: rest).head? = some row := by
      cases side with
      | some row => exact ⟨row, hs row rfl, rfl⟩
      | none => exact ⟨first, List.mem_cons_self, rfl⟩
    obtain ⟨row, hm, hrow⟩ := hrow
    rw [hrow, Option.elim_some, h row hm, List.isEmpty_cons, if_neg Bool.false_ne_true]

/-! ## The columns of a joined row -/

theorem keys_combine (leftTable rightTable : String) (fields : List String)
    (leftShape rightShape : Option Row) (pair : Option Row × Option Row) :
    (combine leftTable rightTable fields leftShape rightShape pair).keys =
      ((sideCells leftTable leftShape pair.1).map Prod.fst ++
        (sideCells rightTable rightShape pair.2).map Prod.fst ++ fields).eraseDups := by
  have hfields : (fields.map fun field => (field, selectedCell leftTable pair.1 pair.2 field)).map
      Prod.fst = fields := by
    rw [List.map_map]
    exact List.map_id fields
  rw [combine, OrderMap.keys_ofList, List.map_append, List.map_append, hfields]

/-- **Uniform joins.** The rows of a table that is read from a text all have the same
columns. If all rows of either table have the same columns, then all rows of a
join have the same columns, padded or not: those of the left table with its name,
those of the right table with its name, then the selected fields, each at its
first place. -/
theorem rows_uniform :
    (∀ delimiter bytes rows, Delimited.parse delimiter bytes = .ok rows →
      ∃ columns, Row.Uniform columns rows) ∧
    ∀ (leftColumns rightColumns : List String) (left right : List Row),
      Row.Uniform leftColumns left → Row.Uniform rightColumns right →
      ∀ (clause : JoinClause) (fields : List String) (table : String),
        Row.Uniform
          (broughtColumns table leftColumns left ++
            broughtColumns clause.table rightColumns right ++ fields).eraseDups
          (rows clause fields table left right) := by
  refine ⟨fun _ _ _ => Delimited.keys_parse, ?_⟩
  intro leftColumns rightColumns left right hleft hright clause fields table row hrow
  obtain ⟨pair, hp, rfl⟩ := List.mem_map.mp hrow
  obtain ⟨hl, hr⟩ := mem_pairs hp
  rw [keys_combine, columns_side hleft hl, columns_side hright hr]

/-- A matched and two padded rows where a column of one table looks like one of the
other, and a join with a table that has no rows. -/
theorem rows_uniform_sample :
    let users : List Row := [.ofList [("city", .text "1"), ("cities.id", .text "a")],
      .ofList [("city", .null), ("cities.id", .text "b")]]
    let cities : List Row := [.ofList [("id", .text "1")], .ofList [("id", .text "2")]]
    let columns := ["users.city", "cities.id", "city"]
    let joined := fun kind right =>
      rows ⟨kind, "cities", "users.city", "cities.id"⟩ ["city", "cities.id"] "users" users right
    Delimited.parse 0x2C (Text.encode "id\n1\n2\n") = .ok cities ∧
      (∃ columns, Row.Uniform columns cities) ∧
      (joined .left cities).length = 2 ∧ Row.Uniform columns (joined .left cities) ∧
      (joined .right cities).length = 2 ∧ Row.Uniform columns (joined .right cities) ∧
      (joined .left []).length = 2 ∧ Row.Uniform columns (joined .left []) := by
  intro users cities columns joined
  have hparse : Delimited.parse 0x2C (Text.encode "id\n1\n2\n") = .ok cities := by rfl
  have husers : Row.Uniform ["city", "cities.id"] users := by decide +kernel
  have hcities : Row.Uniform ["id"] cities := by decide +kernel
  have hnone : Row.Uniform ["id"] [] := by decide +kernel
  have hpadded : (broughtColumns "users" ["city", "cities.id"] users ++
      broughtColumns "cities" ["id"] cities ++ ["city", "cities.id"]).eraseDups = columns := by
    decide +kernel
  have hempty : (broughtColumns "users" ["city", "cities.id"] users ++
      broughtColumns "cities" ["id"] [] ++ ["city", "cities.id"]).eraseDups = columns := by
    decide +kernel
  have hjoined : ∀ kind, Row.Uniform columns (joined kind cities) := by
    intro kind
    rw [← hpadded]
    exact rows_uniform.2 _ _ users cities husers hcities
      ⟨kind, "cities", "users.city", "cities.id"⟩ _ "users"
  refine ⟨hparse, rows_uniform.1 _ _ _ hparse, by decide +kernel, hjoined .left, by decide +kernel,
    hjoined .right, by decide +kernel, ?_⟩
  rw [← hempty]
  exact rows_uniform.2 _ _ users [] husers hnone
    ⟨.left, "cities", "users.city", "cities.id"⟩ _ "users"

end Join

end FlatQuery
