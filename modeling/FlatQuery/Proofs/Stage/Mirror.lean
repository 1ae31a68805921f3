import FlatQuery.Proofs.Decimal.Order
import FlatQuery.Proofs.Stage.Join

/-!
# Right joins as left joins

Exchanging the tables and the sides of the condition exchanges the two rows of
every pair (`orientedKeys_swap`, `agree_swap`). A joined row then has its cells
in another order (`get?_combine_mirror`), as long as no column of one table is
taken for a column of the other.
-/

namespace FlatQuery

theorem Cell.beq_comm (a b : Cell) : (a == b) = (b == a) := by
  cases a with
  | null => cases b <;> rfl
  | text s =>
    cases b with
    | text t => exact @BEq.comm _ _ _ s t
    | _ => rfl
  | number x =>
    cases b with
    | number y => exact Decimal.beq_swap x y
    | _ => rfl

namespace Join

/-! ## Keys -/

theorem orientedKeys_swap (kind kind' : JoinKind) (first second left right : String) :
    orientedKeys ⟨kind', first, right, left⟩ second =
      (orientedKeys ⟨kind, second, left, right⟩ first).swap := by
  unfold orientedKeys
  by_cases h : (splitQualified left).1 = some second ∧ (splitQualified right).1 = some first ∧
      first ≠ second
  · rw [if_pos h, if_pos ⟨h.2.1, h.1, h.2.2.symm⟩]
    rfl
  · rw [if_neg h, if_neg fun hs => h ⟨hs.2.1, hs.1, hs.2.2.symm⟩]
    rfl

theorem agree_swap (keys : String × String) (l r : Row) : agree keys.swap r l = agree keys l r := by
  unfold agree
  rw [Prod.fst_swap, Prod.snd_swap]
  cases l.lookup keys.1 with
  | none => cases r.lookup keys.2 <;> rfl
  | some a =>
    cases r.lookup keys.2 with
    | none => rfl
    | some b => exact Cell.beq_comm b a

/-- The sides of a condition that names both tables may change places. -/
theorem orientedKeys_exchange {first second left right : String} (hne : first ≠ second)
    (hq : (splitQualified left).1 = some first ∧ (splitQualified right).1 = some second ∨
      (splitQualified left).1 = some second ∧ (splitQualified right).1 = some first)
    (kind : JoinKind) :
    orientedKeys ⟨kind, second, right, left⟩ first =
      orientedKeys ⟨kind, second, left, right⟩ first := by
  unfold orientedKeys
  rcases hq with ⟨hl, hr⟩ | ⟨hl, hr⟩
  · simp [hl, hr, hne]
  · simp [hl, hr, hne, hne.symm]

/-! ## Joined rows -/

theorem mem_outerPairs {partners : Row → List Row} {driving : List Row} {p : Row × Option Row}
    (h : p ∈ outerPairs partners driving) :
    p.1 ∈ driving ∧ ∀ other, p.2 = some other → other ∈ partners p.1 := by
  unfold outerPairs at h
  obtain ⟨row, hrow, hp⟩ := List.mem_flatMap.mp h
  cases hfound : partners row with
  | nil =>
    rw [hfound] at hp
    cases List.mem_singleton.mp hp
    exact ⟨hrow, fun other ho => by cases ho⟩
  | cons found more =>
    rw [hfound] at hp
    obtain ⟨other, ho, rfl⟩ := List.mem_map.mp hp
    refine ⟨hrow, fun o heq => ?_⟩
    cases heq
    rw [hfound]
    exact ho

/-- A pair has two rows that agree, or one row of the side that an outer join keeps. -/
theorem pairs_cases {kind : JoinKind} {p : Row → Row → Bool} {left right : List Row}
    {pair : Option Row × Option Row} (h : pair ∈ pairs kind p left right) :
    (∃ l ∈ left, ∃ r ∈ right, p l r = true ∧ pair = (some l, some r)) ∨
      (kind = .left ∧ ∃ l ∈ left, pair = (some l, none)) ∨
      (kind = .right ∧ ∃ r ∈ right, pair = (none, some r)) := by
  cases kind with
  | inner =>
    obtain ⟨l, hl, hp⟩ := List.mem_flatMap.mp h
    obtain ⟨r, hr, rfl⟩ := List.mem_map.mp hp
    obtain ⟨hr, hagree⟩ := List.mem_filter.mp hr
    exact Or.inl ⟨l, hl, r, hr, hagree, rfl⟩
  | left =>
    obtain ⟨⟨l, r⟩, hc, rfl⟩ := List.mem_map.mp h
    obtain ⟨hl, hpartner⟩ := mem_outerPairs hc
    cases r with
    | none => exact Or.inr (Or.inl ⟨rfl, l, hl, rfl⟩)
    | some r =>
      obtain ⟨hr, hagree⟩ := List.mem_filter.mp (hpartner r rfl)
      exact Or.inl ⟨l, hl, r, hr, hagree, rfl⟩
  | right =>
    obtain ⟨⟨r, l⟩, hc, rfl⟩ := List.mem_map.mp h
    obtain ⟨hr, hpartner⟩ := mem_outerPairs hc
    cases l with
    | none => exact Or.inr (Or.inr ⟨rfl, r, hr, rfl⟩)
    | some l =>
      obtain ⟨hl, hagree⟩ := List.mem_filter.mp (hpartner l rfl)
      exact Or.inl ⟨l, hl, r, hr, hagree, rfl⟩

/-- A cell of one side stands under a column of its row, or of the row it is shaped after. -/
theorem exists_column {table : String} {shape side : Option Row} {e : String × Cell}
    (h : e ∈ sideCells table shape side) :
    ∃ row, (side = some row ∨ shape = some row) ∧ ∃ key ∈ row.keys, e.1 = qualify table key := by
  unfold sideCells at h
  cases side with
  | some row =>
    obtain ⟨cell, hc, rfl⟩ := List.mem_map.mp h
    exact ⟨row, Or.inl rfl, cell.1, List.mem_map_of_mem hc, rfl⟩
  | none =>
    cases shape with
    | none => cases h
    | some row =>
      obtain ⟨key, hk, rfl⟩ := List.mem_map.mp h
      exact ⟨row, Or.inr rfl, key, hk, rfl⟩

theorem selectedCell_mirror {first second field : String} (hne : first ≠ second)
    (hf : (splitQualified field).1 = some first ∨ (splitQualified field).1 = some second)
    (l r : Option Row) : selectedCell first l r field = selectedCell second r l field := by
  unfold selectedCell
  rcases hf with hf | hf
  · simp [hf, hne]
  · simp [hf, hne.symm]

section
variable {first second : String} {fields : List String} {left right : List Row}
  (hne : first ≠ second)
  (hfields : ∀ f ∈ fields, (splitQualified f).1 = some first ∨ (splitQualified f).1 = some second)
  (hcolumns : ∀ l ∈ left, ∀ r ∈ right, ∀ j ∈ l.keys, ∀ k ∈ r.keys,
    qualify first j ≠ qualify second k)
include hne hfields hcolumns

theorem get?_combine_mirror {l r : Option Row} (hl : ∀ row, l = some row → row ∈ left)
    (hr : ∀ row, r = some row → row ∈ right) (k : String) :
    (combine first second fields left.head? right.head? (l, r)).get? k =
      (combine second first fields right.head? left.head? (r, l)).get? k := by
  have hcells : (fields.map fun f => (f, selectedCell first l r f)) =
      fields.map fun f => (f, selectedCell second r l f) := by
    apply List.map_congr_left
    intro f hf
    rw [selectedCell_mirror hne (hfields f hf)]
  have hdisjoint : ∀ e ∈ sideCells first left.head? l, ∀ f ∈ sideCells second right.head? r,
      e.1 ≠ f.1 := by
    intro e he f hf
    obtain ⟨row, hrow, j, hj, hje⟩ := exists_column he
    obtain ⟨other, hother, k, hk, hkf⟩ := exists_column hf
    rw [hje, hkf]
    exact hcolumns row (hrow.elim (hl row) List.mem_of_head?) other
      (hother.elim (hr other) List.mem_of_head?) j hj k hk
  unfold combine
  rw [OrderMap.get?_ofList_append, OrderMap.get?_ofList_append _ (fields.map _), hcells,
    OrderMap.get?_ofList_append_comm hdisjoint]

end

/-- **Right joins.** A right join is the left join of the tables in the other
order with the sides of the condition exchanged: row by row it has the same
cells under the same columns. When the condition names both tables, exchanging
its sides alone changes no join. -/
theorem rows_mirror {first second : String} (hne : first ≠ second) (onLeft onRight : String) :
    (∀ (fields : List String) (left right : List Row),
      (∀ f ∈ fields, (splitQualified f).1 = some first ∨ (splitQualified f).1 = some second) →
      (∀ l ∈ left, ∀ r ∈ right, ∀ j ∈ l.keys, ∀ k ∈ r.keys, qualify first j ≠ qualify second k) →
      List.Forall₂ (fun row mirrored => row.entries.Perm mirrored.entries)
        (rows ⟨.right, second, onLeft, onRight⟩ fields first left right)
        (rows ⟨.left, first, onRight, onLeft⟩ fields second right left)) ∧
    ((splitQualified onLeft).1 = some first ∧ (splitQualified onRight).1 = some second ∨
        (splitQualified onLeft).1 = some second ∧ (splitQualified onRight).1 = some first →
      ∀ (kind : JoinKind) (fields : List String) (left right : List Row),
        rows ⟨kind, second, onRight, onLeft⟩ fields first left right =
          rows ⟨kind, second, onLeft, onRight⟩ fields first left right) := by
  refine ⟨fun fields left right hfields hcolumns => ?_, fun hq kind fields left right => ?_⟩
  · unfold rows pairs
    simp only [orientedKeys_swap .right .left first second onLeft onRight, agree_swap, List.map_map]
    rw [List.forall₂_map_left_iff, List.forall₂_map_right_iff]
    apply List.forall₂_same.mpr
    intro p hp
    obtain ⟨hdriving, hpartner⟩ := mem_outerPairs hp
    apply OrderMap.entries_perm
    apply get?_combine_mirror hne hfields hcolumns
    · intro row hrow
      exact List.mem_of_mem_filter (hpartner row hrow)
    · intro row hrow
      cases hrow
      exact hdriving
  · unfold rows
    rw [orientedKeys_exchange hne hq]

/-- A right row without a partner, padded after the first left row. -/
theorem rows_mirror_sample :
    let users : List Row := [.ofList [("name", .text "Ann"), ("city", .text "1")]]
    let cities : List Row := [.ofList [("id", .text "2"), ("name", .text "Oslo")],
      .ofList [("id", .text "1"), ("cities.name", .text "Rome")]]
    let fields := ["users.name", "cities.name", "users.name"]
    (rows ⟨.right, "cities", "users.city", "cities.id"⟩ fields "users" users cities).length = 2 ∧
      List.Forall₂ (fun row mirrored => row.entries.Perm mirrored.entries)
        (rows ⟨.right, "cities", "users.city", "cities.id"⟩ fields "users" users cities)
        (rows ⟨.left, "users", "cities.id", "users.city"⟩ fields "cities" cities users) ∧
      rows ⟨.inner, "cities", "cities.id", "users.city"⟩ fields "users" users cities =
        rows ⟨.inner, "cities", "users.city", "cities.id"⟩ fields "users" users cities := by
  intro users cities fields
  obtain ⟨hmirror, hexchange⟩ :=
    rows_mirror (by decide : "users" ≠ "cities") "users.city" "cities.id"
  refine ⟨by decide +kernel, ?_, ?_⟩
  · exact hmirror fields users cities (by decide +kernel) (by decide +kernel)
  · exact hexchange (Or.inl (by decide +kernel)) .inner fields users cities

end Join

end FlatQuery
