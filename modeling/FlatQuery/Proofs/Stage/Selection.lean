import FlatQuery.Proofs.Stage.Qualified

/-!
# Selected fields and counted rows

Conditions and groups read a joined row, and the selected fields are written
into it before. A field that is selected and read may have another cell than
without being selected, unless it is settled (`Settled`). What a query counts
depends on its selected fields through such fields only.
-/

namespace FlatQuery

namespace Join

/-- Selecting a field does not change the cell under it, in any row of the join. -/
def Settled (clause : JoinClause) (leftTable : String) (left right : List Row) (field : String) :
    Prop :=
  ∀ pair ∈ pairs clause.kind (agree (orientedKeys clause leftTable)) left right,
    (sides leftTable clause.table left.head? right.head? pair).cellOrNull field =
      cellOf leftTable pair field

theorem Apart.settled {clause : JoinClause} {leftTable : String} {left right : List Row}
    (h : Apart leftTable clause.table left right) (column : String) :
    Settled clause leftTable left right (leftTable ++ "." ++ column) ∧
      Settled clause leftTable left right (clause.table ++ "." ++ column) := by
  constructor
  · intro pair hp
    rw [h.sides_first hp, h.cellOf_first hp]
  · intro pair hp
    rw [h.sides_second hp, h.cellOf_second hp]

theorem length_rows (clause : JoinClause) (fields fields' : List String) (leftTable : String)
    (left right : List Row) : (rows clause fields leftTable left right).length =
      (rows clause fields' leftTable left right).length := by
  unfold rows
  rw [List.length_map, List.length_map]

/-- Two selections give joined rows that agree on the fields of which they
select the same, and on settled fields. -/
theorem rows_agree {clause : JoinClause} {leftTable : String} {left right : List Row}
    {fields fields' columns : List String}
    (h : ∀ column ∈ columns,
      (column ∈ fields ↔ column ∈ fields') ∨ Settled clause leftTable left right column) :
    List.Forall₂ (Row.Agree columns) (rows clause fields leftTable left right)
      (rows clause fields' leftTable left right) := by
  unfold rows
  rw [List.forall₂_map_left_iff, List.forall₂_map_right_iff]
  apply List.forall₂_same.mpr
  intro pair hp column hc
  rw [cellOrNull_combine, cellOrNull_combine]
  rcases h column hc with hsame | hsettled
  · simp only [hsame]
  · rw [hsettled pair hp, ite_self, ite_self]

end Join

namespace Plan

theorem run_counts {plan : Plan} {clause : JoinClause} (hj : plan.join = some clause)
    (left : List Row) (joined : Option (List Row)) :
    let output := Join.rows clause plan.fields plan.table left (joined.getD [])
    let kept := output.filter (Condition.allHold plan.conditions)
    let result := (plan.run left joined).1
    result.joined = some output.length ∧ result.filtered = kept.length ∧
      result.groups = plan.groupBy.map fun fields => (Group.keys fields kept).length := by
  intro output kept result
  obtain ⟨hrows, hcount⟩ := joinStage_some hj left joined
  have hkept : (plan.joinStage left joined).1.filter (Condition.allHold plan.conditions) =
      kept := by
    rw [hrows]
  refine ⟨hcount.trans (congrArg (fun l => some l.length) hrows), congrArg List.length hkept, ?_⟩
  · cases hg : plan.groupBy with
    | none => simp only [result, run, groupStage, hg, Option.map_none]
    | some fields =>
      rw [(run_rows_grouped hg left joined).2, Group.rows_eq, List.length_map, hkept]
      rfl

/-- **Selections.** Two selections join the same number of rows. They keep as
many and make as many groups, if every field of a condition or a group is
selected by both or by none, or is settled; a qualified column of tables that
can be told apart is settled. -/
theorem run_select {plan : Plan} {clause : JoinClause} (hj : plan.join = some clause)
    (selected : List String) (left : List Row) (joined : Option (List Row)) :
    let right := joined.getD []
    let result := (plan.run left joined).1
    let other := ({ plan with fields := selected }.run left joined).1
    let Settled := Join.Settled clause plan.table left right
    let Same := fun field => (field ∈ selected ↔ field ∈ plan.fields) ∨ Settled field
    other.joined = result.joined ∧
      ((∀ c ∈ plan.conditions, Same c.field) →
        other.filtered = result.filtered ∧
          ((∀ field ∈ plan.groupBy.getD [], Same field) → other.groups = result.groups)) ∧
      (Join.Apart plan.table clause.table left right → ∀ column,
        Settled (plan.table ++ "." ++ column) ∧ Settled (clause.table ++ "." ++ column)) := by
  intro right result other Settled Same
  have hj' : ({ plan with fields := selected } : Plan).join = some clause := hj
  obtain ⟨hjoined, hfiltered, hgroups⟩ := run_counts hj left joined
  obtain ⟨hjoined', hfiltered', hgroups'⟩ := run_counts hj' left joined
  have hkept : ∀ {columns : List String}, (∀ column ∈ columns, Same column) →
      (∀ c ∈ plan.conditions, c.field ∈ columns) →
      List.Forall₂ (Row.Agree columns)
        ((Join.rows clause selected plan.table left right).filter
          (Condition.allHold plan.conditions))
        ((Join.rows clause plan.fields plan.table left right).filter
          (Condition.allHold plan.conditions)) :=
    fun hsame hc => Condition.filter_congr (Join.rows_agree hsame) hc
  refine ⟨?_, fun hconditions => ⟨?_, fun hfields => ?_⟩, fun h => h.settled⟩
  · exact hjoined'.trans ((congrArg some (Join.length_rows ..)).trans hjoined.symm)
  · have hsame : ∀ column ∈ plan.conditions.map Condition.field, Same column :=
      List.forall_mem_map.mpr hconditions
    exact hfiltered'.trans
      ((hkept hsame fun c hc => List.mem_map_of_mem hc).length_eq.trans hfiltered.symm)
  · have hsame : ∀ column ∈ plan.conditions.map Condition.field ++ plan.groupBy.getD [],
        Same column := by
      rw [List.forall_mem_append]
      exact ⟨List.forall_mem_map.mpr hconditions, hfields⟩
    have hagree := hkept hsame fun c hc => List.mem_append_left _ (List.mem_map_of_mem hc)
    refine hgroups'.trans (Eq.trans ?_ hgroups.symm)
    apply Option.map_congr
    intro fields hg
    have hsub : fields ⊆ plan.conditions.map Condition.field ++ plan.groupBy.getD [] := by
      rw [Option.mem_def.mp hg]
      exact List.subset_append_right _ _
    rw [Group.keys_congr hagree hsub]

/-- A bare column that both selections have, and a qualified one that only the first has. -/
theorem run_select_sample :
    let plan : Plan := ⟨["name", "cities.id"], "users", [⟨"name", .ne, "Ann"⟩],
      some ⟨.left, "cities", "users.city", "cities.id"⟩, some ["cities.id"]⟩
    let users : List Row := [.ofList [("name", .text "Ann"), ("city", .text "1")],
      .ofList [("name", .text "Bob"), ("city", .text "1")], .ofList [("city", .text "9")]]
    let cities : List Row := [.ofList [("id", .text "1")]]
    let result := (plan.run users (some cities)).1
    let other := ({ plan with fields := ["users.city", "name"] }.run users (some cities)).1
    result.joined = some 3 ∧ other.joined = result.joined ∧ result.filtered = 2 ∧
      other.filtered = result.filtered ∧ other.groups = result.groups := by
  intro plan users cities result other
  have hapart : Join.Apart "users" "cities" users cities :=
    ⟨by decide, by decide +kernel, by decide +kernel, by decide +kernel, by decide +kernel⟩
  obtain ⟨hjoined, hcounts, hqualified⟩ :=
    run_select (rfl : plan.join = _) ["users.city", "name"] users (some cities)
  obtain ⟨hfiltered, hgroups⟩ := hcounts (List.forall_mem_singleton.mpr (Or.inl (by decide)))
  refine ⟨by decide +kernel, hjoined, by decide +kernel, hfiltered, hgroups ?_⟩
  intro field hf
  cases List.mem_singleton.mp hf
  exact Or.inr (hqualified hapart "id").2

/-- A condition on a bare column holds of other rows once the column is selected. -/
theorem run_select_bare :
    ¬ ∀ (plan : Plan) (clause : JoinClause) (selected : List String) (left : List Row)
        (joined : Option (List Row)), plan.join = some clause →
      let result := (plan.run left joined).1
      let other := ({ plan with fields := selected }.run left joined).1
      other.joined = result.joined ∧ other.filtered = result.filtered ∧
        other.groups = result.groups := by
  intro h
  obtain ⟨-, hfiltered, -⟩ :=
    h ⟨["name"], "student", [⟨"name", .eq, "Ann"⟩],
        some ⟨.inner, "enrollment", "student.id", "enrollment.student_id"⟩, none⟩
      _ ["student.id"] [.ofList [("id", .text "1"), ("name", .text "Ann")]]
      (some [.ofList [("student_id", .text "1"), ("course", .text "Math")]]) rfl
  revert hfiltered
  decide +kernel

end Plan

end FlatQuery
