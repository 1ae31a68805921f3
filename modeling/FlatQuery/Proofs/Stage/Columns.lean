import FlatQuery.Proofs.Stage.Group

/-!
# The columns that a query names

Every stage reads a row through the cells of the columns that it names, and
reads a missing cell as null (`holds_eq`, `number_eq`). So rows that agree on
these columns pass the same conditions, fall into the same groups with the
same tallies, and are projected to the same row.
-/

namespace FlatQuery

/-! ## Cells that are read -/

/-- Whether a cell compares as asked with a text. Null differs from every text. -/
def Comparison.accepts (c : Comparison) (value : String) : Cell → Bool
  | .null => c = .ne
  | cell => c.holds cell.render value

theorem Condition.holds_eq (c : Condition) (r : Row) :
    c.holds r = c.comparison.accepts c.value (r.cellOrNull c.field) := by
  unfold Condition.holds Row.cellOrNull
  cases r.get? c.field with
  | none => rfl
  | some cell => cases cell <;> rfl

theorem AggregateCall.number_eq (field : String) (r : Row) :
    number field r = (r.cellOrNull field).toFloat := by
  unfold number Row.cellOrNull
  cases r.get? field with
  | none => rw [Option.getD_none, Cell.toFloat]
  | some cell => rfl

/-! ## Rows that agree -/

/-- Both rows have the same cells in the columns, a missing cell being null. -/
def Row.Agree (columns : List String) (r s : Row) : Prop :=
  ∀ column ∈ columns, r.cellOrNull column = s.cellOrNull column

section
variable {columns : List String} {r s : Row}

theorem Row.agree_project (columns : List String) (r : Row) :
    Agree columns (r.project columns) r := by
  intro column hc
  rw [cellOrNull, Group.get?_project hc]
  rfl

section
variable (h : Row.Agree columns r s)
include h

theorem Condition.allHold_congr {cs : List Condition} (hc : ∀ c ∈ cs, c.field ∈ columns) :
    allHold cs r = allHold cs s := by
  unfold allHold
  rw [Bool.eq_iff_iff, List.all_eq_true, List.all_eq_true]
  refine forall₂_congr fun c hm => ?_
  rw [holds_eq, holds_eq, h c.field (hc c hm)]

theorem Row.Agree.map_eq {β : Type} {fields : List String} (hf : fields ⊆ columns)
    (f : String → Cell → β) :
    (fields.map fun field => f field (r.cellOrNull field)) =
      fields.map fun field => f field (s.cellOrNull field) := by
  apply List.map_congr_left
  intro field hm
  rw [h field (hf hm)]

theorem Row.project_congr {fields : List String} (hf : fields ⊆ columns) :
    r.project fields = s.project fields := congrArg OrderMap.ofList (h.map_eq hf Prod.mk)

theorem Group.key_congr {fields : List String} (hf : fields ⊆ columns) :
    key fields r = key fields s :=
  congrArg ("\x1f".intercalate ·) (h.map_eq hf fun _ cell => cell.render)

theorem Tally.start_congr {fields : List String} (hf : fields ⊆ columns) :
    start fields r = start fields s :=
  congrArg (fun cells => { start [] r with cells := cells }) (h.map_eq hf Prod.mk)

theorem Tally.take_congr {call : AggregateCall} (hc : call.field ∈ columns) (t : Tally) :
    take r t call = take s t call := by
  unfold take
  rw [AggregateCall.number_eq, AggregateCall.number_eq, h call.field hc]

theorem Tally.add_congr {calls : List AggregateCall} (hc : ∀ call ∈ calls, call.field ∈ columns)
    (t : Tally) : t.add calls r = t.add calls s :=
  List.foldl_ext _ _ _ fun t call hm => take_congr h (hc call hm) t

end

/-! ## Tables that agree -/

section
variable {rows rows' : List Row} (h : List.Forall₂ (Row.Agree columns) rows rows')
include h

theorem Condition.filter_congr {cs : List Condition} (hc : ∀ c ∈ cs, c.field ∈ columns) :
    List.Forall₂ (Row.Agree columns) (rows.filter (allHold cs)) (rows'.filter (allHold cs)) := by
  refine List.rel_filter (fun r s hrs => ?_) h
  exact Bool.eq_iff_iff.mp (allHold_congr hrs hc)

theorem Row.map_project_congr {fields : List String} (hf : fields ⊆ columns) :
    rows.map (project fields) = rows'.map (project fields) := by
  rw [← List.forall₂_eq_eq_eq]
  exact List.rel_map (R := Agree columns) (fun r s hrs => project_congr hrs hf) h

theorem Group.keys_congr {fields : List String} (hf : fields ⊆ columns) :
    keys fields rows = keys fields rows' := by
  have hkeys : rows.map (key fields) = rows'.map (key fields) := by
    rw [← List.forall₂_eq_eq_eq]
    exact List.rel_map (R := Row.Agree columns) (fun r s hrs => key_congr hrs hf) h
  exact congrArg List.eraseDups hkeys

theorem Group.collect_congr {fields : List String} (hf : fields ⊆ columns)
    {calls : List AggregateCall} (hc : ∀ call ∈ calls, call.field ∈ columns) :
    collect fields calls rows = collect fields calls rows' := by
  refine List.rel_foldl (P := Eq) (fun groups groups' hg r s hrs => ?_) rfl h
  rw [hg, key_congr hrs hf, Tally.start_congr hrs hf]
  simp only [Tally.add_congr hrs hc]

theorem Group.rows_congr {fields : List String} (hf : fields ⊆ columns) {selected : List String}
    (hc : ∀ call ∈ selected.filterMap AggregateCall.read?, call.field ∈ columns) :
    Group.rows fields selected rows = Group.rows fields selected rows' := by
  unfold Group.rows
  simp only [collect_congr h hf hc]

end

end

namespace Plan

/-- The columns that a query names: in its conditions, as grouping fields, as
selected entries and as arguments of selected calls. -/
def columns (plan : Plan) : List String :=
  plan.fields ++ plan.conditions.map Condition.field ++ plan.groupBy.getD [] ++
    (plan.fields.filterMap AggregateCall.read?).map AggregateCall.field

theorem run_congr {plan : Plan} (hj : plan.join = none) {columns : List String}
    (hc : plan.columns ⊆ columns) {rows rows' : List Row}
    (h : List.Forall₂ (Row.Agree columns) rows rows') (joined joined' : Option (List Row)) :
    plan.run rows joined = plan.run rows' joined' := by
  simp only [Plan.columns, List.append_subset] at hc
  obtain ⟨⟨⟨hfields, hconditions⟩, hgroup⟩, hcalls⟩ := hc
  have hkept := Condition.filter_congr h fun c hm => hconditions (List.mem_map_of_mem hm)
  have hloaded := h.length_eq
  have hfiltered := hkept.length_eq
  cases hg : plan.groupBy with
  | none =>
    have hrows := Row.map_project_congr hkept hfields
    simp only [run, joinStage, filterStage, groupStage, count, hj, hg, hloaded, hfiltered, hrows]
  | some fields =>
    rw [hg, Option.getD_some] at hgroup
    have hgroups := Group.rows_congr hkept hgroup fun call hm => hcalls (List.mem_map_of_mem hm)
    simp only [run, joinStage, filterStage, groupStage, count, hj, hg, hloaded, hfiltered, hgroups]

/-- **Columns.** A query without a join depends on its table only through the
cells of the columns that it names. Leaving out all other columns changes
nothing, and so does anything else that keeps these cells, with null for missing
cells or the other way round. -/
theorem run_columns {plan : Plan} (hj : plan.join = none) {columns : List String}
    (hc : plan.columns ⊆ columns) (rows : List Row) (joined : Option (List Row)) :
    plan.run (rows.map (Row.project columns)) joined = plan.run rows joined ∧
      ∀ (rows' : List Row) (joined' : Option (List Row)),
        List.Forall₂ (Row.Agree columns) rows rows' →
        plan.run rows' joined' = plan.run rows joined := by
  constructor
  · apply run_congr hj hc
    rw [List.forall₂_map_left_iff]
    exact List.forall₂_same.mpr fun r _ => Row.agree_project columns r
  · intro rows' joined' h
    exact (run_congr hj hc h joined joined').symm

/-- Another order of the columns, a column more, and nulls in place of missing cells. -/
theorem run_columns_sample :
    let plan : Plan := ⟨["city", "MAX(pay)"], "people", [⟨"note", .ne, "x"⟩], none, some ["city"]⟩
    let rows : List Row :=
      [.ofList [("city", .text "Oslo"), ("pay", .text "3"), ("age", .text "40")],
        .ofList [("note", .text "x")], .ofList [("city", .text "Oslo"), ("pay", .null)]]
    let rows' : List Row := [.ofList [("pay", .text "3"), ("note", .null), ("city", .text "Oslo")],
      .ofList [("city", .null), ("note", .text "x")], .ofList [("city", .text "Oslo")]]
    (plan.run rows none).1.filtered = 2 ∧
      plan.run (rows.map (Row.project plan.columns)) none = plan.run rows none ∧
      plan.run rows' none = plan.run rows none := by
  intro plan rows rows'
  have hcolumns : plan.columns = ["city", "MAX(pay)", "note", "city", "pay"] := by decide +kernel
  obtain ⟨hproject, hagree⟩ :=
    run_columns (rfl : plan.join = none) (List.Subset.refl plan.columns) rows none
  refine ⟨by decide +kernel, hproject, hagree rows' none ?_⟩
  rw [hcolumns]
  exact .cons (List.map_inj_left.mp (by cbv)) (.cons (List.map_inj_left.mp (by cbv))
    (.cons (List.map_inj_left.mp (by cbv)) .nil))

end Plan

end FlatQuery
