import FlatQuery.Proofs.Engine.Outcome
import FlatQuery.Proofs.Query.Rendering
import FlatQuery.Proofs.Stage.Columns

/-!
# Projecting again

A projected row agrees with the row it was made from in all selected columns, so
a second projection that asks for no other columns sees no difference
(`project_project`), and a row that is projected to its own columns stays as it
is (`project_keys`). The rows of a result are projected rows: kept as a table,
they are what the same list selects from it (`run_selecting_rows`).
-/

namespace FlatQuery

open Text

namespace Row

theorem project_project {fields others : List String} (h : others ⊆ fields) (r : Row) :
    (r.project fields).project others = r.project others :=
  project_congr (agree_project fields r) h

theorem project_keys (r : Row) : r.project r.keys = r := by
  have hnodup : ((r.keys.map fun key => (key, r.cellOrNull key)).map Prod.fst).Nodup := by
    rw [List.map_map]
    exact (List.map_id r.keys).symm ▸ r.nodup
  apply OrderMap.eq_of_entries
  calc (r.project r.keys).entries
      = r.keys.map fun key => (key, (r.get? key).getD .null) := OrderMap.entries_ofList hnodup
    _ = r.entries := (OrderMap.entries_eq r .null).symm

end Row

/-! ## Results as tables -/

namespace Plan

/-- Selects fields from a table and does nothing else. -/
def selecting (fields : List String) (table : String) : Plan := ⟨fields, table, [], none, none⟩

theorem run_selecting (fields : List String) (table : String) (rows : List Row)
    (joined : Option (List Row)) :
    ((selecting fields table).run rows joined).1.rows = rows.map (Row.project fields) := by
  have hall : rows.filter (Condition.allHold []) = rows := List.filter_eq_self.mpr fun _ _ => rfl
  simp only [run, selecting, joinStage, filterStage, groupStage, hall]

/-- What a plan has selected is selected again unchanged. -/
theorem run_selecting_rows (plan : Plan) (rows : List Row) (joined : Option (List Row))
    (table : String) (others : Option (List Row)) :
    ((selecting plan.fields table).run (plan.run rows joined).1.rows others).1.rows =
      (plan.run rows joined).1.rows := by
  rw [run_selecting]
  refine (List.map_congr_left fun row hrow => ?_).trans (List.map_id _)
  obtain ⟨r, -, rfl⟩ := List.mem_map.mp hrow
  exact Row.project_project (List.Subset.refl plan.fields) r

/-- The list of a query can be selected from every table whose name begins no clause. -/
theorem parse_selecting {query : String} {plan : Plan} (h : parse query = .ok plan) {table : String}
    (hn : Named table) (ha : Avoids (["JOIN"] :: clauseRows) table.toList) :
    parse (selecting plan.fields table).render = .ok (selecting plan.fields table) := by
  obtain ⟨s, hs, -, rfl⟩ := exists_sentence h
  let short : Sentence :=
    { s with table := ⟨table.toList, hn.1, hn.2⟩, join := none, filter := none, group := none }
  have hclear : short.Clear :=
    ⟨hs.list, ha, fun _ hj => (by cases hj), fun _ hf => (by cases hf), fun _ hg => (by cases hg)⟩
  have hplan : short.plan = selecting s.plan.fields table := by
    simp [short, Sentence.plan, selecting]
  have hread := hclear.tidy.parse_text allBlank_nil allBlank_nil
  rwa [List.nil_append, List.append_nil, short.text_tidy, String.ofList_toList, short.plan_tidy,
    hplan] at hread

end Plan

/-- A query that selects from one table in memory and does nothing else. -/
theorem execute_selecting {query : String} {fields : List String} {table : String}
    (h : Plan.parse query = .ok (.selecting fields table)) (store : Store) (rows : List Row)
    (elapsed : Nat) :
    (execute (Store.source (store.insert table rows)) elapsed query).value =
      .ok ((Plan.selecting fields table).run rows none).1 := by
  have hfound : (store.insert table rows).get? table = some rows := by
    rw [OrderMap.get?_insert, if_pos rfl]
  exact (Course.complete h (.single rfl hfound)).value_eq elapsed

/-- **Projection.** A projected row has the selected fields as its keys, and under
each the cell of the row or null. A second projection to some of the fields is
the same as one to these alone, and a row is its projection to its own keys. So
the rows of a query, kept as a table, come back when its list is selected from
the table, and any name that begins no clause can be that of the table. -/
theorem project_laws :
    (∀ (r : Row) (fields : List String),
      (r.project fields).keys = fields.eraseDups ∧
      (∀ field ∈ fields, (r.project fields).get? field = some ((r.get? field).getD .null)) ∧
      (r.project fields).project fields = r.project fields ∧
      (∀ others ⊆ fields, (r.project fields).project others = r.project others) ∧
      r.project r.keys = r) ∧
    ∀ (source : Source) (elapsed : Nat) (query : String) (result : Result),
      (execute source elapsed query).value = .ok result →
      ∃ plan, Plan.parse query = .ok plan ∧ ∀ table : String,
        (∀ again, Plan.parse again = .ok (.selecting plan.fields table) → ∀ store : Store,
          ∃ found, found.rows = result.rows ∧
            (execute (Store.source (store.insert table result.rows)) elapsed again).value =
              .ok found) ∧
        (Plan.Named table → Avoids (["JOIN"] :: clauseRows) table.toList →
          Plan.parse (Plan.selecting plan.fields table).render =
            .ok (.selecting plan.fields table)) := by
  constructor
  · intro r fields
    refine ⟨OrderMap.keys_ofList_map .., fun field hm => Group.get?_project hm r,
      Row.project_project (List.Subset.refl fields) r, ?_, r.project_keys⟩
    exact fun others h => Row.project_project h r
  · intro source elapsed query result h
    obtain ⟨plan, rows, joined, hparse, rfl⟩ := exists_run_of_ok h
    refine ⟨plan, hparse, fun table => ⟨fun again hagain store => ?_, Plan.parse_selecting hparse⟩⟩
    exact ⟨_, plan.run_selecting_rows rows joined table none,
      execute_selecting hagain store _ elapsed⟩

/-- A list with a repetition and a field that no row has, kept under another name. -/
theorem project_laws_sample :
    let rows : List Row := [.ofList [("age", .text "40"), ("name", .text "Ann")],
      .ofList [("age", .text "7"), ("name", .text "Bo")]]
    let source := Store.source (.ofList [("people", rows)])
    ∃ result found : Result,
      (execute source 0 "SELECT name, pay, name FROM people WHERE age = 7").value = .ok result ∧
      result.rows.map OrderMap.entries = [[("name", .text "Bo"), ("pay", .null)]] ∧
      (execute (Store.source (OrderMap.insert .empty "kept" result.rows)) 0
        "SELECT name,pay,name FROM kept").value = .ok found ∧ found.rows = result.rows := by
  intro rows source
  have hparse : Plan.parse "SELECT name, pay, name FROM people WHERE age = 7" =
      .ok ⟨["name", "pay", "name"], "people", [⟨"age", .eq, "7"⟩], none, none⟩ := by
    decide +kernel
  have hresult : (execute source 0 "SELECT name, pay, name FROM people WHERE age = 7").value = _ :=
    (Course.complete hparse (.single rfl rfl)).value_eq 0
  obtain ⟨plan, hplan, hkept⟩ := project_laws.2 source 0 _ _ hresult
  cases hplan.symm.trans hparse
  obtain ⟨hagain, hwritten⟩ := hkept "kept"
  have hread := hwritten ⟨by decide, by decide +kernel⟩ (by decide +kernel)
  obtain ⟨found, hrows, hfound⟩ := hagain _ hread .empty
  refine ⟨_, found, hresult, by cbv, ?_, hrows⟩
  exact hfound

end FlatQuery
