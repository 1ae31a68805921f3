import FlatQuery.Engine
import FlatQuery.Proofs.Stage.Counts

/-!
# What a call comes to

A call is settled by reading the query, then by loading its tables, then by its
plan (`execute_rejected`, `execute_failed`, `execute_loaded`). Over tables in
memory it takes one of five courses (`Course`), which exclude each other; every
call takes one (`exists_course`). An explanation stops after the first step, so
it agrees with the call as far as that goes.
-/

namespace FlatQuery

/-! ## The steps of a call -/

/-- The first record of a call. -/
def opened (query : String) : Record := ⟨.info, "QUERY_BEGIN", [("query", query)]⟩

/-- The last record of a call, by its outcome. -/
def closed (query : String) (elapsed : Nat) (severity : Severity) (event : String)
    (fields : List (String × String)) : Record :=
  ⟨severity, event, ("query", query) :: fields ++ [("elapsed_ms", Decimal.numeral elapsed)]⟩

section
variable (source : Source) (elapsed : Nat) {query : String}

theorem execute_rejected {error : QueryError} (h : Plan.parse query = .error error) :
    execute source elapsed query =
      ⟨.error (.query error),
        [opened query,
          closed query elapsed .warn "QUERY_REJECTED"
            [("code", error.code), ("reason", error.message)]]⟩ := by
  unfold execute
  simp only [h]
  rfl

variable {plan : Plan} (h : Plan.parse query = .ok plan)
include h

theorem execute_failed {error : TableError} (ht : (loadTables source plan).value = .error error) :
    execute source elapsed query =
      ⟨.error (.table error),
        [opened query, parsedRecord plan] ++ (loadTables source plan).records ++
          [closed query elapsed .error "QUERY_FAILED"
            [("code", error.code), ("reason", error.message)]]⟩ := by
  unfold execute
  simp only [h, ht]
  rfl

theorem execute_loaded {rows : List Row} {joined : Option (List Row)}
    (ht : (loadTables source plan).value = .ok (rows, joined)) :
    let result := (plan.run rows joined).1
    execute source elapsed query =
      ⟨.ok result,
        [opened query, parsedRecord plan] ++ (loadTables source plan).records ++
          (plan.run rows joined).2 ++
          [closed query elapsed .info "QUERY_COMPLETE"
            [("rows", Decimal.numeral result.rows.length)]]⟩ := by
  unfold execute
  simp only [h, ht]
  rfl

end

/-! ## Tables in memory -/

/-- How the tables of a plan are loaded, where `last` has the rows of each table:
what comes of it, and the tables that were there, in order. -/
inductive Loads (last : String → Option (List Row)) (plan : Plan) :
    Except TableError (List Row × Option (List Row)) → List (String × List Row) → Prop
  | noTable : last plan.table = none → Loads last plan (.error (.notFound plan.table)) []
  | noJoined {clause rows} : plan.join = some clause → last plan.table = some rows →
      last clause.table = none →
      Loads last plan (.error (.notFound clause.table)) [(plan.table, rows)]
  | single {rows} : plan.join = none → last plan.table = some rows →
      Loads last plan (.ok (rows, none)) [(plan.table, rows)]
  | joined {clause rows others} : plan.join = some clause → last plan.table = some rows →
      last clause.table = some others →
      Loads last plan (.ok (rows, some others)) [(plan.table, rows), (clause.table, others)]

/-- How a call goes: its outcome, and the tables it has loaded. -/
inductive Course (last : String → Option (List Row)) (query : String) :
    Except EngineError Result → List (String × List Row) → Prop
  | rejected {error} : Plan.parse query = .error error →
      Course last query (.error (.query error)) []
  | failed {plan error loaded} : Plan.parse query = .ok plan →
      Loads last plan (.error error) loaded → Course last query (.error (.table error)) loaded
  | complete {plan rows joined loaded} : Plan.parse query = .ok plan →
      Loads last plan (.ok (rows, joined)) loaded →
      Course last query (.ok (plan.run rows joined).1) loaded

theorem exists_loads (last : String → Option (List Row)) (plan : Plan) :
    ∃ tables loaded, Loads last plan tables loaded := by
  cases ht : last plan.table with
  | none => exact ⟨_, _, .noTable ht⟩
  | some rows =>
    cases hj : plan.join with
    | none => exact ⟨_, _, .single hj ht⟩
    | some clause =>
      cases hc : last clause.table with
      | none => exact ⟨_, _, .noJoined hj ht hc⟩
      | some others => exact ⟨_, _, .joined hj ht hc⟩

theorem exists_course (last : String → Option (List Row)) (query : String) :
    ∃ outcome loaded, Course last query outcome loaded := by
  cases h : Plan.parse query with
  | error error => exact ⟨_, _, .rejected h⟩
  | ok plan =>
    obtain ⟨tables, loaded, hl⟩ := exists_loads last plan
    cases tables with
    | error error => exact ⟨_, _, .failed h hl⟩
    | ok tables => exact ⟨_, _, .complete h hl⟩

section
variable {store : Store}

theorem loadTable_missing {name : String} (h : store.get? name = none) :
    loadTable store.source name = ⟨.error (.notFound name), []⟩ := by
  unfold loadTable Store.source Store.load
  simp only [h]

theorem loadTable_found {name : String} {rows : List Row} (h : store.get? name = some rows) :
    loadTable store.source name = ⟨.ok rows, [loadedRecord name rows]⟩ := by
  unfold loadTable Store.source Store.load
  simp only [h]

/-- No table in memory is refused, so the tables are asked for one after the other. -/
theorem loadTables_join {plan : Plan} {clause : JoinClause} (hj : plan.join = some clause) :
    loadTables store.source plan =
      match loadTable store.source plan.table with
      | ⟨.error error, records⟩ => ⟨.error error, records⟩
      | ⟨.ok rows, records⟩ =>
        ⟨(loadTable store.source clause.table).value.map fun joined => (rows, some joined),
          records ++ (loadTable store.source clause.table).records⟩ := by
  unfold loadTables
  simp only [hj]
  rw [show firstRefusal? store.source [plan.table, clause.table] = none from rfl]
  obtain ⟨value, records⟩ := loadTable store.source plan.table
  cases value with
  | error error => rfl
  | ok rows => rfl

theorem loadTables_single {plan : Plan} (hj : plan.join = none) :
    loadTables store.source plan =
      ⟨(loadTable store.source plan.table).value.map fun rows => (rows, none),
        (loadTable store.source plan.table).records⟩ := by
  unfold loadTables
  simp only [hj]

theorem Loads.loadTables_eq {plan : Plan} {tables loaded}
    (h : Loads store.get? plan tables loaded) :
    loadTables store.source plan =
      ⟨tables, loaded.map fun (name, rows) => loadedRecord name rows⟩ := by
  cases h with
  | noTable ht =>
    cases hj : plan.join with
    | none =>
      rw [loadTables_single hj, loadTable_missing ht]
      rfl
    | some clause =>
      rw [loadTables_join hj, loadTable_missing ht]
      rfl
  | noJoined hj ht hc =>
    rw [loadTables_join hj, loadTable_found ht, loadTable_missing hc]
    rfl
  | single hj ht =>
    rw [loadTables_single hj, loadTable_found ht]
    rfl
  | joined hj ht hc =>
    rw [loadTables_join hj, loadTable_found ht, loadTable_found hc]
    rfl

theorem Course.value_eq {query : String} {outcome loaded}
    (h : Course store.get? query outcome loaded) (elapsed : Nat) :
    (execute store.source elapsed query).value = outcome := by
  cases h with
  | rejected h => rw [execute_rejected store.source elapsed h]
  | failed h hl =>
    rw [execute_failed store.source elapsed h (congrArg Traced.value hl.loadTables_eq)]
  | complete h hl =>
    rw [execute_loaded store.source elapsed h (congrArg Traced.value hl.loadTables_eq)]

end

/-- **Outcomes.** Over tables that were added one after the other, a call comes to
what its course says and to nothing else: the error of the query, else the first
table that was never added, else the result over the rows added last under each
name. A rejected query is the same call over every source. -/
theorem execute_outcome (inserts : List (String × List Row)) (elapsed : Nat) (query : String) :
    let store : Store := .ofList inserts
    let last := fun name => inserts.reverse.lookup name
    (∀ outcome, (execute store.source elapsed query).value = outcome ↔
        ∃ loaded, Course last query outcome loaded) ∧
      ∀ error, Plan.parse query = .error error → ∀ source : Source,
        execute source elapsed query = execute store.source elapsed query := by
  intro store last
  have hlast : store.get? = last := funext (OrderMap.get?_ofList_eq_lookup inserts)
  refine ⟨fun outcome => ⟨fun hvalue => ?_, fun ⟨loaded, hcourse⟩ => ?_⟩, fun error h source => ?_⟩
  · obtain ⟨outcome', loaded, hcourse⟩ := exists_course last query
    have hvalue' := (hlast ▸ hcourse : Course store.get? query outcome' loaded).value_eq elapsed
    exact ⟨loaded, (hvalue.symm.trans hvalue') ▸ hcourse⟩
  · exact (hlast ▸ hcourse : Course store.get? query outcome loaded).value_eq elapsed
  · rw [execute_rejected source elapsed h, execute_rejected store.source elapsed h]

/-- A table that was added twice, and one that was never added. -/
theorem execute_outcome_sample :
    let inserts : List (String × List Row) :=
      [("people", [.ofList [("name", .text "Ann")]]), ("people", []),
        ("cities", [.ofList [("id", .text "1")]])]
    let outcome := fun query => (execute (Store.source (.ofList inserts)) 0 query).value
    outcome "SELECT name WHERE name = Ann" = .error (.query .noFrom) ∧
      outcome "SELECT name FROM people LEFT JOIN towns ON people.city = towns.id" =
        .error (.table (.notFound "towns")) ∧
      ∃ plan, Plan.parse "SELECT name FROM people" = .ok plan ∧
        outcome "SELECT name FROM people" = .ok (plan.run [] none).1 := by
  intro inserts outcome
  let clause : JoinClause := ⟨.left, "towns", "people.city", "towns.id"⟩
  have hjoin : Plan.parse "SELECT name FROM people LEFT JOIN towns ON people.city = towns.id" =
      .ok ⟨["name"], "people", [], some clause, none⟩ := by decide +kernel
  have hsingle : Plan.parse "SELECT name FROM people" =
      .ok ⟨["name"], "people", [], none, none⟩ := by decide +kernel
  refine ⟨?_, ?_, _, hsingle, ?_⟩
  · exact ((execute_outcome inserts 0 _).1 _).mpr ⟨_, .rejected (by decide +kernel)⟩
  · have htables : Loads (fun name => inserts.reverse.lookup name)
        ⟨["name"], "people", [], some clause, none⟩ (.error (.notFound clause.table)) _ :=
      .noJoined rfl rfl rfl
    exact ((execute_outcome inserts 0 _).1 _).mpr ⟨_, .failed hjoin htables⟩
  · exact ((execute_outcome inserts 0 _).1 _).mpr ⟨_, .complete hsingle (.single rfl rfl)⟩

/-! ## Explanations -/

theorem explain_rejected {query : String} {error : QueryError}
    (h : Plan.parse query = .error error) : (explain query).value = .rejected error := by
  unfold explain Explanation.ofQuery
  simp only [h]

theorem explain_accepted {query : String} {plan : Plan} (h : Plan.parse query = .ok plan) :
    (explain query).value = .accepted plan := by
  unfold explain Explanation.ofQuery
  simp only [h]

theorem execute_outcome_of_ok (source : Source) (elapsed : Nat) {query : String} {plan : Plan}
    (h : Plan.parse query = .ok plan) :
    (∃ error, (execute source elapsed query).value = .error (.table error)) ∨
      ∃ rows joined, (execute source elapsed query).value = .ok (plan.run rows joined).1 := by
  cases ht : (loadTables source plan).value with
  | error error => exact .inl ⟨error, by rw [execute_failed source elapsed h ht]⟩
  | ok tables => exact .inr ⟨tables.1, tables.2, by rw [execute_loaded source elapsed h ht]⟩

/-- A result is that of the plan that was read, over some rows. -/
theorem exists_run_of_ok {source : Source} {elapsed : Nat} {query : String} {result : Result}
    (h : (execute source elapsed query).value = .ok result) :
    ∃ plan rows joined, Plan.parse query = .ok plan ∧ result = (plan.run rows joined).1 := by
  cases hp : Plan.parse query with
  | error error =>
    rw [execute_rejected source elapsed hp] at h
    cases h
  | ok plan =>
    rcases execute_outcome_of_ok source elapsed hp with ⟨error, hv⟩ | ⟨rows, joined, hv⟩
    · cases h.symm.trans hv
    · cases h.symm.trans hv
      exact ⟨plan, rows, joined, rfl, rfl⟩

theorem stages_names (plan : Plan) :
    plan.stages.map Stage.name =
      ["PARSED"] ++ (if plan.join.isSome then ["JOINED"] else []) ++ ["FILTERED"] ++
        (if plan.groupBy.isSome then ["GROUPED"] else []) ++ ["PROJECTED"] := by
  unfold Plan.stages
  cases plan.join.isSome <;> cases plan.groupBy.isSome <;> rfl

/-- **Explanations.** An explanation rejects a query if the call does, with the code
and the message of the same error. It lists the steps that a result counts, and
the fields that are the keys of its rows. -/
theorem explain_execute (source : Source) (elapsed : Nat) (query : String) :
    let explanation := (explain query).value
    let outcome := (execute source elapsed query).value
    (explanation.isAccepted = true ↔ ∀ error, outcome = .error error → error.isRejection = false) ∧
      (explanation.isAccepted = false → ∃ error : QueryError,
        outcome = .error (.query error) ∧
          explanation.rejectionCode? = some (EngineError.query error).code ∧
          explanation.rejectionReason? = some error.message) ∧
      ∀ result, outcome = .ok result →
        explanation.stages =
            ["PARSED"] ++ (if result.joined.isSome then ["JOINED"] else []) ++ ["FILTERED"] ++
              (if result.groups.isSome then ["GROUPED"] else []) ++ ["PROJECTED"] ∧
          ∀ row ∈ result.rows, row.keys = explanation.fields.eraseDups := by
  intro explanation outcome
  cases h : Plan.parse query with
  | error error =>
    have hv : outcome = .error (.query error) := by
      simp only [outcome, execute_rejected source elapsed h]
    rw [show explanation = _ from explain_rejected h, hv]
    refine ⟨⟨nofun, fun hall => ?_⟩, fun _ => ⟨error, rfl, rfl, rfl⟩, nofun⟩
    cases hall _ rfl
  | ok plan =>
    rw [show explanation = _ from explain_accepted h]
    rcases execute_outcome_of_ok source elapsed h with ⟨error, hv⟩ | ⟨rows, joined, hv⟩
    · rw [show outcome = _ from hv]
      refine ⟨⟨fun _ e he => ?_, fun _ => rfl⟩, nofun, nofun⟩
      cases he
      rfl
    · rw [show outcome = _ from hv]
      refine ⟨⟨fun _ => nofun, fun _ => rfl⟩, nofun, fun result hr => ?_⟩
      cases hr
      rw [(plan.isSome_run rows joined).1, (plan.isSome_run rows joined).2]
      exact ⟨stages_names plan, fun row hm => plan.keys_run rows joined hm⟩

/-- An operator that is none, and groups over a field that is selected twice. -/
theorem explain_execute_sample :
    let rows : List Row := [.ofList [("name", .text "Ann"), ("age", .text "9")], .ofList []]
    let store : Store := .ofList [("people", rows)]
    let grouped := "SELECT name, age, name FROM people GROUP BY name"
    (∃ error : QueryError,
        (execute store.source 0 "SELECT name FROM people WHERE age => 3").value =
          .error (.query error) ∧
          (explain "SELECT name FROM people WHERE age => 3").value.rejectionReason? =
            some error.message) ∧
      ∃ result, (execute store.source 0 grouped).value = .ok result ∧ result.groups.isSome = true ∧
        (explain grouped).value.stages = ["PARSED", "FILTERED", "GROUPED", "PROJECTED"] ∧
        ∀ row ∈ result.rows, row.keys = ["name", "age"] := by
  intro rows store grouped
  constructor
  · obtain ⟨-, hrejected, -⟩ :=
      explain_execute store.source 0 "SELECT name FROM people WHERE age => 3"
    obtain ⟨error, houtcome, -, hreason⟩ := hrejected (by decide +kernel)
    exact ⟨error, houtcome, hreason⟩
  · have hparse : Plan.parse grouped =
        .ok ⟨["name", "age", "name"], "people", [], none, some ["name"]⟩ := by decide +kernel
    have hcourse : Course store.get? grouped _ _ :=
      .complete hparse (.single rfl rfl)
    obtain ⟨-, -, haccepted⟩ := explain_execute store.source 0 grouped
    obtain ⟨hstages, hkeys⟩ := haccepted _ (hcourse.value_eq 0)
    refine ⟨_, hcourse.value_eq 0, rfl, hstages, fun row hm => (hkeys row hm).trans ?_⟩
    decide +kernel

end FlatQuery
