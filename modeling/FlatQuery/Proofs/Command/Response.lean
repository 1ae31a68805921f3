import FlatQuery.Command.Run
import FlatQuery.Proofs.Engine.Outcome
import FlatQuery.Proofs.Json.Members
import FlatQuery.Proofs.KeyOrder

/-!
# What a query prints

A query that succeeds prints the rows of its result as one object each, in their
order (`printed_runQuery`). The members of an object come in ascending order of
their keys, whatever the order of the columns. An object shows the order of its
members (`object_append_inj`), so the selected fields stand in their own order only
if that order is ascending.
-/

namespace FlatQuery

/-! ## Objects -/

namespace Json

theorem toList_array (first : String) (others : List String) :
    (array (first :: others)).toList =
      '[' ::
        (first.toList ++ ((others.map String.toList).flatMap (fun s => ',' :: s) ++ [']'])) := by
  unfold array
  rw [String.toList_append, String.toList_append, String.toList_intercalate, List.map_cons]
  refine (congrArg (fun body => "[".toList ++ body ++ "]".toList) (intercalate_comma _ _)).trans ?_
  simp

section
variable {members others : List (String × String)} (hp : members.Perm others)
  (h : (members.map Prod.fst).Nodup)
include hp h

/-- The same members in another order make another text. The first key tells the
first member, and so on to the last. -/
theorem separatedMembers_append_inj {rest rest' : List Char}
    (heq : separatedMembers members ++ rest = separatedMembers others ++ rest') :
    members = others := by
  induction members generalizing others with
  | nil => exact (List.nil_perm.mp hp).symm
  | cons m members ih =>
    cases others with
    | nil => exact absurd hp.length_eq (by simp)
    | cons n others =>
      simp only [separatedMembers_cons, List.cons_append, List.append_assoc, List.cons.injEq,
        true_and] at heq
      obtain ⟨hkey, htail⟩ := spelled_append_inj spells_escape heq
      have hm : m = n :=
        List.inj_on_of_nodup_map h List.mem_cons_self (hp.mem_iff.mpr List.mem_cons_self) hkey
      subst hm
      have hrest := List.append_cancel_left (List.cons.inj htail).2
      rw [ih hp.cons_inv (List.nodup_cons.mp h).2 hrest]

theorem object_append_inj {rest rest' : List Char}
    (heq : (object members).toList ++ rest = (object others).toList ++ rest') :
    members = others := by
  cases members with
  | nil => exact (List.nil_perm.mp hp).symm
  | cons m members =>
    cases others with
    | nil => exact absurd hp.length_eq (by simp)
    | cons n others =>
      have hmembers : separatedMembers (m :: members) ++ '\x7d' :: rest =
          separatedMembers (n :: others) ++ '\x7d' :: rest' := by
        simp only [toList_object, separatedMembers_cons, List.tail_cons, List.cons_append,
          List.append_assoc, List.nil_append, List.cons.injEq, true_and] at heq ⊢
        exact heq
      exact separatedMembers_append_inj hp h hmembers

end

end Json

namespace Command

/-! ## Responses -/

/-- A member of a row and the text of its cell. -/
def shown (member : String × Cell) : String × String := (member.1, member.2.json)

/-- The text of a response whose objects have these members, in this order. -/
def answer (objects : List (List (String × Cell))) : String :=
  Json.object
    [("data", Json.array (objects.map fun members => Json.object (members.map shown))),
      ("status", Json.quote "ok")]

theorem sortedObject_pair (status data : String) :
    sortedObject [("status", status), ("data", data)] =
      Json.object [("data", data), ("status", status)] := by
  have hperm : [("status", status), ("data", data)].Perm [("data", data), ("status", status)] :=
    List.Perm.swap ..
  have hnodup : ([("data", data), ("status", status)].map Prod.fst).Nodup :=
    show ["data", "status"].Nodup by decide
  have hascending : [("data", data), ("status", status)].Pairwise fun a b => a.1 ≤ b.1 :=
    List.pairwise_pair.mpr (show "data" ≤ "status" by decide +kernel)
  exact congrArg Json.object
    ((sortByKey_eq_of_perm hperm hnodup).trans (sortByKey_of_pairwise hascending))

theorem answer_entries (rows : List Row) :
    answer (rows.map OrderMap.entries) =
      Json.object
        [("data", Json.array ((rows.map fun row => row.entries.map shown).map Json.object)),
          ("status", Json.quote "ok")] := by
  rw [answer, List.map_map, List.map_map]
  rfl

theorem rowsResponse_shown (rows : List Row) :
    rowsResponse rows =
      Json.object
        [("data", Json.array
            ((rows.map fun row => row.entries.map shown).map fun members =>
              Json.object (sortByKey members))),
          ("status", Json.quote "ok")] := by
  rw [List.map_map, ← sortedObject_pair]
  rfl

theorem rowsResponse_eq (rows : List Row) :
    rowsResponse rows = answer (rows.map fun row => sortByKey row.entries) := by
  rw [rowsResponse_shown, answer, List.map_map, List.map_map]
  simp only [Function.comp_def, map_sortByKey shown fun _ => rfl]

theorem answer_cons (members : List (String × Cell)) (more : List (List (String × Cell))) :
    ∃ rest, (answer (members :: more)).toList =
      "\x7b\"data\":[".toList ++ ((Json.object (members.map shown)).toList ++ rest) := by
  have hkey : Json.spelled Json.escape "data" = "\"data\"".toList := by decide +kernel
  unfold answer
  rw [Json.toList_object, Json.separatedMembers_cons, List.tail_cons, List.map_cons,
    Json.toList_array, hkey]
  exact ⟨_, by simp only [List.append_assoc, List.cons_append]; rfl⟩

/-- A response tells the columns of its first row in the order in which they stand. -/
theorem keys_of_answer_eq {row : Row} {members : List (String × Cell)}
    (hp : members.Perm row.entries) {more more' : List (List (String × Cell))}
    (h : answer (members :: more) = answer (row.entries :: more')) :
    members.map Prod.fst = row.keys := by
  have hshown : ∀ l : List (String × Cell), (l.map shown).map Prod.fst = l.map Prod.fst := by
    intro l
    rw [List.map_map]
    rfl
  have hnodup : ((members.map shown).map Prod.fst).Nodup := by
    rw [hshown, (hp.map Prod.fst).nodup_iff]
    exact row.nodup
  obtain ⟨rest, htext⟩ := answer_cons members more
  obtain ⟨rest', htext'⟩ := answer_cons row.entries more'
  rw [h, htext'] at htext
  have hmembers := Json.object_append_inj (hp.map shown) hnodup (List.append_cancel_left htext).symm
  rw [← hshown, hmembers, hshown]
  rfl

/-- Sorting shows unless the columns are in ascending order. -/
theorem answer_sorted_iff {rows : List Row} {columns : List String}
    (h : ∀ row ∈ rows, row.keys = columns) :
    answer (rows.map fun row => sortByKey row.entries) = answer (rows.map OrderMap.entries) ↔
      rows = [] ∨ columns.Pairwise (· ≤ ·) := by
  constructor
  · intro heq
    cases rows with
    | nil => exact Or.inl rfl
    | cons row more =>
      have hkeys := keys_of_answer_eq (sortByKey_perm row.entries) heq
      rw [← h row List.mem_cons_self, ← hkeys, List.pairwise_map]
      exact Or.inr (pairwise_sortByKey row.entries)
  · rintro (rfl | hcolumns)
    · rfl
    · refine congrArg answer (List.map_congr_left fun row hm => sortByKey_of_pairwise ?_)
      rw [← h row hm, OrderMap.keys, List.pairwise_map] at hcolumns
      exact hcolumns

/-! ## Queries that succeed -/

section
variable {files : Files} {level : Severity} {elapsed : Nat} {path? dataDir? : Option String}
  {sql : String}

theorem printed_runQuery (h : (runQuery files level elapsed path? dataDir? sql).result = .ok ()) :
    ∃ config folder result,
      (resolveConfig files path? dataDir?).value = .ok config ∧ config.folder = .ok folder ∧
        (execute (folder.source files) elapsed sql).value = .ok result ∧
        (runQuery files level elapsed path? dataDir? sql).printed =
          rowsResponse result.rows ++ "\n" := by
  unfold runQuery at h ⊢
  cases hc : (resolveConfig files path? dataDir?).value with
  | error failure => simp [hc] at h
  | ok config =>
    cases hl : config.logSeverity with
    | error error => simp [hc, hl] at h
    | ok shown =>
      cases hf : config.folder with
      | error error => simp [hc, hl, hf] at h
      | ok folder =>
        cases hr : (execute (folder.source files) elapsed sql).value with
        | error error => simp [hc, hl, hf, hr] at h
        | ok result =>
          refine ⟨config, folder, result, rfl, hf, hr, ?_⟩
          simp only [hc, hl, hf, hr]

theorem exists_plan {source : Source} {result : Result}
    (h : (execute source elapsed sql).value = .ok result) :
    ∃ plan, Plan.parse sql = .ok plan ∧ ∀ row ∈ result.rows, row.keys = plan.fields.eraseDups := by
  obtain ⟨plan, rows, joined, hp, rfl⟩ := exists_run_of_ok h
  exact ⟨plan, hp, fun row hm => plan.keys_run rows joined hm⟩

/-- **Responses.** A query that succeeds prints the rows of its result in their
order, one object each with the members of the row in ascending order of their
keys. So the members stand in the order of the selected fields exactly if these
are in ascending order, repetitions apart, or there are no rows. -/
theorem run_query_printed
    (h : (run files level elapsed (.query path? dataDir? sql)).result = .ok ()) :
    let printed := (run files level elapsed (.query path? dataDir? sql)).printed
    ∃ config folder plan result,
      (resolveConfig files path? dataDir?).value = .ok config ∧ config.folder = .ok folder ∧
      Plan.parse sql = .ok plan ∧ (execute (folder.source files) elapsed sql).value = .ok result ∧
      (∀ row ∈ result.rows, row.keys = plan.fields.eraseDups) ∧
      (∃ objects, printed = answer objects ++ "\n" ∧
        List.Forall₂ (fun row members => members.Perm row.entries ∧
          members.Pairwise fun a b => a.1 ≤ b.1) result.rows objects) ∧
      (printed = answer (result.rows.map OrderMap.entries) ++ "\n" ↔
        result.rows = [] ∨ plan.fields.eraseDups.Pairwise (· ≤ ·)) := by
  intro printed
  obtain ⟨config, folder, result, hconfig, hfolder, hresult, hprinted⟩ := printed_runQuery h
  obtain ⟨plan, hplan, hkeys⟩ := exists_plan hresult
  rw [rowsResponse_eq] at hprinted
  refine ⟨config, folder, plan, result, hconfig, hfolder, hplan, hresult, hkeys,
    ⟨_, hprinted, ?_⟩, ?_⟩
  · rw [List.forall₂_map_right_iff]
    exact List.forall₂_same.mpr fun row _ =>
      ⟨sortByKey_perm row.entries, pairwise_sortByKey row.entries⟩
  · rw [show printed = _ from hprinted, String.append_left_inj]
    exact answer_sorted_iff hkeys

end

/-- Fields in ascending order, one of them twice: the members keep their order. -/
theorem run_query_printed_sample :
    let files : Files := fun path =>
      if path = "tables/people.csv" then .ok (Text.encode "name,age\nAnn,40\nBob,7\n")
      else .error .missing
    let query := "SELECT age, name, age FROM people"
    let outcome := run files .warn 0 (.query none (some "tables") query)
    outcome.result = .ok () ∧
      ∃ result, (execute (Folder.source files ⟨"tables", "csv", 0x2C⟩) 0 query).value = .ok result ∧
        result.rows.map OrderMap.keys = [["age", "name"], ["age", "name"]] ∧
        outcome.printed = answer (result.rows.map OrderMap.entries) ++ "\n" := by
  intro files query outcome
  have hok : outcome.result = .ok () := by decide +kernel
  obtain ⟨config, folder, plan, result, hconfig, hfolder, hplan, hresult, -, -, horder⟩ :=
    run_query_printed hok
  obtain rfl : config = .ofDataDir "tables" := by cases hconfig; rfl
  obtain rfl : folder = ⟨"tables", "csv", 0x2C⟩ := by cases hfolder; rfl
  have hfields : (Plan.parse query).toOption.map (fun plan => plan.fields.eraseDups) =
      some ["age", "name"] := by decide +kernel
  have hkeys : (execute (Folder.source files ⟨"tables", "csv", 0x2C⟩) 0 query).value.toOption.map
      (fun result => result.rows.map OrderMap.keys) = some [["age", "name"], ["age", "name"]] := by
    decide +kernel
  rw [hplan] at hfields
  rw [hresult] at hkeys
  have hascending : plan.fields.eraseDups.Pairwise (· ≤ ·) := by
    rw [show plan.fields.eraseDups = ["age", "name"] from Option.some.inj hfields]
    decide +kernel
  exact ⟨hok, result, hresult, Option.some.inj hkeys, horder.mpr (Or.inr hascending)⟩

/-- Fields in another order: the members do not come in the order of the columns. -/
theorem run_query_reordered :
    let files : Files := fun path =>
      if path = "tables/people.csv" then .ok (Text.encode "name,age\nAnn,40\n") else .error .missing
    let query := "SELECT name, age FROM people"
    let outcome := run files .warn 0 (.query none (some "tables") query)
    outcome.result = .ok () ∧
      outcome.printed =
        "\x7b\"data\":[\x7b\"age\":\"40\",\"name\":\"Ann\"\x7d],\"status\":\"ok\"\x7d\n" ∧
      ∃ result, (execute (Folder.source files ⟨"tables", "csv", 0x2C⟩) 0 query).value = .ok result ∧
        (result.rows.map fun row => row.entries.map shown) =
          [[("name", "\"Ann\""), ("age", "\"40\"")]] ∧
        outcome.printed ≠ answer (result.rows.map OrderMap.entries) ++ "\n" := by
  intro files query outcome
  have hok : outcome.result = .ok () := by decide +kernel
  obtain ⟨config, folder, result, hconfig, hfolder, hresult, hprinted⟩ := printed_runQuery hok
  obtain rfl : config = .ofDataDir "tables" := by cases hconfig; rfl
  obtain rfl : folder = ⟨"tables", "csv", 0x2C⟩ := by cases hfolder; rfl
  have hrows : (execute (Folder.source files ⟨"tables", "csv", 0x2C⟩) 0 query).value.toOption.map
      (fun result => result.rows.map fun row => row.entries.map shown) =
        some [[("name", "\"Ann\""), ("age", "\"40\"")]] := by decide +kernel
  rw [hresult] at hrows
  have hmembers : (result.rows.map fun row => row.entries.map shown) =
      [[("name", "\"Ann\""), ("age", "\"40\"")]] := Option.some.inj hrows
  have hsorted : sortByKey [("name", "\"Ann\""), ("age", "\"40\"")] =
      [("age", "\"40\""), ("name", "\"Ann\"")] := by cbv
  have hprinted : outcome.printed = _ := hprinted
  rw [rowsResponse_shown, hmembers, List.map_singleton, hsorted] at hprinted
  refine ⟨hok, hprinted.trans (by decide +kernel), result, hresult, hmembers, ?_⟩
  rw [hprinted, answer_entries, hmembers]
  decide +kernel

end Command

end FlatQuery
