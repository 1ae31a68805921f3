import FlatQuery.Proofs.Decimal.Natural
import FlatQuery.Proofs.OrderMap
import FlatQuery.Proofs.Stage.Tally
import FlatQuery.Stage.Pipeline
import Mathlib.Algebra.BigOperators.Group.List.Lemmas
import Mathlib.Data.List.Forall2

/-!
# Groups of rows

Collecting rows makes one group of each key, in the order of the first rows,
and tallies all rows of the key (`rows_eq`). In the row of a group the cell
under a call is the value of this call and no other (`get?_row_call`), even if
a grouping field has the same name.
-/

namespace FlatQuery

theorem AggregateCall.read?_text {text : String} {call : AggregateCall}
    (h : read? text = some call) : call.text = text := by
  unfold read? at h
  simp only [Option.bind_eq_bind, Option.pure_def] at h
  split at h
  · obtain ⟨argument, _, h⟩ := Option.bind_eq_some_iff.mp h
    split at h
    · obtain ⟨function, _, h⟩ := Option.bind_eq_some_iff.mp h
      cases h
      rfl
    · cases h
  · cases h

/-- A call is read from its text, so calls with the same text are the same call. -/
theorem AggregateCall.read?_of_mem {selected : List String} {call : AggregateCall}
    (h : call ∈ selected.filterMap read?) : read? call.text = some call := by
  obtain ⟨text, _, hread⟩ := List.mem_filterMap.mp h
  rw [read?_text hread]
  exact hread

namespace Group

open AggregateCall

/-- The keys of the rows, each at the place of its first row. -/
def keys (fields : List String) (input : List Row) : List String :=
  (input.map (key fields)).eraseDups

/-- The rows of a key, in order. -/
def members (fields : List String) (input : List Row) (k : String) : List Row :=
  input.filter fun r => key fields r = k

/-- The row that the rows of a key give. -/
def summary (fields selected : List String) (input : List Row) (k : String) : Row :=
  let calls := selected.filterMap read?
  (Tally.ofRows fields calls (members fields input k)).row calls

/-! ## Collecting -/

section
variable (fields : List String) (calls : List AggregateCall) (input : List Row)

theorem keys_collect : (collect fields calls input).keys = keys fields input :=
  OrderMap.keys_foldl_update (key fields)
    (fun r found => (found.getD (Tally.start fields r)).add calls r) input

theorem collect_concat (r : Row) :
    collect fields calls (input ++ [r]) =
      (collect fields calls input).update (key fields r) fun found =>
        (found.getD (Tally.start fields r)).add calls r := List.foldl_append

theorem members_concat (r : Row) (k : String) :
    members fields (input ++ [r]) k =
      if key fields r = k then members fields input k ++ [r] else members fields input k := by
  unfold members
  rw [List.filter_append]
  by_cases h : key fields r = k <;> simp [h]

/-- A group has the tally of the rows of its key, and there is no other group. -/
theorem get?_collect (k : String) :
    (collect fields calls input).get? k =
      if members fields input k = [] then none
      else some (Tally.ofRows fields calls (members fields input k)) := by
  induction input using List.reverseRecOn with
  | nil => rfl
  | append_singleton input r ih =>
    rw [collect_concat, members_concat, OrderMap.get?_update]
    by_cases h : key fields r = k
    · subst h
      rw [if_pos rfl, if_pos rfl, if_neg (List.concat_ne_nil r _), ih]
      by_cases hm : members fields input (key fields r) = []
      · rw [if_pos hm, hm]
        rfl
      · rw [if_neg hm, Tally.ofRows_concat fields calls hm]
        rfl
    · rw [if_neg h, if_neg h, ih]

theorem members_eq_nil_iff (k : String) : members fields input k = [] ↔ k ∉ keys fields input := by
  unfold members keys
  rw [List.filter_eq_nil_iff, List.mem_eraseDups, List.mem_map]
  simp

theorem members_ne_nil {fields : List String} {input : List Row} {k : String}
    (hk : k ∈ keys fields input) : members fields input k ≠ [] := by
  rw [Ne, members_eq_nil_iff]
  exact not_not_intro hk

theorem rows_eq (selected : List String) :
    rows fields selected input = (keys fields input).map (summary fields selected input) := by
  change (collect fields (selected.filterMap read?) input).entries.map _ = _
  rw [OrderMap.entries_eq _ (Tally.start fields .empty), keys_collect, List.map_map]
  apply List.map_congr_left
  intro k hk
  simp only [Function.comp_apply, get?_collect, if_neg (members_ne_nil hk), Option.getD_some,
    summary]

end

section
variable (fields : List String) (input : List Row)

/-! ## Keys and members -/

theorem nodup_keys : (keys fields input).Nodup := by
  rw [← keys_collect fields []]
  exact (collect fields [] input).nodup

theorem length_members (k : String) :
    (members fields input k).length = (input.map (key fields)).count k := by
  unfold members
  rw [List.count_eq_length_filter, List.filter_map, List.length_map]
  rfl

/-- Every row is a member of exactly one group. -/
theorem sum_length_members :
    ((keys fields input).map fun k => (members fields input k).length).sum = input.length := by
  have hperm : (keys fields input).Perm (input.map (key fields)).dedup := by
    apply (List.perm_ext_iff_of_nodup (nodup_keys fields input) (List.nodup_dedup _)).mpr
    intro k
    rw [keys, List.mem_eraseDups, List.mem_dedup]
  simp only [length_members]
  rw [(hperm.map _).sum_eq, List.sum_map_count_dedup_eq_length, List.length_map]

end

/-- The row of a key stands where the key stands among the keys. -/
def row? (fields selected : List String) (input : List Row) (k : String) : Option Row :=
  (rows fields selected input)[(keys fields input).idxOf k]?

/-- The cell under an entry in the row of a key. -/
def cell? (fields selected : List String) (input : List Row) (k entry : String) : Option Cell :=
  (row? fields selected input k).bind fun row => row.get? entry

theorem row?_eq {fields : List String} (selected : List String) {input : List Row} {k : String}
    (hk : k ∈ keys fields input) :
    row? fields selected input k = some (summary fields selected input k) := by
  unfold row?
  rw [rows_eq, List.getElem?_map, List.getElem?_idxOf hk]
  rfl

/-! ## The cells of a group -/

section
variable {selected : List String} {entry : String}

/-- What the calls write under a selected text is the value of the call that the text spells. -/
theorem read?_of_mem_values {value : AggregateCall → Cell} {e : String × Cell}
    (he : e ∈ (selected.filterMap read?).map fun call => (call.text, value call)) :
    e.1 ∈ selected ∧ ∃ call, read? e.1 = some call ∧ e.2 = value call := by
  obtain ⟨call, hc, rfl⟩ := List.mem_map.mp he
  obtain ⟨text, hm, hread⟩ := List.mem_filterMap.mp hc
  exact ⟨by rwa [read?_text hread], call, read?_of_mem hc, rfl⟩

theorem get?_row_call {call : AggregateCall} (he : entry ∈ selected) (hc : read? entry = some call)
    (t : Tally) : (t.row (selected.filterMap read?)).get? entry = some (t.value call) := by
  unfold Tally.row
  rw [OrderMap.get?_ofList_append, OrderMap.get?_ofList_eq_some (v := t.value call)]
  · rfl
  · apply List.mem_map.mpr
    refine ⟨call, List.mem_filterMap.mpr ⟨entry, he, hc⟩, ?_⟩
    rw [read?_text hc]
  · intro e hm ht
    obtain ⟨-, other, hread, hvalue⟩ := read?_of_mem_values hm
    rw [ht, hc] at hread
    cases hread
    exact hvalue

/-- A name that is not selected as a call has the cell of the first row if it is grouped by. -/
theorem get?_row_field (hc : entry ∈ selected → read? entry = none) (fields : List String)
    (group : List Row) :
    ((Tally.ofRows fields (selected.filterMap read?) group).row
        (selected.filterMap read?)).get? entry =
      if entry ∈ fields then some ((group.head?.bind fun r => r.get? entry).getD .null)
      else none := by
  unfold Tally.row
  rw [OrderMap.get?_ofList_append, OrderMap.get?_ofList_eq_none, Option.none_or,
    Tally.cells_ofRows, OrderMap.get?_ofList_map]
  intro e hm ht
  obtain ⟨hselected, other, hread, -⟩ := read?_of_mem_values hm
  rw [ht] at hselected hread
  rw [hc hselected] at hread
  cases hread

end

theorem cell?_call {fields selected : List String} {input : List Row} {k entry : String}
    {call : AggregateCall} (hk : k ∈ keys fields input) (he : entry ∈ selected)
    (hc : read? entry = some call) :
    cell? fields selected input k entry =
      some
        ((Tally.ofRows fields (selected.filterMap read?) (members fields input k)).value call) := by
  unfold cell?
  rw [row?_eq selected hk]
  exact get?_row_call he hc _

/-! ## The rows of a grouped query -/

theorem get?_project {selected : List String} {entry : String} (he : entry ∈ selected) (r : Row) :
    (Row.project selected r).get? entry = some (r.cellOrNull entry) := by
  unfold Row.project
  rw [OrderMap.get?_ofList_map, if_pos he]

/-- The row that a query selects from the rows of a key. -/
structure Selects (fields selected : List String) (input : List Row) (k : String) (row : Row) :
    Prop where
  keys : row.keys = selected.eraseDups
  count : ∀ entry ∈ selected, ∀ call, read? entry = some call → call.function = .count →
    row.get? entry = some (.number (.ofNat (input.countP fun r => key fields r = k)))
  grouped : ∀ entry ∈ selected, read? entry = none → entry ∈ fields →
    row.get? entry =
      some (((input.find? fun r => key fields r = k).bind fun r => r.get? entry).getD .null)
  other : ∀ entry ∈ selected, read? entry = none → entry ∉ fields → row.get? entry = some .null

theorem selects_project (fields selected : List String) (input : List Row) (k : String) :
    Selects fields selected input k ((summary fields selected input k).project selected) where
  keys := OrderMap.keys_ofList_map ..
  count entry he call hc hf := by
    rw [get?_project he, Row.cellOrNull, summary, get?_row_call he hc, Tally.value_count hf,
      Tally.count_ofRows, members, List.countP_eq_length_filter]
    rfl
  grouped entry he hc hm := by
    rw [get?_project he, Row.cellOrNull, summary, get?_row_field fun _ => hc, if_pos hm, members,
      List.head?_filter]
    rfl
  other entry he hc hm := by
    rw [get?_project he, Row.cellOrNull, summary, get?_row_field fun _ => hc, if_neg hm]
    rfl

theorem Selects.number {fields selected : List String} {input : List Row} {k entry : String}
    {row : Row} (h : Selects fields selected input k row) {call : AggregateCall}
    (he : entry ∈ selected) (hc : read? entry = some call) (hf : call.function = .count) :
    AggregateCall.number entry row = .ofNat (members fields input k).length := by
  unfold AggregateCall.number
  rw [h.count entry he call hc hf, members, ← List.countP_eq_length_filter]
  rfl

end Group

namespace Plan

theorem run_rows_grouped {plan : Plan} {fields : List String} (hg : plan.groupBy = some fields)
    (rows : List Row) (joined : Option (List Row)) :
    let kept := (plan.joinStage rows joined).1.filter (Condition.allHold plan.conditions)
    (plan.run rows joined).1.rows =
        (Group.rows fields plan.fields kept).map (Row.project plan.fields) ∧
      (plan.run rows joined).1.groups = some (Group.rows fields plan.fields kept).length := by
  simp only [run, filterStage, groupStage, hg, and_self]

/-- **Groups.** A grouped query gives one row for each key of the rows that
satisfy all conditions, in the order of the first rows. Its counts add up to
the number of these rows. -/
theorem run_grouped {plan : Plan} {fields : List String} (hg : plan.groupBy = some fields)
    (rows : List Row) (joined : Option (List Row)) :
    let kept := (plan.joinStage rows joined).1.filter (Condition.allHold plan.conditions)
    let result := (plan.run rows joined).1
    result.filtered = kept.length ∧ result.groups = some (Group.keys fields kept).length ∧
      List.Forall₂ (Group.Selects fields plan.fields kept) (Group.keys fields kept) result.rows ∧
      ∀ entry ∈ plan.fields, ∀ call, AggregateCall.read? entry = some call →
        call.function = .count → result.filtered < 2 ^ 53 →
        (result.rows.map (AggregateCall.number entry)).foldl (· + ·) 0 =
          .ofNat result.filtered := by
  intro kept result
  obtain ⟨hrows, hgroups⟩ := run_rows_grouped hg rows joined
  have hselected : result.rows = (Group.keys fields kept).map fun k =>
      (Group.summary fields plan.fields kept k).project plan.fields := by
    rw [show result.rows = _ from hrows, Group.rows_eq, List.map_map]
    rfl
  refine ⟨rfl, ?_, ?_, ?_⟩
  · rw [show result.groups = _ from hgroups, Group.rows_eq, List.length_map]
  · rw [hselected, List.forall₂_map_right_iff]
    exact List.forall₂_same.mpr fun k _ => Group.selects_project fields plan.fields kept k
  · intro entry he call hc hf hlt
    have hnumbers : result.rows.map (AggregateCall.number entry) =
        ((Group.keys fields kept).map fun k => (Group.members fields kept k).length).map
          Float.ofNat := by
      rw [hselected, List.map_map, List.map_map]
      apply List.map_congr_left
      intro k _
      exact (Group.selects_project fields plan.fields kept k).number he hc hf
    have hsum := Group.sum_length_members fields kept
    rw [hnumbers, Decimal.foldl_add_ofNat (by rw [hsum]; exact hlt), hsum]
    rfl

/-- A field that is spelled like a call, an entry that is selected twice, and a row
that is left out. -/
theorem run_grouped_sample :
    let plan : Plan :=
      ⟨["COUNT(*)", "city", "pay", "COUNT(*)"], "people", [⟨"pay", .ne, "0"⟩], none,
        some ["city", "COUNT(*)"]⟩
    let rows : List Row := [.ofList [("city", .text "Oslo"), ("pay", .text "3")],
      .ofList [("city", .text "Rome"), ("COUNT(*)", .null)], .ofList [("pay", .text "0")],
      .ofList [("city", .text "Oslo"), ("COUNT(*)", .text "")]]
    let result := (plan.run rows none).1
    result.filtered = 3 ∧ result.groups = some 2 ∧
      (∃ oslo rome : Row, result.rows = [oslo, rome] ∧
        (oslo.get? "COUNT(*)").bind Cell.number? = some 2 ∧
        (rome.get? "city").bind Cell.text? = some "Rome" ∧ rome.get? "pay" = some .null) ∧
      (result.rows.map (AggregateCall.number "COUNT(*)")).foldl (· + ·) 0 = 3 := by
  intro plan rows result
  have hcount : AggregateCall.read? "COUNT(*)" = some ⟨"COUNT(*)", .count, "*"⟩ := by decide +kernel
  have hcity : AggregateCall.read? "city" = none := by decide +kernel
  have hpay : AggregateCall.read? "pay" = none := by decide +kernel
  obtain ⟨hfiltered, hgroups, hrows, hsum⟩ := run_grouped (rfl : plan.groupBy = _) rows none
  have hkeys : Group.keys ["city", "COUNT(*)"] (((plan.joinStage rows none).1).filter
      (Condition.allHold plan.conditions)) = ["Oslo\x1f", "Rome\x1f"] := by decide +kernel
  have hthree : result.filtered = 3 := hfiltered.trans (by decide +kernel)
  have htotal := hsum "COUNT(*)" (by decide) _ hcount rfl (by rw [hthree]; decide)
  rw [hkeys] at hrows hgroups
  obtain ⟨oslo, _, hoslo, htail, hall⟩ := List.forall₂_cons_left_iff.mp hrows
  obtain ⟨rome, _, hrome, hnil, hrest⟩ := List.forall₂_cons_left_iff.mp htail
  rw [hrest, List.forall₂_nil_left_iff.mp hnil] at hall
  refine ⟨hthree, hgroups, ⟨oslo, rome, hall, ?_, ?_, ?_⟩, by rw [htotal, hthree]; rfl⟩
  · rw [hoslo.count "COUNT(*)" (by decide) _ hcount rfl]
    decide +kernel
  · rw [hrome.grouped "city" (by decide) hcity (by decide)]
    decide +kernel
  · exact hrome.other "pay" (by decide) hpay (by decide)

end Plan

end FlatQuery
