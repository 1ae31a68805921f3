import FlatQuery.Proofs.Decimal.Best
import FlatQuery.Proofs.Stage.Group

/-!
# Values over a group

A sum takes every row once for each selected call that sums the same column
(`value_sum`). A least or greatest value takes it as often, but this changes
nothing (`repeat_step_extreme`): it is a best one of the numbers of the group
(`value_extreme`, `best_extreme`).
-/

namespace FlatQuery

open Decimal

namespace Aggregate

/-- What makes a value win: to be less for the least one, and greater for the greatest. -/
def beats : Aggregate → Float → Float → Prop
  | min, a, b => a < b
  | max, a, b => b < a
  | sum, _, _ => False
  | count, _, _ => False

instance : ∀ function : Aggregate, DecidableRel function.beats
  | min => fun a b => inferInstanceAs (Decidable (a < b))
  | max => fun a b => inferInstanceAs (Decidable (b < a))
  | sum => fun _ _ => inferInstanceAs (Decidable False)
  | count => fun _ _ => inferInstanceAs (Decidable False)

theorem exists_ranks {function : Aggregate} (hf : function = min ∨ function = max) :
    ∃ (β : Type) (_ : LinearOrder β) (place : Float → β), Ranks place function.beats := by
  rcases hf with rfl | rfl
  · exact ⟨_, _, rank, ranks_less⟩
  · exact ⟨_, _, fun x => OrderDual.toDual (rank x), ranks_greater⟩

end Aggregate

namespace AggregateCall

/-! ## Numbers in a column -/

/-- The cell is a number or a text that spells one. -/
def Numeric (field : String) (r : Row) : Prop :=
  match r.get? field with
  | some (.text s) => ∃ x, readFloat? (Text.trim s.toList) = some x ∧ x.isNaN = false
  | some (.number x) => x.isNaN = false
  | _ => False

theorem isNaN_number_iff {field : String} {r : Row} :
    (number field r).isNaN = true ↔ ¬ Numeric field r := by
  unfold number Numeric
  cases r.get? field with
  | none => exact iff_of_true isNaN_nan id
  | some cell =>
    cases cell with
    | null => exact iff_of_true isNaN_nan id
    | number x => exact (Bool.not_eq_false x.isNaN).symm.to_iff
    | text s =>
      simp only [Cell.toFloat]
      cases readFloat? (Text.trim s.toList) with
      | none => exact iff_of_true isNaN_nan fun ⟨_, h, _⟩ => by cases h
      | some x =>
        simp only [Option.getD_some, Option.some.injEq, exists_eq_left', Bool.not_eq_false]

/-! ## Sums -/

theorem step_sum {call : AggregateCall} (hf : call.function = .sum) (r : Row)
    (found : Option Float) : call.step r found = some (found.getD 0 + number call.field r) := by
  unfold step
  rw [hf]

theorem repeat_step_sum {call : AggregateCall} (hf : call.function = .sum) (r : Row)
    (found : Option Float) {times : Nat} (ht : 0 < times) :
    Nat.repeat (call.step r) times found =
      some ((List.replicate times (number call.field r)).foldl (· + ·) (found.getD 0)) := by
  induction times, ht using Nat.le_induction with
  | base => exact step_sum hf r found
  | succ times _ ih =>
    rw [Nat.repeat, ih, step_sum hf, List.replicate_succ', List.foldl_append]
    rfl

/-- A running sum has added up every row, each as often as the calls share the sum. -/
theorem value_sum {call : AggregateCall} (hf : call.function = .sum) {calls : List AggregateCall}
    (hc : call ∈ calls) (fields : List String) {group : List Row} (hg : group ≠ []) :
    (Tally.ofRows fields calls group).value call =
      .number (((group.map (number call.field)).flatMap
        (List.replicate (sharers calls call))).foldl (· + ·) 0) := by
  have ht := sharers_pos hc
  have hcount : call.function ≠ .count := by
    rw [hf]
    exact nofun
  obtain ⟨first, rest, rfl⟩ := List.exists_cons_of_ne_nil hg
  apply Tally.value_of_running?
  rw [Tally.running?_ofRows _ _ hcount, List.foldl_cons, repeat_step_sum hf first _ ht]
  -- there is a sum from the first row on
  refine (List.foldl_hom some fun sum r => repeat_step_sum hf r (some sum) ht).trans ?_
  rw [List.map_cons, List.flatMap_cons, List.foldl_append, List.foldl_flatMap, List.foldl_map]
  rfl

/-! ## Least and greatest values -/

/-- The best number of a column, from the first row on. -/
def extreme (function : Aggregate) (field : String) : List Row → Float
  | [] => 0 / 0
  | first :: rest =>
    let x := number field first
    (rest.map (number field)).foldl (better function.beats) (better function.beats x x)

theorem best_extreme {function : Aggregate} (hf : function = .min ∨ function = .max)
    (field : String) {group : List Row} (hg : group ≠ []) :
    Best function.beats (group.map (number field)) (extreme function field group) := by
  obtain ⟨β, _, place, h⟩ := Aggregate.exists_ranks hf
  obtain ⟨first, rest, rfl⟩ := List.exists_cons_of_ne_nil hg
  exact Best.foldl h (number field first) (rest.map (number field))

section
variable {call : AggregateCall} (hf : call.function = .min ∨ call.function = .max)
include hf

theorem step_extreme (r : Row) (found : Option Float) :
    call.step r found =
      some
        (better call.function.beats (found.getD (number call.field r)) (number call.field r)) := by
  obtain ⟨text, function, field⟩ := call
  rcases hf with rfl | rfl <;> rfl

/-- Calls that share a least or greatest value do not disturb each other. -/
theorem repeat_step_extreme (r : Row) (found : Option Float) {times : Nat} (ht : 0 < times) :
    Nat.repeat (call.step r) times found = call.step r found := by
  induction times, ht using Nat.le_induction with
  | base => rfl
  | succ times _ ih =>
    rw [Nat.repeat, ih, step_extreme hf, step_extreme hf, Option.getD_some, better_better]

theorem value_extreme {calls : List AggregateCall} (hc : call ∈ calls) (fields : List String)
    {group : List Row} (hg : group ≠ []) :
    (Tally.ofRows fields calls group).value call =
      .number (extreme call.function call.field group) := by
  have hcount : call.function ≠ .count := by
    rcases hf with hf | hf <;> rw [hf] <;> exact nofun
  obtain ⟨first, rest, rfl⟩ := List.exists_cons_of_ne_nil hg
  apply Tally.value_of_running?
  rw [Tally.running?_ofRows _ _ hcount]
  simp only [repeat_step_extreme hf _ _ (sharers_pos hc)]
  rw [List.foldl_cons, step_extreme hf, extreme, List.foldl_map]
  exact List.foldl_hom some fun best r => step_extreme hf r (some best)

end

end AggregateCall

namespace Group

open AggregateCall

variable {fields selected : List String} {input : List Row} {k entry : String}
  {call : AggregateCall}

/-- **Sums.** A sum adds up its column over the rows of the group from left to
right, each row as often as the selected entries sum this column. So it is the
sum of the column if no second entry sums it. -/
theorem sum_cell (hk : k ∈ keys fields input) (he : entry ∈ selected)
    (hc : read? entry = some call) (hf : call.function = .sum) :
    let column := (members fields input k).map (number call.field)
    let times := selected.countP fun e =>
      ((read? e).map fun c => decide (c.function = .sum ∧ c.field = call.field)).getD false
    cell? fields selected input k entry =
        some (.number ((column.flatMap (List.replicate times)).foldl (· + ·) 0)) ∧
      (times = 1 →
        cell? fields selected input k entry = some (.number (column.foldl (· + ·) 0))) := by
  intro column times
  have hcell : cell? fields selected input k entry =
      some (.number ((column.flatMap (List.replicate times)).foldl (· + ·) 0)) := by
    rw [cell?_call hk he hc, value_sum hf (List.mem_filterMap.mpr ⟨entry, he, hc⟩) fields
      (members_ne_nil hk), sharers, hf, List.countP_filterMap]
  refine ⟨hcell, fun hone => ?_⟩
  rw [hcell, hone]
  exact congrArg (fun l => some (Cell.number (l.foldl (· + ·) 0))) (List.flatMap_singleton' column)

/-- Two of the three entries sum one column, and the third sums its own. -/
theorem sum_cell_sample :
    let input : List Row :=
      [.ofList [("city", .text "Oslo"), ("pay", .text "10"), ("age", .text "7")],
        .ofList [("city", .text "Rome")], .ofList [("city", .text "Oslo"), ("pay", .text "2.5")]]
    let selected := ["SUM(pay)", "city", " sum( pay )", "SUM(age)"]
    ((cell? ["city"] selected input "Oslo" "SUM(pay)").bind Cell.number? = some 25) ∧
      (((cell? ["city"] selected input "Oslo" "SUM(age)").bind Cell.number?).map Float.isNaN =
        some true) := by
  intro input selected
  have hk : "Oslo" ∈ keys ["city"] input := by decide +kernel
  have hpay : read? "SUM(pay)" = some ⟨"SUM(pay)", .sum, "pay"⟩ := by decide +kernel
  have hage : read? "SUM(age)" = some ⟨"SUM(age)", .sum, "age"⟩ := by decide +kernel
  obtain ⟨htwice, -⟩ := sum_cell hk (by decide : "SUM(pay)" ∈ selected) hpay rfl
  obtain ⟨-, honce⟩ := sum_cell hk (by decide : "SUM(age)" ∈ selected) hage rfl
  rw [htwice, honce (by decide +kernel)]
  exact ⟨by decide +kernel, by decide +kernel⟩

/-- The sum of a column that another entry sums too is not the sum of the column. -/
theorem sum_cell_twice :
    ¬ ∀ (fields selected : List String) (input : List Row) (k entry : String)
        (call : AggregateCall),
      k ∈ keys fields input → entry ∈ selected → read? entry = some call → call.function = .sum →
        cell? fields selected input k entry =
          some (.number (((members fields input k).map (number call.field)).foldl (· + ·) 0)) := by
  intro h
  have hcell := h ["city"] ["SUM(pay)", "sum(pay)"]
    [.ofList [("city", .text "Oslo"), ("pay", .text "1")]] "Oslo" "SUM(pay)"
    ⟨"SUM(pay)", .sum, "pay"⟩ (by decide +kernel) (by decide) (by decide +kernel) rfl
  have hnumber := congrArg (Option.bind · Cell.number?) hcell
  revert hnumber
  decide +kernel

/-- **Least and greatest values.** The cell is not a number exactly if some row
of the group has no number in the column. Otherwise it equals the number of
some row and no row has one that beats it. Up to the sign of zero any query
that makes a group of the same rows, in any order, has the same value. -/
theorem extreme_cell (hk : k ∈ keys fields input) (he : entry ∈ selected)
    (hc : read? entry = some call) (hf : call.function = .min ∨ call.function = .max) :
    let group := members fields input k
    ∃ x, cell? fields selected input k entry = some (.number x) ∧
      (x.isNaN = true ↔ ∃ r ∈ group, ¬ Numeric call.field r) ∧
      (x.isNaN = false → (∃ r ∈ group, (x == number call.field r) = true) ∧
        ∀ r ∈ group, ¬ call.function.beats (number call.field r) x) ∧
      ∀ (fields' selected' : List String) (input' : List Row) (k' entry' : String)
        (call' : AggregateCall), k' ∈ keys fields' input' → entry' ∈ selected' →
        read? entry' = some call' → call'.function = call.function → call'.field = call.field →
        (members fields' input' k').Perm group →
        ∃ y, cell? fields' selected' input' k' entry' = some (.number y) ∧ SameNumber x y ∧
          (members fields' input' k' = group → y = x) := by
  intro group
  have hg := members_ne_nil hk
  have hbest := best_extreme hf call.field hg
  refine ⟨extreme call.function call.field group, ?_, ?_, fun hn => ⟨?_, ?_⟩, ?_⟩
  · rw [cell?_call hk he hc, value_extreme hf (List.mem_filterMap.mpr ⟨entry, he, hc⟩) fields hg]
  · rw [hbest.isNaN_iff]
    simp only [List.mem_map, exists_exists_and_eq_and, isNaN_number_iff, group]
  · obtain ⟨r, hr, hx⟩ := List.mem_map.mp (hbest.mem hn)
    refine ⟨r, hr, ?_⟩
    rw [hx]
    exact (beq_iff_rank hn hn).mpr rfl
  · intro r hr
    exact hbest.unbeaten hn _ (List.mem_map_of_mem hr)
  · intro fields' selected' input' k' entry' call' hk' he' hc' hfun hfield hp
    have hf' : call'.function = .min ∨ call'.function = .max := by rwa [hfun]
    have hg' := members_ne_nil hk'
    have hbest' := best_extreme hf call.field hg'
    obtain ⟨β, _, place, h⟩ := Aggregate.exists_ranks hf
    refine ⟨extreme call.function call.field (members fields' input' k'), ?_,
      Best.same h hbest hbest' (hp.symm.map _), fun hgroup => by rw [hgroup]⟩
    rw [cell?_call hk' he' hc', value_extreme hf' (List.mem_filterMap.mpr ⟨entry', he', hc'⟩)
      fields' hg', hfun, hfield]

/-- The least of two texts, in a query that names the column twice. -/
theorem extreme_cell_sample :
    let first : Row := .ofList [("city", .text "Oslo"), ("pay", .text "10")]
    let last : Row := .ofList [("city", .text "Oslo"), ("pay", .text " 2.5 ")]
    let input := [first, .ofList [("city", .text "Rome")], last]
    let selected := ["MIN(pay)", "city", "min(pay)"]
    ∃ x, cell? ["city"] selected input "Oslo" "MIN(pay)" = some (.number x) ∧ x = 2.5 ∧
      (∃ r ∈ members ["city"] input "Oslo", (x == number "pay" r) = true) ∧
      (∀ r ∈ members ["city"] input "Oslo", ¬ number "pay" r < x) ∧
      ∃ y, cell? ["city"] ["min(pay)"] [last, first] "Oslo" "min(pay)" = some (.number y) ∧
        SameNumber x y := by
  intro first last input selected
  have hk : "Oslo" ∈ keys ["city"] input := by decide +kernel
  have hcall : read? "MIN(pay)" = some ⟨"MIN(pay)", .min, "pay"⟩ := by decide +kernel
  have hother : read? "min(pay)" = some ⟨"min(pay)", .min, "pay"⟩ := by decide +kernel
  obtain ⟨x, hx, -, hbest, hsame⟩ :=
    extreme_cell hk (by decide : "MIN(pay)" ∈ selected) hcall (Or.inl rfl)
  have hnumber : (some (Cell.number x)).bind Cell.number? = some 2.5 := by
    rw [← hx]
    decide +kernel
  have hvalue : x = 2.5 := Option.some.inj hnumber
  have hn : x.isNaN = false := by
    rw [hvalue]
    decide +kernel
  obtain ⟨hmem, hleast⟩ := hbest hn
  obtain ⟨y, hy, hxy, -⟩ := hsame ["city"] ["min(pay)"] [last, first] "Oslo" "min(pay)" _
    (by decide +kernel) (by decide) hother rfl rfl (List.Perm.swap first last [])
  exact ⟨x, hx, hvalue, hmem, hleast, y, hy, hxy⟩

end Group

end FlatQuery
