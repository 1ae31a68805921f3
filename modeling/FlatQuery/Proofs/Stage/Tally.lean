import FlatQuery.Stage.Tally
import Mathlib.Data.List.Induction

/-!
# What a tally holds

A call touches only the running value that it shares (`running?_take`), so one
row is taken into this value as often as the calls share it (`running?_add`).
From this follows what a group has after all its rows (`running?_ofRows`).
-/

namespace FlatQuery

open AggregateCall

namespace AggregateCall

/-- What one row makes of the running value of a call. -/
def step (call : AggregateCall) (r : Row) (found : Option Float) : Option Float :=
  let x := number call.field r
  match call.function with
  | .sum => some (found.getD 0 + x)
  | .min => some (lesser (found.getD x) x)
  | .max => some (greater (found.getD x) x)
  | .count => found

/-- How many calls share the running value of a call. -/
def sharers (calls : List AggregateCall) (call : AggregateCall) : Nat :=
  calls.countP fun c => c.function = call.function ∧ c.field = call.field

theorem sharers_pos {calls : List AggregateCall} {call : AggregateCall} (h : call ∈ calls) :
    0 < sharers calls call := List.countP_pos_iff.mpr ⟨call, h, by simp⟩

end AggregateCall

namespace Tally

theorem value_of_running? {t : Tally} {call : AggregateCall} {x : Float}
    (h : t.running? call = some x) : t.value call = .number x := by
  unfold value
  rw [h]

theorem value_count {call : AggregateCall} (hf : call.function = .count) (t : Tally) :
    t.value call = .number (.ofNat t.count) := by
  apply value_of_running?
  unfold running?
  rw [hf]

/-! ## One row -/

theorem cells_take (r : Row) (t : Tally) (call : AggregateCall) :
    (take r t call).cells = t.cells := by
  unfold take
  cases call.function <;> rfl

theorem count_take (r : Row) (t : Tally) (call : AggregateCall) :
    (take r t call).count = t.count := by
  unfold take
  cases call.function <;> rfl

/-- A call changes the running value that it shares, and no other. -/
theorem running?_take (r : Row) (t : Tally) (other call : AggregateCall) :
    (take r t other).running? call =
      if other.function = call.function ∧ other.field = call.field then
        call.step r (t.running? call)
      else t.running? call := by
  unfold take running? step
  cases ho : other.function <;> cases hc : call.function <;>
    simp only [OrderMap.get?_update, reduceCtorEq, true_and, false_and, if_false, ite_self]
  all_goals
    by_cases hf : other.field = call.field
    · simp only [hf, if_true]
    · simp only [hf, if_false]

section
variable (calls : List AggregateCall) (t : Tally) (r : Row)

theorem cells_foldl_take : (calls.foldl (take r) t).cells = t.cells := by
  induction calls generalizing t with
  | nil => rfl
  | cons call calls ih => rw [List.foldl_cons, ih, cells_take]

theorem count_foldl_take : (calls.foldl (take r) t).count = t.count := by
  induction calls generalizing t with
  | nil => rfl
  | cons call calls ih => rw [List.foldl_cons, ih, count_take]

/-- Every call that shares a running value takes the row into it once more. -/
theorem running?_foldl_take (call : AggregateCall) :
    (calls.foldl (take r) t).running? call =
      Nat.repeat (call.step r) (sharers calls call) (t.running? call) := by
  induction calls using List.reverseRecOn with
  | nil => rfl
  | append_singleton calls other ih =>
    rw [List.foldl_append, List.foldl_cons, List.foldl_nil, running?_take, ih, sharers, sharers,
      List.countP_append, List.countP_singleton]
    by_cases h : other.function = call.function ∧ other.field = call.field
    · simp only [h, and_self, decide_true, if_true]
      rfl
    · simp only [h, decide_false, if_false, Bool.false_eq_true]
      rfl

theorem running?_counted {call : AggregateCall} (hf : call.function ≠ .count) (n : Nat) :
    ({ t with count := n } : Tally).running? call = t.running? call := by
  unfold running?
  cases h : call.function with
  | count => exact absurd h hf
  | _ => rfl

theorem running?_add {call : AggregateCall} (hf : call.function ≠ .count) :
    (t.add calls r).running? call =
      Nat.repeat (call.step r) (sharers calls call) (t.running? call) := by
  unfold add
  rw [running?_foldl_take, running?_counted t hf]

end

/-! ## The rows of a group -/

section
variable (calls : List AggregateCall) (group : List Row) (t : Tally)

theorem cells_foldl_add : (group.foldl (add calls) t).cells = t.cells := by
  induction group generalizing t with
  | nil => rfl
  | cons r rest ih => rw [List.foldl_cons, ih, add, cells_foldl_take]

theorem count_foldl_add : (group.foldl (add calls) t).count = t.count + group.length := by
  induction group generalizing t with
  | nil => rfl
  | cons r rest ih =>
    rw [List.foldl_cons, ih, add, count_foldl_take, List.length_cons, Nat.add_assoc,
      Nat.add_comm 1]

theorem running?_foldl_add {call : AggregateCall} (hf : call.function ≠ .count) :
    (group.foldl (add calls) t).running? call =
      group.foldl (fun found r => Nat.repeat (call.step r) (sharers calls call) found)
        (t.running? call) := by
  induction group generalizing t with
  | nil => rfl
  | cons r rest ih => rw [List.foldl_cons, ih, running?_add calls t r hf, List.foldl_cons]

end

/-- The tally of the rows of a group. -/
def ofRows (fields : List String) (calls : List AggregateCall) (group : List Row) : Tally :=
  group.foldl (add calls) (start fields (group.head?.getD .empty))

section
variable (fields : List String) (calls : List AggregateCall) {group : List Row}

theorem ofRows_concat (hg : group ≠ []) (r : Row) :
    ofRows fields calls (group ++ [r]) = (ofRows fields calls group).add calls r := by
  obtain ⟨first, rest, rfl⟩ := List.exists_cons_of_ne_nil hg
  exact List.foldl_append

theorem cells_ofRows :
    (ofRows fields calls group).cells =
      fields.map fun f => (f, (group.head?.bind fun r => r.get? f).getD .null) := by
  unfold ofRows
  rw [cells_foldl_add]
  cases group <;> rfl

theorem count_ofRows : (ofRows fields calls group).count = group.length := by
  unfold ofRows
  rw [count_foldl_add]
  exact Nat.zero_add _

/-- A group has taken each of its rows as often as the calls share the value. -/
theorem running?_ofRows {call : AggregateCall} (hf : call.function ≠ .count) :
    (ofRows fields calls group).running? call =
      group.foldl (fun found r => Nat.repeat (call.step r) (sharers calls call) found) none := by
  have hstart : (start fields (group.head?.getD .empty)).running? call = none := by
    unfold running?
    cases h : call.function with
    | count => exact absurd h hf
    | _ => rfl
  unfold ofRows
  rw [running?_foldl_add _ _ _ hf, hstart]

end

end Tally

end FlatQuery
