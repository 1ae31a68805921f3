import FlatQuery.KeyOrder
import Mathlib.Data.List.Permutation

/-!
# Entries in the order of their keys

Sorting by the keys keeps the entries, puts their keys in ascending order and
leaves entries with one key in their order (`filter_sortByKey`). So without
repeated keys the order before sorting does not matter (`sortByKey_eq_of_perm`).
-/

namespace FlatQuery

variable {β : Type}

theorem keyLE_iff {a b : String × β} : keyLE a b = true ↔ a.1 ≤ b.1 := by
  rw [keyLE, Bool.not_eq_true', decide_eq_false_iff_not]
  exact String.not_lt

theorem keyLE_trans (a b c : String × β) (hab : keyLE a b = true) (hbc : keyLE b c = true) :
    keyLE a c = true :=
  keyLE_iff.mpr (String.le_trans (keyLE_iff.mp hab) (keyLE_iff.mp hbc))

theorem keyLE_total (a b : String × β) : (keyLE a b || keyLE b a) = true := by
  rw [Bool.or_eq_true, keyLE_iff, keyLE_iff]
  exact String.le_total a.1 b.1

theorem sortByKey_perm (l : List (String × β)) : (sortByKey l).Perm l := List.mergeSort_perm l keyLE

theorem pairwise_sortByKey (l : List (String × β)) :
    (sortByKey l).Pairwise fun a b => a.1 ≤ b.1 :=
  (List.pairwise_mergeSort keyLE_trans keyLE_total l).imp keyLE_iff.mp

theorem sortByKey_of_pairwise {l : List (String × β)} (h : l.Pairwise fun a b => a.1 ≤ b.1) :
    sortByKey l = l :=
  List.mergeSort_of_pairwise (h.imp keyLE_iff.mpr)

/-- Entries with one key stay in their order. -/
theorem filter_sortByKey (l : List (String × β)) (key : String) :
    (sortByKey l).filter (fun e => e.1 = key) = l.filter fun e => e.1 = key := by
  have hsame : (l.filter fun e => e.1 = key).Pairwise fun a b => keyLE a b = true := by
    apply List.pairwise_of_forall_mem_list
    intro a ha b hb
    have hkey : a.1 = b.1 := by
      rw [of_decide_eq_true (List.mem_filter.mp ha).2, of_decide_eq_true (List.mem_filter.mp hb).2]
    exact keyLE_iff.mpr (hkey ▸ String.le_refl a.1)
  have hsub : (l.filter fun e => e.1 = key).Sublist (sortByKey l) :=
    List.sublist_mergeSort keyLE_trans keyLE_total hsame List.filter_sublist
  have hfilter := hsub.filter fun e => decide (e.1 = key)
  rw [List.filter_filter] at hfilter
  simp only [Bool.and_self] at hfilter
  have hlength := ((sortByKey_perm l).filter fun e => decide (e.1 = key)).length_eq
  exact (hfilter.eq_of_length hlength.symm).symm

theorem sortByKey_eq_of_perm {l r : List (String × β)} (hp : l.Perm r)
    (h : (r.map Prod.fst).Nodup) : sortByKey l = sortByKey r := by
  have hperm : (sortByKey l).Perm (sortByKey r) :=
    (sortByKey_perm l).trans (hp.trans (sortByKey_perm r).symm)
  apply hperm.eq_of_pairwise _ (pairwise_sortByKey l) (pairwise_sortByKey r)
  intro a b ha hb hab hba
  have ha : a ∈ r := hp.mem_iff.mp ((sortByKey_perm l).mem_iff.mp ha)
  have hb : b ∈ r := (sortByKey_perm r).mem_iff.mp hb
  exact List.inj_on_of_nodup_map h ha hb (String.le_antisymm hab hba)

/-- Sorting looks at the keys only. -/
theorem map_sortByKey {γ : Type} (f : String × β → String × γ) (hf : ∀ e, (f e).1 = e.1)
    (l : List (String × β)) : (sortByKey l).map f = sortByKey (l.map f) := by
  apply List.map_mergeSort
  intro a _ b _
  rw [keyLE, keyLE, hf, hf]

end FlatQuery
