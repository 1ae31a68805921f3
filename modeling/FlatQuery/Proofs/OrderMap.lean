import FlatQuery.OrderMap
import Mathlib.Data.List.Induction
import Mathlib.Data.List.Nodup

/-!
# Maps written entry by entry

A map is its keys with the value of each (`entries_eq`). A list of entries
written one after the other leaves every key at its first place
(`keys_ofList`) with its last value (`get?_insertAll`), so writing a function
of the key gives the table of the function (`entries_ofList_map`).
-/

namespace FlatQuery.OrderMap

variable {α β : Type} [DecidableEq α]

/-! ## Entries -/

theorem find?_of_mem {l : List (α × β)} (h : (l.map Prod.fst).Nodup) {k : α} {v : β}
    (hm : (k, v) ∈ l) : find? k l = some v := by
  induction l with
  | nil => cases hm
  | cons e r ih =>
    obtain ⟨a, b⟩ := e
    rw [List.map_cons, List.nodup_cons] at h
    rcases List.mem_cons.mp hm with he | hm
    · cases he
      simp [find?]
    · have hne : a ≠ k := by
        rintro rfl
        exact h.1 (List.mem_map.mpr ⟨(a, v), hm, rfl⟩)
      rw [find?, if_neg hne, ih h.2 hm]

theorem mem_of_find? {l : List (α × β)} {k : α} {v : β} (h : find? k l = some v) : (k, v) ∈ l := by
  induction l with
  | nil => cases h
  | cons e r ih =>
    obtain ⟨a, b⟩ := e
    unfold find? at h
    by_cases hk : a = k
    · rw [if_pos hk] at h
      cases h
      rw [hk]
      exact List.mem_cons_self
    · rw [if_neg hk] at h
      exact List.mem_cons_of_mem _ (ih h)

theorem mem_entries_iff {m : OrderMap α β} {k : α} {v : β} :
    (k, v) ∈ m.entries ↔ m.get? k = some v :=
  ⟨find?_of_mem m.nodup, mem_of_find?⟩

/-- Maps with the same values have the same entries, up to their order. -/
theorem entries_perm {m n : OrderMap α β} (h : ∀ k, m.get? k = n.get? k) :
    m.entries.Perm n.entries := by
  apply (List.perm_ext_iff_of_nodup (List.Nodup.of_map _ m.nodup) (List.Nodup.of_map _ n.nodup)).mpr
  intro e
  obtain ⟨k, v⟩ := e
  rw [mem_entries_iff, mem_entries_iff, h]

theorem entries_eq (m : OrderMap α β) (d : β) :
    m.entries = m.keys.map fun k => (k, (m.get? k).getD d) := by
  rw [keys, List.map_map]
  refine (List.map_id _).symm.trans (List.map_congr_left ?_)
  rintro ⟨k, v⟩ hm
  simp [get?, find?_of_mem m.nodup hm]

omit [DecidableEq α] in
theorem eq_of_entries {m n : OrderMap α β} (h : m.entries = n.entries) : m = n := by
  cases m
  cases n
  cases h
  rfl

/-! ## Writing a list -/

theorem write_of_notMem {k : α} {l : List (α × β)} (h : k ∉ l.map Prod.fst) (f : Option β → β) :
    write k f l = l ++ [(k, f none)] := by
  induction l with
  | nil => rfl
  | cons e r ih =>
    rw [List.map_cons, List.mem_cons, not_or] at h
    simp [write, Ne.symm h.1, ih h.2]

theorem insertAll_append (m : OrderMap α β) (l r : List (α × β)) :
    m.insertAll (l ++ r) = (m.insertAll l).insertAll r := List.foldl_append

theorem insertAll_concat (m : OrderMap α β) (l : List (α × β)) (k : α) (v : β) :
    m.insertAll (l ++ [(k, v)]) = (m.insertAll l).insert k v := insertAll_append m l [(k, v)]

/-- Whatever is written, every key stays where it is written first. -/
theorem keys_foldl_update {ι : Type} (key : ι → α) (f : ι → Option β → β) (l : List ι) :
    (l.foldl (fun m i => m.update (key i) (f i)) (empty : OrderMap α β)).keys =
      (l.map key).eraseDups := by
  induction l using List.reverseRecOn with
  | nil => rfl
  | append_singleton l i ih =>
    rw [List.foldl_append, List.foldl_cons, List.foldl_nil, keys_update, ih, List.map_append,
      List.eraseDups_append]
    simp only [List.map_cons, List.map_nil, List.mem_eraseDups, List.removeAll, List.elem_eq_mem]
    generalize l.map key = ks, key i = k
    by_cases h : k ∈ ks
    · simp [h]
    · simp [h, List.eraseDups_cons]

theorem keys_ofList (l : List (α × β)) : (ofList l).keys = (l.map Prod.fst).eraseDups :=
  keys_foldl_update Prod.fst (fun e _ => e.2) l

/-- The last value written under a key, or what was there before. -/
theorem get?_insertAll (m : OrderMap α β) (l : List (α × β)) (k : α) :
    (m.insertAll l).get? k = ((ofList l).get? k).or (m.get? k) := by
  induction l using List.reverseRecOn with
  | nil => rfl
  | append_singleton l e ih =>
    obtain ⟨j, v⟩ := e
    rw [ofList, insertAll_concat, insertAll_concat, get?_insert, get?_insert, ← ofList, ih]
    split <;> simp

theorem get?_ofList_single (k j : α) (v : β) :
    (ofList [(k, v)]).get? j = if k = j then some v else none := by
  simp [ofList, insertAll, insert, update, empty, get?, write, find?]

theorem get?_ofList_append (l r : List (α × β)) (k : α) :
    (ofList (l ++ r)).get? k = ((ofList r).get? k).or ((ofList l).get? k) := by
  rw [ofList, insertAll_append, get?_insertAll]; rfl

/-- The last write under a key counts. -/
theorem get?_ofList_eq_lookup (l : List (α × β)) (k : α) :
    (ofList l).get? k = l.reverse.lookup k := by
  induction l using List.reverseRecOn with
  | nil => rfl
  | append_singleton l e ih =>
    obtain ⟨j, v⟩ := e
    rw [get?_ofList_append, get?_ofList_single, List.reverse_concat, List.lookup_cons, ih]
    by_cases hj : j = k
    · simp [hj]
    · simp [hj, beq_false_of_ne (Ne.symm hj)]

theorem get?_ofList_eq_none {l : List (α × β)} {k : α} (h : ∀ e ∈ l, e.1 ≠ k) :
    (ofList l).get? k = none := by
  have hk : k ∉ (ofList l).keys := by
    rw [keys_ofList, List.mem_eraseDups]
    intro hm
    obtain ⟨e, he, hek⟩ := List.mem_map.mp hm
    exact h e he hek
  rw [← contains_iff, contains] at hk
  simpa using hk

theorem get?_ofList_last {r : List (α × β)} {k : α} (h : ∀ e ∈ r, e.1 ≠ k) (l : List (α × β))
    (v : β) : (ofList (l ++ (k, v) :: r)).get? k = some v := by
  rw [List.append_cons, get?_ofList_append, get?_ofList_eq_none h, get?_ofList_append,
    get?_ofList_single]
  simp

/-- Entries with different keys are kept as they are. -/
theorem entries_ofList {l : List (α × β)} (h : (l.map Prod.fst).Nodup) :
    (ofList l).entries = l := by
  induction l using List.reverseRecOn with
  | nil => rfl
  | append_singleton l e ih =>
    rw [List.map_append, List.nodup_append'] at h
    obtain ⟨hl, -, hdisjoint⟩ := h
    have hkey : e.1 ∉ l.map Prod.fst := fun hm => hdisjoint hm (by simp)
    rw [ofList, insertAll_concat, ← ofList]
    calc write e.1 (fun _ => e.2) (ofList l).entries = write e.1 (fun _ => e.2) l := by rw [ih hl]
      _ = l ++ [e] := write_of_notMem hkey _

/-- When all that is written under a key is one value, the key has this value. -/
theorem get?_ofList_eq_some {l : List (α × β)} {k : α} {v : β} (hm : (k, v) ∈ l)
    (h : ∀ e ∈ l, e.1 = k → e.2 = v) : (ofList l).get? k = some v := by
  induction l using List.reverseRecOn with
  | nil => cases hm
  | append_singleton l e ih =>
    obtain ⟨j, w⟩ := e
    rw [get?_ofList_append, get?_ofList_single]
    by_cases hj : j = k
    · have hw : w = v := h (j, w) (List.mem_append_right l List.mem_cons_self) hj
      simp [hj, hw]
    · have hl : (k, v) ∈ l := by
        rcases List.mem_append.mp hm with hl | hl
        · exact hl
        · exact absurd (congrArg Prod.fst (List.mem_singleton.mp hl)).symm hj
      rw [if_neg hj, ih hl fun e he => h e (List.mem_append_left _ he)]
      rfl

/-- Renaming the keys of a map, different ones differently, keeps what is under them. -/
theorem get?_ofList_rename {γ : Type} [DecidableEq γ] (m : OrderMap α β) {g : α → γ}
    (hg : g.Injective) (k : α) :
    (ofList (m.entries.map fun e => (g e.1, e.2))).get? (g k) = m.get? k := by
  have hentry : ∀ e ∈ m.entries.map (fun e => (g e.1, e.2)), e.1 = g k → m.get? k = some e.2 := by
    intro e he hk
    obtain ⟨e, hm, rfl⟩ := List.mem_map.mp he
    rw [← hg hk]
    exact mem_entries_iff.mp hm
  cases h : m.get? k with
  | none =>
    apply get?_ofList_eq_none
    intro e he hk
    have hv := hentry e he hk
    rw [h] at hv
    cases hv
  | some v =>
    apply get?_ofList_eq_some
    · exact List.mem_map.mpr ⟨(k, v), mem_entries_iff.mpr h, rfl⟩
    · intro e he hk
      have hv := hentry e he hk
      rw [h] at hv
      exact (Option.some.inj hv).symm

/-- Writes to different keys may change places. -/
theorem get?_ofList_append_comm {l r : List (α × β)} (h : ∀ e ∈ l, ∀ f ∈ r, e.1 ≠ f.1) (k : α) :
    (ofList (l ++ r)).get? k = (ofList (r ++ l)).get? k := by
  rw [get?_ofList_append, get?_ofList_append]
  by_cases hl : ∀ e ∈ l, e.1 ≠ k
  · rw [get?_ofList_eq_none hl, Option.none_or, Option.or_none]
  · have hr : ∀ f ∈ r, f.1 ≠ k := by
      intro f hf hfk
      apply hl
      intro e he hek
      exact h e he f hf (hek.trans hfk.symm)
    rw [get?_ofList_eq_none hr, Option.none_or, Option.or_none]

/-! ## Writing a function -/

variable (ks : List α) (g : α → β)

theorem keys_ofList_map : (ofList (ks.map fun k => (k, g k))).keys = ks.eraseDups := by
  rw [keys_ofList, List.map_map]
  exact congrArg List.eraseDups (List.map_id ks)

theorem get?_ofList_map (k : α) :
    (ofList (ks.map fun k => (k, g k))).get? k = if k ∈ ks then some (g k) else none := by
  induction ks using List.reverseRecOn with
  | nil => rfl
  | append_singleton ks j ih =>
    rw [List.map_append, get?_ofList_append, ih, List.map_singleton, get?_ofList_single]
    by_cases hj : j = k
    · subst hj
      simp
    · simp [hj, Ne.symm hj]

theorem entries_ofList_map :
    (ofList (ks.map fun k => (k, g k))).entries = ks.eraseDups.map fun k => (k, g k) := by
  cases ks with
  | nil => rfl
  | cons k₀ ks =>
    rw [entries_eq _ (g k₀), keys_ofList_map]
    refine List.map_congr_left fun k hk => ?_
    rw [get?_ofList_map, if_pos (List.mem_eraseDups.mp hk)]; rfl

end FlatQuery.OrderMap
