import FlatQuery.Proofs.Stage.Group

/-!
# Rows with the same key

The key of a row is the texts of its grouping cells with a unit separator
between them. If the separator is in none of the texts, rows have the same key
exactly if they have the same texts (`key_eq_iff`). Groups are then the rows
with the same texts, and the row of a group shows these texts
(`rows_by_texts`).
-/

namespace FlatQuery.Group

open AggregateCall

/-! ## Texts of the grouping cells -/

/-- The rows have the same text in each of the fields; a missing cell has the empty text. -/
def Alike (fields : List String) (r s : Row) : Prop :=
  ∀ f ∈ fields, (r.cellOrNull f).render = (s.cellOrNull f).render

/-- No separator is in the texts that it would keep apart. -/
def Separable (fields : List String) (r : Row) : Prop :=
  2 ≤ fields.length → ∀ f ∈ fields, '\x1f' ∉ (r.cellOrNull f).render.toList

instance (fields : List String) (r s : Row) : Decidable (Alike fields r s) :=
  List.decidableBAll (fun f => (r.cellOrNull f).render = (s.cellOrNull f).render) fields

instance (fields : List String) (r : Row) : Decidable (Separable fields r) :=
  inferInstanceAs (Decidable (2 ≤ fields.length →
    ∀ f ∈ fields, '\x1f' ∉ (r.cellOrNull f).render.toList))

def texts (fields : List String) (r : Row) : List (List Char) :=
  fields.map fun f => (r.cellOrNull f).render.toList

section
variable {fields : List String} {r s : Row}

theorem toList_key (fields : List String) (r : Row) :
    (key fields r).toList = ['\x1f'].intercalate (texts fields r) := by
  rw [key, String.toList_intercalate, List.map_map]
  rfl

theorem texts_eq_iff : texts fields r = texts fields s ↔ Alike fields r s := by
  unfold texts Alike
  rw [List.map_inj_left]
  simp only [String.toList_inj]

theorem splitOn_key (hr : Separable fields r) (hne : fields ≠ []) (hlen : 2 ≤ fields.length) :
    (key fields r).toList.splitOn '\x1f' = texts fields r := by
  rw [toList_key]
  apply List.splitOn_intercalate
  · intro t ht
    obtain ⟨f, hf, rfl⟩ := List.mem_map.mp ht
    exact hr hlen f hf
  · simpa [texts] using hne

theorem key_eq_iff (hr : Separable fields r) (hs : Separable fields s) :
    key fields r = key fields s ↔ Alike fields r s := by
  rw [← texts_eq_iff]
  constructor
  · intro h
    match fields with
    | [] => rfl
    | [f] =>
      -- a single text is the key itself, with whatever it contains
      have hkey := congrArg String.toList h
      simpa [toList_key, texts] using hkey
    | f :: g :: rest =>
      have hlen : 2 ≤ (f :: g :: rest).length := by simp
      rw [← splitOn_key hr (by simp) hlen, h, splitOn_key hs (by simp) hlen]
  · intro h
    rw [← String.toList_inj, toList_key, toList_key, h]

end

/-! ## Groups and their rows -/

/-- The rows of each key, in the order of the first rows. -/
def groups (fields : List String) (input : List Row) : List (List Row) :=
  (keys fields input).map (members fields input)

theorem mem_members_iff {fields : List String} {input : List Row} {k : String} {r : Row} :
    r ∈ members fields input k ↔ r ∈ input ∧ key fields r = k := by
  simp [members]

theorem grouped_iff {fields : List String} {input : List Row} {r s : Row} (hr : r ∈ input)
    (hs : s ∈ input) :
    (∃ g ∈ groups fields input, r ∈ g ∧ s ∈ g) ↔ key fields r = key fields s := by
  constructor
  · intro h
    obtain ⟨g, hg, hrg, hsg⟩ := h
    obtain ⟨k, -, rfl⟩ := List.mem_map.mp hg
    rw [(mem_members_iff.mp hrg).2, (mem_members_iff.mp hsg).2]
  · intro h
    refine ⟨members fields input (key fields s), List.mem_map_of_mem ?_,
      mem_members_iff.mpr ⟨hr, h⟩, mem_members_iff.mpr ⟨hs, rfl⟩⟩
    exact List.mem_eraseDups.mpr (List.mem_map_of_mem hs)

/-- In the grouping columns that are not selected as calls, the row has the
texts of all rows of the group. -/
def Shows (fields selected : List String) (group : List Row) (row : Row) : Prop :=
  ∀ f ∈ fields, (f ∈ selected → read? f = none) →
    ∃ cell, row.get? f = some cell ∧ ∀ r ∈ group, cell.render = (r.cellOrNull f).render

theorem shows_summary {fields : List String} (selected : List String) {input : List Row}
    (hinput : ∀ r ∈ input, ∀ s ∈ input, key fields r = key fields s → Alike fields r s) {k : String}
    (hk : k ∈ keys fields input) :
    Shows fields selected (members fields input k) (summary fields selected input k) := by
  intro f hf hcall
  obtain ⟨first, rest, hmembers⟩ := List.exists_cons_of_ne_nil (members_ne_nil hk)
  refine ⟨first.cellOrNull f, ?_, ?_⟩
  · rw [summary, get?_row_field hcall, if_pos hf, hmembers]
    rfl
  · intro r hr
    obtain ⟨hr, hrk⟩ := mem_members_iff.mp hr
    obtain ⟨hfirst, hfirstk⟩ := mem_members_iff.mp (hmembers ▸ List.mem_cons_self)
    exact hinput first hfirst r hr (hfirstk.trans hrk.symm) f hf

/-- **Grouping by texts.** Rows without separators in their texts have the same
key, and are in the same group, exactly if they have the same texts. Each group
gives the row of its tally, which shows the texts of all its rows as long as
the keys tell the texts apart. -/
theorem rows_by_texts (fields selected : List String) (input : List Row) :
    (∀ r s, Separable fields r → Separable fields s →
      (key fields r = key fields s ↔ Alike fields r s)) ∧
    (∀ r ∈ input, ∀ s ∈ input, Separable fields r → Separable fields s →
      ((∃ g ∈ groups fields input, r ∈ g ∧ s ∈ g) ↔ Alike fields r s)) ∧
    rows fields selected input = (groups fields input).map (fun g =>
      (Tally.ofRows fields (selected.filterMap read?) g).row (selected.filterMap read?)) ∧
    ((∀ r ∈ input, ∀ s ∈ input, key fields r = key fields s → Alike fields r s) →
      List.Forall₂ (Shows fields selected) (groups fields input) (rows fields selected input)) := by
  refine ⟨fun r s hr hs => key_eq_iff hr hs, ?_, ?_, ?_⟩
  · intro r hr s hs hrsep hssep
    rw [grouped_iff hr hs, key_eq_iff hrsep hssep]
  · rw [rows_eq, groups, List.map_map]
    rfl
  · intro hinput
    rw [rows_eq, groups, List.forall₂_map_left_iff, List.forall₂_map_right_iff]
    exact List.forall₂_same.mpr fun k hk => shows_summary selected hinput hk

/-- A null and a missing cell beside empty texts, and texts in different columns. -/
theorem rows_by_texts_sample :
    let fields := ["a", "b"]
    let r : Row := .ofList [("a", .text "x"), ("b", .null)]
    let s : Row := .ofList [("b", .text ""), ("a", .text "x")]
    let t : Row := .ofList [("b", .text "x")]
    (∀ u ∈ [r, t, s], Separable fields u) ∧ key fields r = key fields s ∧
      (∃ g ∈ groups fields [r, t, s], r ∈ g ∧ s ∈ g) ∧
      ¬ (∃ g ∈ groups fields [r, t, s], r ∈ g ∧ t ∈ g) ∧
      List.Forall₂ (Shows fields ["COUNT(*)"]) (groups fields [r, t, s])
        (rows fields ["COUNT(*)"] [r, t, s]) := by
  intro fields r s t
  have hsep : ∀ u ∈ [r, t, s], Separable fields u := by decide +kernel
  have hrs : Alike fields r s := by decide +kernel
  have hrt : ¬ Alike fields r t := by decide +kernel
  obtain ⟨hkey, hgroup, -, hrows⟩ := rows_by_texts fields ["COUNT(*)"] [r, t, s]
  have hr := hsep r (by simp)
  have hs := hsep s (by simp)
  have ht := hsep t (by simp)
  refine ⟨hsep, (hkey r s hr hs).mpr hrs, (hgroup r (by simp) s (by simp) hr hs).mpr hrs, ?_, ?_⟩
  · rw [hgroup r (by simp) t (by simp) hr ht]
    exact hrt
  · exact hrows fun u hu v hv h => (hkey u v (hsep u hu) (hsep v hv)).mp h

end FlatQuery.Group
