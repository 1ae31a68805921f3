import FlatQuery.Proofs.Query.Fault
import FlatQuery.Proofs.Query.Outline

/-!
# Joins without a kind

A JOIN must follow INNER, LEFT or RIGHT as long as no WHERE and no GROUP BY has
come up; later it is ordinary text. The first JOIN that breaks this rule is
reported, whatever else is wrong with the query (`Plan.parse_untypedJoin`).
-/

namespace FlatQuery

open Text

/-- No WHERE is among these words, and no GROUP with BY after it. -/
structure Early (ws : List Word) : Prop where
  noWhere : ∀ w ∈ ws, w.is "WHERE" = false
  noGroup : ws.IsChain fun v w => ¬ (v.is "GROUP" = true ∧ w.is "BY" = true)

/-- After these words `w` is a JOIN that needs a kind and has none. -/
structure UntypedJoin (before : List Word) (w : Word) : Prop extends Early before where
  join : w.is "JOIN" = true
  untyped : ∀ v ∈ before.getLast?, ∀ kind : JoinKind, v.is kind.name = false

theorem early_nil : Early [] := ⟨by simp, .nil⟩

theorem Early.left {xs ys : List Word} (h : Early (xs ++ ys)) : Early xs where
  noWhere w hw := h.noWhere w (List.mem_append_left _ hw)
  noGroup := (List.isChain_append.mp h.noGroup).1

theorem typed_iff {previous : Option Word} :
    (previous.any fun v => (JoinKind.ofWord? v.text).isSome) = false ↔
      ∀ v ∈ previous, ∀ kind : JoinKind, v.is kind.name = false := by
  cases previous with
  | none => simp
  | some v =>
    rw [Option.any_some, Option.isSome_eq_false_iff, Option.isNone_iff_eq_none,
      Option.eq_none_iff_forall_ne_some]
    simp [JoinKind.ofWord?_eq_some_iff, Word.is]

/-- The scan stops at the first JOIN without a kind. -/
theorem untypedJoin?_first (done : List Word) {before : List Word} {w : Word}
    (h : UntypedJoin (done ++ before) w)
    (hfirst : ∀ b v a, before = b ++ v :: a → ¬ UntypedJoin (done ++ b) v) (after : List Word) :
    untypedJoin? done.getLast? (before ++ w :: after) =
      some ((done ++ before).getLast?.getD w) := by
  induction before generalizing done with
  | nil =>
    have huntyped := typed_iff.mpr h.untyped
    rw [List.append_nil] at huntyped
    simp [untypedJoin?, h.join, Word.is_false h.join (j := "WHERE") (by decide),
      Word.is_false h.join (j := "GROUP") (by decide), huntyped]
  | cons u before ih =>
    have hwhere : u.is "WHERE" = false := h.noWhere u (by simp)
    have hgroup : (u.is "GROUP" && (before ++ w :: after).head?.any (·.is "BY")) = false := by
      obtain ⟨-, hchain, -⟩ := List.isChain_append.mp h.noGroup
      cases before with
      | nil => simp [Word.is_false h.join (j := "BY") (by decide)]
      | cons v before => simpa using (List.isChain_cons_cons.mp hchain).1
    have hjoin : (u.is "JOIN" && !done.getLast?.any fun v => (JoinKind.ofWord? v.text).isSome) =
        false := by
      rw [Bool.eq_false_iff]
      intro hu
      rw [Bool.and_eq_true, Bool.not_eq_true'] at hu
      apply hfirst [] u before rfl
      rw [List.append_nil]
      exact ⟨h.toEarly.left, hu.1, typed_iff.mp hu.2⟩
    rw [List.append_cons done] at h ⊢
    have hrest :=
      ih (done ++ [u]) h fun b v a hb hv => hfirst (u :: b) v a (by rw [hb, List.cons_append])
      (by rwa [List.append_cons])
    rw [List.getLast?_concat] at hrest
    rw [List.cons_append, untypedJoin?, hwhere, hgroup, hjoin, ← hrest]
    simp

/-- It stops nowhere else. -/
theorem exists_untypedJoin (done : List Word) {ws : List Word} {x : Word} (hd : Early done)
    (hnext : ∀ v ∈ done.getLast?, ∀ u ∈ ws.head?, ¬ (v.is "GROUP" = true ∧ u.is "BY" = true))
    (h : untypedJoin? done.getLast? ws = some x) :
    ∃ before w after, ws = before ++ w :: after ∧ UntypedJoin (done ++ before) w := by
  induction ws generalizing done with
  | nil => cases h
  | cons u ws ih =>
    unfold untypedJoin? at h
    split at h
    · cases h
    · next hwhere =>
      split at h
      · cases h
      · next hgroup =>
        split at h
        · next hjoin =>
          rw [Bool.and_eq_true, Bool.not_eq_true'] at hjoin
          exact ⟨[], u, ws, rfl, by rw [List.append_nil]; exact ⟨hd, hjoin.1, typed_iff.mp hjoin.2⟩⟩
        · have hdone : Early (done ++ [u]) := by
            constructor
            · simpa [or_imp, forall_and] using ⟨hd.noWhere, eq_false_of_ne_true hwhere⟩
            · refine List.isChain_append.mpr ⟨hd.noGroup, .singleton u, ?_⟩
              simpa using hnext
          have hu : ∀ v ∈ (done ++ [u]).getLast?, ∀ w ∈ ws.head?,
              ¬ (v.is "GROUP" = true ∧ w.is "BY" = true) := by
            rw [List.getLast?_concat]
            cases ws with
            | nil => simp
            | cons w ws => simpa using hgroup
          rw [← List.getLast?_concat (l := done)] at h
          obtain ⟨before, w, after, rfl, hw⟩ := ih (done ++ [u]) hdone hu h
          exact ⟨u :: before, w, after, rfl, by rwa [List.append_cons]⟩

/-- Of the places in a list that have a property, one comes first. -/
theorem exists_first {α : Type} {P : List α → α → Prop} {before : List α} {w : α} (h : P before w)
    (after : List α) : ∃ b v a, before ++ w :: after = b ++ v :: a ∧ P b v ∧
      ∀ c u d, b = c ++ u :: d → ¬ P c u := by
  by_cases hfirst : ∃ c u d, before = c ++ u :: d ∧ P c u
  · obtain ⟨c, u, d, rfl, hu⟩ := hfirst
    obtain ⟨b, v, a, hb, hv, hmin⟩ := exists_first hu (d ++ w :: after)
    exact ⟨b, v, a, by rw [← hb]; simp, hv, hmin⟩
  · exact ⟨before, w, after, rfl, h, fun c u d hc hu => hfirst ⟨c, u, d, hc, hu⟩⟩
termination_by before.length
decreasing_by simp_all

theorem untypedJoin?_eq_none_iff {ws : List Word} :
    untypedJoin? none ws = none ↔
      ∀ before w after, ws = before ++ w :: after → ¬ UntypedJoin before w := by
  constructor
  · intro h before w after hws hw
    obtain ⟨b, v, a, hb, hv, hfirst⟩ := exists_first hw after
    have hsome := untypedJoin?_first [] hv hfirst a
    rw [List.getLast?_nil, ← hb, ← hws, h] at hsome
    cases hsome
  · intro h
    rw [Option.eq_none_iff_forall_ne_some]
    intro x hx
    obtain ⟨before, w, after, hws, hw⟩ := exists_untypedJoin [] early_nil (by simp) hx
    exact h before w after hws hw

/-! ## Queries -/

theorem fails_ofWords {ws : List Word} (h : untypedJoin? none ws = none) :
    Fails Malformed (Outline.ofWords ws) := by
  unfold Outline.ofWords
  rw [h]
  apply (Outline.fails_checkOrder _).bind
  intro _
  apply (Outline.fails_checkBodies _).bind
  intro _
  exact fails_ok _

end FlatQuery
