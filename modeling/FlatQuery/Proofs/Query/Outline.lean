import FlatQuery.Proofs.Fault
import FlatQuery.Proofs.Text.Standing
import FlatQuery.Query.Parser
import Mathlib.Data.List.Chain

/-!
# The outline of a row of words

`segments` cuts a row of words where a clause begins, and a row is ordinary if
no clause begins in it. An outline is read (`ofWords_eq_ok_iff`) exactly from
the rows that are an ordinary head and up to three clauses, in order and each
with an ordinary nonempty body, where no JOIN stands in the head or in the
body of the join.
-/

namespace FlatQuery

open Text

/-! ## Keywords -/

theorem Text.Word.is_iff {w : Word} {k : String} :
    w.is k = true ↔ upper w.text = upper k.toList := by
  simp [Word.is, sameLetters]

theorem Text.Word.is_false {w : Word} {k : String} (h : w.is k = true) {j : String}
    (hne : upper k.toList ≠ upper j.toList) : w.is j = false := by
  rw [Bool.eq_false_iff]
  exact fun hj => hne ((Word.is_iff.mp h).symm.trans (Word.is_iff.mp hj))

theorem JoinKind.ofWord?_eq_some_iff {w : List Char} {kind : JoinKind} :
    JoinKind.ofWord? w = some kind ↔ sameLetters w kind.name.toList = true := by
  constructor
  · exact fun h => by simpa using List.find?_some h
  · intro h
    rw [sameLetters, beq_iff_eq] at h
    cases kind <;> simp only [JoinKind.ofWord?, sameLetters, h, List.find?_cons] <;> rfl

/-- The two words begin a clause together. -/
def Opens (w v : Word) : Prop :=
  (w.is "GROUP" = true ∧ v.is "BY" = true) ∨
    (v.is "JOIN" = true ∧ ∃ kind : JoinKind, w.is kind.name = true)

/-- The words of the keyword that begins a clause. -/
inductive Begins : Marker → List Word → Prop
  | filter {w : Word} (h : w.is "WHERE" = true) : Begins .filter [w]
  | group {w v : Word} (h : w.is "GROUP" = true) (hv : v.is "BY" = true) : Begins .group [w, v]
  | join {kind : JoinKind} {w v : Word} (h : w.is kind.name = true) (hv : v.is "JOIN" = true) :
      Begins (.join kind) [w, v]

theorem Begins.ne_nil {m : Marker} {kw : List Word} (h : Begins m kw) : kw ≠ [] := by
  cases h <;> simp

theorem begins_filter_iff {kw : List Word} :
    Begins .filter kw ↔ ∃ w : Word, kw = [w] ∧ w.is "WHERE" = true := by
  constructor
  · rintro ⟨h⟩
    exact ⟨_, rfl, h⟩
  · rintro ⟨w, rfl, h⟩
    exact .filter h

theorem begins_group_iff {kw : List Word} :
    Begins .group kw ↔ ∃ w v : Word, kw = [w, v] ∧ w.is "GROUP" = true ∧ v.is "BY" = true := by
  constructor
  · rintro (_ | ⟨h, hv⟩)
    exact ⟨_, _, rfl, h, hv⟩
  · rintro ⟨w, v, rfl, h, hv⟩
    exact .group h hv

theorem begins_join_iff {kind : JoinKind} {kw : List Word} :
    Begins (.join kind) kw ↔
      ∃ w v : Word, kw = [w, v] ∧ w.is kind.name = true ∧ v.is "JOIN" = true := by
  constructor
  · rintro (_ | _ | ⟨h, hv⟩)
    exact ⟨_, _, rfl, h, hv⟩
  · rintro ⟨w, v, rfl, h, hv⟩
    exact .join h hv

/-- No clause begins among these words. -/
def Ordinary (ws : List Word) : Prop :=
  (∀ w ∈ ws, w.is "WHERE" = false) ∧ ws.IsChain fun w v => ¬ Opens w v

theorem marker?_eq_none_iff {w : Word} {rest : List Word} :
    marker? w rest = none ↔ w.is "WHERE" = false ∧ ∀ v ∈ rest.head?, ¬ Opens w v := by
  unfold marker?
  cases hw : w.is "WHERE" with
  | true => simp
  | false =>
    cases rest with
    | nil => simp
    | cons v after =>
      have hk : JoinKind.ofWord? w.text = none ↔ ∀ kind : JoinKind, w.is kind.name = false := by
        rw [Option.eq_none_iff_forall_ne_some]
        simp only [ne_eq, JoinKind.ofWord?_eq_some_iff, Word.is, Bool.not_eq_true]
      cases hg : w.is "GROUP" <;> cases hb : v.is "BY" <;> cases hj : v.is "JOIN" <;>
        simp [Opens, hg, hb, hj, hk]

theorem ordinary_cons {w : Word} {ws : List Word} :
    Ordinary (w :: ws) ↔ marker? w ws = none ∧ Ordinary ws := by
  rw [marker?_eq_none_iff, Ordinary, Ordinary, List.isChain_cons, List.forall_mem_cons]
  tauto

theorem Ordinary.within {xs ys : List Word} (h : Ordinary ys) (hx : xs <:+: ys) : Ordinary xs :=
  ⟨fun w hw => h.1 w (hx.subset hw), List.IsChain.infix h.2 hx⟩

/-- A word that is no part of a clause keyword. -/
def Text.Word.Neutral (w : Word) : Prop :=
  ∀ k ∈ ["WHERE", "GROUP", "BY", "JOIN", "INNER", "LEFT", "RIGHT"], w.is k = false

theorem Text.Word.neutral {w : Word} {k : String} (h : w.is k = true)
    (hk : k ∈ ["SELECT", "FROM", "ON", "AND", "OR"]) : w.Neutral := by
  have hne : ∀ k ∈ ["SELECT", "FROM", "ON", "AND", "OR"],
      ∀ j ∈ ["WHERE", "GROUP", "BY", "JOIN", "INNER", "LEFT", "RIGHT"],
        upper k.toList ≠ upper j.toList := by
    decide
  exact fun j hj => Word.is_false h (hne k hk j hj)

theorem Text.Word.Neutral.not_opens {w : Word} (h : w.Neutral) (v : Word) :
    ¬ Opens w v ∧ ¬ Opens v w := by
  refine ⟨?_, ?_⟩
  · rintro (⟨hw, -⟩ | ⟨-, kind, hw⟩)
    · rw [h _ (by simp)] at hw; cases hw
    · rw [h _ (by cases kind <;> simp [JoinKind.name])] at hw; cases hw
  · rintro (⟨-, hw⟩ | ⟨hw, -⟩)
    · rw [h _ (by simp)] at hw; cases hw
    · rw [h _ (by simp)] at hw; cases hw

theorem Ordinary.neutral {xs ys : List Word} (hx : Ordinary xs) {w : Word} (hw : w.Neutral)
    (hy : Ordinary ys) : Ordinary (xs ++ w :: ys) := by
  refine ⟨?_, List.isChain_append.mpr ⟨hx.2, List.isChain_cons.mpr ⟨?_, hy.2⟩, ?_⟩⟩
  · intro v hv
    rcases List.mem_append.mp hv with hv | hv
    · exact hx.1 v hv
    · rcases List.mem_cons.mp hv with rfl | hv
      · exact hw _ (by simp)
      · exact hy.1 v hv
  · exact fun v _ => (hw.not_opens v).1
  · intro v _ u hu
    obtain rfl := Option.some.inj hu
    exact (hw.not_opens v).2

theorem ordinary_nil : Ordinary [] := ⟨by simp, .nil⟩

theorem marker?_eq_some {w : Word} {rest after : List Word} {m : Marker}
    (h : marker? w rest = some (m, after)) : ∃ kw, Begins m kw ∧ w :: rest = kw ++ after := by
  unfold marker? at h
  split at h
  · next hw =>
    cases h
    exact ⟨[w], .filter hw, rfl⟩
  · cases rest with
    | nil => cases h
    | cons v after' =>
      simp only at h
      split at h
      · next hg =>
        cases h
        rw [Bool.and_eq_true] at hg
        exact ⟨[w, v], .group hg.1 hg.2, rfl⟩
      · split at h
        · next hj =>
          obtain ⟨kind, hk, he⟩ := Option.map_eq_some_iff.mp h
          cases he
          exact ⟨[w, v], .join (JoinKind.ofWord?_eq_some_iff.mp hk) hj, rfl⟩
        · cases h

theorem JoinKind.upper_name_ne (kind : JoinKind) {k : String}
    (h : k ∈ ["WHERE", "GROUP", "BY", "JOIN"]) : upper kind.name.toList ≠ upper k.toList := by
  revert k
  cases kind <;> decide

theorem marker?_of_begins {m : Marker} {w : Word} {kw : List Word} (h : Begins m (w :: kw))
    (body : List Word) : marker? w (kw ++ body) = some (m, body) := by
  cases h with
  | filter h => simp [marker?, h]
  | group h hv =>
    simp [marker?, Word.is_false h (j := "WHERE") (by decide), h, hv]
  | @join kind _ v h hv =>
    have h₁ : w.is "WHERE" = false := Word.is_false h (kind.upper_name_ne (by decide))
    have h₂ : w.is "GROUP" = false := Word.is_false h (kind.upper_name_ne (by decide))
    have h₃ : JoinKind.ofWord? w.text = some kind := JoinKind.ofWord?_eq_some_iff.mpr h
    simp [marker?, h₁, h₂, h₃, hv]

theorem marker?_second {m : Marker} {w v : Word} (h : Begins m [w, v]) (rest : List Word) :
    marker? v rest = none := by
  have hne : ∀ k ∈ ["BY", "JOIN"], ∀ j ∈ ["WHERE", "GROUP"], upper k.toList ≠ upper j.toList := by
    decide
  have hkind : ∀ k ∈ ["BY", "JOIN"], ∀ kind : JoinKind,
      upper kind.name.toList ≠ upper k.toList := by
    intro k hk kind
    exact kind.upper_name_ne (List.mem_cons_of_mem _ (List.mem_cons_of_mem _ hk))
  have key : ∀ k ∈ ["BY", "JOIN"], v.is k = true → marker? v rest = none := by
    intro k hk hv
    rw [marker?_eq_none_iff]
    refine ⟨Word.is_false hv (hne k hk _ (by simp)), ?_⟩
    rintro x - (⟨hx, -⟩ | ⟨-, kind, hx⟩)
    · rw [Word.is_false hv (hne k hk _ (by simp))] at hx; cases hx
    · rw [Word.is_false hx (hkind k hk kind)] at hv; cases hv
  cases h with
  | group _ hv => exact key _ (by simp) hv
  | join _ hv => exact key _ (by simp) hv

/-! ## Cutting at the keywords -/

theorem segments_cons_none {w : Word} {ws : List Word} (h : marker? w (segments ws).1 = none) :
    segments (w :: ws) = (w :: (segments ws).1, (segments ws).2) := by
  simp only [segments, h]

theorem segments_cons_some {w : Word} {ws after : List Word} {m : Marker}
    (h : marker? w (segments ws).1 = some (m, after)) :
    segments (w :: ws) = ([], (m, after) :: (segments ws).2) := by
  simp only [segments, h]

theorem segments_ordinary_append {xs ws : List Word} (h : Ordinary xs) (hw : (segments ws).1 = []) :
    segments (xs ++ ws) = (xs, (segments ws).2) := by
  induction xs with
  | nil => exact Prod.ext hw rfl
  | cons x xs ih =>
    obtain ⟨hx, hxs⟩ := ordinary_cons.mp h
    rw [List.cons_append, segments_cons_none (by rw [ih hxs]; exact hx), ih hxs]

theorem segments_begins {m : Marker} {kw : List Word} (h : Begins m kw) (ws : List Word) :
    segments (kw ++ ws) = ([], (m, (segments ws).1) :: (segments ws).2) := by
  match kw, h with
  | [w], h => exact segments_cons_some (marker?_of_begins h (segments ws).1)
  | [w, v], h =>
    have hv := segments_cons_none (marker?_second h (segments ws).1)
    have hw := marker?_of_begins h (segments ws).1
    rw [List.singleton_append] at hw
    rw [List.cons_append, List.singleton_append, segments_cons_some (by rw [hv]; exact hw), hv]

theorem segments_head {ws head : List Word} {parts : List (Marker × List Word)}
    (h : segments ws = (head, parts)) :
    Ordinary head ∧ ∃ rest, ws = head ++ rest ∧ segments rest = ([], parts) := by
  induction ws generalizing head with
  | nil =>
    cases h
    exact ⟨ordinary_nil, [], rfl, rfl⟩
  | cons w ws ih =>
    cases hm : marker? w (segments ws).1 with
    | none =>
      rw [segments_cons_none hm] at h
      cases h
      obtain ⟨ho, rest, hws, hrest⟩ := ih rfl
      exact ⟨ordinary_cons.mpr ⟨hm, ho⟩, rest, by rw [List.cons_append, ← hws], hrest⟩
    | some p =>
      have hs := segments_cons_some hm
      rw [h] at hs
      cases hs
      exact ⟨ordinary_nil, w :: ws, rfl, h⟩

theorem segments_keyword {ws body : List Word} {m : Marker} {more : List (Marker × List Word)}
    (h : segments ws = ([], (m, body) :: more)) :
    ∃ kw rest, Begins m kw ∧ ws = kw ++ rest ∧ segments rest = (body, more) := by
  cases ws with
  | nil => cases h
  | cons w ws =>
    cases hm : marker? w (segments ws).1 with
    | none => rw [segments_cons_none hm] at h; cases h
    | some p =>
      -- `segments ws` still has the second word of the keyword before the body
      rw [segments_cons_some hm] at h
      injection h with _ h
      obtain ⟨hp, rfl⟩ := List.cons.inj h
      obtain rfl : p = (m, body) := hp
      obtain ⟨kw, hkw, he⟩ := marker?_eq_some hm
      obtain ⟨ho, rest, hws, hrest⟩ := segments_head (rfl : segments ws = ((segments ws).1, _))
      obtain ⟨u, kw, rfl⟩ := List.exists_cons_of_ne_nil hkw.ne_nil
      obtain ⟨rfl, -⟩ := List.cons.inj he
      have hb : (segments ws).1 = kw ++ body := (List.cons.inj he).2
      rw [hb] at ho
      refine ⟨w :: kw, body ++ rest, hkw, ?_, ?_⟩
      · rw [List.cons_append, ← List.append_assoc, ← hb, ← hws]
      · have hbody : Ordinary body := ho.within (List.suffix_append kw body).isInfix
        rw [segments_ordinary_append hbody (by rw [hrest]), hrest]

theorem eq_nil_of_segments {ws : List Word} (h : segments ws = ([], [])) : ws = [] := by
  cases ws with
  | nil => rfl
  | cons w ws =>
    cases hm : marker? w (segments ws).1 with
    | none => rw [segments_cons_none hm] at h; cases h
    | some p => rw [segments_cons_some hm] at h; cases h

/-! ## Clauses in order -/

/-- The words of a clause that may be absent: its keyword and an ordinary
nonempty body. -/
def Covers (part : Option (Marker × List Word)) (ws : List Word) : Prop :=
  match part with
  | none => ws = []
  | some (m, body) => body ≠ [] ∧ Ordinary body ∧ ∃ kw, Begins m kw ∧ ws = kw ++ body

theorem Covers.nonempty {part : Option (Marker × List Word)} {cs : List Word} (h : Covers part cs) :
    ∀ p ∈ part, p.2 ≠ [] := by
  rintro p rfl
  exact h.1

theorem segments_covers {part : Option (Marker × List Word)} {cs : List Word} (h : Covers part cs)
    {ws : List Word} (hw : (segments ws).1 = []) :
    segments (cs ++ ws) = ([], part.toList ++ (segments ws).2) := by
  cases part with
  | none =>
    rw [show cs = [] from h]
    exact Prod.ext hw rfl
  | some p =>
    obtain ⟨-, ho, kw, hkw, rfl⟩ := h
    rw [List.append_assoc, segments_begins hkw, segments_ordinary_append ho hw]
    rfl

theorem covers_of_segments {part : Option (Marker × List Word)} {ws : List Word}
    {more : List (Marker × List Word)} (h : segments ws = ([], part.toList ++ more))
    (hne : ∀ p ∈ part, p.2 ≠ []) :
    ∃ cs rest, ws = cs ++ rest ∧ Covers part cs ∧ segments rest = ([], more) := by
  cases part with
  | none => exact ⟨[], ws, rfl, rfl, h⟩
  | some p =>
    obtain ⟨kw, rest, hkw, rfl, hr⟩ := segments_keyword h
    obtain ⟨ho, rest, rfl, hm⟩ := segments_head hr
    exact ⟨kw ++ p.2, rest, by rw [List.append_assoc], ⟨hne p rfl, ho, kw, hkw, rfl⟩, hm⟩

namespace Outline

def joinPart (o : Outline) : Option (Marker × List Word) :=
  o.join.map fun (kind, body) => (.join kind, body)

def filterPart (o : Outline) : Option (Marker × List Word) := o.filter.map (.filter, ·)

def groupPart (o : Outline) : Option (Marker × List Word) := o.group.map (.group, ·)

/-- The clauses of an outline in their order. -/
def parts (o : Outline) : List (Marker × List Word) :=
  o.joinPart.toList ++ (o.filterPart.toList ++ o.groupPart.toList)

theorem checkOrder_parts (o : Outline) : checkOrder (o.parts.map (·.1.clause)) = .ok () := by
  obtain ⟨_, _ | _, _ | _, _ | _⟩ := o <;> rfl

theorem join?_parts (o : Outline) : join? o.parts = o.join := by
  obtain ⟨_, _ | _, _ | _, _ | _⟩ := o <;> rfl

theorem body?_filter_parts (o : Outline) : body? .filter o.parts = o.filter := by
  obtain ⟨_, _ | _, _ | _, _ | _⟩ := o <;> rfl

theorem body?_group_parts (o : Outline) : body? .group o.parts = o.group := by
  obtain ⟨_, _ | _, _ | _, _ | _⟩ := o <;> rfl

theorem checkOrder_cons {c : Clause} {cs : List Clause} :
    checkOrder (c :: cs) = .ok () ↔ (∀ d ∈ cs.head?, c.rank < d.rank) ∧ checkOrder cs = .ok () := by
  cases cs with
  | nil => simp [checkOrder]
  | cons d cs =>
    rw [checkOrder]
    split
    · next h => simp [h]
    · split
      · next h => simp [Nat.not_lt.mpr h.le]
      · next h₁ h₂ => simp [Nat.lt_of_le_of_ne (Nat.not_lt.mp h₂) h₁]

/-- Clauses in ascending order are those of an outline. -/
theorem exists_parts (head : List Word) {parts : List (Marker × List Word)}
    (h : checkOrder (parts.map (·.1.clause)) = .ok ()) :
    ∃ o : Outline, o.head = head ∧ o.parts = parts := by
  induction parts with
  | nil => exact ⟨⟨head, none, none, none⟩, rfl, rfl⟩
  | cons p parts ih =>
    obtain ⟨hlt, hp⟩ := checkOrder_cons.mp h
    obtain ⟨⟨_, join, filter, group⟩, rfl, rfl⟩ := ih hp
    obtain ⟨m, body⟩ := p
    cases m with
    | join kind =>
      cases join with
      | none => exact ⟨⟨_, some (kind, body), filter, group⟩, rfl, rfl⟩
      | some j => simp [parts, joinPart, Marker.clause, Clause.rank] at hlt
    | filter =>
      cases join with
      | some j => simp [parts, joinPart, Marker.clause, Clause.rank] at hlt
      | none =>
        cases filter with
        | none => exact ⟨⟨_, none, some body, group⟩, rfl, rfl⟩
        | some f => simp [parts, joinPart, filterPart, Marker.clause, Clause.rank] at hlt
    | group =>
      cases join with
      | some j => simp [parts, joinPart, Marker.clause, Clause.rank] at hlt
      | none =>
        cases filter with
        | some f => simp [parts, joinPart, filterPart, Marker.clause, Clause.rank] at hlt
        | none =>
          cases group with
          | none => exact ⟨⟨_, none, none, some body⟩, rfl, rfl⟩
          | some g =>
            simp [parts, joinPart, filterPart, groupPart, Marker.clause, Clause.rank] at hlt

theorem checkBodies_eq_ok_iff {parts : List (Marker × List Word)} :
    checkBodies parts = .ok () ↔ ∀ p ∈ parts, p.2 ≠ [] := by
  induction parts with
  | nil => simp [checkBodies]
  | cons p parts ih =>
    obtain ⟨m, body⟩ := p
    cases body with
    | nil => simp [checkBodies]
    | cons w body => simp [checkBodies, ih]

end Outline

/-! ## Joins without a kind -/

theorem untypedJoin?_step {w : Word} {ws : List Word} (hw : w.is "WHERE" = false)
    (hb : ∀ v ∈ ws.head?, ¬ (w.is "GROUP" = true ∧ v.is "BY" = true)) (hj : w.is "JOIN" = false)
    (p : Option Word) : untypedJoin? p (w :: ws) = untypedJoin? (some w) ws := by
  have hg : ¬ (w.is "GROUP" && ws.head?.any (·.is "BY")) = true := by
    cases ws with
    | nil => simp
    | cons v ws => simpa using hb v rfl
  simp [untypedJoin?, hw, hg, hj]

/-- Over ordinary words the scan stops at every JOIN. -/
theorem untypedJoin?_ordinary {xs ws : List Word} (h : Ordinary xs)
    (hw : ∀ v ∈ ws.head?, v.is "BY" = false) {p : Option Word}
    (hp : ∀ w ∈ p, ∀ v ∈ xs.head?, ¬ Opens w v) :
    untypedJoin? p (xs ++ ws) = none ↔
      (∀ x ∈ xs, x.is "JOIN" = false) ∧ untypedJoin? (xs.getLast?.or p) ws = none := by
  induction xs generalizing p with
  | nil => simp
  | cons x xs ih =>
    have hx : x.is "WHERE" = false := h.1 x (by simp)
    obtain ⟨hx', hxs⟩ := List.isChain_cons.mp h.2
    have ho : Ordinary xs := ⟨fun w hw => h.1 w (by simp [hw]), hxs⟩
    have hb : ∀ v ∈ (xs ++ ws).head?, ¬ (x.is "GROUP" = true ∧ v.is "BY" = true) := by
      rintro v hv ⟨hg, hvb⟩
      cases xs with
      | nil => rw [hw v hv] at hvb; cases hvb
      | cons y ys =>
        obtain rfl : y = v := Option.some.inj hv
        exact hx' y rfl (.inl ⟨hg, hvb⟩)
    cases hj : x.is "JOIN" with
    | true =>
      -- a kind before this JOIN would begin a clause with it, so the scan stops here
      have hg : x.is "GROUP" = false := Word.is_false hj (by decide)
      have hk : p.any (fun v => (JoinKind.ofWord? v.text).isSome) = false := by
        cases p with
        | none => rfl
        | some v =>
          rw [Option.any_some, Bool.eq_false_iff]
          intro hs
          obtain ⟨kind, hkind⟩ := Option.isSome_iff_exists.mp hs
          exact hp v rfl x rfl (.inr ⟨hj, kind, JoinKind.ofWord?_eq_some_iff.mp hkind⟩)
      simp [untypedJoin?, hx, hg, hj, hk]
    | false =>
      rw [List.cons_append, untypedJoin?_step hx hb hj, ih ho fun w hw => by
        obtain rfl : x = w := Option.some.inj hw
        exact hx']
      simp [hj, List.getLast?_cons]

theorem untypedJoin?_join {kind : JoinKind} {kw : List Word} (h : Begins (.join kind) kw)
    (p : Option Word) (ws : List Word) :
    ∃ v : Word, v.is "JOIN" = true ∧ untypedJoin? p (kw ++ ws) = untypedJoin? (some v) ws := by
  cases h with
  | @join _ w v hk hv =>
    have hw : ∀ j ∈ ["WHERE", "GROUP", "BY", "JOIN"], w.is j = false := fun j hj =>
      Word.is_false hk (kind.upper_name_ne hj)
    have hs : JoinKind.ofWord? w.text = some kind := JoinKind.ofWord?_eq_some_iff.mpr hk
    refine ⟨v, hv, ?_⟩
    rw [List.cons_append, untypedJoin?_step (hw _ (by simp)) (by simp [hw]) (hw _ (by simp)),
      List.singleton_append]
    simp [untypedJoin?, Word.is_false hv (j := "WHERE") (by decide),
      Word.is_false hv (j := "GROUP") (by decide), hs]

/-- From a WHERE or a GROUP BY on every JOIN is ordinary text. -/
theorem untypedJoin?_past {m : Marker} (hm : m.clause ≠ .join) {kw : List Word} (h : Begins m kw)
    (p : Option Word) (ws : List Word) : untypedJoin? p (kw ++ ws) = none := by
  cases h with
  | filter hw => simp [untypedJoin?, hw]
  | group hw hv => simp [untypedJoin?, hw, hv]
  | join => exact absurd rfl hm

theorem covers_head {part : Option (Marker × List Word)} {cs ws : List Word} (h : Covers part cs)
    (hw : ∀ v ∈ ws.head?, v.is "BY" = false) : ∀ v ∈ (cs ++ ws).head?, v.is "BY" = false := by
  cases part with
  | none =>
    rw [show cs = [] from h]
    exact hw
  | some p =>
    obtain ⟨m, body⟩ := p
    obtain ⟨-, -, kw, hkw, rfl⟩ := h
    intro v hv
    cases hkw with
    | filter h =>
      obtain rfl := Option.some.inj hv
      exact Word.is_false h (by decide)
    | group h _ =>
      obtain rfl := Option.some.inj hv
      exact Word.is_false h (by decide)
    | @join kind _ _ h _ =>
      obtain rfl := Option.some.inj hv
      exact Word.is_false h (kind.upper_name_ne (by decide))

/-- No JOIN of the head or of the join's own body is without a kind. -/
theorem untypedJoin?_covers {o : Outline} {js fs gs : List Word} (ho : Ordinary o.head)
    (hj : Covers o.joinPart js) (hf : Covers o.filterPart fs) (hg : Covers o.groupPart gs) :
    untypedJoin? none (o.head ++ (js ++ (fs ++ gs))) = none ↔
      (∀ w ∈ o.head, w.is "JOIN" = false) ∧ ∀ p ∈ o.join, ∀ w ∈ p.2, w.is "JOIN" = false := by
  obtain ⟨head, join, filter, group⟩ := o
  -- past the join the scan ends at the next clause, whatever the word before it
  have hpast : ∀ p, untypedJoin? p (fs ++ gs) = none := by
    intro p
    cases filter with
    | some body =>
      obtain ⟨-, -, kw, hkw, rfl⟩ := hf
      rw [List.append_assoc, untypedJoin?_past (by simp [Marker.clause]) hkw]
    | none =>
      rw [show fs = [] from hf, List.nil_append]
      cases group with
      | some body =>
        obtain ⟨-, -, kw, hkw, rfl⟩ := hg
        rw [untypedJoin?_past (by simp [Marker.clause]) hkw]
      | none => rw [show gs = [] from hg]; rfl
  have hgs : ∀ v ∈ gs.head?, v.is "BY" = false := by
    simpa using covers_head hg (by simp : ∀ v ∈ ([] : List Word).head?, v.is "BY" = false)
  have hfs := covers_head hf hgs
  rw [untypedJoin?_ordinary ho (covers_head hj hfs) (by simp)]
  cases join with
  | none =>
    rw [show js = [] from hj, List.nil_append, hpast]
    simp
  | some p =>
    obtain ⟨kind, body⟩ := p
    obtain ⟨-, hb, kw, hkw, rfl⟩ := hj
    obtain ⟨v, hv, he⟩ := untypedJoin?_join hkw (head.getLast?.or none) (body ++ (fs ++ gs))
    have hopen : ∀ w, ¬ Opens v w := by
      rintro w (⟨h, -⟩ | ⟨-, kind, h⟩)
      · rw [Word.is_false hv (by decide)] at h; cases h
      · rw [Word.is_false h (kind.upper_name_ne (by decide))] at hv; cases hv
    rw [List.append_assoc, he, untypedJoin?_ordinary hb hfs (by simpa using fun w _ => hopen w),
      hpast]
    simp

/-! ## Reading an outline -/

theorem segments_eq_parts_iff {ws : List Word} {o : Outline} :
    (segments ws = (o.head, o.parts) ∧ ∀ p ∈ o.parts, p.2 ≠ []) ↔
      ∃ js fs gs, ws = o.head ++ (js ++ (fs ++ gs)) ∧ Ordinary o.head ∧ Covers o.joinPart js ∧
        Covers o.filterPart fs ∧ Covers o.groupPart gs := by
  constructor
  · rintro ⟨h, hne⟩
    obtain ⟨ho, rest, rfl, hr⟩ := segments_head h
    obtain ⟨js, rest, rfl, hj, hr⟩ :=
      covers_of_segments hr fun p hp => hne p (by simp [Outline.parts, Option.mem_def.mp hp])
    obtain ⟨fs, rest, rfl, hf, hr⟩ :=
      covers_of_segments hr fun p hp => hne p (by simp [Outline.parts, Option.mem_def.mp hp])
    rw [← List.append_nil o.groupPart.toList] at hr
    obtain ⟨gs, rest, rfl, hg, hr⟩ :=
      covers_of_segments hr fun p hp => hne p (by simp [Outline.parts, Option.mem_def.mp hp])
    rw [eq_nil_of_segments hr, List.append_nil]
    exact ⟨js, fs, gs, rfl, ho, hj, hf, hg⟩
  · rintro ⟨js, fs, gs, rfl, ho, hj, hf, hg⟩
    have hgs : segments gs = ([], o.groupPart.toList) := by
      simpa [segments] using segments_covers hg (rfl : (segments []).1 = [])
    have hfs := segments_covers hf (by rw [hgs] : (segments gs).1 = [])
    have hjs := segments_covers hj (by rw [hfs] : (segments (fs ++ gs)).1 = [])
    rw [segments_ordinary_append ho (by rw [hjs]), hjs, hfs, hgs]
    refine ⟨rfl, fun p hp => ?_⟩
    simp only [Outline.parts, List.mem_append, Option.mem_toList] at hp
    rcases hp with hp | hp | hp
    · exact hj.nonempty p hp
    · exact hf.nonempty p hp
    · exact hg.nonempty p hp

namespace Outline

theorem ofWords_eq_ok {ws : List Word} {o : Outline} :
    ofWords ws = .ok o ↔ untypedJoin? none ws = none ∧
      segments ws = (o.head, o.parts) ∧ ∀ p ∈ o.parts, p.2 ≠ [] := by
  cases hu : untypedJoin? none ws with
  | some w => simp [ofWords, hu]
  | none =>
    obtain ⟨⟨head, parts⟩, hs⟩ : ∃ p, segments ws = p := ⟨_, rfl⟩
    simp only [ofWords, hu, hs, true_and]
    constructor
    · intro h
      obtain ⟨_, hc, h⟩ := bind_eq_ok_iff.mp h
      obtain ⟨_, hb, h⟩ := bind_eq_ok_iff.mp h
      obtain ⟨o', rfl, rfl⟩ := exists_parts head hc
      have ho : o' = o := by
        cases h
        rw [join?_parts, body?_filter_parts, body?_group_parts]
      rw [← ho]
      exact ⟨rfl, checkBodies_eq_ok_iff.mp hb⟩
    · rintro ⟨h, hne⟩
      cases h
      rw [checkOrder_parts, checkBodies_eq_ok_iff.mpr hne, join?_parts, body?_filter_parts,
        body?_group_parts]
      rfl

/-- **Outlines.** A row of words has an outline iff it is a head and clauses
in order, none of them empty, without a JOIN in the head or the join. -/
theorem ofWords_eq_ok_iff {ws : List Word} {o : Outline} :
    ofWords ws = .ok o ↔
      ∃ js fs gs, ws = o.head ++ (js ++ (fs ++ gs)) ∧ Ordinary o.head ∧ Covers o.joinPart js ∧
        Covers o.filterPart fs ∧ Covers o.groupPart gs ∧ (∀ w ∈ o.head, w.is "JOIN" = false) ∧
        ∀ p ∈ o.join, ∀ w ∈ p.2, w.is "JOIN" = false := by
  rw [ofWords_eq_ok, segments_eq_parts_iff]
  constructor
  · rintro ⟨hu, js, fs, gs, rfl, ho, hj, hf, hg⟩
    exact ⟨js, fs, gs, rfl, ho, hj, hf, hg, (untypedJoin?_covers ho hj hf hg).mp hu⟩
  · rintro ⟨js, fs, gs, rfl, ho, hj, hf, hg, hu⟩
    exact ⟨(untypedJoin?_covers ho hj hf hg).mpr hu, js, fs, gs, rfl, ho, hj, hf, hg⟩

end Outline

end FlatQuery
