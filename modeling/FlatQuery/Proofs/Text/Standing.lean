import FlatQuery.Proofs.Text.Words

/-!
# Keywords standing in a text

A row of keywords stands in a text where consecutive words of the text spell
it. This is said of the text itself (`Stands`) and is the same as a run in the
list of its words (`stands_iff`). A character that occurs in none of the
keywords and is no blank, such as a comma or a quote, keeps what stands on its
two sides apart: the words it touches spell no keyword (`stands_around`).
-/

namespace FlatQuery.Text

/-- The text is these keywords, in any letter case and with gaps between them. -/
inductive Spelled : List String → List Char → Prop
  | one {k : String} {w : List Char} (solid : Solid w) (nonempty : w ≠ [])
      (same : sameLetters w k.toList = true) : Spelled [k] w
  | more {k : String} {ks : List String} {w g s : List Char} (solid : Solid w) (nonempty : w ≠ [])
      (same : sameLetters w k.toList = true) (blank : AllBlank g) (apart : g ≠ [])
      (rest : Spelled ks s) : Spelled (k :: ks) (w ++ (g ++ s))

/-- Consecutive words of the text spell these keywords. -/
def Stands (keys : List String) (s : List Char) : Prop :=
  ∃ a m b, s = a ++ (m ++ b) ∧ Spelled keys m ∧ BlankLast a ∧ BlankFirst b

/-- None of these rows of keywords stands in the text. -/
def Avoids (rows : List (List String)) (s : List Char) : Prop := ∀ keys ∈ rows, ¬ Stands keys s

theorem avoids_cons {row : List String} {rows : List (List String)} {s : List Char} :
    Avoids (row :: rows) s ↔ ¬ Stands row s ∧ Avoids rows s := List.forall_mem_cons

theorem Spelled.ne_nil {keys : List String} {m : List Char} (h : Spelled keys m) : m ≠ [] := by
  cases h with
  | one _ hne _ => exact hne
  | more _ hne _ _ _ _ => exact fun he => hne (List.append_eq_nil_iff.mp he).1

/-! ## Runs of words -/

theorem Spelled.wordTexts {keys : List String} {m : List Char} (h : Spelled keys m) :
    (wordTexts m).map upper = keys.map fun k => upper k.toList := by
  induction h with
  | one hs hne hk =>
    have := wordTexts_cons allBlank_nil hs hne blankFirst_nil
    rw [List.nil_append, List.append_nil, wordTexts_of_allBlank allBlank_nil] at this
    rw [this]
    simpa [sameLetters] using hk
  | @more k ks w g s hs hne hk hg hgne _ ih =>
    have := wordTexts_cons allBlank_nil hs hne (hg.first.append (t := s) hgne)
    rw [List.nil_append] at this
    rw [this, wordTexts_allBlank_append hg, List.map_cons, ih]
    simpa [sameLetters] using hk

theorem spelled_phrase : ∀ {keys : List String} {ws : List Word}, Proper ws → ws ≠ [] →
    (ws.map fun w => upper w.text) = keys.map (fun k => upper k.toList) → Spelled keys (phrase ws)
  | [], w :: ws, _, _, he => by cases he
  | [k], [w], hp, _, he => by
    rw [phrase_cons, show spell [] = [] from rfl, List.append_nil]
    refine .one (hp.solid w (by simp)) (hp.nonempty w (by simp)) ?_
    simpa [sameLetters] using he
  | [_], _ :: _ :: _, _, _, he => by simp at he
  | _ :: _ :: _, [_], _, _, he => by simp at he
  | k :: j :: ks, w :: v :: ws, hp, _, he => by
    rw [List.map_cons, List.map_cons] at he
    obtain ⟨hk, he⟩ := List.cons.inj he
    have hr : Proper (v :: ws) := hp.tail
    have := spelled_phrase hr (by simp) he
    rw [phrase_cons, spell_cons, ← phrase_cons]
    exact .more (hp.solid w (by simp)) (hp.nonempty w (by simp)) (by simpa [sameLetters] using hk)
      (hr.blank v (by simp)) (hp.apart v (by simp)) this

theorem stands_iff {keys : List String} {s : List Char} :
    Stands keys s ↔
      keys ≠ [] ∧ (keys.map fun k => upper k.toList) <:+: (wordTexts s).map upper := by
  constructor
  · rintro ⟨a, m, b, rfl, hm, ha, hb⟩
    have hne : keys ≠ [] := by rintro rfl; cases hm
    refine ⟨hne, (wordTexts a).map upper, (wordTexts b).map upper, ?_⟩
    rw [wordTexts_append (.inl ha), wordTexts_append (.inr hb), List.map_append, List.map_append,
      hm.wordTexts, List.append_assoc]
  · rintro ⟨hne, p, q, h⟩
    rw [wordTexts, List.map_map] at h
    obtain ⟨xys, zs, hws, hxy, -⟩ := List.map_eq_append_iff.mp h.symm
    obtain ⟨xs, ys, rfl, -, hys⟩ := List.map_eq_append_iff.mp hxy
    have hp := proper_words s
    obtain ⟨b, hb, hs⟩ := exists_spell s
    rw [hws] at hp hs
    cases ys with
    | nil => exact absurd (List.map_eq_nil_iff.mp hys.symm) hne
    | cons y ys =>
      have hpy : Proper (y :: ys) := hp.left.right
      refine ⟨spell xs ++ y.gap, phrase (y :: ys), spell zs ++ b, ?_, ?_, ?_, ?_⟩
      · rw [hs, spell_append, spell_append, spell_cons, phrase_cons]
        simp only [List.append_assoc]
      · exact spelled_phrase hpy (by simp) hys
      · exact hp.left.blankLast_gap
      · cases zs with
        | nil => exact hb.first
        | cons z zs =>
          rw [spell_cons, List.append_assoc]
          have hz : z ∈ (xs ++ y :: ys ++ z :: zs).tail := by cases xs <;> simp
          exact (hp.blank z (by simp)).first.append (hp.apart z hz)

instance (keys : List String) (s : List Char) : Decidable (Stands keys s) :=
  decidable_of_iff _ stands_iff.symm

instance (rows : List (List String)) (s : List Char) : Decidable (Avoids rows s) :=
  inferInstanceAs (Decidable (∀ keys ∈ rows, ¬ Stands keys s))

theorem stands_of_words {keys : List String} {s : List Char} {ws : List Word}
    (h : ws.map Word.text = wordTexts s) :
    Stands keys s ↔
      keys ≠ [] ∧ (keys.map fun k => upper k.toList) <:+: ws.map fun w => upper w.text := by
  rw [stands_iff, ← h, List.map_map]; rfl

theorem stands_one_iff {k : String} {s : List Char} {ws : List Word}
    (h : ws.map Word.text = wordTexts s) : Stands [k] s ↔ ∃ w ∈ ws, w.is k = true := by
  rw [stands_of_words h, List.map_singleton, List.singleton_infix_iff]
  simp [Word.is, sameLetters]

theorem stands_two_iff {k j : String} {s : List Char} {ws : List Word}
    (h : ws.map Word.text = wordTexts s) :
    Stands [k, j] s ↔
      ∃ xs w v ys, ws = xs ++ w :: v :: ys ∧ w.is k = true ∧ v.is j = true := by
  rw [stands_of_words h]
  constructor
  · rintro ⟨-, p, q, he⟩
    obtain ⟨xvs, ys, rfl, hx, -⟩ := List.map_eq_append_iff.mp he.symm
    obtain ⟨xs, vs, rfl, -, hv⟩ := List.map_eq_append_iff.mp hx
    obtain ⟨w, vs, rfl, hw, hv⟩ := List.map_eq_cons_iff.mp hv
    obtain ⟨v, vs, rfl, hv', hn⟩ := List.map_eq_cons_iff.mp hv
    obtain rfl := List.map_eq_nil_iff.mp hn
    exact ⟨xs, w, v, ys, by simp, by simp [Word.is, sameLetters, hw],
      by simp [Word.is, sameLetters, hv']⟩
  · rintro ⟨xs, w, v, ys, rfl, hw, hv⟩
    simp only [Word.is, sameLetters, beq_iff_eq] at hw hv
    exact ⟨by simp, xs.map (fun w => upper w.text), ys.map (fun w => upper w.text),
      by simp [hw, hv]⟩

/-! ## Around a foreign character -/

/-- No blank, and no letter of the keywords. -/
def Foreign (c : Char) (keys : List String) : Prop :=
  isBlank c = false ∧ ∀ k ∈ keys, c.toUpper ∉ upper k.toList

theorem Foreign.notMem_spelled {c : Char} {keys : List String} {m : List Char} (hc : Foreign c keys)
    (hm : Spelled keys m) : c ∉ m := by
  have letter : ∀ {w : List Char} {k : String}, k ∈ keys → sameLetters w k.toList = true →
      c ∉ w := by
    intro w k hk hw hcw
    rw [sameLetters, beq_iff_eq] at hw
    exact hc.2 k hk (hw ▸ List.mem_map_of_mem hcw)
  induction hm with
  | one _ _ hk => exact letter (by simp) hk
  | @more k ks w g s _ _ hk hg _ _ ih =>
    have hs := ih ⟨hc.1, fun j hj => hc.2 j (by simp [hj])⟩ fun hj => letter (by simp [hj])
    have hcg : c ∉ g := fun h => absurd (hg c h) (by simp [hc.1])
    simp [letter (by simp) hk, hcg, hs]

theorem Stands.append {keys : List String} {u : List Char} (h : Stands keys u) {b : Char}
    (hb : isBlank b = true) (r : List Char) : Stands keys (u ++ b :: r) := by
  obtain ⟨a, m, e, rfl, hm, ha, he⟩ := h
  refine ⟨a, m, e ++ b :: r, by simp only [List.append_assoc], hm, ha, ?_⟩
  cases e with
  | nil => simpa [BlankFirst] using hb
  | cons d e => exact he

theorem Stands.prepend {keys : List String} {u : List Char} (h : Stands keys u) {b : Char}
    (hb : isBlank b = true) (r : List Char) : Stands keys (r ++ b :: u) := by
  obtain ⟨a, m, e, rfl, hm, ha, he⟩ := h
  refine ⟨r ++ b :: a, m, e, by simp, hm, ?_, he⟩
  cases a with
  | nil => simpa [BlankLast] using hb
  | cons d a => simpa [BlankLast, List.getLast?_cons_cons] using ha

/-- What stands in a text with a foreign character stands before that
character or after it, with a blank in between. -/
theorem stands_around {c : Char} {keys : List String} (hc : Foreign c keys) {x y : List Char}
    (h : Stands keys (x ++ c :: y)) :
    (∃ u b r, x = u ++ b :: r ∧ isBlank b = true ∧ Stands keys u) ∨
      ∃ r b u, y = r ++ b :: u ∧ isBlank b = true ∧ Stands keys u := by
  obtain ⟨a, m, e, he, hm, ha, hb⟩ := h
  have hcm := hc.notMem_spelled hm
  rcases List.append_eq_append_iff.mp he with ⟨as, rfl, h₁⟩ | ⟨bs, rfl, h₁⟩
  · -- the character comes before the keywords
    cases as with
    | nil =>
      obtain ⟨d, m, rfl⟩ := List.exists_cons_of_ne_nil hm.ne_nil
      exact absurd (List.cons.inj h₁).1 fun hd => hcm (by simp [hd])
    | cons d as =>
      obtain ⟨rfl, rfl⟩ := List.cons.inj h₁
      rcases List.eq_nil_or_concat as with rfl | ⟨r, b, rfl⟩
      · exact absurd (ha c (by simp)) (by simp [hc.1])
      · have hb' : isBlank b = true := ha b (by simp [List.getLast?_cons])
        exact .inr ⟨r, b, m ++ e, by simp, hb', [], m, e, rfl, hm, blankLast_nil, hb⟩
  · rcases List.append_eq_append_iff.mp h₁ with ⟨as, rfl, h₂⟩ | ⟨es, rfl, h₂⟩
    · -- the character comes after the keywords
      cases as with
      | nil =>
        exact absurd (hb c (by simp [h₂])) (by simp [hc.1])
      | cons b r =>
        have hb' : isBlank b = true := hb b (by simp [h₂])
        exact .inl ⟨a ++ m, b, r, by simp, hb', a, m, [], by simp, hm, ha, blankFirst_nil⟩
    · cases es with
      | nil =>
        rw [List.nil_append] at h₂
        exact absurd (hb c (by simp [← h₂])) (by simp [hc.1])
      | cons d es =>
        obtain ⟨rfl, -⟩ := List.cons.inj h₂
        exact absurd hcm (by simp)

/-- Whatever replaces a foreign character, what stood in the text still does. -/
theorem Stands.replace {c : Char} {keys : List String} (hc : Foreign c keys) {x y : List Char}
    (h : Stands keys (x ++ c :: y)) (z : List Char) : Stands keys (x ++ (z ++ y)) := by
  rcases stands_around hc h with ⟨u, b, r, rfl, hb, hu⟩ | ⟨r, b, u, rfl, hb, hu⟩
  · simpa using hu.append hb (r ++ (z ++ y))
  · simpa using hu.prepend hb (x ++ (z ++ r))

theorem Stands.side {c : Char} {keys : List String} (hc : Foreign c keys) {x y : List Char}
    (h : Stands keys (x ++ c :: y)) : Stands keys x ∨ Stands keys y := by
  rcases stands_around hc h with ⟨u, b, r, rfl, hb, hu⟩ | ⟨r, b, u, rfl, hb, hu⟩
  · exact .inl (hu.append hb r)
  · exact .inr (hu.prepend hb r)

theorem not_stands_nil (keys : List String) : ¬ Stands keys [] := by
  rintro ⟨a, m, b, h, hm, -, -⟩
  have := (List.append_eq_nil_iff.mp h.symm).2
  exact hm.ne_nil (List.append_eq_nil_iff.mp this).1

theorem stands_allBlank_append {g : List Char} (hg : AllBlank g) {keys : List String}
    {s : List Char} : Stands keys (g ++ s) ↔ Stands keys s := by
  rw [stands_iff, stands_iff, wordTexts_allBlank_append hg]

theorem stands_append_allBlank {g : List Char} (hg : AllBlank g) {keys : List String}
    {s : List Char} : Stands keys (s ++ g) ↔ Stands keys s := by
  rw [stands_iff, stands_iff, wordTexts_append (.inr hg.first), wordTexts_of_allBlank hg,
    List.append_nil]

theorem Stands.single {keys : List String} {s : List Char} (h : Stands keys s) {k : String}
    (hk : k ∈ keys) : Stands [k] s := by
  rw [stands_iff] at h ⊢
  obtain ⟨p, q, hpq⟩ := h.2
  obtain ⟨ks, js, rfl⟩ := List.append_of_mem hk
  exact ⟨by simp, p ++ ks.map (fun k => upper k.toList), js.map (fun k => upper k.toList) ++ q,
    by simpa using hpq⟩

end FlatQuery.Text
