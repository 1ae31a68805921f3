import FlatQuery.Proofs.Text.Slice

/-!
# Words as maximal runs

A run is a part of a text without blanks that cannot be made longer: on both
sides of it there is a blank or nothing (`Span.IsRun`). The words of a text at
their places are its runs (`mem_place_words_iff`) in ascending order, and a
text has only one such list (`Runs.unique`). What they leave out is blank
(`spaced_place`), and how long a gap is makes no difference to the words
(`wordTexts_regap`). So the scan of a text is known from its runs alone
(`spans?_exact`).
-/

namespace FlatQuery.Text

/-- A part of the text, not empty and without blanks, that ends on both sides
at a blank or at an end of the text. -/
def Span.IsRun (s : List Char) (w : Span) : Prop :=
  ∃ a b, s = a ++ (w.text ++ b) ∧ bytes a = w.start ∧ bytes a + bytes w.text = w.stop ∧
    Solid w.text ∧ w.text ≠ [] ∧ BlankLast a ∧ BlankFirst b

/-- These are the runs of the text, and each ends before the next begins. -/
structure Runs (s : List Char) (ws : List Span) : Prop where
  mem_iff : ∀ w, w ∈ ws ↔ w.IsRun s
  ascending : ws.Pairwise fun v w => v.stop < w.start

/-- What stands before, between and after these words is blank. -/
structure Spaced (s : List Char) (ws : List Span) : Prop where
  empty : ws = [] → AllBlank s
  first : ∀ w ∈ ws.head?, ∃ g, slice? s 0 w.start = some g ∧ AllBlank g
  between : ∀ v w, [v, w] <:+: ws → ∃ g, slice? s v.stop w.start = some g ∧ AllBlank g ∧ g ≠ []
  last : ∀ w ∈ ws.getLast?, ∃ g, slice? s w.stop (bytes s) = some g ∧ AllBlank g

variable {s : List Char}

/-! ## What a run is -/

section

variable {w : Span} (h : w.IsRun s)

include h

theorem Span.IsRun.solid : Solid w.text := by
  obtain ⟨a, b, -, -, -, ht, -⟩ := h
  exact ht

theorem Span.IsRun.start_lt_stop : w.start < w.stop := by
  obtain ⟨a, b, -, hstart, hstop, -, hne, -⟩ := h
  have hpos := bytes_pos hne
  omega

theorem Span.IsRun.slice?_eq : slice? s w.start w.stop = some w.text := by
  obtain ⟨a, b, hs, hstart, hstop, -⟩ := h
  exact slice?_eq_some_iff.mpr ⟨a, b, hs, hstart, hstop⟩

theorem Span.IsRun.isValid : String.Pos.Raw.IsValid (String.ofList s) ⟨w.start⟩ ∧
    String.Pos.Raw.IsValid (String.ofList s) ⟨w.stop⟩ := by
  have hsome : (slice? s w.start w.stop).isSome := by rw [h.slice?_eq]; rfl
  exact (isSome_slice?_iff.mp hsome).2

end

theorem Runs.nodup {ws : List Span} (h : Runs s ws) : ws.Nodup := by
  refine h.ascending.imp_of_mem fun {v w} hv _ hlt he => ?_
  have hlong := ((h.mem_iff v).mp hv).start_lt_stop
  rw [← he] at hlt
  omega

/-- A text has one list of runs. -/
theorem Runs.unique {vs ws : List Span} (hv : Runs s vs) (hw : Runs s ws) : vs = ws := by
  have hperm : vs.Perm ws := (List.perm_ext_iff_of_nodup hv.nodup hw.nodup).mpr
    fun w => (hv.mem_iff w).trans (hw.mem_iff w).symm
  refine hperm.eq_of_pairwise ?_ hv.ascending hw.ascending
  intro v w hvmem hwmem hvw hwv
  -- no two runs end each before the other begins
  have hvlong := ((hv.mem_iff v).mp hvmem).start_lt_stop
  have hwlong := ((hw.mem_iff w).mp hwmem).start_lt_stop
  omega

/-! ## Words at their places -/

theorem exists_of_place_eq_append {n : Nat} {ws : List Word} {us vs : List Span}
    (h : place n ws = us ++ vs) :
    ∃ xs ys, ws = xs ++ ys ∧ us = place n xs ∧ vs = place (n + bytes (spell xs)) ys := by
  have hsplit : place n (ws.take us.length) ++
      place (n + bytes (spell (ws.take us.length))) (ws.drop us.length) = us ++ vs := by
    rw [← place_append, List.take_append_drop, h]
  have hlength : (place n (ws.take us.length)).length = us.length := by
    have htotal := congrArg List.length h
    rw [length_place, List.length_append] at htotal
    rw [length_place, List.length_take]
    omega
  obtain ⟨hus, hvs⟩ := List.append_inj hsplit hlength
  exact ⟨_, _, (List.take_append_drop us.length ws).symm, hus.symm, hvs.symm⟩

theorem exists_of_place_eq_cons {n : Nat} {ws : List Word} {v : Span} {vs : List Span}
    (h : place n ws = v :: vs) : ∃ w ys, ws = w :: ys ∧
      v = ⟨w.text, n + bytes w.gap, n + bytes w.gap + bytes w.text⟩ ∧
      vs = place (n + bytes w.gap + bytes w.text) ys := by
  cases ws with
  | nil => cases h
  | cons w ws =>
    cases h
    exact ⟨w, ws, rfl, rfl, rfl⟩

/-- A word at its place, between the words before it and those after it. -/
theorem mem_place_iff {ws : List Word} {v : Span} :
    v ∈ place 0 ws ↔ ∃ xs w ys, ws = xs ++ w :: ys ∧ v = ⟨w.text, bytes (spell xs ++ w.gap),
      bytes (spell xs ++ w.gap) + bytes w.text⟩ := by
  constructor
  · intro h
    obtain ⟨us, vs, hplace⟩ := List.append_of_mem h
    obtain ⟨xs, ys, rfl, -, hys⟩ := exists_of_place_eq_append hplace
    obtain ⟨w, ys, rfl, hv, -⟩ := exists_of_place_eq_cons hys.symm
    exact ⟨xs, w, ys, rfl, by rw [hv, bytes_append, Nat.zero_add]⟩
  · intro h
    obtain ⟨xs, w, ys, rfl, rfl⟩ := h
    rw [place_append, place, bytes_append, Nat.zero_add]
    simp

theorem lt_start_of_mem_place {n : Nat} {ws : List Word} (h : ∀ w ∈ ws, w.gap ≠ []) :
    ∀ v ∈ place n ws, n < v.start := by
  induction ws generalizing n with
  | nil => simp [place]
  | cons w ws ih =>
    have hgap := bytes_pos (h w (by simp))
    intro v hv
    rcases List.mem_cons.mp hv with rfl | hv
    · exact Nat.lt_add_of_pos_right hgap
    · have hlt := ih (fun x hx => h x (by simp [hx])) v hv
      omega

theorem pairwise_place {ws : List Word} (h : Proper ws) (n : Nat) :
    (place n ws).Pairwise fun v w => v.stop < w.start := by
  induction ws generalizing n with
  | nil => exact .nil
  | cons w ws ih => exact .cons (lt_start_of_mem_place h.apart) (ih h.tail _)

/-! ## The runs of a text are its words -/

theorem exists_around {xs ys : List Word} {w : Word} (h : words s = xs ++ w :: ys) :
    ∃ b, s = (spell xs ++ w.gap) ++ (w.text ++ b) ∧ BlankLast (spell xs ++ w.gap) ∧
      BlankFirst b := by
  have hp := proper_words s
  obtain ⟨e, he, hs⟩ := exists_spell s
  rw [h] at hp hs
  refine ⟨spell ys ++ e, ?_, hp.blankLast_gap, ?_⟩
  · rw [hs, spell_append, spell_cons]
    simp only [List.append_assoc]
  · exact blankFirst_append hp.right.blankFirst_spell he.first

theorem mem_place_words_iff {w : Span} : w ∈ place 0 (words s) ↔ w.IsRun s := by
  rw [mem_place_iff]
  constructor
  · intro h
    obtain ⟨xs, v, ys, hwords, rfl⟩ := h
    have hv : v ∈ words s := by simp [hwords]
    obtain ⟨b, hs, ha, hb⟩ := exists_around hwords
    exact ⟨_, b, hs, rfl, rfl, (proper_words s).solid v hv, (proper_words s).nonempty v hv, ha, hb⟩
  · intro h
    obtain ⟨a, b, rfl, hstart, hstop, ht, hne, ha, hb⟩ := h
    obtain ⟨g, hspell, hwords⟩ := exists_words_run ha ht hne hb
    exact ⟨words a, ⟨g, w.text⟩, words b, hwords, by rw [← hspell, hstop, hstart]⟩

theorem runs_place (s : List Char) : Runs s (place 0 (words s)) :=
  ⟨fun _ => mem_place_words_iff, pairwise_place (proper_words s) 0⟩

/-! ## The gaps of a text -/

theorem slice?_gap {xs ys : List Word} {w : Word} (h : words s = xs ++ w :: ys) :
    slice? s (bytes (spell xs)) (bytes (spell xs) + bytes w.gap) = some w.gap := by
  obtain ⟨b, -, hs⟩ := exists_spell s
  rw [h, spell_append, spell_cons] at hs
  exact slice?_eq_some_iff.mpr
    ⟨spell xs, w.text ++ (spell ys ++ b), by simpa only [List.append_assoc] using hs, rfl, rfl⟩

theorem spaced_place (s : List Char) : Spaced s (place 0 (words s)) where
  empty h := by
    obtain ⟨b, hb, hs⟩ := exists_spell s
    have hnone : words s = [] := by rw [← List.length_eq_zero_iff, ← length_place 0, h]; rfl
    rw [hnone] at hs
    exact hs ▸ hb
  first v hv := by
    obtain ⟨vs, hplace⟩ := List.head?_eq_some_iff.mp hv
    obtain ⟨w, ys, hwords, rfl, -⟩ := exists_of_place_eq_cons hplace
    have hfirst : words s = [] ++ w :: ys := hwords
    exact ⟨w.gap, slice?_gap hfirst, (proper_words s).blank w (by simp [hwords])⟩
  between v w h := by
    obtain ⟨us, vs, hplace⟩ := h
    rw [List.append_assoc] at hplace
    obtain ⟨xs, ys, hwords, -, hys⟩ := exists_of_place_eq_append hplace.symm
    obtain ⟨x, ys, rfl, rfl, hy⟩ := exists_of_place_eq_cons hys.symm
    obtain ⟨y, ys, rfl, rfl, -⟩ := exists_of_place_eq_cons hy.symm
    have hp := proper_words s
    have hnext : words s = (xs ++ [x]) ++ y :: ys := by rw [hwords, List.append_cons]
    have hgap := slice?_gap hnext
    rw [spell_append, spell_cons] at hgap
    rw [hwords] at hp
    refine ⟨y.gap, ?_, hp.blank y (by simp), hp.right.apart y (by simp)⟩
    simpa [spell, Nat.add_assoc] using hgap
  last v hv := by
    obtain ⟨us, hplace⟩ := List.getLast?_eq_some_iff.mp hv
    obtain ⟨xs, ys, hwords, -, hys⟩ := exists_of_place_eq_append hplace
    obtain ⟨w, ys, rfl, rfl, hnil⟩ := exists_of_place_eq_cons hys.symm
    obtain rfl : ys = [] := by rw [← List.length_eq_zero_iff, ← length_place, ← hnil]; rfl
    obtain ⟨b, hb, hs⟩ := exists_spell s
    refine ⟨b, slice?_eq_some_iff.mpr ⟨spell (words s), [], ?_, ?_, ?_⟩, hb⟩
    · rwa [List.append_nil]
    · rw [hwords, spell_append, spell_cons]
      simp [spell, Nat.add_assoc]
    · rw [← bytes_append, ← hs]

/-! ## Other gaps -/

theorem wordTexts_trim (s : List Char) : wordTexts (trim s) = wordTexts s := by
  rw [wordTexts, words_trim, map_text_ungap, wordTexts]

theorem wordTexts_regap {g g' : List Char} (hg : AllBlank g) (hne : g ≠ []) (hg' : AllBlank g')
    (hne' : g' ≠ []) (a b : List Char) :
    wordTexts (a ++ (g' ++ b)) = wordTexts (a ++ (g ++ b)) := by
  have between : ∀ {e : List Char}, AllBlank e → e ≠ [] →
      wordTexts (a ++ (e ++ b)) = wordTexts a ++ wordTexts b := by
    intro e he hene
    rw [wordTexts_append (.inr (he.first.append hene)), wordTexts_allBlank_append he]
  rw [between hg hne, between hg' hne']

theorem exists_spans (s : List Char) : ∃ ws, spans? s = some ws ∧ ws.map Span.text = wordTexts s :=
  ⟨_, spans?_eq s, map_text_place 0 (words s)⟩

/-- **Words.** The scan finds the runs of a text in order, which are the words
that the text is read by, each at its place. They are cut out of the text
between its characters, and all else is blank. The texts of the words stay the
same if the text is trimmed or has another gap in the place of one. -/
theorem spans?_exact (s : List Char) :
    ∃ ws, spans? s = some ws ∧ ws = place 0 (words s) ∧
      (∀ vs, Runs s vs ↔ vs = ws) ∧
      (∀ w ∈ ws, w.start < w.stop ∧ slice? s w.start w.stop = some w.text ∧ Solid w.text ∧
        String.Pos.Raw.IsValid (String.ofList s) ⟨w.start⟩ ∧
        String.Pos.Raw.IsValid (String.ofList s) ⟨w.stop⟩) ∧
      Spaced s ws ∧
      (∃ vs, spans? (trim s) = some vs ∧ vs.map Span.text = ws.map Span.text) ∧
      ∀ a g g' b, s = a ++ (g ++ b) → AllBlank g → g ≠ [] → AllBlank g' → g' ≠ [] →
        ∃ vs, spans? (a ++ (g' ++ b)) = some vs ∧ vs.map Span.text = ws.map Span.text := by
  have htexts := map_text_place 0 (words s)
  refine ⟨place 0 (words s), spans?_eq s, rfl, ?_, ?_, spaced_place s, ?_, ?_⟩
  · intro vs
    exact ⟨fun h => h.unique (runs_place s), fun h => h ▸ runs_place s⟩
  · intro w hw
    have hrun := mem_place_words_iff.mp hw
    exact ⟨hrun.start_lt_stop, hrun.slice?_eq, hrun.solid, hrun.isValid⟩
  · obtain ⟨vs, hspans, hvs⟩ := exists_spans (trim s)
    exact ⟨vs, hspans, by rw [hvs, wordTexts_trim, htexts, wordTexts]⟩
  · intro a g g' b hs hg hne hg' hne'
    obtain ⟨vs, hspans, hvs⟩ := exists_spans (a ++ (g' ++ b))
    exact ⟨vs, hspans, by rw [hvs, wordTexts_regap hg hne hg' hne', ← hs, htexts, wordTexts]⟩

/-- Letters and blanks of one, two and three bytes, and a longer gap. -/
theorem spans?_exact_sample :
    let s := "\u00A0é b€\u3000 x".toList
    let ws : List Span := [⟨['é'], 2, 4⟩, ⟨['b', '€'], 5, 9⟩, ⟨['x'], 13, 14⟩]
    let a := "\u00A0é".toList
    let b := "b€\u3000 x".toList
    spans? s = some ws ∧ Runs s ws ∧ ⟨['b', '€'], 5, 9⟩ ∈ ws ∧ slice? s 5 9 = some ['b', '€'] ∧
      [⟨['b', '€'], 5, 9⟩, ⟨['x'], 13, 14⟩] <:+: ws ∧
      (∃ g, slice? s 9 13 = some g ∧ AllBlank g ∧ g ≠ []) ∧
      s = a ++ ([' '] ++ b) ∧ AllBlank [' '] ∧ AllBlank ['\t', ' ', '\u2028'] ∧
      ∃ vs, spans? (a ++ (['\t', ' ', '\u2028'] ++ b)) = some vs ∧
        vs.map Span.text = [['é'], ['b', '€'], ['x']] := by
  intro s ws a b
  have hscan : spans? s = some ws := by decide +kernel
  have hs : s = a ++ ([' '] ++ b) := by decide +kernel
  have hgap : AllBlank [' '] := List.all_eq_true.mp (by decide)
  have hlonger : AllBlank ['\t', ' ', '\u2028'] := List.all_eq_true.mp (by decide)
  have hmem : ⟨['b', '€'], 5, 9⟩ ∈ ws := by simp [ws]
  have hnext : [⟨['b', '€'], 5, 9⟩, ⟨['x'], 13, 14⟩] <:+: ws := ⟨[⟨['é'], 2, 4⟩], [], rfl⟩
  obtain ⟨found, hspans, -, hruns, hwords, hspaced, -, hregap⟩ := spans?_exact s
  have hfound : found = ws := Option.some.inj (hspans.symm.trans hscan)
  rw [hfound] at hruns hwords hspaced hregap
  have hruns := (hruns ws).mpr rfl
  have hpart := (hwords _ hmem).2.1
  have hblank := hspaced.between _ _ hnext
  have htexts := hregap a _ _ b hs hgap (by simp) hlonger (by simp)
  exact ⟨hscan, hruns, hmem, hpart, hnext, hblank, hs, hgap, hlonger, htexts⟩

end FlatQuery.Text
