import FlatQuery.Text.Word
import Mathlib.Data.List.DropRight
import Mathlib.Data.List.Infix

/-!
# Words of a text

A text is a run of blanks, or a run of blanks, a word and a text that does
not go on with a letter of that word. `words` follows this shape
(`text_induction`), so two texts that meet at a blank have the words of both
(`words_append`), and the words with their gaps give the text back
(`phrase_words`, `words_spell`).
-/

namespace FlatQuery.Text

/-! ## Blank and solid texts -/

def AllBlank (s : List Char) : Prop := ∀ c ∈ s, isBlank c = true

/-- Free of blanks. -/
def Solid (s : List Char) : Prop := ∀ c ∈ s, isBlank c = false

/-- Empty, or beginning with a blank. -/
def BlankFirst (s : List Char) : Prop := ∀ c ∈ s.head?, isBlank c = true

/-- Empty, or ending with a blank. -/
def BlankLast (s : List Char) : Prop := ∀ c ∈ s.getLast?, isBlank c = true

def SolidFirst (s : List Char) : Prop := ∀ c ∈ s.head?, isBlank c = false

def SolidLast (s : List Char) : Prop := ∀ c ∈ s.getLast?, isBlank c = false

theorem Solid.first {s : List Char} (h : Solid s) : SolidFirst s :=
  fun c hc => h c (List.mem_of_mem_head? hc)

theorem Solid.last {s : List Char} (h : Solid s) : SolidLast s :=
  fun c hc => h c (List.mem_of_mem_getLast? hc)

theorem AllBlank.first {s : List Char} (h : AllBlank s) : BlankFirst s :=
  fun c hc => h c (List.mem_of_mem_head? hc)

theorem AllBlank.last {s : List Char} (h : AllBlank s) : BlankLast s :=
  fun c hc => h c (List.mem_of_mem_getLast? hc)

theorem AllBlank.append {s t : List Char} (hs : AllBlank s) (ht : AllBlank t) : AllBlank (s ++ t) :=
  fun c hc => (List.mem_append.mp hc).elim (hs c) (ht c)

theorem AllBlank.notMem {s : List Char} (h : AllBlank s) {c : Char} (hc : isBlank c = false) :
    c ∉ s := fun hm => by rw [h c hm] at hc; cases hc

theorem allBlank_nil : AllBlank [] := by simp [AllBlank]

theorem blankFirst_nil : BlankFirst [] := by simp [BlankFirst]

theorem blankLast_nil : BlankLast [] := by simp [BlankLast]

theorem solidFirst_nil : SolidFirst [] := by simp [SolidFirst]

theorem solidLast_nil : SolidLast [] := by simp [SolidLast]

theorem solid_append {s t : List Char} : Solid (s ++ t) ↔ Solid s ∧ Solid t := by
  simp [Solid, or_imp, forall_and]

theorem BlankFirst.append {s t : List Char} (hs : BlankFirst s) (hne : s ≠ []) :
    BlankFirst (s ++ t) := by
  cases s with
  | nil => exact absurd rfl hne
  | cons c s => exact hs

theorem blankFirst_append {s t : List Char} (hs : BlankFirst s) (ht : BlankFirst t) :
    BlankFirst (s ++ t) := by
  rcases eq_or_ne s [] with rfl | hne
  · exact ht
  · exact hs.append hne

theorem SolidFirst.append {s t : List Char} (hs : SolidFirst s) (hne : s ≠ []) :
    SolidFirst (s ++ t) := by
  cases s with
  | nil => exact absurd rfl hne
  | cons c s => exact hs

theorem SolidLast.append {s t : List Char} (ht : SolidLast t) (hne : t ≠ []) :
    SolidLast (s ++ t) := by
  intro c hc
  rw [List.getLast?_append_of_ne_nil _ hne] at hc
  exact ht c hc

theorem solidLast_append {s t : List Char} (hs : SolidLast s) (ht : SolidLast t) :
    SolidLast (s ++ t) := by
  rcases eq_or_ne t [] with rfl | hne
  · rwa [List.append_nil]
  · exact ht.append hne

theorem BlankLast.append {s t : List Char} (ht : BlankLast t) (hne : t ≠ []) :
    BlankLast (s ++ t) := by
  intro c hc
  rw [List.getLast?_append_of_ne_nil _ hne] at hc
  exact ht c hc

theorem BlankLast.of_append {s t : List Char} (h : BlankLast (s ++ t)) : BlankLast t := by
  rcases eq_or_ne t [] with rfl | ht
  · exact blankLast_nil
  · intro c hc
    exact h c (by rwa [List.getLast?_append_of_ne_nil _ ht])

theorem SolidLast.of_append {s t : List Char} (h : SolidLast (s ++ t)) : SolidLast t := by
  rcases eq_or_ne t [] with rfl | ht
  · exact solidLast_nil
  · intro c hc
    exact h c (by rwa [List.getLast?_append_of_ne_nil _ ht])

theorem eq_nil_of_solid_of_blankLast {s : List Char} (hs : Solid s) (hb : BlankLast s) :
    s = [] := by
  cases h : s.getLast? with
  | none => exact List.getLast?_eq_none_iff.mp h
  | some c =>
    have h₁ := hb c h
    have h₂ := hs c (List.mem_of_mem_getLast? h)
    rw [h₂] at h₁; cases h₁

theorem eq_nil_of_allBlank_of_solidLast {s : List Char} (hb : AllBlank s) (hs : SolidLast s) :
    s = [] := by
  cases h : s.getLast? with
  | none => exact List.getLast?_eq_none_iff.mp h
  | some c =>
    have h₁ := hb c (List.mem_of_mem_getLast? h)
    have h₂ := hs c h
    rw [h₂] at h₁; cases h₁

/-- Only ASCII letters have another upper case, so a class that keeps them in it keeps all. -/
theorem apply_toUpper {p : Char → Bool}
    (h : ∀ n < 128, p (Char.ofNat n).toUpper = p (Char.ofNat n)) (c : Char) :
    p c.toUpper = p c := by
  by_cases hc : c.toNat < 128
  · simpa only [Char.ofNat_toNat] using h c.toNat hc
  · have hz : ¬ c.val ≤ 'z'.val := by
      rw [UInt32.le_iff_toNat_le]
      exact fun hle => hc (Nat.lt_of_le_of_lt hle (by decide))
    have hupper : c.toUpper = c := dif_neg fun h => hz h.2
    rw [hupper]

theorem isBlank_toUpper (c : Char) : isBlank c.toUpper = isBlank c := apply_toUpper (by decide) c

theorem apply_of_sameLetters {p : Char → Bool} (hp : ∀ c, p c.toUpper = p c) {s t : List Char}
    (h : sameLetters s t = true) {b : Bool} (ht : ∀ c ∈ t, p c = b) : ∀ c ∈ s, p c = b := by
  rw [sameLetters, beq_iff_eq] at h
  intro c hc
  have : c.toUpper ∈ upper t := h ▸ List.mem_map_of_mem hc
  obtain ⟨d, hd, he⟩ := List.mem_map.mp this
  rw [← hp, ← he, hp, ht d hd]

theorem Solid.of_sameLetters {s t : List Char} (h : sameLetters s t = true) (ht : Solid t) :
    Solid s := apply_of_sameLetters isBlank_toUpper h ht

/-- A class of characters without the blanks. -/
theorem isBlank_of_class {p : Char → Bool}
    (hp : ∀ n ∈ [9, 10, 11, 12, 13, 0x20, 0x85, 0xA0, 0x1680, 0x2000, 0x2001, 0x2002, 0x2003,
      0x2004, 0x2005, 0x2006, 0x2007, 0x2008, 0x2009, 0x200A, 0x2028, 0x2029, 0x202F, 0x205F,
      0x3000], p (Char.ofNat n) = false) {c : Char} (h : p c = true) : isBlank c = false := by
  rw [Bool.eq_false_iff]
  intro hb
  have hn := hp c.toNat (by
    simp only [isBlank, Bool.or_eq_true, Bool.and_eq_true, decide_eq_true_eq, beq_iff_eq] at hb
    simp only [List.mem_cons, List.not_mem_nil, or_false]
    omega)
  rw [Char.ofNat_toNat, h] at hn
  cases hn

instance (s : List Char) : Decidable (Solid s) :=
  List.decidableBAll (isBlank · = false) s

/-- Not empty, and without blanks at its ends. -/
structure Tight (s : List Char) : Prop where
  nonempty : s ≠ []
  first : SolidFirst s
  last : SolidLast s

theorem Solid.tight {s : List Char} (h : Solid s) (hne : s ≠ []) : Tight s := ⟨hne, h.first, h.last⟩

theorem Tight.between {s t : List Char} (hs : Tight s) (ht : Tight t) (m : List Char) :
    Tight (s ++ (m ++ t)) where
  nonempty h := hs.nonempty (List.append_eq_nil_iff.mp h).1
  first := hs.first.append hs.nonempty
  last := by
    rw [← List.append_assoc]
    exact ht.last.append ht.nonempty

/-! ## Trimming -/

theorem trimEnd_concat (s : List Char) (c : Char) :
    trimEnd (s ++ [c]) = if isBlank c then trimEnd s else s ++ [c] := by
  induction s with
  | nil => cases h : isBlank c <;> simp [trimEnd, h]
  | cons d s ih =>
    rw [List.cons_append, trimEnd, ih]
    by_cases h : isBlank c = true
    · rw [if_pos h, if_pos h, trimEnd]
    · rw [if_neg h, if_neg h]
      cases s <;> rfl

theorem trimEnd_eq_rdropWhile (s : List Char) : trimEnd s = s.rdropWhile isBlank := by
  induction s using List.reverseRecOn with
  | nil => rfl
  | append_singleton s c ih => rw [trimEnd_concat, List.rdropWhile_concat, ih]

theorem trimEnd_append_of_allBlank {s b : List Char} (hb : AllBlank b) :
    trimEnd (s ++ b) = trimEnd s := by
  induction b using List.reverseRecOn with
  | nil => rw [List.append_nil]
  | append_singleton b c ih =>
    rw [← List.append_assoc, trimEnd_concat, if_pos (hb c (by simp)),
      ih fun d hd => hb d (by simp [hd])]

theorem trimEnd_of_solidLast {s : List Char} (h : SolidLast s) : trimEnd s = s := by
  rw [trimEnd_eq_rdropWhile, List.rdropWhile_eq_self_iff]
  intro hl
  simpa using h _ (List.getLast?_eq_getLast_of_ne_nil hl)

/-- What is left when the blanks around a text are dropped. -/
theorem trim_eq {a s b : List Char} (ha : AllBlank a) (hb : AllBlank b) (h₁ : SolidFirst s)
    (h₂ : SolidLast s) : trim (a ++ (s ++ b)) = s := by
  have hs : trimStart (a ++ (s ++ b)) = trimStart (s ++ b) := List.dropWhile_append_of_pos ha
  rw [trim, hs]
  cases s with
  | nil =>
    have : trimStart b = [] := List.dropWhile_eq_nil_iff.mpr hb
    rw [List.nil_append, this]; rfl
  | cons c s =>
    have : trimStart (c :: s ++ b) = c :: s ++ b := by
      simp [trimStart, h₁ c (by simp)]
    rw [this, trimEnd_append_of_allBlank hb, trimEnd_of_solidLast h₂]

theorem exists_trim (s : List Char) :
    ∃ a b, AllBlank a ∧ AllBlank b ∧ SolidFirst (trim s) ∧ SolidLast (trim s) ∧
      s = a ++ (trim s ++ b) := by
  let t := s.dropWhile isBlank
  have ht : trim s = t.rdropWhile isBlank := trimEnd_eq_rdropWhile t
  refine ⟨s.takeWhile isBlank, t.rtakeWhile isBlank, fun c hc => List.mem_takeWhile_imp hc,
    fun c hc => List.mem_rtakeWhile_imp hc, ?_, ?_, ?_⟩
  · intro c hc
    obtain ⟨r, hr⟩ := List.rdropWhile_prefix isBlank t
    rw [ht] at hc
    have hc' : c ∈ t.head? := by rw [← hr]; exact List.mem_head?_append_of_mem_head? hc
    have := List.head?_dropWhile_not isBlank s
    rw [Option.mem_def] at hc'
    rw [show s.dropWhile isBlank = t from rfl, hc'] at this
    simpa using this
  · intro c hc
    rw [ht] at hc
    have hne : t.rdropWhile isBlank ≠ [] := by rintro h; rw [h] at hc; cases hc
    have := List.rdropWhile_last_not isBlank t hne
    rw [List.getLast?_eq_getLast_of_ne_nil hne] at hc
    cases hc
    simpa using this
  · rw [ht, List.rdropWhile_append_rtakeWhile, List.takeWhile_append_dropWhile]

theorem trim_eq_self_iff {s : List Char} : trim s = s ↔ SolidFirst s ∧ SolidLast s := by
  constructor
  · intro h
    obtain ⟨_, _, _, _, h₁, h₂, _⟩ := exists_trim s
    rw [h] at h₁ h₂
    exact ⟨h₁, h₂⟩
  · rintro ⟨h₁, h₂⟩
    simpa using trim_eq allBlank_nil allBlank_nil h₁ h₂

theorem tight_iff_trim {s : List Char} : Tight s ↔ s ≠ [] ∧ trim s = s := by
  rw [trim_eq_self_iff]
  exact ⟨fun h => ⟨h.nonempty, h.first, h.last⟩, fun h => ⟨h.1, h.2.1, h.2.2⟩⟩

theorem solidFirst_trim (s : List Char) : SolidFirst (trim s) :=
  (exists_trim s).elim fun _ ⟨_, _, _, h, _, _⟩ => h

theorem solidLast_trim (s : List Char) : SolidLast (trim s) :=
  (exists_trim s).elim fun _ ⟨_, _, _, _, h, _⟩ => h

theorem exists_trimEnd {s : List Char} (h : SolidFirst s) : ∃ b, AllBlank b ∧ s = trim s ++ b := by
  obtain ⟨a, b, ha, hb, -, -, hs⟩ := exists_trim s
  cases a with
  | nil => exact ⟨b, hb, hs⟩
  | cons c a =>
    rw [hs] at h
    exact absurd (h c (by simp)) (by simp [ha c (by simp)])

theorem exists_trimStart {s : List Char} (h : SolidLast s) : ∃ a, AllBlank a ∧ s = a ++ trim s := by
  obtain ⟨a, b, ha, hb, -, -, hs⟩ := exists_trim s
  have : b = [] := by
    rw [hs] at h
    exact eq_nil_of_allBlank_of_solidLast hb h.of_append.of_append
  rw [this, List.append_nil] at hs
  exact ⟨a, ha, hs⟩

theorem trim_trim (s : List Char) : trim (trim s) = trim s :=
  trim_eq_self_iff.mpr ⟨solidFirst_trim s, solidLast_trim s⟩

theorem trim_between {a b : List Char} (ha : AllBlank a) (hb : AllBlank b) (s : List Char) :
    trim (a ++ (s ++ b)) = trim s := by
  obtain ⟨a', b', ha', hb', h₁, h₂, hs⟩ := exists_trim s
  have := trim_eq (ha.append ha') (hb'.append hb) h₁ h₂
  rw [← this]
  conv => lhs; rw [hs]
  simp only [List.append_assoc]

/-! ## The words of a text -/

/-- Induction along the words of a text. -/
theorem text_induction {P : List Char → Prop} (blank : ∀ g, AllBlank g → P g)
    (word : ∀ g t r, AllBlank g → Solid t → t ≠ [] → BlankFirst r → P r → P (g ++ (t ++ r)))
    (s : List Char) : P s := by
  induction s using words.induct with
  | case1 s h => exact blank s (List.dropWhile_eq_nil_iff.mp h)
  | case2 s c r h ih =>
    have hs : s = s.takeWhile isBlank ++
        ((c :: r).takeWhile (!isBlank ·) ++ (c :: r).dropWhile (!isBlank ·)) := by
      rw [List.takeWhile_append_dropWhile, ← h, List.takeWhile_append_dropWhile]
    have hc : isBlank c = false := head_dropWhile h
    rw [hs]
    refine word _ _ _ (fun d hd => List.mem_takeWhile_imp hd) (fun d hd => ?_) ?_ ?_ ih
    · simpa using List.mem_takeWhile_imp hd
    · simp [hc]
    · intro d hd
      have := List.head?_dropWhile_not (!isBlank ·) (c :: r)
      rw [Option.mem_def] at hd
      rw [hd] at this
      simpa using this

theorem words_of_allBlank {g : List Char} (hg : AllBlank g) : words g = [] := by
  have h : g.dropWhile isBlank = [] := List.dropWhile_eq_nil_iff.mpr hg
  rw [words]
  split
  · rfl
  · next h' => rw [h] at h'; cases h'

theorem words_cons {g t r : List Char} (hg : AllBlank g) (ht : Solid t) (hne : t ≠ [])
    (hr : BlankFirst r) : words (g ++ (t ++ r)) = ⟨g, t⟩ :: words r := by
  obtain ⟨c, t, rfl⟩ := List.exists_cons_of_ne_nil hne
  have hc : isBlank c = false := ht c (by simp)
  have hd : (g ++ (c :: t ++ r)).dropWhile isBlank = c :: (t ++ r) := by
    rw [List.dropWhile_append_of_pos hg, List.cons_append,
      List.dropWhile_cons_of_neg (by simp [hc])]
  have hk : (g ++ (c :: t ++ r)).takeWhile isBlank = g := by
    rw [List.takeWhile_append_of_pos hg, List.cons_append,
      List.takeWhile_cons_of_neg (by simp [hc]), List.append_nil]
  have hp : ∀ d ∈ c :: t, (!isBlank d) = true := fun d hd => by simp [ht d hd]
  have hr' : r.takeWhile (!isBlank ·) = [] ∧ r.dropWhile (!isBlank ·) = r := by
    cases r with
    | nil => exact ⟨rfl, rfl⟩
    | cons b r => simp [hr b (by simp)]
  rw [words]
  split
  · next h' => rw [hd] at h'; cases h'
  · next h' =>
    rw [hd] at h'
    cases h'
    rw [hk, ← List.cons_append, List.takeWhile_append_of_pos hp, List.dropWhile_append_of_pos hp,
      hr'.1, hr'.2, List.append_nil]

theorem words_single {g t : List Char} (hg : AllBlank g) (ht : Solid t) (hne : t ≠ []) :
    words (g ++ t) = [⟨g, t⟩] := by
  have := words_cons hg ht hne blankFirst_nil
  rwa [List.append_nil, words_of_allBlank allBlank_nil] at this

/-- A text that ends with a word, and one that begins with a gap. -/
theorem words_append {s : List Char} (hs : SolidLast s) {r : List Char} (hr : BlankFirst r) :
    words (s ++ r) = words s ++ words r := by
  induction s using text_induction with
  | blank g hg =>
    rw [eq_nil_of_allBlank_of_solidLast hg hs, words_of_allBlank allBlank_nil]; rfl
  | word g t u hg ht hne hu ih =>
    have hur : BlankFirst (u ++ r) := by
      rcases eq_or_ne u [] with rfl | hu'
      · exact hr
      · exact hu.append hu'
    rw [List.append_assoc, List.append_assoc, words_cons hg ht hne hur, words_cons hg ht hne hu,
      ih hs.of_append.of_append]
    rfl

theorem words_tight_append {g s r : List Char} (hs : Tight s) (hr : BlankFirst r) :
    words (g ++ (s ++ r)) = words (g ++ s) ++ words r := by
  rw [← List.append_assoc, words_append (hs.last.append hs.nonempty) hr]

def wordTexts (s : List Char) : List (List Char) := (words s).map Word.text

theorem wordTexts_of_allBlank {g : List Char} (hg : AllBlank g) : wordTexts g = [] := by
  rw [wordTexts, words_of_allBlank hg]; rfl

theorem wordTexts_cons {g t r : List Char} (hg : AllBlank g) (ht : Solid t) (hne : t ≠ [])
    (hr : BlankFirst r) : wordTexts (g ++ (t ++ r)) = t :: wordTexts r := by
  rw [wordTexts, words_cons hg ht hne hr]; rfl

theorem wordTexts_allBlank_append {g : List Char} (hg : AllBlank g) (s : List Char) :
    wordTexts (g ++ s) = wordTexts s := by
  induction s using text_induction with
  | blank h hh => rw [wordTexts_of_allBlank (hg.append hh), wordTexts_of_allBlank hh]
  | word h t r hh ht hne hr _ =>
    rw [← List.append_assoc, wordTexts_cons (hg.append hh) ht hne hr, wordTexts_cons hh ht hne hr]

/-- Two texts that meet at a blank. -/
theorem wordTexts_append {s r : List Char} (h : BlankLast s ∨ BlankFirst r) :
    wordTexts (s ++ r) = wordTexts s ++ wordTexts r := by
  induction s using text_induction with
  | blank g hg => rw [wordTexts_allBlank_append hg, wordTexts_of_allBlank hg]; rfl
  | word g t u hg ht hne hu ih =>
    have hur : BlankFirst (u ++ r) := by
      rcases eq_or_ne u [] with rfl | hu'
      · rw [List.append_nil] at h
        exact h.resolve_left fun hb => hne (eq_nil_of_solid_of_blankLast ht hb.of_append)
      · exact hu.append hu'
    rw [List.append_assoc, List.append_assoc, wordTexts_cons hg ht hne hur,
      wordTexts_cons hg ht hne hu, ih (h.imp_left fun hb => hb.of_append.of_append)]
    rfl

/-! ## Runs of words -/

def spell (ws : List Word) : List Char := ws.flatMap fun w => w.gap ++ w.text

theorem spell_cons (w : Word) (ws : List Word) :
    spell (w :: ws) = w.gap ++ (w.text ++ spell ws) := by
  simp [spell]

theorem spell_append (xs ys : List Word) : spell (xs ++ ys) = spell xs ++ spell ys :=
  List.flatMap_append

theorem phrase_cons (w : Word) (ws : List Word) : phrase (w :: ws) = w.text ++ spell ws := rfl

/-- Words as they are read: solid, with blanks in their gaps, and a gap
between any two. -/
structure Proper (ws : List Word) : Prop where
  blank : ∀ w ∈ ws, AllBlank w.gap
  solid : ∀ w ∈ ws, Solid w.text
  nonempty : ∀ w ∈ ws, w.text ≠ []
  apart : ∀ w ∈ ws.tail, w.gap ≠ []

theorem Proper.left {xs ys : List Word} (h : Proper (xs ++ ys)) : Proper xs where
  blank w hw := h.blank w (List.mem_append_left _ hw)
  solid w hw := h.solid w (List.mem_append_left _ hw)
  nonempty w hw := h.nonempty w (List.mem_append_left _ hw)
  apart w hw := by
    cases xs with
    | nil => cases hw
    | cons x xs => exact h.apart w (List.mem_append_left _ hw)

theorem Proper.right {xs ys : List Word} (h : Proper (xs ++ ys)) : Proper ys where
  blank w hw := h.blank w (List.mem_append_right _ hw)
  solid w hw := h.solid w (List.mem_append_right _ hw)
  nonempty w hw := h.nonempty w (List.mem_append_right _ hw)
  apart w hw := by
    cases xs with
    | nil => exact h.apart w hw
    | cons x xs => exact h.apart w (List.mem_append_right _ (List.mem_of_mem_tail hw))

theorem Proper.tail {w : Word} {ws : List Word} (h : Proper (w :: ws)) : Proper ws :=
  .right (show Proper ([w] ++ ws) from h)

theorem gap_ne_nil_of_blankFirst {s : List Char} (hs : BlankFirst s) :
    ∀ w ∈ words s, w.gap ≠ [] := by
  induction s using text_induction with
  | blank g hg => rw [words_of_allBlank hg]; simp
  | word g t r hg ht hne hr ih =>
    rw [words_cons hg ht hne hr]
    intro w hw
    rcases List.mem_cons.mp hw with rfl | hw
    · rintro rfl
      obtain ⟨c, t, rfl⟩ := List.exists_cons_of_ne_nil hne
      have h₁ := hs c (by simp)
      have h₂ := ht c (by simp)
      rw [h₂] at h₁; cases h₁
    · exact ih hr w hw

theorem proper_words (s : List Char) : Proper (words s) := by
  induction s using text_induction with
  | blank g hg =>
    rw [words_of_allBlank hg]
    constructor <;> simp
  | word g t r hg ht hne hr ih =>
    rw [words_cons hg ht hne hr]
    refine ⟨?_, ?_, ?_, gap_ne_nil_of_blankFirst hr⟩
    · simpa using ⟨hg, ih.blank⟩
    · simpa using ⟨ht, ih.solid⟩
    · simpa using ⟨hne, ih.nonempty⟩

theorem Proper.blankFirst_spell {w : Word} {ws : List Word} (h : Proper (w :: ws)) :
    BlankFirst (spell ws) := by
  cases ws with
  | nil => exact blankFirst_nil
  | cons v vs =>
    rw [spell_cons]
    exact (h.blank v (by simp)).first.append (h.apart v (by simp))

theorem Proper.blankLast_gap {xs ys : List Word} {w : Word} (h : Proper (xs ++ w :: ys)) :
    BlankLast (spell xs ++ w.gap) := by
  have hgap := (h.blank w (by simp)).last
  cases xs with
  | nil => exact hgap
  | cons x xs => exact hgap.append (h.apart w (by simp))

theorem words_spell {ws : List Word} (h : Proper ws) : words (spell ws) = ws := by
  induction ws with
  | nil => exact words_of_allBlank allBlank_nil
  | cons w ws ih =>
    have hw : w ∈ w :: ws := by simp
    rw [spell_cons, words_cons (h.blank w hw) (h.solid w hw) (h.nonempty w hw) h.blankFirst_spell,
      ih (h.tail)]

/-- A text is its words with their gaps, and blanks at the end. -/
theorem exists_spell (s : List Char) : ∃ b, AllBlank b ∧ s = spell (words s) ++ b := by
  induction s using text_induction with
  | blank g hg => exact ⟨g, hg, by rw [words_of_allBlank hg]; rfl⟩
  | word g t r hg ht hne hr ih =>
    obtain ⟨b, hb, hs⟩ := ih
    refine ⟨b, hb, ?_⟩
    rw [words_cons hg ht hne hr, spell_cons, List.append_assoc, List.append_assoc, ← hs]

/-- A part of a text without blanks, and with a blank or nothing on its two sides. -/
theorem exists_words_run {a t b : List Char} (ha : BlankLast a) (ht : Solid t) (hne : t ≠ [])
    (hb : BlankFirst b) :
    ∃ g, a = spell (words a) ++ g ∧ words (a ++ (t ++ b)) = words a ++ ⟨g, t⟩ :: words b := by
  induction a using text_induction with
  | blank g hg =>
    refine ⟨g, ?_, ?_⟩
    · rw [words_of_allBlank hg]; rfl
    · rw [words_cons hg ht hne hb, words_of_allBlank hg]; rfl
  | word e u a he hu hune hblank ih =>
    obtain ⟨g, hspell, hwords⟩ := ih ha.of_append.of_append
    -- the last word of the first text does not touch the part
    have hane : a ≠ [] := by
      rintro rfl
      rw [List.append_nil] at ha
      exact hune (eq_nil_of_solid_of_blankLast hu ha.of_append)
    refine ⟨g, ?_, ?_⟩
    · rw [words_cons he hu hune hblank, spell_cons, List.append_assoc, List.append_assoc, ← hspell]
    · rw [List.append_assoc, List.append_assoc, words_cons he hu hune (hblank.append hane), hwords,
        words_cons he hu hune hblank]
      rfl

theorem Proper.solidFirst_phrase {ws : List Word} (h : Proper ws) : SolidFirst (phrase ws) := by
  cases ws with
  | nil => exact solidFirst_nil
  | cons w ws => exact (h.solid w (by simp)).first.append (h.nonempty w (by simp))

theorem Proper.solidLast_spell {ws : List Word} (h : Proper ws) : SolidLast (spell ws) := by
  induction ws using List.reverseRecOn with
  | nil => exact solidLast_nil
  | append_singleton ws w _ =>
    have hw : w ∈ ws ++ [w] := by simp
    rw [spell_append, spell_cons, ← List.append_assoc, show spell [] = [] from rfl, List.append_nil]
    exact (h.solid w hw).last.append (h.nonempty w hw)

theorem words_append_allBlank {g : List Char} (hg : AllBlank g) (s : List Char) :
    words (s ++ g) = words s := by
  obtain ⟨b, hb, hs⟩ := exists_spell s
  have hwords : words (spell (words s) ++ (b ++ g)) = words s := by
    rw [words_append (proper_words s).solidLast_spell (hb.append hg).first,
      words_spell (proper_words s), words_of_allBlank (hb.append hg), List.append_nil]
  rwa [← List.append_assoc, ← hs] at hwords

theorem Proper.solidLast_phrase {ws : List Word} (h : Proper ws) : SolidLast (phrase ws) := by
  cases ws with
  | nil => exact solidLast_nil
  | cons w ws =>
    have := h.solidLast_spell
    rw [spell_cons] at this
    exact this.of_append

theorem Proper.trim_spell {ws : List Word} (h : Proper ws) {b : List Char} (hb : AllBlank b) :
    trim (spell ws ++ b) = phrase ws := by
  cases ws with
  | nil =>
    have := trim_eq hb allBlank_nil solidFirst_nil solidLast_nil
    rwa [List.append_nil, List.append_nil] at this
  | cons w ws =>
    rw [spell_cons, List.append_assoc, ← phrase_cons]
    exact trim_eq (h.blank w (by simp)) hb h.solidFirst_phrase h.solidLast_phrase

theorem phrase_words (s : List Char) : phrase (words s) = trim s := by
  obtain ⟨b, hb, hs⟩ := exists_spell s
  rw [← (proper_words s).trim_spell hb, ← hs]

theorem Tight.phrase_words {g s : List Char} (hs : Tight s) (hg : AllBlank g) :
    phrase (words (g ++ s)) = s := by
  have := trim_eq hg allBlank_nil hs.first hs.last
  rwa [List.append_nil, ← Text.phrase_words] at this

theorem Proper.phrase_ne_nil {w : Word} {ws : List Word} (h : Proper (w :: ws)) :
    phrase (w :: ws) ≠ [] := by
  rw [phrase_cons]
  exact fun he => h.nonempty w (by simp) (List.append_eq_nil_iff.mp he).1

theorem Proper.tight_phrase {ws : List Word} (h : Proper ws) (hne : ws ≠ []) :
    Tight (phrase ws) := by
  obtain ⟨w, ws, rfl⟩ := List.exists_cons_of_ne_nil hne
  exact ⟨h.phrase_ne_nil, h.solidFirst_phrase, h.solidLast_phrase⟩

/-- The words without the gap before the first. -/
def ungap : List Word → List Word
  | [] => []
  | w :: ws => ⟨[], w.text⟩ :: ws

theorem map_text_ungap (ws : List Word) : (ungap ws).map Word.text = ws.map Word.text := by
  cases ws <;> rfl

theorem spell_ungap (ws : List Word) : spell (ungap ws) = phrase ws := by
  cases ws <;> rfl

theorem Proper.ungap {ws : List Word} (h : Proper ws) : Proper (ungap ws) := by
  cases ws with
  | nil => exact h
  | cons w ws =>
    refine ⟨?_, ?_, ?_, h.apart⟩
    · exact List.forall_mem_cons.mpr ⟨allBlank_nil, h.tail.blank⟩
    · exact List.forall_mem_cons.mpr ⟨h.solid w (by simp), h.tail.solid⟩
    · exact List.forall_mem_cons.mpr ⟨h.nonempty w (by simp), h.tail.nonempty⟩

theorem Proper.words_phrase {ws : List Word} (h : Proper ws) :
    words (phrase ws) = Text.ungap ws := by
  rw [← spell_ungap, words_spell h.ungap]

theorem words_trim (s : List Char) : words (trim s) = ungap (words s) := by
  rw [← phrase_words, (proper_words s).words_phrase]

theorem Proper.wordTexts_phrase {ws : List Word} (h : Proper ws) :
    wordTexts (phrase ws) = ws.map Word.text := by
  rw [wordTexts, h.words_phrase, map_text_ungap]

end FlatQuery.Text
