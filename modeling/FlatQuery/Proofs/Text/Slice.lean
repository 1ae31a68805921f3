import FlatQuery.Proofs.Text.Words
import FlatQuery.Text.Slice

/-!
# Parts of a text

A part is there exactly if the text is the part between two others that have
the bytes up to its offsets (`slice?_eq_some_iff`), so exactly if its offsets
are positions of the string in order (`isSome_slice?_iff`). The scan takes no
part that is not there and finds the words of the text, each at its place
(`spans?_eq`).
-/

namespace FlatQuery.Text

@[simp] theorem bytes_nil : bytes [] = 0 := rfl

@[simp] theorem bytes_cons (c : Char) (s : List Char) : bytes (c :: s) = c.utf8Size + bytes s := rfl

@[simp] theorem bytes_append (s t : List Char) : bytes (s ++ t) = bytes s + bytes t := by
  induction s with
  | nil => simp
  | cons c s ih => simp [ih, Nat.add_assoc]

theorem bytes_eq (s : List Char) : bytes s = (String.ofList s).utf8ByteSize := by
  induction s with
  | nil => rfl
  | cons c s ih =>
    have hs : String.ofList (c :: s) = String.singleton c ++ String.ofList s := by
      rw [String.singleton_eq_ofList, ← String.ofList_append]; rfl
    rw [bytes_cons, ih, hs, String.utf8ByteSize_append, String.utf8ByteSize_singleton]

theorem bytes_pos {s : List Char} (h : s ≠ []) : 0 < bytes s := by
  obtain ⟨c, s, rfl⟩ := List.exists_cons_of_ne_nil h
  have hc := c.utf8Size_pos
  rw [bytes_cons]
  omega

/-! ## Cutting at an offset -/

theorem cut?_append (a b : List Char) : cut? (a ++ b) (bytes a) = some (a, b) := by
  induction a with
  | nil => cases b <;> simp [cut?]
  | cons c a ih =>
    have hc := c.utf8Size_pos
    have hne : ¬ bytes (c :: a) = 0 := by rw [bytes_cons]; omega
    have hle : ¬ bytes (c :: a) < c.utf8Size := by rw [bytes_cons]; omega
    have hrest : bytes (c :: a) - c.utf8Size = bytes a := by rw [bytes_cons]; omega
    rw [List.cons_append, cut?, if_neg hne]
    simp only [if_neg hle, hrest, ih]
    rfl

theorem cut?_eq_some_iff {s a b : List Char} {n : Nat} :
    cut? s n = some (a, b) ↔ s = a ++ b ∧ bytes a = n := by
  constructor
  · intro h
    induction s generalizing n a with
    | nil =>
      unfold cut? at h
      by_cases hn : n = 0
      · rw [if_pos hn] at h
        cases h
        exact ⟨rfl, hn.symm⟩
      · rw [if_neg hn] at h
        cases h
    | cons c s ih =>
      unfold cut? at h
      by_cases hn : n = 0
      · rw [if_pos hn] at h
        cases h
        exact ⟨rfl, hn.symm⟩
      · by_cases hc : n < c.utf8Size
        · simp [if_neg hn, if_pos hc] at h
        · simp only [if_neg hn, if_neg hc] at h
          obtain ⟨⟨a', b'⟩, hcut, he⟩ := Option.map_eq_some_iff.mp h
          cases he
          obtain ⟨rfl, ha⟩ := ih hcut
          exact ⟨rfl, by rw [bytes_cons, ha]; omega⟩
  · intro h
    obtain ⟨rfl, rfl⟩ := h
    exact cut?_append a b

theorem isSome_cut?_iff {s : List Char} {n : Nat} :
    (cut? s n).isSome ↔ String.Pos.Raw.IsValid (String.ofList s) ⟨n⟩ := by
  rw [String.Pos.Raw.isValid_iff_exists_append, Option.isSome_iff_exists]
  constructor
  · intro h
    obtain ⟨⟨a, b⟩, h⟩ := h
    obtain ⟨rfl, rfl⟩ := cut?_eq_some_iff.mp h
    exact ⟨String.ofList a, String.ofList b, by rw [String.ofList_append], by rw [bytes_eq]; rfl⟩
  · intro h
    obtain ⟨a, b, hs, hn⟩ := h
    refine ⟨(a.toList, b.toList), cut?_eq_some_iff.mpr ⟨?_, ?_⟩⟩
    · rw [← String.toList_append, ← hs, String.toList_ofList]
    · rw [bytes_eq, String.ofList_toList]
      exact (congrArg String.Pos.Raw.byteIdx hn).symm

theorem slice?_eq_some_iff {s m : List Char} {i j : Nat} :
    slice? s i j = some m ↔
      ∃ a b, s = a ++ (m ++ b) ∧ bytes a = i ∧ bytes a + bytes m = j := by
  constructor
  · intro h
    cases hcut : cut? s i with
    | none => simp [slice?, hcut] at h
    | some p =>
      obtain ⟨a, r⟩ := p
      obtain ⟨rfl, rfl⟩ := cut?_eq_some_iff.mp hcut
      by_cases hj : j < bytes a
      · simp [slice?, hcut, hj] at h
      · simp only [slice?, hcut, if_neg hj] at h
        obtain ⟨⟨m', b⟩, hm, he⟩ := Option.map_eq_some_iff.mp h
        obtain rfl : m' = m := he
        obtain ⟨rfl, hm⟩ := cut?_eq_some_iff.mp hm
        exact ⟨a, b, rfl, rfl, by omega⟩
  · intro h
    obtain ⟨a, b, rfl, rfl, rfl⟩ := h
    have hj : ¬ bytes a + bytes m < bytes a := by omega
    simp only [slice?, cut?_append, if_neg hj, Nat.add_sub_cancel_left, Option.map_some]

/-- The parts of a text are those between two positions of the string in order. -/
theorem isSome_slice?_iff {s : List Char} {i j : Nat} :
    (slice? s i j).isSome ↔ i ≤ j ∧ String.Pos.Raw.IsValid (String.ofList s) ⟨i⟩ ∧
      String.Pos.Raw.IsValid (String.ofList s) ⟨j⟩ := by
  simp only [← isSome_cut?_iff, Option.isSome_iff_exists, Prod.exists, cut?_eq_some_iff,
    slice?_eq_some_iff]
  constructor
  · intro h
    obtain ⟨m, a, b, rfl, rfl, rfl⟩ := h
    exact ⟨by omega, ⟨a, m ++ b, rfl, rfl⟩, a ++ m, b, by rw [List.append_assoc], bytes_append a m⟩
  · intro h
    obtain ⟨hij, ⟨a, r, rfl, rfl⟩, a', r', hs, rfl⟩ := h
    obtain ⟨m, rfl, rfl⟩ | ⟨m, rfl, rfl⟩ := List.append_eq_append_iff.mp hs
    · exact ⟨m, a, r', rfl, rfl, (bytes_append a m).symm⟩
    · -- the first part reaches no further than the second
      have hm : bytes m = 0 := by
        rw [bytes_append] at hij
        omega
      exact ⟨[], a' ++ m, r, by simp, rfl, by simp [hm]⟩

theorem offset?_more {p : Char → Bool} {a : List Char} (ha : ∀ c ∈ a, p c = false) {c : Char}
    (hc : p c = true) (r : List Char) : offset? p (a ++ c :: r) = some (bytes a) := by
  induction a with
  | nil => simp [offset?, hc]
  | cons d a ih =>
    rw [List.cons_append, offset?, ha d (by simp), ih fun e he => ha e (by simp [he])]
    rfl

theorem offset?_last {p : Char → Bool} {s : List Char} (h : ∀ c ∈ s, p c = false) :
    offset? p s = none := by
  induction s with
  | nil => rfl
  | cons c s ih =>
    rw [offset?, h c (by simp), ih fun d hd => h d (by simp [hd])]
    rfl

/-! ## The scan -/

/-- Words at their places, where the first gap begins at an offset. -/
def place (offset : Nat) : List Word → List Span
  | [] => []
  | w :: ws =>
    ⟨w.text, offset + bytes w.gap, offset + bytes w.gap + bytes w.text⟩ ::
      place (offset + bytes w.gap + bytes w.text) ws

theorem place_append (n : Nat) (xs ys : List Word) :
    place n (xs ++ ys) = place n xs ++ place (n + bytes (spell xs)) ys := by
  induction xs generalizing n with
  | nil => rfl
  | cons x xs ih =>
    rw [List.cons_append, place, place, ih, spell_cons]
    simp only [bytes_append, List.cons_append, Nat.add_assoc]

@[simp] theorem length_place (n : Nat) (ws : List Word) : (place n ws).length = ws.length := by
  induction ws generalizing n with
  | nil => rfl
  | cons w ws ih => rw [place, List.length_cons, ih, List.length_cons]

theorem map_text_place (n : Nat) (ws : List Word) :
    (place n ws).map Span.text = ws.map Word.text := by
  induction ws generalizing n with
  | nil => rfl
  | cons w ws ih => rw [place, List.map_cons, List.map_cons, ih]

variable {s : List Char}

theorem scan_blank {g : List Char} (hg : AllBlank g) (i : Nat) (r : List Char) :
    scan s none i (g ++ r) = scan s none (i + bytes g) r := by
  induction g generalizing i with
  | nil => rfl
  | cons c g ih =>
    rw [List.cons_append, scan, if_pos (hg c (by simp)), ih fun d hd => hg d (by simp [hd]),
      bytes_cons, Nat.add_assoc]

theorem scan_solid {t : List Char} (ht : Solid t) (n i : Nat) (r : List Char) :
    scan s (some n) i (t ++ r) = scan s (some n) (i + bytes t) r := by
  induction t generalizing i with
  | nil => rfl
  | cons c t ih =>
    have hc : ¬ isBlank c = true := by simp [ht c (by simp)]
    rw [List.cons_append, scan, if_neg hc, Option.getD_some, ih fun d hd => ht d (by simp [hd]),
      bytes_cons, Nat.add_assoc]

theorem scan_word {a t r : List Char} (hs : s = a ++ (t ++ r)) (ht : Solid t) (hne : t ≠ [])
    (hr : BlankFirst r) :
    scan s none (bytes a) (t ++ r) = (scan s none (bytes a + bytes t) r).map
      (⟨t, bytes a, bytes a + bytes t⟩ :: ·) := by
  have hword : scan s none (bytes a) (t ++ r) = scan s (some (bytes a)) (bytes a + bytes t) r := by
    obtain ⟨c, t, rfl⟩ := List.exists_cons_of_ne_nil hne
    have hc : ¬ isBlank c = true := by simp [ht c (by simp)]
    rw [List.cons_append, scan, if_neg hc, Option.getD_none,
      scan_solid fun d hd => ht d (by simp [hd]), bytes_cons, Nat.add_assoc]
  have hslice := slice?_eq_some_iff.mpr ⟨a, r, hs, rfl, rfl⟩
  rw [hword]
  cases r with
  | nil =>
    have hend : bytes s = bytes a + bytes t := by rw [hs]; simp
    simp [scan, hend, hslice]
  | cons b r =>
    have hb : isBlank b = true := hr b rfl
    simp only [scan, hb, if_true, hslice, Option.bind_eq_bind, Option.bind_some]
    cases scan s none (bytes a + bytes t + b.utf8Size) r <;> rfl

theorem scan_eq {a r : List Char} (hs : s = a ++ r) :
    scan s none (bytes a) r = some (place (bytes a) (words r)) := by
  induction r using text_induction generalizing a with
  | blank g hg =>
    have hscan := scan_blank (s := s) hg (bytes a) []
    rw [List.append_nil] at hscan
    rw [hscan, words_of_allBlank hg]
    rfl
  | word g t r hg ht hne hr ih =>
    have hrest := ih (a := a ++ g ++ t) (by rw [hs]; simp only [List.append_assoc])
    rw [scan_blank hg, ← bytes_append,
      scan_word (a := a ++ g) (by rw [hs, List.append_assoc]) ht hne hr, ← bytes_append, hrest,
      words_cons hg ht hne hr, place]
    simp only [bytes_append, Option.map_some]

theorem spans?_eq (s : List Char) : spans? s = some (place 0 (words s)) := scan_eq (a := []) rfl

end FlatQuery.Text
