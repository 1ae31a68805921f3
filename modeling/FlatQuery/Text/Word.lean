import FlatQuery.Text.Blank
import FlatQuery.Text.Ascii

/-!
# Words and phrases

A word is a maximal run of characters that are not blank. Each word keeps the
gap of blanks before it, so a run of words gives back the text it was read
from: `phrase` is that text from the first word to the last.
-/

namespace FlatQuery.Text

structure Word where
  /-- The blanks between the previous word, or the start, and this one. -/
  gap : List Char
  text : List Char
deriving DecidableEq, Repr

theorem length_dropWhile_le (p : Char → Bool) (s : List Char) :
    (s.dropWhile p).length ≤ s.length := by
  induction s with
  | nil => exact Nat.le_refl _
  | cons c r ih =>
    rw [List.dropWhile_cons]
    split
    · exact Nat.le_succ_of_le ih
    · exact Nat.le_refl _

/-- Where dropping stopped, the predicate fails. -/
theorem head_dropWhile {p : Char → Bool} {s r : List Char} {c : Char}
    (h : s.dropWhile p = c :: r) : p c = false := by
  induction s with
  | nil => simp at h
  | cons a t ih =>
    rw [List.dropWhile_cons] at h
    split at h
    · exact ih h
    · next hp => cases h; simpa using hp

theorem length_after_word_lt {s r : List Char} {c : Char} (h : s.dropWhile isBlank = c :: r) :
    ((c :: r).dropWhile (!isBlank ·)).length < s.length := by
  have hc : isBlank c = false := head_dropWhile h
  have h₁ := length_dropWhile_le (!isBlank ·) r
  have h₂ := length_dropWhile_le isBlank s
  rw [h, List.length_cons] at h₂
  rw [List.dropWhile_cons]
  simp only [hc, Bool.not_false, if_true]
  omega

/-- The words of a text, in order. Blanks after the last word are dropped. -/
def words (s : List Char) : List Word :=
  match _h : s.dropWhile isBlank with
  | [] => []
  | c :: r =>
    ⟨s.takeWhile isBlank, (c :: r).takeWhile (!isBlank ·)⟩ ::
      words ((c :: r).dropWhile (!isBlank ·))
termination_by s.length
decreasing_by exact length_after_word_lt _h

/-- The text of a run of words, without the gap before the first. -/
def phrase : List Word → List Char
  | [] => []
  | w :: ws => w.text ++ ws.flatMap fun v => v.gap ++ v.text

/-- Keyword comparison. -/
def Word.is (w : Word) (keyword : String) : Bool := sameLetters w.text keyword.toList

/-- The words before the first one equal to `keyword`, and those after it. -/
def splitAtKeyword? (keyword : String) : List Word → Option (List Word × List Word)
  | [] => none
  | w :: ws =>
    if w.is keyword then some ([], ws)
    else (splitAtKeyword? keyword ws).map fun (before, after) => (w :: before, after)

end FlatQuery.Text
