import FlatQuery.Json.Literal
import Mathlib.Tactic.IntervalCases

/-!
# Strings that are read back

A writer spells every character of a string on its own. A spelling is read back
if the reader takes it for the character and goes on after it (`Spells`): the
character itself, a letter after a backslash, or four digits. So a string whose
characters are all spelled that way is read back as it was (`string_spelled`).
-/

namespace FlatQuery.Json

/-! ## Digits -/

theorem hexDigit?_digitChar {d : Nat} (h : d < 16) : hexDigit? (Nat.digitChar d) = some d := by
  interval_cases d <;> rfl

theorem utf8Size_digitChar {d : Nat} (h : d < 16) : (Nat.digitChar d).utf8Size = 1 := by
  interval_cases d <;> rfl

theorem unit_digits {n : Nat} (h : n < 0x10000) (rest : List Char) :
    unit (Nat.digitChar (n / 4096 % 16) :: Nat.digitChar (n / 256 % 16) ::
      Nat.digitChar (n / 16 % 16) :: Nat.digitChar (n % 16) :: rest) = .ok (n, rest) := by
  have hlt : ∀ k, k % 16 < 16 := fun k => Nat.mod_lt k (by decide)
  have hvalue : ((n / 4096 % 16 * 16 + n / 256 % 16) * 16 + n / 16 % 16) * 16 + n % 16 = n := by
    omega
  unfold unit
  simp only [List.take_succ_cons, List.take_zero, byteCount, List.foldr_cons, List.foldr_nil,
    utf8Size_digitChar (hlt _), List.mapM_cons, List.mapM_nil, hexDigit?_digitChar (hlt _)]
  rw [if_neg (by decide)]
  simp [hvalue]

/-! ## Spellings -/

/-- A spelling of `c` that the reader of a string takes for `c`. -/
def Spells (c : Char) (spelling : List Char) : Prop :=
  ∀ rest, string true (spelling ++ rest) = (string true rest).map fun (cs, last) => (c :: cs, last)

theorem string_quote (rest : List Char) : string true ('"' :: rest) = .ok ([], rest) := by
  rw [string]

theorem Spells.itself {c : Char} (hq : c ≠ '"') (hb : c ≠ '\\') (hc : 0x20 ≤ c.toNat) :
    Spells c [c] := by
  intro rest
  rw [List.singleton_append, string, if_neg (Nat.not_lt.mpr hc)]
  · exact hq
  · exact hb

theorem string_escape {s after : List Char} {c : Char} (h : unescape true s = .ok (c, after)) :
    string true ('\\' :: s) = (string true after).map fun (cs, last) => (c :: cs, last) := by
  rw [string]
  split
  · next hs => rw [h] at hs; cases hs
  · next hs => rw [h] at hs; cases hs; rfl

theorem unescape_letter {c d : Char} (h : shortEscape? d = some c) (hd : d ≠ 'u')
    (rest : List Char) :
    unescape true (d :: rest) = .ok (c, rest) := by
  unfold unescape
  split
  · next hs => cases hs
  · next hs => cases hs; exact absurd rfl hd
  · next hs => cases hs; simp only [h]

theorem Spells.letter {c d : Char} (h : shortEscape? d = some c) (hd : d ≠ 'u') :
    Spells c ['\\', d] :=
  fun rest => string_escape (unescape_letter h hd rest)

/-- A unit below the surrogates is a character. -/
theorem codePoint_of_unit {s rest : List Char} {c : Char} (h : c.toNat < 0xD800)
    (hu : unit s = .ok (c.toNat, rest)) : codePoint true s = .ok (c, rest) := by
  have htrailing : isTrailing c.toNat = false := by simp [isTrailing]; omega
  have hleading : isLeading c.toNat = false := by simp [isLeading]; omega
  unfold codePoint
  simp only [hu, bind, Except.bind, htrailing, hleading, Bool.and_false, Bool.false_eq_true,
    if_false, Char.ofNat_toNat]

theorem Spells.digits {c : Char} (h : c.toNat < 0xD800) : Spells c (unicodeEscape c) :=
  fun rest => string_escape (codePoint_of_unit h (unit_digits (by omega) rest))

/-! ## Strings -/

theorem string_spelled {escape : Char → List Char} (h : ∀ c, Spells c (escape c))
    (s rest : List Char) :
    string true (s.flatMap escape ++ '"' :: rest) = .ok (s, rest) := by
  induction s with
  | nil => exact string_quote rest
  | cons c s ih =>
    rw [List.flatMap_cons, List.append_assoc, h c, ih]
    rfl

theorem spells_escape (c : Char) : Spells c (escape c) := by
  unfold escape
  split_ifs with hquote hbackslash hn hr ht hb hf hcontrol
  · subst hquote; exact .letter rfl (by decide)
  · subst hbackslash; exact .letter rfl (by decide)
  · subst hn; exact .letter rfl (by decide)
  · subst hr; exact .letter rfl (by decide)
  · subst ht; exact .letter rfl (by decide)
  · subst hb; exact .letter rfl (by decide)
  · subst hf; exact .letter rfl (by decide)
  · exact .digits (by omega)
  · exact .itself hquote hbackslash (by omega)

/-- A string between quotes, its characters spelled one by one. -/
def spelled (escape : Char → List Char) (s : String) : List Char :=
  '"' :: (s.toList.flatMap escape ++ ['"'])

theorem toList_quote (s : String) : (quote s).toList = spelled escape s := String.toList_ofList

theorem spelled_append (escape : Char → List Char) (s : String) (rest : List Char) :
    spelled escape s ++ rest = '"' :: (s.toList.flatMap escape ++ '"' :: rest) := by
  simp [spelled]

/-- A spelled string shows where it ends. -/
theorem spelled_append_inj {escape : Char → List Char} (h : ∀ c, Spells c (escape c)) {s t : String}
    {rest rest' : List Char} (heq : spelled escape s ++ rest = spelled escape t ++ rest') :
    s = t ∧ rest = rest' := by
  rw [spelled_append, spelled_append] at heq
  have hs := string_spelled h s.toList rest
  rw [(List.cons.inj heq).2, string_spelled h t.toList rest'] at hs
  obtain ⟨hst, hrest⟩ := Prod.mk.inj (Except.ok.inj hs)
  exact ⟨String.toList_inj.mp hst.symm, hrest.symm⟩

end FlatQuery.Json
