import FlatQuery.Decimal.Layout
import FlatQuery.Decimal.Numeral
import FlatQuery.Proofs.Decimal.Shortest
import Mathlib.Data.List.TakeWhile

/-!
# Numerals that are read

A run of digits with or without a point in it spells a decimal (`Spells`), and
behind a sign or without one it is read as that decimal (`readFloat?_spelled`). A
decimal that is written out positionally spells the same double
(`exists_spells_positional`).
-/

namespace FlatQuery.Decimal

/-! ## Digits -/

def Digits (s : List Char) : Prop := ∀ c ∈ s, c.isDigit = true

theorem digitsOf_ne_nil (n : Nat) : digitsOf n ≠ [] := Nat.toDigits_ne_nil

theorem digits_digitsOf (n : Nat) : Digits (digitsOf n) := fun _ hc =>
  Nat.isDigit_of_mem_toDigits (by decide) (by decide) hc

theorem digits_zeros (k : Nat) : Digits (List.replicate k '0') := by
  intro c hc
  rw [List.eq_of_mem_replicate hc]
  rfl

theorem digits_append {s t : List Char} : Digits (s ++ t) ↔ Digits s ∧ Digits t :=
  List.forall_mem_append

theorem readDigits_append (start : Nat) (s t : List Char) :
    readDigits start (s ++ t) = readDigits (readDigits start s) t := List.foldl_append

theorem readDigits_zeros (start k : Nat) :
    readDigits start (List.replicate k '0') = 10 ^ k * start := Nat.ofDigitChars_replicate_zero

theorem readDigits_digitsOf (n : Nat) : readDigits 0 (digitsOf n) = n :=
  Nat.ofDigitChars_ten_toDigits

/-! ## Spelling -/

/-- The decimal that digits spell, with or without a point in them. -/
inductive Spells : List Char → Decimal → Prop
  | whole {s : List Char} (hne : s ≠ []) (hs : Digits s) : Spells s ⟨readDigits 0 s, 0⟩
  | point {s t : List Char} (hne : s ≠ []) (hs : Digits s) (ht : Digits t) :
      Spells (s ++ '.' :: t) ⟨readDigits 0 (s ++ t), -t.length⟩

theorem spells_digitsOf (n : Nat) : Spells (digitsOf n) ⟨n, 0⟩ := by
  have h := Spells.whole (digitsOf_ne_nil n) (digits_digitsOf n)
  rwa [readDigits_digitsOf] at h

namespace Spells

variable {s : List Char} {d : Decimal} (h : Spells s d)
include h

theorem first : ∃ c rest, s = c :: rest ∧ c.isDigit = true := by
  have hfirst : ∀ {s : List Char}, s ≠ [] → Digits s →
      ∃ c rest, s = c :: rest ∧ c.isDigit = true := by
    intro s hne hs
    obtain ⟨c, rest, rfl⟩ := List.exists_cons_of_ne_nil hne
    exact ⟨c, rest, rfl, hs c List.mem_cons_self⟩
  cases h with
  | whole hne hs => exact hfirst hne hs
  | @point s t hne hs ht =>
    obtain ⟨c, rest, rfl, hc⟩ := hfirst hne hs
    exact ⟨c, rest ++ '.' :: t, rfl, hc⟩

theorem char {c : Char} (hc : c ∈ s) : c.isDigit = true ∨ c = '.' := by
  cases h with
  | whole hne hs => exact .inl (hs c hc)
  | point hne hs ht =>
    obtain hc | hc := List.mem_append.mp hc
    · exact .inl (hs c hc)
    · obtain rfl | hc := List.mem_cons.mp hc
      · exact .inr rfl
      · exact .inl (ht c hc)

theorem readUnsigned?_eq : readUnsigned? s = some d := by
  cases h with
  | whole hne hs =>
    have htake : s.takeWhile Char.isDigit = s := List.takeWhile_eq_self_iff.mpr hs
    have hdrop : s.dropWhile Char.isDigit = [] := List.dropWhile_eq_nil_iff.mpr hs
    unfold readUnsigned?
    simp only [htake, hdrop, hne, false_and, if_false]
    rfl
  | @point s t hne hs ht =>
    have htake : (s ++ '.' :: t).takeWhile Char.isDigit = s := by
      rw [List.takeWhile_append_of_pos hs, List.takeWhile_cons_of_neg (by decide), List.append_nil]
    have hdrop : (s ++ '.' :: t).dropWhile Char.isDigit = '.' :: t := by
      rw [List.dropWhile_append_of_pos hs, List.dropWhile_cons_of_neg (by decide)]
    have htake' : t.takeWhile Char.isDigit = t := List.takeWhile_eq_self_iff.mpr ht
    have hdrop' : t.dropWhile Char.isDigit = [] := List.dropWhile_eq_nil_iff.mpr ht
    unfold readUnsigned?
    simp only [htake, hdrop, htake', hdrop', hne, false_and, if_false, readDigits_append]
    simp [readExponent?]

end Spells

/-- A digit has no letter case. -/
theorem toLower_of_isDigit {c : Char} (h : c.isDigit = true) : c.toLower = c := by
  have hle : c.toNat ≤ '9'.toNat := by
    rw [Char.isDigit, Bool.and_eq_true, decide_eq_true_iff, decide_eq_true_iff] at h
    exact UInt32.le_iff_toNat_le.mp h.2
  refine dif_neg fun hupper => ?_
  have hge : 'A'.toNat ≤ c.toNat := UInt32.le_iff_toNat_le.mp hupper.1
  exact absurd (hge.trans hle) (by decide)

/-- A numeral that begins with a digit is none of the words, and has no sign. -/
theorem readFloat?_spelled {s : List Char} {d : Decimal} (h : Spells s d) (negative : Bool) :
    readFloat? ((if negative then ['-'] else []) ++ s) =
      some (ofMagnitude negative d.toMagnitude) := by
  obtain ⟨c, rest, rfl, hc⟩ := h.first
  have hsign : readSign ((if negative then ['-'] else []) ++ c :: rest) =
      (negative, c :: rest) := by
    cases negative with
    | true => rfl
    | false =>
      simp only [Bool.false_eq_true, if_false, List.nil_append]
      unfold readSign
      split
      · next heq => cases heq; cases hc
      · next heq => cases heq; cases hc
      · rfl
  have hword : ∀ {a : Char} {t : List Char}, a.isDigit = false →
      Text.lower (c :: rest) ≠ a :: t := by
    intro a t ha heq
    have hca : c.toLower = a := (List.cons.inj heq).1
    rw [← hca, toLower_of_isDigit hc, hc] at ha
    cases ha
  unfold readFloat?
  rw [hsign]
  dsimp only
  rw [if_neg, if_neg, h.readUnsigned?_eq]
  · rfl
  · exact hword rfl
  · exact not_or.mpr ⟨hword rfl, hword rfl⟩

/-! ## Positional decimals -/

theorem exists_spells_positional (d : Decimal) :
    ∃ read, Spells d.positional read ∧ read.toMagnitude = d.toMagnitude := by
  unfold positional
  dsimp only
  split
  · next hexp =>
    refine ⟨_, .whole (by simp [digitsOf_ne_nil]) (digits_append.mpr
      ⟨digits_digitsOf d.digits, digits_zeros d.exponent.toNat⟩), ?_⟩
    rw [readDigits_append, readDigits_digitsOf, readDigits_zeros, Nat.mul_comm, toMagnitude_shift,
      Int.zero_add, Int.toNat_of_nonneg hexp]
  · next hexp =>
    split
    · next hplaces =>
      -- the point comes after the digits in front of the last places
      have hdigits := digits_digitsOf d.digits
      have hne :
          (digitsOf d.digits).take ((digitsOf d.digits).length - (-d.exponent).toNat) ≠ [] := by
        rw [← List.length_pos_iff, List.length_take]
        omega
      have hlength : ((digitsOf d.digits).drop
          ((digitsOf d.digits).length - (-d.exponent).toNat)).length = (-d.exponent).toNat := by
        rw [List.length_drop]
        omega
      refine ⟨_, .point hne (fun c hc => hdigits c (List.mem_of_mem_take hc))
        (fun c hc => hdigits c (List.mem_of_mem_drop hc)), ?_⟩
      rw [List.take_append_drop, readDigits_digitsOf, hlength, Int.toNat_of_nonneg (by omega),
        neg_neg]
    · next hplaces =>
      have hlength : (List.replicate ((-d.exponent).toNat - (digitsOf d.digits).length) '0' ++
          digitsOf d.digits).length = (-d.exponent).toNat := by
        rw [List.length_append, List.length_replicate]
        omega
      refine ⟨_, .point (s := ['0']) (by simp) (digits_zeros 1) (digits_append.mpr
        ⟨digits_zeros _, digits_digitsOf d.digits⟩), ?_⟩
      have hzero : readDigits 0 ['0'] = 0 := rfl
      rw [readDigits_append, hzero, readDigits_append, readDigits_zeros, Nat.mul_zero,
        readDigits_digitsOf, hlength, Int.toNat_of_nonneg (by omega), neg_neg]

end FlatQuery.Decimal
