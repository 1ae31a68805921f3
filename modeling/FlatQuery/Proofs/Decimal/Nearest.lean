import FlatQuery.Decimal.Double
import Mathlib.Algebra.Order.Field.Power
import Mathlib.Data.Int.Log
import Mathlib.Data.Rat.Floor
import Mathlib.Tactic.Positivity
import Mathlib.Tactic.Ring

/-!
# The nearest double

The last bit of the double nearest to a quotient is placed by the binary
logarithm of the quotient (`lastBitExponent_eq`), so the nearest double depends on
the quotient alone (`nearest_congr`). A quotient that is a finite double is its own
nearest one (`nearest_quotient`).
-/

namespace FlatQuery.Decimal

/-! ## Rounding -/

theorem roundHalfEven_scale {c : Nat} (hc : 0 < c) (num den : Nat) :
    roundHalfEven (c * num) (c * den) = roundHalfEven num den := by
  have htwice : 2 * (c * num % (c * den)) = c * (2 * (num % den)) := by
    rw [Nat.mul_mod_mul_left]
    ring
  unfold roundHalfEven
  simp only [htwice, Nat.mul_div_mul_left _ _ hc, Nat.mul_lt_mul_left hc]

theorem roundHalfEven_whole (n : Nat) {den : Nat} (hd : 0 < den) :
    roundHalfEven (n * den) den = n := by
  unfold roundHalfEven
  simp only [Nat.mul_mod_left, Nat.mul_zero, hd, if_true, Nat.mul_div_cancel n hd]

/-! ## The last bit -/

theorem two_zpow_mul_pow {t : Int} {m n : Nat} (h : t + n = m) : (2 : ℚ) ^ t * 2 ^ n = 2 ^ m := by
  rw [← zpow_natCast, ← zpow_natCast, ← zpow_add₀ two_ne_zero, h]

section
variable {num den : Nat} (hn : 0 < num) (hd : 0 < den)
include hd

/-- The comparison by which a first guess of the exponent is checked. -/
theorem lt_two_pow_iff (num : Nat) (g : Int) :
    (if 0 ≤ g then decide (num < den * Nat.pow 2 (g.toNat + 52))
      else decide (num * Nat.pow 2 (-g).toNat < den * Nat.pow 2 52)) = true ↔
      (num : ℚ) / den < (2 : ℚ) ^ (g + 52) := by
  have hden : (0 : ℚ) < den := by exact_mod_cast hd
  rw [div_lt_iff₀ hden]
  simp only [Nat.pow_eq]
  by_cases hg : 0 ≤ g
  · obtain ⟨k, rfl⟩ := Int.eq_ofNat_of_zero_le hg
    rw [if_pos hg, decide_eq_true_iff, Int.toNat_natCast, mul_comm ((2 : ℚ) ^ _)]
    exact_mod_cast Iff.rfl
  · obtain ⟨k, rfl⟩ : ∃ k : Nat, g = -k := ⟨(-g).toNat, by omega⟩
    rw [if_neg hg, decide_eq_true_iff, neg_neg, Int.toNat_natCast, neg_add_eq_sub,
      zpow_sub₀ two_ne_zero, div_mul_eq_mul_div, lt_div_iff₀ (by positivity),
      mul_comm (_ ^ (52 : ℤ))]
    exact_mod_cast Iff.rfl

include hn

theorem log_eq_of_bounds {t : Int} (hlo : (2 : ℚ) ^ t ≤ (num : ℚ) / den)
    (hhi : (num : ℚ) / den < (2 : ℚ) ^ (t + 1)) : Int.log 2 ((num : ℚ) / den) = t := by
  have hpos : (0 : ℚ) < (num : ℚ) / den := by positivity
  have hle := (Int.zpow_le_iff_le_log one_lt_two hpos).mp (by exact_mod_cast hlo)
  have hlt := (Int.lt_zpow_iff_log_lt one_lt_two hpos).mp (by exact_mod_cast hhi)
  omega

/-- The logarithms of the two parts leave only two exponents for the quotient. -/
theorem quotient_bounds :
    (2 : ℚ) ^ ((num.log2 : Int) - den.log2 - 1) ≤ (num : ℚ) / den ∧
      (num : ℚ) / den < (2 : ℚ) ^ ((num.log2 : Int) - den.log2 + 1) := by
  have hden : (0 : ℚ) < den := by exact_mod_cast hd
  have hnumlo : (2 : ℚ) ^ num.log2 ≤ num := by exact_mod_cast Nat.log2_self_le hn.ne'
  have hnumhi : (num : ℚ) < 2 ^ (num.log2 + 1) := by exact_mod_cast Nat.lt_log2_self
  have hdenlo : (2 : ℚ) ^ den.log2 ≤ den := by exact_mod_cast Nat.log2_self_le hd.ne'
  have hdenhi : (den : ℚ) < 2 ^ (den.log2 + 1) := by exact_mod_cast Nat.lt_log2_self
  constructor
  · rw [le_div_iff₀ hden]
    calc (2 : ℚ) ^ ((num.log2 : Int) - den.log2 - 1) * den
        ≤ (2 : ℚ) ^ ((num.log2 : Int) - den.log2 - 1) * 2 ^ (den.log2 + 1) := by gcongr
      _ = 2 ^ num.log2 := two_zpow_mul_pow (by push_cast; ring)
      _ ≤ num := hnumlo
  · rw [div_lt_iff₀ hden]
    calc (num : ℚ) < 2 ^ (num.log2 + 1) := hnumhi
      _ = (2 : ℚ) ^ ((num.log2 : Int) - den.log2 + 1) * 2 ^ den.log2 :=
        (two_zpow_mul_pow (by push_cast; ring)).symm
      _ ≤ (2 : ℚ) ^ ((num.log2 : Int) - den.log2 + 1) * den := by gcongr

theorem lastBitExponent_eq :
    lastBitExponent num den = max (Int.log 2 ((num : ℚ) / den) - 52) (-1074) := by
  obtain ⟨hlo, hhi⟩ := quotient_bounds hn hd
  have hsmall := lt_two_pow_iff hd num ((num.log2 : Int) - den.log2 - 52)
  rw [sub_add_cancel] at hsmall
  unfold lastBitExponent
  dsimp only
  congr 1
  by_cases hlt : (num : ℚ) / den < (2 : ℚ) ^ ((num.log2 : Int) - den.log2)
  · rw [if_pos (hsmall.mpr hlt), log_eq_of_bounds hn hd hlo (by rwa [sub_add_cancel])]
    ring
  · rw [if_neg (mt hsmall.mp hlt), log_eq_of_bounds hn hd (not_lt.mp hlt) hhi]

end

/-! ## Quotients -/

theorem nearest_scale {c : Nat} (hc : 0 < c) (num : Nat) {den : Nat} (hd : 0 < den) :
    nearest (c * num) (c * den) = nearest num den := by
  obtain rfl | hn := Nat.eq_zero_or_pos num
  · simp [nearest]
  have hquotient : ((c * num : Nat) : ℚ) / (c * den : Nat) = (num : ℚ) / den := by
    push_cast
    exact mul_div_mul_left _ _ (by exact_mod_cast hc.ne')
  have hlast : lastBitExponent (c * num) (c * den) = lastBitExponent num den := by
    rw [lastBitExponent_eq (Nat.mul_pos hc hn) (Nat.mul_pos hc hd), lastBitExponent_eq hn hd,
      hquotient]
  unfold nearest
  simp only [hlast, Nat.mul_assoc c, roundHalfEven_scale hc, (Nat.mul_pos hc hn).ne', hn.ne']

theorem nearest_congr {num den num' den' : Nat} (hd : 0 < den) (hd' : 0 < den')
    (h : num * den' = num' * den) : nearest num den = nearest num' den' := by
  rw [← nearest_scale hd' num hd, ← nearest_scale hd num' hd', Nat.mul_comm den' num, h,
    Nat.mul_comm num' den, Nat.mul_comm den' den]

/-! ## Finite doubles -/

/-- Significand and exponent of a finite magnitude: the word is their sum, and the
significand has all its bits unless the exponent is the smallest. -/
theorem binaryParts_spec {word : Nat} (h : word < infinityWord) :
    let (significand, exponent) := binaryParts word
    (exponent + 1074).toNat * 2 ^ 52 + significand = word ∧ significand < 2 ^ 53 ∧
      -1074 ≤ exponent ∧ exponent ≤ 971 ∧ (2 ^ 52 ≤ significand ∨ exponent = -1074) := by
  have hword : word < 2047 * 2 ^ 52 := h
  unfold binaryParts
  simp only [Nat.pow_eq]
  split
  · next hfield => refine ⟨?_, ?_, ?_, ?_, .inr rfl⟩ <;> omega
  · next hfield => refine ⟨?_, ?_, ?_, ?_, .inl ?_⟩ <;> omega

section
variable {word significand : Nat}

theorem quotient_cases {exponent : Int} (h : binaryParts word = (significand, exponent)) :
    (∃ k : Nat, exponent = k ∧ quotient word = (significand * 2 ^ k, 1)) ∨
      ∃ k : Nat, ¬ 0 ≤ exponent ∧ exponent = -(k : Int) ∧ quotient word = (significand, 2 ^ k) := by
  unfold quotient
  simp only [h, Nat.pow_eq]
  by_cases hexp : 0 ≤ exponent
  · rw [if_pos hexp]
    exact .inl ⟨exponent.toNat, by omega, rfl⟩
  · rw [if_neg hexp]
    exact .inr ⟨(-exponent).toNat, hexp, by omega, rfl⟩

theorem den_pos (word : Nat) : 0 < (quotient word).2 := by
  unfold quotient
  dsimp only
  split
  · exact Nat.one_pos
  · exact Nat.two_pow_pos _

theorem quotient_value {exponent : Int} (h : binaryParts word = (significand, exponent)) :
    ((quotient word).1 : ℚ) / (quotient word).2 = significand * (2 : ℚ) ^ exponent := by
  obtain ⟨k, rfl, hq⟩ | ⟨k, -, rfl, hq⟩ := quotient_cases h
  · rw [hq, zpow_natCast]
    push_cast
    rw [div_one]
  · rw [hq, zpow_neg, zpow_natCast, ← div_eq_mul_inv]
    push_cast
    rfl

theorem num_pos {exponent : Int} (h : binaryParts word = (significand, exponent))
    (hpos : 0 < significand) : 0 < (quotient word).1 := by
  obtain ⟨k, -, hq⟩ | ⟨k, -, -, hq⟩ := quotient_cases h
  · rw [hq]
    exact Nat.mul_pos hpos (Nat.two_pow_pos k)
  · rw [hq]
    exact hpos

/-- The last bit of a significand stays in its place: the significand has all its
bits, or the exponent is the smallest. -/
theorem lastBitExponent_quotient {exponent : Int} (h : binaryParts word = (significand, exponent))
    (hpos : 0 < significand) (hlt : significand < 2 ^ 53) (hexp : -1074 ≤ exponent)
    (hbits : 2 ^ 52 ≤ significand ∨ exponent = -1074) :
    lastBitExponent (quotient word).1 (quotient word).2 = exponent := by
  have hlo : ((2 : ℚ) ^ significand.log2) ≤ significand := by
    exact_mod_cast Nat.log2_self_le hpos.ne'
  have hhi : (significand : ℚ) < 2 ^ (significand.log2 + 1) := by exact_mod_cast Nat.lt_log2_self
  have hvalue := quotient_value h
  have hnum := num_pos h hpos
  have hlog : Int.log 2 (((quotient word).1 : ℚ) / (quotient word).2) =
      significand.log2 + exponent := by
    apply log_eq_of_bounds hnum (den_pos word)
    · rw [hvalue, zpow_add₀ two_ne_zero, zpow_natCast]
      gcongr
    · rw [hvalue, add_right_comm, zpow_add₀ two_ne_zero, ← Nat.cast_succ, zpow_natCast]
      gcongr
  have hupper : significand.log2 < 53 := (Nat.log2_lt hpos.ne').mpr hlt
  rw [lastBitExponent_eq hnum (den_pos word), hlog]
  obtain hfull | rfl := hbits
  · have hlower : 52 ≤ significand.log2 := (Nat.le_log2 hpos.ne').mpr hfull
    omega
  · omega

theorem roundHalfEven_quotient {exponent : Int} (h : binaryParts word = (significand, exponent)) :
    (if 0 ≤ exponent then
        roundHalfEven (quotient word).1 ((quotient word).2 * Nat.pow 2 exponent.toNat)
      else roundHalfEven ((quotient word).1 * Nat.pow 2 (-exponent).toNat) (quotient word).2) =
      significand := by
  obtain ⟨k, rfl, hq⟩ | ⟨k, hneg, rfl, hq⟩ := quotient_cases h
  · rw [hq, if_pos (Int.natCast_nonneg k), Int.toNat_natCast, Nat.one_mul]
    exact roundHalfEven_whole significand (Nat.two_pow_pos k)
  · rw [hq, if_neg hneg, neg_neg, Int.toNat_natCast]
    exact roundHalfEven_whole significand (Nat.two_pow_pos k)

/-- A finite magnitude is the nearest one to its own value. -/
theorem nearest_quotient (h : word < infinityWord) :
    nearest (quotient word).1 (quotient word).2 = word := by
  have hspec := binaryParts_spec h
  rcases hparts : binaryParts word with ⟨significand, exponent⟩
  rw [hparts] at hspec
  obtain ⟨hword, hlt, hlo, -, hbits⟩ := hspec
  obtain rfl | hpos := Nat.eq_zero_or_pos significand
  · obtain rfl : word = 0 := by omega
    exact if_pos rfl
  · have hlast := lastBitExponent_quotient hparts hpos hlt hlo hbits
    unfold nearest
    rw [if_neg (num_pos hparts hpos).ne']
    simp only [hlast, roundHalfEven_quotient hparts]
    exact (congrArg (min · infinityWord) hword).trans (Nat.min_eq_left h.le)

theorem natural?_zero : natural? 0 = some 0 := by decide +kernel

/-- A magnitude that is a natural number is the nearest one to it. -/
theorem nearest_of_natural? {n : Nat} (h : word < infinityWord) (hn : natural? word = some n) :
    nearest n 1 = word := by
  have hexact : (quotient word).1 = n * (quotient word).2 := by
    change (if (quotient word).1 % (quotient word).2 = 0 then
      some ((quotient word).1 / (quotient word).2) else none) = some n at hn
    split at hn
    · next hmod =>
      rw [← Option.some.inj hn, Nat.div_mul_cancel (Nat.dvd_of_mod_eq_zero hmod)]
    · cases hn
  calc nearest n 1 = nearest (n * (quotient word).2) (quotient word).2 :=
        nearest_congr Nat.one_pos (den_pos word) (Nat.mul_one _).symm
    _ = word := by rw [← hexact, nearest_quotient h]

end

end FlatQuery.Decimal
