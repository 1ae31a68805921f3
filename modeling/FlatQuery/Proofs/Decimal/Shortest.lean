import FlatQuery.Decimal.Shortest
import FlatQuery.Proofs.Decimal.Nearest

/-!
# Digits that read back

A decimal stands for the same double however many of its zeros are kept in the
digits (`toMagnitude_shift`). The exact decimal of a finite double stands for that
double (`toMagnitude_exact`), and so does its shortest one (`toMagnitude_shortest`).
-/

namespace FlatQuery.Decimal

/-! ## Digits -/

theorem digitsOf_mul_ten {n : Nat} (hn : 0 < n) : digitsOf (n * 10) = digitsOf n ++ ['0'] := by
  have happend := Nat.toDigits_append_toDigits (b := 10) (d := 0) (by decide) hn (by decide)
  unfold digitsOf
  rw [Nat.mul_comm, ← Nat.add_zero (10 * n), ← happend]
  rfl

theorem length_digitsOf_shift {n : Nat} (hn : 0 < n) (k : Nat) :
    (digitsOf (n * 10 ^ k)).length = (digitsOf n).length + k := by
  induction k with
  | zero => simp
  | succ k ih =>
    rw [pow_succ, ← Nat.mul_assoc, digitsOf_mul_ten (Nat.mul_pos hn (Nat.pow_pos (by decide))),
      List.length_append, ih]
    rfl

theorem length_digitsOf_le_iff {n k : Nat} (hk : 0 < k) : (digitsOf n).length ≤ k ↔ n < 10 ^ k :=
  Nat.length_toDigits_le_iff (by decide) hk

theorem length_digitsOf_pos (n : Nat) : 0 < (digitsOf n).length := Nat.length_toDigits_pos

/-! ## The same number -/

/-- A decimal as a quotient of natural numbers. -/
def ratio (d : Decimal) : Nat × Nat :=
  (d.digits * 10 ^ d.exponent.toNat, 10 ^ (-d.exponent).toNat)

theorem toMagnitude_eq (d : Decimal) :
    d.toMagnitude =
      if d.digits = 0 then 0
      else if 310 < d.leading then infinityWord
      else if d.leading < -330 then 0
      else nearest d.ratio.1 d.ratio.2 := by
  have hratio : (if 0 ≤ d.exponent then nearest (d.digits * Nat.pow 10 d.exponent.toNat) 1
      else nearest d.digits (Nat.pow 10 (-d.exponent).toNat)) = nearest d.ratio.1 d.ratio.2 := by
    unfold ratio
    split
    · rw [show (-d.exponent).toNat = 0 by omega]
      rfl
    · rw [show d.exponent.toNat = 0 by omega, pow_zero, Nat.mul_one]
      rfl
  unfold toMagnitude
  rw [hratio]

/-- Zeros at the end of the digits count as much as an exponent. -/
theorem toMagnitude_shift (n k : Nat) (exponent : Int) :
    toMagnitude ⟨n * 10 ^ k, exponent⟩ = toMagnitude ⟨n, exponent + k⟩ := by
  obtain rfl | hn := Nat.eq_zero_or_pos n
  · rw [Nat.zero_mul, toMagnitude_eq, toMagnitude_eq, if_pos rfl, if_pos rfl]
  have hleading : leading ⟨n * 10 ^ k, exponent⟩ = leading ⟨n, exponent + k⟩ := by
    unfold leading
    simp only [length_digitsOf_shift hn]
    push_cast
    ring
  have hnearest : nearest (ratio ⟨n * 10 ^ k, exponent⟩).1 (ratio ⟨n * 10 ^ k, exponent⟩).2 =
      nearest (ratio ⟨n, exponent + k⟩).1 (ratio ⟨n, exponent + k⟩).2 := by
    apply nearest_congr (Nat.pow_pos (by decide)) (Nat.pow_pos (by decide))
    unfold ratio
    have hsum : k + exponent.toNat + (-(exponent + k)).toNat =
        (exponent + k).toNat + (-exponent).toNat := by omega
    dsimp only
    rw [Nat.mul_assoc, Nat.mul_assoc, Nat.mul_assoc, ← pow_add, ← pow_add, ← pow_add,
      ← Nat.add_assoc, hsum]
  have hne : n * 10 ^ k ≠ 0 := (Nat.mul_pos hn (Nat.pow_pos (by decide))).ne'
  rw [toMagnitude_eq, toMagnitude_eq, hleading, hnearest]
  simp only [hne, hn.ne', if_false]

theorem toMagnitude_normalize (d : Decimal) : (normalize d).toMagnitude = d.toMagnitude := by
  fun_induction normalize d with
  | case1 d h ih =>
    have hshift := toMagnitude_shift (d.digits / 10) 1 d.exponent
    rw [pow_one, Nat.div_mul_cancel (Nat.dvd_of_mod_eq_zero h.2)] at hshift
    rw [ih]
    exact hshift.symm
  | case2 d h => rfl

/-! ## The exact decimal -/

/-- Within the range of the doubles a decimal goes to the nearest one. -/
theorem toMagnitude_of_bounds {d : Decimal} (hd : d.digits ≠ 0) (hhi : d.leading ≤ 310)
    (hlo : -330 ≤ d.leading) : d.toMagnitude = nearest d.ratio.1 d.ratio.2 := by
  rw [toMagnitude_eq, if_neg hd, if_neg (by omega), if_neg (by omega)]

/-- A large exponent of a finite double leaves its digits within the range. -/
theorem leading_of_nonneg {significand k : Nat} (hlt : significand < 2 ^ 53) (hk : k ≤ 971) :
    leading ⟨significand * 2 ^ k, 0⟩ ≤ 310 ∧ -330 ≤ leading ⟨significand * 2 ^ k, 0⟩ := by
  have hn : significand * 2 ^ k < 10 ^ 310 := by
    calc significand * 2 ^ k < 2 ^ 53 * 2 ^ k := Nat.mul_lt_mul_of_pos_right hlt (Nat.two_pow_pos k)
      _ ≤ 2 ^ 53 * 2 ^ 971 := Nat.mul_le_mul_left _ (Nat.pow_le_pow_right (by decide) hk)
      _ ≤ 10 ^ 310 := by decide +kernel
  have hlength := (length_digitsOf_le_iff (by decide)).mpr hn
  have hpos := length_digitsOf_pos (significand * 2 ^ k)
  unfold leading
  dsimp only
  omega

/-- As many powers of five as of two have nearly as many digits as of ten. -/
theorem lt_length_five_pow {significand k j : Nat} (hpos : 0 < significand) (h : 2 ^ k ≤ 10 ^ j) :
    k < (digitsOf (significand * 5 ^ k)).length + j := by
  have hlength := length_digitsOf_pos (significand * 5 ^ k)
  by_contra hle
  have hshort : significand * 5 ^ k < 10 ^ (k - j) := by
    rw [← length_digitsOf_le_iff (by omega)]
    omega
  apply Nat.lt_irrefl (10 ^ k)
  calc 10 ^ k = 5 ^ k * 2 ^ k := mul_pow 5 2 k
    _ ≤ significand * 5 ^ k * 10 ^ j := Nat.mul_le_mul (Nat.le_mul_of_pos_left _ hpos) h
    _ < 10 ^ (k - j) * 10 ^ j := Nat.mul_lt_mul_of_pos_right hshort (Nat.pow_pos (by decide))
    _ = 10 ^ k := by rw [← pow_add, show k - j + j = k by omega]

/-- A small exponent of a finite double is made up for by the powers of five. -/
theorem leading_of_neg {significand k : Nat} (hpos : 0 < significand) (hlt : significand < 2 ^ 53)
    (hk : k ≤ 1074) :
    leading ⟨significand * 5 ^ k, -k⟩ ≤ 310 ∧ -330 ≤ leading ⟨significand * 5 ^ k, -k⟩ := by
  have hhi : (digitsOf (significand * 5 ^ k)).length ≤ 16 + k := by
    rw [length_digitsOf_le_iff (by omega)]
    calc significand * 5 ^ k < 2 ^ 53 * 5 ^ k :=
          Nat.mul_lt_mul_of_pos_right hlt (Nat.pow_pos (by decide))
      _ ≤ 10 ^ 16 * 10 ^ k := Nat.mul_le_mul (by decide) (Nat.pow_le_pow_left (by decide) k)
      _ = 10 ^ (16 + k) := (pow_add _ _ _).symm
  have hpower : 2 ^ k ≤ 10 ^ 330 :=
    (Nat.pow_le_pow_right (by decide) hk).trans (by decide +kernel)
  have hlo := lt_length_five_pow hpos hpower
  unfold leading
  dsimp only
  omega

theorem toMagnitude_exact {word : Nat} (hpos : 0 < word) (h : word < infinityWord) :
    (exact word).toMagnitude = word := by
  have hspec := binaryParts_spec h
  have hnearest := nearest_quotient h
  rcases hparts : binaryParts word with ⟨significand, exponent⟩
  rw [hparts] at hspec
  obtain ⟨hword, hlt, hlo, hhi, hbits⟩ := hspec
  have hsig : 0 < significand := by omega
  obtain ⟨k, rfl, hq⟩ | ⟨k, hneg, rfl, hq⟩ := quotient_cases hparts
  · have hexact : exact word = ⟨significand * 2 ^ k, 0⟩ := by
      unfold exact
      simp only [hparts, Int.natCast_nonneg, if_true, Int.toNat_natCast, Nat.pow_eq]
    obtain ⟨hle, hge⟩ := leading_of_nonneg hlt (show k ≤ 971 by omega)
    have hne : significand * 2 ^ k ≠ 0 := (Nat.mul_pos hsig (Nat.two_pow_pos k)).ne'
    rw [hexact, toMagnitude_of_bounds hne hle hge]
    rw [hq] at hnearest
    simpa [ratio] using hnearest
  · have hexact : exact word = ⟨significand * 5 ^ k, -k⟩ := by
      unfold exact
      simp only [hparts, hneg, if_false, neg_neg, Int.toNat_natCast, Nat.pow_eq]
    obtain ⟨hle, hge⟩ := leading_of_neg hsig hlt (show k ≤ 1074 by omega)
    have hne : significand * 5 ^ k ≠ 0 := (Nat.mul_pos hsig (Nat.pow_pos (by decide))).ne'
    rw [hexact, toMagnitude_of_bounds hne hle hge]
    rw [hq] at hnearest
    rw [← hnearest]
    apply nearest_congr (Nat.pow_pos (by decide)) (Nat.two_pow_pos k)
    have htoNat : (-(k : Int)).toNat = 0 := by omega
    simp only [ratio, htoNat, neg_neg, Int.toNat_natCast, pow_zero, Nat.mul_one]
    rw [Nat.mul_assoc, ← mul_pow]
    rfl

/-! ## The shortest decimal -/

theorem toMagnitude_onGrid? {tie : Tie} {word num den : Nat} {exponent : Int} {d : Decimal}
    (h : onGrid? tie word num den exponent = some d) : d.toMagnitude = word := by
  unfold onGrid? at h
  extract_lets num den below twice lower upper takeUpper lowerFits upperFits at h
  split at h
  · next hupper =>
    rw [← Option.some.inj h]
    exact eq_of_beq (Bool.and_eq_true_iff.mp hupper).1
  · split at h
    · next hlower =>
      rw [← Option.some.inj h]
      exact eq_of_beq hlower
    · cases h

/-- The shortest decimal of a double reads back as that double. -/
theorem toMagnitude_shortest (tie : Tie) {word : Nat} (h : word < infinityWord) :
    (shortest tie word).toMagnitude = word := by
  unfold shortest
  split
  · next hzero => rw [hzero]; rfl
  · next hne =>
    have hcandidate : ∀ found : Option Decimal, (∀ d, found = some d → d.toMagnitude = word) →
        (found.getD (exact word)).toMagnitude = word := by
      intro found hfound
      cases found with
      | none => exact toMagnitude_exact (Nat.pos_of_ne_zero hne) h
      | some d => exact hfound d rfl
    dsimp only
    rw [toMagnitude_normalize]
    apply hcandidate
    intro d hd
    obtain ⟨more, -, honGrid⟩ := List.exists_of_findSome?_eq_some hd
    exact toMagnitude_onGrid? honGrid

end FlatQuery.Decimal
