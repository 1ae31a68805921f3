import FlatQuery.Proofs.Decimal.Natural
import FlatQuery.Proofs.Decimal.Order

/-!
# Doubles and their words

A double is known by its bits, so by its sign and its magnitude
(`ofMagnitude_magnitude`). The magnitudes of finite doubles lie below that of
infinity, those of no numbers above it (`isInf_iff`, `isNaN_iff`). Two numbers are
equal if they are the same double or both zero (`beq_iff`).
-/

namespace FlatQuery.Decimal

open Float.Model Float.Model.UnpackedFloat

/-! ## Fields -/

/-- A word of a double. -/
abbrev Bits := BitVec Format.binary64.numBits

namespace Bits

variable (b : Bits)

def sign : Sign := .ofBitVec (@unpackSign Format.binary64 b)

def exponent : BitVec 11 := @unpackExponent Format.binary64 b

def fraction : BitVec 52 := @unpackMantissa Format.binary64 b

theorem toNat_exponent : b.exponent.toNat = b.toNat / 2 ^ 52 % 2 ^ 11 := by
  simp [exponent, unpackExponent, BitVec.extractLsb_toNat, Nat.shiftRight_eq_div_pow]

theorem toNat_fraction : b.fraction.toNat = b.toNat % 2 ^ 52 := by
  simp [fraction, unpackMantissa, BitVec.extractLsb_toNat]

theorem toNat_toBitVec_sign : b.sign.toBitVec.toNat = b.toNat / 2 ^ 63 := by
  have hlt : b.toNat < 2 ^ 64 := b.isLt
  have hsign : ∀ v : BitVec 1, (Sign.ofBitVec v).toBitVec = v := by decide
  have hunpack : @unpackSign Format.binary64 b = BitVec.extractLsb' 63 1 b := rfl
  rw [sign, hsign, hunpack]
  simp [Nat.shiftRight_eq_div_pow]
  omega

/-- A word is put together from its fields. -/
theorem packComponents_fields : packComponents .binary64 b.sign b.exponent b.fraction = b := by
  have hlt : b.toNat < 2 ^ 64 := b.isLt
  apply BitVec.eq_of_toNat_eq
  unfold packComponents
  rw [BitVec.toNat_append, BitVec.toNat_append, ← Nat.shiftLeft_add_eq_or_of_lt b.exponent.isLt,
    ← Nat.shiftLeft_add_eq_or_of_lt b.fraction.isLt, toNat_toBitVec_sign, toNat_exponent,
    toNat_fraction, Nat.shiftLeft_eq, Nat.shiftLeft_eq]
  omega

/-- The number that a word stands for, by its fields. -/
inductive Unpacks : UnpackedFloat → Prop
  | infinity (he : b.exponent = -1#11) (hf : b.fraction = 0#52) : Unpacks (.infinity b.sign)
  | notANumber (he : b.exponent = -1#11) (hf : b.fraction ≠ 0#52) : Unpacks .notANumber
  | zero (he : b.exponent = 0#11) (hf : b.fraction = 0#52) : Unpacks (.zero b.sign)
  | subnormal {e : Int} (hpos : 0 < b.fraction.toNat) (hempty : b.exponent = 0#11)
      (he : e = -1074) : Unpacks (.finite b.sign b.fraction.toNat e hpos)
  | normal {m : Nat} {e : Int} (hpos : 0 < m) (hfull : b.exponent ≠ -1#11)
      (hempty : b.exponent ≠ 0#11) (hm : m = 2 ^ 52 + b.fraction.toNat)
      (he : e = b.exponent.toNat - 1075) : Unpacks (.finite b.sign m e hpos)

theorem unpacks : b.Unpacks (UnpackedFloat.unpack .binary64 b) := by
  unfold UnpackedFloat.unpack
  dsimp only
  by_cases hfull : @unpackExponent Format.binary64 b = -1#11
  · rw [if_pos hfull]
    by_cases hzero : @unpackMantissa Format.binary64 b = 0#52
    · rw [if_pos hzero]
      exact .infinity hfull hzero
    · rw [if_neg hzero]
      exact .notANumber hfull hzero
  · rw [if_neg hfull]
    by_cases hempty : @unpackExponent Format.binary64 b = 0#11
    · rw [if_pos hempty]
      by_cases hzero : @unpackMantissa Format.binary64 b = 0#52
      · rw [dif_pos hzero]
        exact .zero hempty hzero
      · have hexponent : (@unpackExponent Format.binary64 b).toNat = 0 := by
          rw [hempty]
          rfl
        rw [dif_neg hzero]
        refine .subnormal _ hempty ?_
        rw [hexponent]
        rfl
    · rw [if_neg hempty]
      exact .normal _ hfull hempty (toNat_one_append b.fraction) rfl

theorem pack_of_unpacks {b : Bits} (hv : Format.binary64.Valid b) {u : UnpackedFloat}
    (h : b.Unpacks u) : UnpackedFloat.pack .binary64 u = b := by
  have hfields := b.packComponents_fields
  have hfraction := b.fraction.isLt
  have hexponent := b.exponent.isLt
  cases h with
  | infinity he hf => rwa [he, hf] at hfields
  | notANumber he hf => exact (hv.eq_packedNaN he hf).symm
  | zero he hf => rwa [he, hf] at hfields
  | subnormal hpos hempty he =>
    subst he
    rw [pack_subnormal b.sign hpos hfraction, BitVec.ofNat_toNat, BitVec.setWidth_eq, ← hempty]
    exact hfields
  | normal hpos hfull hempty hm he =>
    have hlog : (2 ^ 52 + b.fraction.toNat).log2 = 52 := by
      rw [Nat.log2_eq_iff (by omega)]
      omega
    have hlarge : b.exponent.toNat ≠ 2047 := fun h => hfull (BitVec.eq_of_toNat_eq h)
    have hsmall : b.exponent.toNat ≠ 0 := fun h => hempty (BitVec.eq_of_toNat_eq h)
    have hexp : BitVec.ofNat 11 ((b.exponent.toNat : Int) - 1075 + 1075).toNat = b.exponent := by
      rw [Int.sub_add_cancel, Int.toNat_natCast, BitVec.ofNat_toNat, BitVec.setWidth_eq]
    have hfrac : BitVec.ofNat 52 (2 ^ 52 + b.fraction.toNat) = b.fraction := by
      apply BitVec.eq_of_toNat_eq
      rw [BitVec.toNat_ofNat, Nat.add_mod_left, Nat.mod_eq_of_lt hfraction]
    subst hm he
    rw [pack_normal b.sign hpos hlog (by omega) (by omega), hexp, hfrac]
    exact hfields

/-- The exponent and the fraction as one number show what kind of number it is. -/
theorem kind_of_unpacks {u : UnpackedFloat} (h : b.Unpacks u) :
    let word := b.exponent.toNat * 2 ^ 52 + b.fraction.toNat
    (u.isNaN = true ↔ 2047 * 2 ^ 52 < word) ∧ (u.isInf = true ↔ word = 2047 * 2 ^ 52) ∧
      ((∃ s, u = .zero s) ↔ word = 0) := by
  intro word
  have hfraction : b.fraction.toNat < 2 ^ 52 := b.fraction.isLt
  have hexponent : b.exponent.toNat < 2 ^ 11 := b.exponent.isLt
  have hfull : b.exponent = -1#11 ↔ b.exponent.toNat = 2047 := BitVec.toNat_inj.symm
  have hempty : b.exponent = 0#11 ↔ b.exponent.toNat = 0 := BitVec.toNat_inj.symm
  have hzero : b.fraction = 0#52 ↔ b.fraction.toNat = 0 := BitVec.toNat_inj.symm
  have hword : word = b.exponent.toNat * 2 ^ 52 + b.fraction.toNat := rfl
  clear_value word
  cases h with
  | infinity he hf =>
    rw [hfull] at he
    rw [hzero] at hf
    refine ⟨iff_of_false nofun ?_, iff_of_true rfl ?_, iff_of_false nofun ?_⟩ <;> omega
  | notANumber he hf =>
    rw [hfull] at he
    rw [ne_eq, hzero] at hf
    refine ⟨iff_of_true rfl ?_, iff_of_false nofun ?_, iff_of_false nofun ?_⟩ <;> omega
  | zero he hf =>
    rw [hempty] at he
    rw [hzero] at hf
    refine ⟨iff_of_false nofun ?_, iff_of_false nofun ?_, iff_of_true ⟨_, rfl⟩ ?_⟩ <;> omega
  | subnormal hpos he =>
    rw [hempty] at he
    refine ⟨iff_of_false nofun ?_, iff_of_false nofun ?_, iff_of_false nofun ?_⟩ <;> omega
  | normal hpos he he' =>
    rw [ne_eq, hfull] at he
    rw [ne_eq, hempty] at he'
    refine ⟨iff_of_false nofun ?_, iff_of_false nofun ?_, iff_of_false nofun ?_⟩ <;> omega

end Bits

/-! ## Doubles -/

/-- A double is known by the number that it is. -/
theorem ofModel_unpack (x : Float) : Float.ofModel (.pack x.toModel.unpack) = x := by
  obtain ⟨⟨bits, hv⟩⟩ := x
  have hpack := Bits.pack_of_unpacks hv (Bits.unpacks bits.toBitVec)
  exact congrArg Float.ofModel ((Float.Model.mk.injEq ..).mpr (congrArg UInt64.ofBitVec hpack))

/-- A double is known by its bits. -/
theorem ofBits_toBits (x : Float) : Float.ofBits x.toBits = x := ofModel_unpack x

theorem ofMagnitude_magnitude (x : Float) : ofMagnitude (isNegative x) (magnitude x) = x := by
  have hlt : x.toBits.toNat < 2 ^ 64 := x.toBits.toNat_lt
  have hbits :
      (if isNegative x then Nat.pow 2 63 + magnitude x else magnitude x) = x.toBits.toNat := by
    simp only [isNegative, magnitude, Nat.pow_eq, decide_eq_true_eq]
    split <;> omega
  unfold ofMagnitude
  rw [hbits, UInt64.ofNat_toNat, ofBits_toBits]

section
variable (x : Float)

theorem unpacks_toBits : Bits.Unpacks x.toBits.toBitVec x.toModel.unpack := Bits.unpacks _

theorem magnitude_eq : magnitude x =
    (Bits.exponent x.toBits.toBitVec).toNat * 2 ^ 52 + (Bits.fraction x.toBits.toBitVec).toNat := by
  have hlt : x.toBits.toNat < 2 ^ 64 := x.toBits.toNat_lt
  rw [Bits.toNat_exponent, Bits.toNat_fraction]
  change x.toBits.toNat % 2 ^ 63 =
    x.toBits.toNat / 2 ^ 52 % 2 ^ 11 * 2 ^ 52 + x.toBits.toNat % 2 ^ 52
  omega

theorem kind_of_magnitude :
    (x.isNaN = true ↔ infinityWord < magnitude x) ∧ (x.isInf = true ↔ magnitude x = infinityWord) ∧
      ((∃ s, x.toModel.unpack = .zero s) ↔ magnitude x = 0) := by
  rw [magnitude_eq]
  exact Bits.kind_of_unpacks _ (unpacks_toBits x)

theorem isNaN_iff : x.isNaN = true ↔ infinityWord < magnitude x := (kind_of_magnitude x).1

theorem isInf_iff : x.isInf = true ↔ magnitude x = infinityWord := (kind_of_magnitude x).2.1

theorem isZero_iff : (∃ s, x.toModel.unpack = .zero s) ↔ magnitude x = 0 :=
  (kind_of_magnitude x).2.2

end

/-! ## Equal doubles -/

/-- Only the two zeros share a rank. -/
theorem eq_or_zero_of_rank {a b : UnpackedFloat} (ha : a.isNaN = false) (hb : b.isNaN = false)
    (h : unpackedRank a = unpackedRank b) : a = b ∨ (∃ s, a = .zero s) ∧ ∃ s, b = .zero s := by
  -- the first component of a rank tells the sign and the kind
  have hkind := congrArg (fun r => (ofLex r).1) h
  have hplace := congrArg (fun r => ofLex (ofLex r).2) h
  cases a with
  | notANumber => cases ha
  | zero s =>
    cases b with
    | notANumber => cases hb
    | zero t => exact .inr ⟨⟨s, rfl⟩, t, rfl⟩
    | infinity t => cases t <;> cases hkind
    | finite t => cases t <;> cases hkind
  | infinity s =>
    cases b with
    | notANumber => cases hb
    | zero => cases s <;> cases hkind
    | infinity t => cases s <;> cases t <;> first | exact .inl rfl | cases hkind
    | finite t => cases s <;> cases t <;> cases hkind
  | finite s m e hm =>
    cases b with
    | notANumber => cases hb
    | zero => cases s <;> cases hkind
    | infinity t => cases s <;> cases t <;> cases hkind
    | finite t n f hn =>
      cases s <;> cases t
      case positive.positive =>
        obtain ⟨he, hm⟩ := Prod.mk.inj hplace
        left
        congr
        omega
      case negative.negative =>
        obtain ⟨he, hm⟩ := Prod.mk.inj hplace
        left
        congr <;> omega
      case positive.negative => cases hkind
      case negative.positive => cases hkind

/-- Numbers are equal if they are the same or both zero. -/
theorem beq_iff {x y : Float} (hx : x.isNaN = false) (hy : y.isNaN = false) :
    (x == y) = true ↔ x = y ∨ magnitude x = 0 ∧ magnitude y = 0 := by
  rw [beq_iff_rank hx hy, ← isZero_iff, ← isZero_iff]
  constructor
  · intro h
    refine (eq_or_zero_of_rank hx hy h).imp_left fun hxy => ?_
    rw [← ofModel_unpack x, hxy, ofModel_unpack]
  · rintro (rfl | ⟨⟨s, hs⟩, t, ht⟩)
    · rfl
    · rw [rank, rank, hs, ht]
      rfl

theorem beq_self {x : Float} (hx : x.isNaN = false) : (x == x) = true :=
  (beq_iff hx hx).mpr (.inl rfl)

theorem beq_zero_iff {x : Float} (hx : x.isNaN = false) : (x == 0) = true ↔ magnitude x = 0 := by
  have hzero : magnitude 0 = 0 := by decide +kernel
  rw [beq_iff hx (by decide +kernel)]
  constructor
  · rintro (rfl | ⟨h, -⟩)
    · exact hzero
    · exact h
  · exact fun h => .inr ⟨h, hzero⟩

theorem ofMagnitude_zero : ofMagnitude false 0 = 0 := by decide +kernel

end FlatQuery.Decimal
