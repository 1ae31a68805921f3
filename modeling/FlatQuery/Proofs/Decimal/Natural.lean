import Mathlib.Data.List.Induction
import Mathlib.Tactic.Ring

/-!
# Natural numbers as doubles

A natural number below `2 ^ 53` is a double without rounding (`ofNat_eq`), and
so is a sum of such numbers that stays below `2 ^ 53` (`ofNat_add`).
-/

namespace FlatQuery.Decimal

open Float.Model Float.Model.UnpackedFloat

/-! ## Exact rounding -/

theorem targetExponent_eq (m : Nat) (e : Int) :
    Format.binary64.targetExponent (totalExponent m e) = max (m.log2 + e - 52) (-1074) := by
  unfold Format.targetExponent totalExponent
  rw [show Format.binary64.minExponent = -1074 from rfl,
    show Format.binary64.mantissaBits = 53 from rfl]
  congr 1
  omega

theorem log2_mul_two_pow {n : Nat} (hn : 0 < n) (k : Nat) : (n * 2 ^ k).log2 = n.log2 + k := by
  have hk : 0 < 2 ^ k := Nat.two_pow_pos k
  apply (Nat.log2_eq_iff (Nat.mul_pos hn hk).ne').mpr
  rw [Nat.add_right_comm, pow_add, pow_add _ (n.log2 + 1)]
  constructor
  · exact Nat.mul_le_mul_right _ (Nat.log2_self_le hn.ne')
  · exact Nat.mul_lt_mul_of_pos_right Nat.lt_log2_self hk

theorem shiftRight_exact (m d : Nat) :
    (⟨m * 2 ^ d, false, false⟩ : ExtendedMantissa) >>> d = ⟨m, false, false⟩ := by
  change Nat.repeat ExtendedMantissa.shiftRightOne d _ = _
  induction d generalizing m with
  | zero => simp [Nat.repeat]
  | succ d ih =>
    rw [Nat.repeat, show m * 2 ^ (d + 1) = (m * 2) * 2 ^ d by ring, ih]
    simp [ExtendedMantissa.shiftRightOne]

theorem shiftToTargetExponent_exact {m d : Nat} {e : Int}
    (he : max ((m * 2 ^ d).log2 + e - 52) (-1074) = e + d) :
    shiftToTargetExponent .binary64 (m * 2 ^ d) e .exact = (⟨m, false, false⟩, e + d) := by
  unfold shiftToTargetExponent shiftToExponent
  rw [targetExponent_eq, he]
  have hd : (e + d - e).toNat = d := by omega
  simp only [hd]
  rw [ExtendedMantissa.ofMantissaAndAccuracy, shiftRight_exact]

/-- Nothing is rounded if nothing was shifted out. -/
theorem roundWithAccuracy_exact {s : Sign} {m m₁ m₂ : Nat} {e e₁ e₂ : Int}
    (hfirst : shiftToTargetExponent .binary64 m e .exact = (⟨m₁, false, false⟩, e₁))
    (hsecond : shiftToTargetExponent .binary64 m₁ e₁ .exact = (⟨m₂, false, false⟩, e₂))
    (hpos : 0 < m₂) : roundWithAccuracy .binary64 s m e .exact = .finite s m₂ e₂ hpos := by
  have hrounded : (⟨m₁, false, false⟩ : ExtendedMantissa).roundedMantissa = m₁ := rfl
  unfold roundWithAccuracy
  dsimp only
  rw [hfirst, hrounded, hsecond]
  exact dif_neg hpos.ne'

theorem finite_congr {s : Sign} {m m' : Nat} {e e' : Int} (hm : m = m') (he : e = e')
    (hpos : 0 < m) (hpos' : 0 < m') :
    UnpackedFloat.finite s m e hpos = .finite s m' e' hpos' := by
  subst hm he
  rfl

/-- The double of a natural number: its bits are moved up to the first of 53 places. -/
def natural (n : Nat) : UnpackedFloat :=
  if h : 0 < n then
    .finite .positive (n * 2 ^ (52 - n.log2)) (n.log2 - 52) (Nat.mul_pos h (Nat.two_pow_pos _))
  else .zero .positive

theorem log2_le {n : Nat} (hn : 0 < n) (h : n < 2 ^ 53) : n.log2 ≤ 52 :=
  Nat.le_of_lt_succ ((Nat.log2_lt hn.ne').mpr h)

/-- A multiple of a power of two that is a small natural number is not rounded. -/
theorem roundWithAccuracy_natural {n k : Nat} (hn : 0 < n) (h : n < 2 ^ 53)
    (hk : 52 ≤ n.log2 + k) :
    roundWithAccuracy .binary64 .positive (n * 2 ^ k) (-k) .exact = natural n := by
  have hlog := log2_le hn h
  obtain ⟨d, hd⟩ : ∃ d, k = (52 - n.log2) + d := ⟨k - (52 - n.log2), by omega⟩
  have hshift : n * 2 ^ k = (n * 2 ^ (52 - n.log2)) * 2 ^ d := by rw [hd, pow_add, Nat.mul_assoc]
  have hfirst := shiftToTargetExponent_exact (m := n * 2 ^ (52 - n.log2)) (d := d) (e := -k) (by
    rw [← hshift, log2_mul_two_pow hn]
    omega)
  -- what is left after the first shift has its 53 bits, so the second one does nothing
  have hsecond :=
    shiftToTargetExponent_exact (m := n * 2 ^ (52 - n.log2)) (d := 0) (e := -k + d) (by
      rw [pow_zero, Nat.mul_one, log2_mul_two_pow hn]
      omega)
  rw [pow_zero, Nat.mul_one] at hsecond
  have hexp : (-(k : Int) + d + (0 : Nat)) = n.log2 - 52 := by omega
  have hpos : 0 < n * 2 ^ (52 - n.log2) := Nat.mul_pos hn (Nat.two_pow_pos _)
  have hnatural : natural n = .finite .positive _ _ hpos := dif_pos hn
  rw [hshift, roundWithAccuracy_exact hfirst hsecond hpos, hnatural]
  exact finite_congr rfl hexp hpos hpos

/-! ## Adding -/

theorem decreaseExponent_eq (n j k : Nat) :
    decreaseExponent (n * 2 ^ j) (-j) (-k) = (n * 2 ^ max j k, -((max j k : Nat) : Int)) := by
  have hd : (-(j : Int) - -k).toNat = max j k - j := by omega
  unfold decreaseExponent
  simp only [hd, Nat.shiftLeft_eq]
  rw [Nat.mul_assoc, ← pow_add]
  congr 1
  · congr 2
    omega
  · omega

theorem round_natural {n k : Nat} (hn : 0 < n) (h : n < 2 ^ 53) :
    UnpackedFloat.round .binary64 .positive (n * 2 ^ k) (-k) = natural n := by
  have hlog := log2_le hn h
  have htarget : Format.binary64.targetExponent (totalExponent (n * 2 ^ k) (-k)) =
      -(52 - n.log2 : Nat) := by
    rw [targetExponent_eq, log2_mul_two_pow hn]
    omega
  unfold UnpackedFloat.round
  simp only [htarget, decreaseExponent_eq]
  exact roundWithAccuracy_natural hn h (by omega)

theorem normalize_natural {n : Nat} (h : n < 2 ^ 53) (k : Nat) :
    UnpackedFloat.normalize .binary64 (n * 2 ^ k : Nat) (-k) .positive = natural n := by
  rcases Nat.eq_zero_or_pos n with hn | hn
  · subst hn
    rw [Nat.zero_mul]
    rfl
  · have hpos : 0 < n * 2 ^ k := Nat.mul_pos hn (Nat.two_pow_pos k)
    unfold UnpackedFloat.normalize
    rw [show compare ((n * 2 ^ k : Nat) : Int) 0 = .gt from Int.compare_eq_gt.mpr (by omega)]
    exact round_natural hn h

theorem natural_of_pos {n : Nat} (hn : 0 < n) (h : n < 2 ^ 53) :
    natural n = .finite .positive (n * 2 ^ (52 - n.log2)) (-(52 - n.log2 : Nat))
      (Nat.mul_pos hn (Nat.two_pow_pos _)) := by
  have hlog := log2_le hn h
  unfold natural
  rw [dif_pos hn]
  exact finite_congr rfl (by omega) _ _

theorem add_natural {a b : Nat} (h : a + b < 2 ^ 53) :
    UnpackedFloat.add .binary64 (natural a) (natural b) = natural (a + b) := by
  rcases Nat.eq_zero_or_pos a with ha | ha
  · subst ha
    rw [Nat.zero_add]
    rcases Nat.eq_zero_or_pos b with hb | hb
    · subst hb
      rfl
    · rw [natural_of_pos hb (by omega)]
      rfl
  rcases Nat.eq_zero_or_pos b with hb | hb
  · subst hb
    rw [Nat.add_zero, natural_of_pos ha h]
    rfl
  -- both are brought to the smaller exponent, that of `k` more bits
  obtain ⟨k, hk⟩ : ∃ k, k = max (52 - a.log2) (52 - b.log2) := ⟨_, rfl⟩
  have hmin : min (-(52 - a.log2 : Nat) : Int) (-(52 - b.log2 : Nat)) = -k := by omega
  have hka : max (52 - a.log2) k = k := by omega
  have hkb : max (52 - b.log2) k = k := by omega
  rw [natural_of_pos ha (by omega), natural_of_pos hb (by omega)]
  change UnpackedFloat.normalize .binary64
    (((decreaseExponent _ _ (min _ _)).1 : Int) + ((decreaseExponent _ _ (min _ _)).1 : Int))
    (min _ _) .positive = _
  rw [hmin, decreaseExponent_eq, decreaseExponent_eq, hka, hkb, ← Nat.cast_add, ← Nat.add_mul]
  exact normalize_natural h k

/-! ## Words -/

theorem toNat_one_append (m : BitVec 52) : (1#1 ++ m).toNat = 2 ^ 52 + m.toNat := by
  rw [BitVec.toNat_append, ← Nat.shiftLeft_add_eq_or_of_lt m.isLt]
  rfl

theorem unpackSign_word (s : Sign) (e : BitVec 11) (m : BitVec 52) :
    Sign.ofBitVec (unpackSign (packComponents .binary64 s e m)) = s := by
  have hunpack : unpackSign (packComponents .binary64 s e m) =
      BitVec.extractLsb' 63 1 (s.toBitVec ++ e ++ m) := rfl
  rw [hunpack, BitVec.extractLsb'_append_eq_of_le (by omega),
    BitVec.extractLsb'_append_eq_of_le (by omega)]
  cases s <;> rfl

/-- A number with all its 53 bits is packed without the first of them. -/
theorem pack_normal (s : Sign) {m : Nat} {e : Int} (hm : 0 < m) (hlog : m.log2 = 52)
    (hlo : -1074 ≤ e) (hhi : e ≤ 971) :
    UnpackedFloat.pack .binary64 (.finite s m e hm) =
      packComponents .binary64 s (BitVec.ofNat 11 (e + 1075).toNat) (BitVec.ofNat 52 m) := by
  have he : (e + Format.binary64.exponentBias +
      Format.binary64.mantissaBitsWithoutImplicit).toNat = (e + 1075).toNat := by
    change (e + (1023 : Nat) + (52 : Nat)).toNat = (e + 1075).toNat
    omega
  unfold UnpackedFloat.pack
  dsimp only
  rw [he, if_neg (by omega), if_pos (by rw [hlog]; rfl)]

/-- A number with fewer bits is packed as it is. -/
theorem pack_subnormal (s : Sign) {m : Nat} (hm : 0 < m) (hlt : m < 2 ^ 52) :
    UnpackedFloat.pack .binary64 (.finite s m (-1074) hm) =
      packComponents .binary64 s 0#11 (BitVec.ofNat 52 m) := by
  have hlog : m.log2 < 52 := (Nat.log2_lt hm.ne').mpr hlt
  have hbits : ¬ m.log2 + 1 = Format.binary64.mantissaBits := by
    rw [show Format.binary64.mantissaBits = 53 from rfl]
    omega
  unfold UnpackedFloat.pack
  exact (if_neg (by decide)).trans (if_neg hbits)

/-- A positive number with all its 53 bits is kept in a word, unless it is too large or small. -/
theorem unpack_pack {m : Nat} {e : Int} (hm : 0 < m) (hlog : m.log2 = 52) (hlo : -1074 ≤ e)
    (hhi : e ≤ 971) :
    UnpackedFloat.unpack .binary64 (UnpackedFloat.pack .binary64 (.finite .positive m e hm)) =
      .finite .positive m e hm := by
  obtain ⟨b, hb⟩ : ∃ b : Nat, (b : Int) = e + 1075 := ⟨(e + 1075).toNat, by omega⟩
  have hbits := (Nat.log2_eq_iff hm.ne').mp hlog
  have hbn : (BitVec.ofNat 11 b).toNat = b := by
    rw [BitVec.toNat_ofNat, Nat.mod_eq_of_lt (by omega)]
  have hmn : (1#1 ++ BitVec.ofNat 52 m).toNat = m := by
    rw [toNat_one_append, BitVec.toNat_ofNat]
    omega
  have hne : ∀ w : BitVec 11, w.toNat ≠ b → BitVec.ofNat 11 b ≠ w := by
    intro w hw h
    apply hw
    rw [← h, hbn]
  -- the exponent is neither that of the smallest numbers nor that of infinity
  have hempty : BitVec.ofNat 11 b ≠ 0#_ := hne _ (show 0 ≠ b by omega)
  have hfull : BitVec.ofNat 11 b ≠ -1#_ := hne _ (show 2047 ≠ b by omega)
  have hexp : (b : Int) - ((1023 : Nat) + (52 : Nat)) = e := by omega
  rw [pack_normal .positive hm hlog hlo hhi, show (e + 1075).toNat = b by omega]
  unfold UnpackedFloat.unpack
  dsimp only
  rw [unpackSign_word]
  refine (if_neg ?_).trans ((if_neg ?_).trans (finite_congr ?_ ?_ _ _))
  · rwa [unpackExponent_packComponents]
  · rwa [unpackExponent_packComponents]
  · rw [unpackMantissa_packComponents, hmn]
  · rw [unpackExponent_packComponents, hbn]
    exact hexp

theorem unpack_pack_natural {n : Nat} (h : n < 2 ^ 53) :
    (Float.Model.pack (natural n)).unpack = natural n := by
  rcases Nat.eq_zero_or_pos n with hn | hn
  · subst hn
    rfl
  · have hlog := log2_le hn h
    rw [natural_of_pos hn h]
    apply unpack_pack
    · rw [log2_mul_two_pow hn]
      omega
    · omega
    · omega

/-! ## Doubles -/

theorem mul_one_natural {n : Nat} (h : n < 2 ^ 53) :
    UnpackedFloat.mul .binary64 (natural n) (.finite .positive (2 ^ 52) (-52) (by decide)) =
      natural n := by
  rcases Nat.eq_zero_or_pos n with hn | hn
  · subst hn
    rfl
  · have hlog := log2_le hn h
    have hexp : (-(52 - n.log2 : Nat) : Int) + -52 = -(52 - n.log2 + 52 : Nat) := by omega
    have hround := roundWithAccuracy_natural (k := 52 - n.log2 + 52) hn h (by omega)
    rw [natural_of_pos hn h]
    change roundWithAccuracy .binary64 .positive (_ * _) (_ + _) .exact = _
    rw [hexp, Nat.mul_assoc, ← pow_add, ← natural_of_pos hn h]
    exact hround

theorem ofNat_eq {n : Nat} (h : n < 2 ^ 53) :
    Float.ofNat n = .ofModel (.pack (natural n)) := by
  have hword : n.toUInt64.toNat = n := Nat.mod_eq_of_lt (by omega)
  have hnormal := normalize_natural h 0
  rw [pow_zero, Nat.mul_one] at hnormal
  have hfloat : n.toUInt64.toFloat = .ofModel (.pack (natural n)) := by
    unfold UInt64.toFloat Float.Model.ofUInt64 UnpackedFloat.ofUInt64 UnpackedFloat.ofNat
      UnpackedFloat.ofInt
    rw [hword]
    exact congrArg (fun u => Float.ofModel (.pack u)) hnormal
  have hone : (Float.ofBits 0x3FF0000000000000).toModel.unpack =
      .finite .positive (2 ^ 52) (-52) (by decide) := rfl
  -- the literal is the word of the number times the first power of ten
  change Float.ofScientific n false 0 = _
  unfold Float.ofScientific
  rw [dif_pos ⟨h, by decide⟩]
  change n.toUInt64.toFloat * Float.ofBits 0x3FF0000000000000 = _
  rw [hfloat]
  change Float.ofModel (.pack (UnpackedFloat.mul .binary64 (Float.Model.pack (natural n)).unpack
    (Float.ofBits 0x3FF0000000000000).toModel.unpack)) = _
  rw [unpack_pack_natural h, hone, mul_one_natural h]

theorem ofNat_add {a b : Nat} (h : a + b < 2 ^ 53) :
    Float.ofNat a + Float.ofNat b = Float.ofNat (a + b) := by
  rw [ofNat_eq h, ofNat_eq (show a < 2 ^ 53 by omega), ofNat_eq (show b < 2 ^ 53 by omega)]
  change Float.ofModel (.pack
    (UnpackedFloat.add .binary64 (Float.Model.unpack _) (Float.Model.unpack _))) = _
  rw [unpack_pack_natural (by omega), unpack_pack_natural (by omega), add_natural h]

theorem foldl_add_ofNat {l : List Nat} (h : l.sum < 2 ^ 53) :
    (l.map Float.ofNat).foldl (· + ·) 0 = Float.ofNat l.sum := by
  induction l using List.reverseRecOn with
  | nil => rfl
  | append_singleton l n ih =>
    rw [List.sum_append, List.sum_singleton] at h ⊢
    rw [List.map_append, List.foldl_append, ih (by omega)]
    exact ofNat_add h

end FlatQuery.Decimal
