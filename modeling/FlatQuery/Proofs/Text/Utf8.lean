import FlatQuery.Text.Utf8

/-!
# Bytes of a text

Decoding is the inverse of encoding (`decode?_eq_some_iff`), and a byte below
128 is a character by itself. Such bytes can be taken off at both ends of a
text: what is left is a text exactly if the whole was one
(`decode?_ascii_append`, `decode?_append_ascii`).
-/

namespace FlatQuery.Text

theorem encode_eq (s : String) : encode s = s.toList.flatMap String.utf8EncodeChar := by
  rw [encode, ← String.utf8Encode_toList, List.utf8Encode, List.toList_data_toByteArray]

theorem decode?_eq_some_iff {bytes : List UInt8} {s : String} :
    decode? bytes = some s ↔ bytes = encode s := by
  constructor
  · intro h
    unfold decode? String.fromUTF8? at h
    split at h
    · cases h
      rfl
    · cases h
  · intro h
    rw [h, decode?_encode]

/-! ## Characters of one byte -/

/-- The character of a byte below 128. -/
def asciiChar (b : UInt8) : Char := Char.ofNat b.toNat

theorem utf8EncodeChar_asciiChar {b : UInt8} (h : b < 128) :
    String.utf8EncodeChar (asciiChar b) = [b] := by
  have key : ∀ n < 128, String.utf8EncodeChar (Char.ofNat n) = [UInt8.ofNat n] := by decide
  have hb := key b.toNat (UInt8.lt_iff_toNat_lt.mp h)
  rwa [UInt8.ofNat_toNat] at hb

theorem utf8EncodeChar_cases (c : Char) :
    (∃ b, String.utf8EncodeChar c = [b] ∧ c = asciiChar b) ∨
      String.utf8EncodeChar c ≠ [] ∧ ∀ b ∈ String.utf8EncodeChar c, 128 ≤ b := by
  fun_cases String.utf8EncodeChar c with
  | case1 v h =>
    left
    have hv : c.toNat % 256 = c.toNat := Nat.mod_eq_of_lt (Nat.lt_of_le_of_lt h (by decide))
    exact ⟨_, rfl, by simp [asciiChar, v, hv]⟩
  | case2 v _ h => right; simp [UInt8.le_iff_toNat_le]; omega
  | case3 v _ _ h => right; simp [UInt8.le_iff_toNat_le]; omega
  | case4 v _ _ h => right; simp [UInt8.le_iff_toNat_le]; omega

variable {b : UInt8} {ascii : List UInt8}

theorem decode?_cons_ascii (hb : b < 128) (bytes : List UInt8) :
    decode? (b :: bytes) = (decode? bytes).map (String.ofList [asciiChar b] ++ ·) := by
  apply Option.ext
  intro s
  simp only [Option.map_eq_some_iff, decode?_eq_some_iff, encode_eq]
  constructor
  · intro h
    cases hs : s.toList with
    | nil => simp [hs] at h
    | cons c cs =>
      rw [hs, List.flatMap_cons] at h
      obtain ⟨a, ha, hc⟩ | ⟨hne, hge⟩ := utf8EncodeChar_cases c
      · rw [ha] at h
        obtain ⟨rfl, hbytes⟩ := List.cons.inj h
        exact ⟨String.ofList cs, by simpa using hbytes, by simp [← String.toList_inj, ← hc, hs]⟩
      · -- the first byte of a longer character is not below 128
        obtain ⟨a, as, ha⟩ := List.exists_cons_of_ne_nil hne
        rw [ha] at h hge
        obtain ⟨rfl, -⟩ := List.cons.inj h
        exact absurd hb (UInt8.not_lt.mpr (hge b (by simp)))
  · intro h
    obtain ⟨t, rfl, rfl⟩ := h
    simp [utf8EncodeChar_asciiChar hb]

theorem decode?_concat_ascii (hb : b < 128) (bytes : List UInt8) :
    decode? (bytes ++ [b]) = (decode? bytes).map (· ++ String.ofList [asciiChar b]) := by
  apply Option.ext
  intro s
  simp only [Option.map_eq_some_iff, decode?_eq_some_iff, encode_eq]
  constructor
  · intro h
    obtain hs | ⟨cs, c, hs⟩ := List.eq_nil_or_concat s.toList
    · simp [hs] at h
    · rw [hs, List.concat_eq_append, List.flatMap_append, List.flatMap_singleton] at h
      obtain ⟨a, ha, hc⟩ | ⟨hne, hge⟩ := utf8EncodeChar_cases c
      · rw [ha] at h
        obtain ⟨hbytes, hab⟩ := List.append_inj' h rfl
        obtain rfl := List.singleton_inj.mp hab
        exact ⟨String.ofList cs, by simpa using hbytes, by simp [← String.toList_inj, ← hc, hs]⟩
      · -- nor is its last byte
        obtain ⟨as, a, ha⟩ := (List.eq_nil_or_concat _).resolve_left hne
        rw [ha, List.concat_eq_append, ← List.append_assoc] at h
        obtain ⟨-, hab⟩ := List.append_inj' h rfl
        obtain rfl := List.singleton_inj.mp hab
        exact absurd hb (UInt8.not_lt.mpr (hge b (by simp [ha])))
  · intro h
    obtain ⟨t, rfl, rfl⟩ := h
    simp [utf8EncodeChar_asciiChar hb]

theorem ofList_asciiChars_cons (b : UInt8) (ascii : List UInt8) :
    String.ofList ((b :: ascii).map asciiChar) =
      String.ofList [asciiChar b] ++ String.ofList (ascii.map asciiChar) := by
  rw [← String.ofList_append]; rfl

theorem decode?_ascii_append (ha : ∀ b ∈ ascii, b < 128) (bytes : List UInt8) :
    decode? (ascii ++ bytes) = (decode? bytes).map (String.ofList (ascii.map asciiChar) ++ ·) := by
  induction ascii with
  | nil => simp
  | cons b ascii ih =>
    rw [List.cons_append, decode?_cons_ascii (ha b (by simp)), ih fun c hc => ha c (by simp [hc]),
      Option.map_map, ofList_asciiChars_cons]
    simp only [Function.comp_def, String.append_assoc]

theorem decode?_append_ascii (ha : ∀ b ∈ ascii, b < 128) (bytes : List UInt8) :
    decode? (bytes ++ ascii) = (decode? bytes).map (· ++ String.ofList (ascii.map asciiChar)) := by
  induction ascii generalizing bytes with
  | nil => simp
  | cons b ascii ih =>
    rw [List.append_cons, ih fun c hc => ha c (by simp [hc]), decode?_concat_ascii (ha b (by simp)),
      Option.map_map, ofList_asciiChars_cons]
    simp only [Function.comp_def, String.append_assoc]

end FlatQuery.Text
