import FlatQuery.Proofs.Fault
import FlatQuery.Proofs.Json.Grammar
import Mathlib.Data.List.DropRight
import Mathlib.Tactic.SplitIfs

/-!
# Values that are read over

What a reader took off the front of a text stands in the grammar: a string
(`string_sound`), a number (`numeral_sound`) and a value of any form
(`skip_sound`). Values in brackets are read with the open brackets on a stack, so
the lemma about them says where the innermost bracket closes and that reading
goes on after it (`exists_items`).
-/

namespace FlatQuery.Json

variable {s rest : List Char}

theorem exists_skipBlanks (s : List Char) : ∃ g, Blanks g ∧ s = g ++ skipBlanks s := by
  refine ⟨s.takeWhile isBlank, fun c hc => ?_, List.takeWhile_append_dropWhile.symm⟩
  have hblank := List.mem_takeWhile_imp hc
  simpa [isBlank, or_assoc] using hblank

theorem Blanks.append {g g' : List Char} (hg : Blanks g) (hg' : Blanks g') : Blanks (g ++ g') :=
  fun c hc => (List.mem_append.mp hc).elim (hg c) (hg' c)

theorem blanks_nil : Blanks [] := List.forall_mem_nil _

theorem exists_of_skipBlanks (h : skipBlanks s = rest) : ∃ g, Blanks g ∧ s = g ++ rest :=
  h ▸ exists_skipBlanks s

/-! ## Strings -/

theorem hexDigit_of_hexDigit? {c : Char} {n : Nat} (h : hexDigit? c = some n) : HexDigit c n := by
  have hascii : ∀ k < 128, ∀ n ∈ hexDigit? (Char.ofNat k), n < 16 ∧
      (Char.ofNat k = Nat.digitChar n ∨ Char.ofNat k = (Nat.digitChar n).toUpper) := by
    decide
  have hc : c.toNat < 128 := by
    unfold hexDigit? at h
    split_ifs at h with hdigit hlower hupper
    · simp only [Char.isDigit, Bool.and_eq_true, decide_eq_true_eq,
        UInt32.le_iff_toNat_le] at hdigit
      exact Nat.lt_of_le_of_lt hdigit.2 (by decide)
    · exact Nat.lt_of_le_of_lt (UInt32.le_iff_toNat_le.mp hlower.2) (by decide)
    · exact Nat.lt_of_le_of_lt (UInt32.le_iff_toNat_le.mp hupper.2) (by decide)
  have hdigit := hascii c.toNat hc n
  rw [Char.ofNat_toNat] at hdigit
  exact hdigit h

theorem exists_of_mapM_cons {l : List Char} {n : Nat} {ns : List Nat}
    (h : l.mapM hexDigit? = some (n :: ns)) :
    ∃ c t, l = c :: t ∧ HexDigit c n ∧ t.mapM hexDigit? = some ns := by
  cases l with
  | nil => cases h
  | cons c t =>
    rw [List.mapM_cons] at h
    obtain ⟨i, hi, h⟩ := Option.bind_eq_some_iff.mp h
    obtain ⟨is, his, h⟩ := Option.bind_eq_some_iff.mp h
    obtain ⟨rfl, rfl⟩ := List.cons.inj (Option.some.inj h)
    exact ⟨c, t, rfl, hexDigit_of_hexDigit? hi, his⟩

theorem exists_of_unit {n : Nat} (h : unit s = .ok (n, rest)) :
    ∃ u, s = u ++ rest ∧ SpelledUnit u n := by
  unfold unit at h
  split at h
  · cases h
  split at h
  · next i j k l hdigits =>
    cases h
    refine ⟨s.take 4, (List.take_append_drop 4 s).symm, ?_⟩
    obtain ⟨a, t, hu, ha, hdigits⟩ := exists_of_mapM_cons hdigits
    obtain ⟨b, t, rfl, hb, hdigits⟩ := exists_of_mapM_cons hdigits
    obtain ⟨c, t, rfl, hc, hdigits⟩ := exists_of_mapM_cons hdigits
    obtain ⟨d, t, rfl, hd, hdigits⟩ := exists_of_mapM_cons hdigits
    have hlength : (s.take 4).length ≤ 4 := List.length_take_le 4 s
    obtain rfl : t = [] := by
      simp only [hu, List.length_cons] at hlength
      exact List.eq_nil_of_length_eq_zero (by omega)
    rw [hu]
    exact .digits ha hb hc hd
  · cases h

theorem exists_of_trailingUnit {n : Nat} (h : trailingUnit s = .ok (n, rest)) :
    ∃ u, s = '\\' :: 'u' :: (u ++ rest) ∧ SpelledUnit u n ∧ 0xDC00 ≤ n ∧ n < 0xE000 := by
  unfold trailingUnit at h
  split at h
  · cases h
  · cases h
  · obtain ⟨⟨m, after⟩, hunit, h⟩ := bind_eq_ok_iff.mp h
    dsimp only at h
    split at h
    · next htrailing =>
      cases h
      obtain ⟨u, rfl, hu⟩ := exists_of_unit hunit
      exact ⟨u, rfl, hu, by simpa [isTrailing] using htrailing⟩
    · cases h
  · cases h
  · cases h

/-- What an escape took stands for its character in front of any spelling. -/
theorem exists_of_codePoint {kept : Bool} {c : Char} (h : codePoint kept s = .ok (c, rest)) :
    ∃ t, s = t ++ rest ∧ ∀ {u cs : List Char}, Spelling kept u cs →
      Spelling kept ('\\' :: 'u' :: (t ++ u)) (c :: cs) := by
  unfold codePoint at h
  obtain ⟨⟨n, after⟩, hunit, h⟩ := bind_eq_ok_iff.mp h
  obtain ⟨u, hs, hu⟩ := exists_of_unit hunit
  dsimp only at h
  split_ifs at h with htrailing hleading
  · cases h
  · obtain ⟨⟨m, last⟩, htrailing, h⟩ := bind_eq_ok_iff.mp h
    obtain ⟨rfl, rfl⟩ := Prod.mk.inj (Except.ok.inj h)
    obtain ⟨v, rfl, hv, hm⟩ := exists_of_trailingUnit htrailing
    have hn : 0xD800 ≤ n ∧ n < 0xDC00 := by
      simpa [isLeading] using (Bool.and_eq_true_iff.mp hleading).2
    refine ⟨u ++ '\\' :: 'u' :: v, by simp [hs], fun hrest => ?_⟩
    rw [List.append_assoc]
    exact .pair hu hv hn hm hrest
  · cases h
    refine ⟨u, hs, fun hrest => .unit hu (fun hkept => ?_) hrest⟩
    simp only [hkept, isTrailing, isLeading, Bool.true_and, Bool.and_eq_true,
      decide_eq_true_eq] at htrailing hleading
    omega

theorem mem_letters {c d : Char} (h : shortEscape? d = some c) : (d, c) ∈ letters := by
  unfold shortEscape? at h
  split at h <;> cases h <;> decide

theorem exists_of_unescape {kept : Bool} {c : Char} (h : unescape kept s = .ok (c, rest)) :
    ∃ t, s = t ++ rest ∧ ∀ {u cs : List Char}, Spelling kept u cs →
      Spelling kept ('\\' :: (t ++ u)) (c :: cs) := by
  unfold unescape at h
  split at h
  · cases h
  · obtain ⟨t, rfl, ht⟩ := exists_of_codePoint h
    exact ⟨'u' :: t, rfl, ht⟩
  · next d s _ =>
    split at h
    · next hletter =>
      cases h
      exact ⟨[d], rfl, .letter (mem_letters hletter)⟩
    · cases h

theorem string_sound {kept : Bool} {cs : List Char} (h : string kept s = .ok (cs, rest)) :
    ∃ t, s = t ++ '"' :: rest ∧ Spelling kept t cs := by
  fun_induction string kept s generalizing cs with
  | case1 => cases h
  | case2 s =>
    cases h
    exact ⟨[], rfl, .nil⟩
  | case3 => cases h
  | case4 s c after hescape _ ih =>
    obtain ⟨⟨cs, last⟩, hlast, h⟩ := map_eq_ok_iff.mp h
    cases h
    obtain ⟨t, rfl, ht⟩ := exists_of_unescape hescape
    obtain ⟨u, rfl, hu⟩ := ih hlast
    exact ⟨'\\' :: (t ++ u), by simp, ht hu⟩
  | case5 => cases h
  | case6 c s hquote hbackslash hcontrol ih =>
    obtain ⟨⟨cs, last⟩, hlast, h⟩ := map_eq_ok_iff.mp h
    cases h
    obtain ⟨t, rfl, ht⟩ := ih hlast
    exact ⟨c :: t, rfl, .itself hquote hbackslash (Nat.not_lt.mp hcontrol) ht⟩

/-! ## Words and numbers -/

theorem eq_of_expectWord {word : List Char} (h : expectWord word s = .ok rest) :
    s = word ++ rest := by
  fun_induction expectWord word s with
  | case1 => rw [Except.ok.inj h]; rfl
  | case2 => cases h
  | case3 c word s ih => rw [ih h]; rfl
  | case4 => cases h

section
variable {atEnd : Fault}

theorem digits_sound {run : List Char} (h : digits atEnd s = .ok (run, rest)) :
    s = run ++ rest ∧ Digits run := by
  unfold digits at h
  split at h
  · cases h
  · cases h
  · next hrun _ =>
    cases h
    exact ⟨List.takeWhile_append_dropWhile.symm, hrun, fun c => List.mem_takeWhile_imp⟩

theorem wholePart_sound {run : List Char} (h : wholePart atEnd s = .ok (run, rest)) :
    s = run ++ rest ∧ Digits run ∧ (run.head? = some '0' → run = ['0']) := by
  unfold wholePart at h
  obtain ⟨⟨run', after⟩, hdigits, h⟩ := bind_eq_ok_iff.mp h
  obtain ⟨rfl, hrun⟩ := digits_sound hdigits
  dsimp only at h
  split at h
  · cases h
  · next hzero =>
    cases h
    refine ⟨rfl, hrun, fun hhead => ?_⟩
    match run, hhead with
    | [c], hhead => rw [Option.some.inj hhead]
    | c :: d :: run, hhead =>
      obtain rfl := Option.some.inj hhead
      exact absurd rfl (hzero d run)

theorem fractionPart_sound {run : List Char} (h : fractionPart atEnd s = .ok (run, rest)) :
    ∃ t, s = t ++ rest ∧ FractionPart t := by
  unfold fractionPart at h
  split at h
  · obtain ⟨rfl, hrun⟩ := digits_sound h
    exact ⟨'.' :: run, rfl, .point hrun⟩
  · cases h
    exact ⟨[], rfl, .none⟩

theorem exists_of_readSign (s : List Char) :
    ∃ t, (t = [] ∨ t = ['+'] ∨ t = ['-']) ∧ s = t ++ (Decimal.readSign s).2 := by
  unfold Decimal.readSign
  split
  · exact ⟨['-'], by simp, rfl⟩
  · exact ⟨['+'], by simp, rfl⟩
  · exact ⟨[], by simp, rfl⟩

theorem exponentPart_sound {e : Option Exponent} (h : exponentPart atEnd s = .ok (e, rest)) :
    ∃ t, s = t ++ rest ∧ ExponentPart t := by
  unfold exponentPart at h
  split at h
  · cases h
    exact ⟨[], rfl, .none⟩
  · next c s =>
    split at h
    · next hletter =>
      obtain ⟨sign, hsign, hs⟩ := exists_of_readSign s
      generalize Decimal.readSign s = signed at h hs
      obtain ⟨⟨run, after⟩, hdigits, h⟩ := bind_eq_ok_iff.mp h
      cases h
      obtain ⟨hrest, hrun⟩ := digits_sound hdigits
      refine ⟨c :: (sign ++ run), ?_, .letter hletter hsign hrun⟩
      rw [hs, hrest, List.cons_append, List.append_assoc]
    · cases h
      exact ⟨[], rfl, .none⟩

theorem numeral_sound {n : Numeral} (h : numeral atEnd s = .ok (n, rest)) :
    ∃ t, s = t ++ rest ∧ Number t := by
  unfold numeral at h
  split at h
  next negative body hbody =>
  obtain ⟨sign, hsign, rfl⟩ : ∃ sign, (sign = [] ∨ sign = ['-']) ∧ s = sign ++ body := by
    split at hbody
    · obtain ⟨-, rfl⟩ := Prod.mk.inj hbody
      exact ⟨['-'], .inr rfl, rfl⟩
    · obtain ⟨-, rfl⟩ := Prod.mk.inj hbody
      exact ⟨[], .inl rfl, rfl⟩
  obtain ⟨⟨whole, afterWhole⟩, hwhole, h⟩ := bind_eq_ok_iff.mp h
  obtain ⟨⟨fraction, afterFraction⟩, hfraction, h⟩ := bind_eq_ok_iff.mp h
  obtain ⟨⟨exponent, afterExponent⟩, hexponent, h⟩ := bind_eq_ok_iff.mp h
  cases h
  obtain ⟨rfl, hdigits, hzero⟩ := wholePart_sound hwhole
  obtain ⟨f, rfl, hf⟩ := fractionPart_sound hfraction
  obtain ⟨e, rfl, he⟩ := exponentPart_sound hexponent
  exact ⟨sign ++ (whole ++ (f ++ e)), by simp, .parts hsign hdigits hzero hf he⟩

end

/-! ## Values -/

theorem exists_of_colon (h : colon s = .ok rest) : ∃ g, Blanks g ∧ s = g ++ ':' :: rest := by
  unfold colon at h
  split at h
  · next hs =>
    cases h
    exact exists_of_skipBlanks hs
  · cases h
  · cases h

theorem exists_of_skipKey (h : skipKey s = .ok rest) :
    ∃ g k cs g', Blanks g ∧ Spelling false k cs ∧ Blanks g' ∧
      s = g ++ '"' :: (k ++ '"' :: (g' ++ ':' :: rest)) := by
  unfold skipKey at h
  split at h
  · next after hs =>
    obtain ⟨⟨cs, last⟩, hstring, hcolon⟩ := bind_eq_ok_iff.mp h
    obtain ⟨g, hg, hs⟩ := exists_of_skipBlanks hs
    obtain ⟨k, hafter, hk⟩ := string_sound hstring
    obtain ⟨g', hg', hlast⟩ := exists_of_colon hcolon
    exact ⟨g, k, cs, g', hg, hk, hg', by rw [hs, hafter, hlast]⟩
  · cases h
  · cases h

theorem eq_of_map_expectWord {α : Type} {word : List Char} {a b : α}
    (h : ((expectWord word s).map fun r => (a, r)) = .ok (b, rest)) :
    a = b ∧ s = word ++ rest := by
  obtain ⟨after, hafter, h⟩ := map_eq_ok_iff.mp h
  cases h
  exact ⟨rfl, eq_of_expectWord hafter⟩

theorem value_of_skipStart (h : skipStart s = .ok (none, rest)) :
    ∃ g v, Blanks g ∧ Value v ∧ s = g ++ (v ++ rest) := by
  unfold skipStart at h
  split at h
  · cases h
  next c after hs =>
  obtain ⟨g, hg, hs⟩ := exists_of_skipBlanks hs
  suffices hv : ∃ v, Value v ∧ c :: after = v ++ rest by
    obtain ⟨v, hv, heq⟩ := hv
    exact ⟨g, v, hg, hv, by rw [hs, heq]⟩
  split_ifs at h with _ _ hn ht hf hquote hnumber
  · cases h
  · cases h
  · exact ⟨"null".toList, .word (by decide), by rw [hn, (eq_of_map_expectWord h).2]; rfl⟩
  · exact ⟨"true".toList, .word (by decide), by rw [ht, (eq_of_map_expectWord h).2]; rfl⟩
  · exact ⟨"false".toList, .word (by decide), by rw [hf, (eq_of_map_expectWord h).2]; rfl⟩
  · obtain ⟨⟨cs, last⟩, hstring, heq⟩ := map_eq_ok_iff.mp h
    cases heq
    obtain ⟨t, rfl, ht⟩ := string_sound hstring
    exact ⟨'"' :: (t ++ ['"']), .string ht, by simp [hquote]⟩
  · obtain ⟨⟨n, last⟩, hnumeral, heq⟩ := map_eq_ok_iff.mp h
    cases heq
    obtain ⟨t, ht, hnumber⟩ := numeral_sound hnumeral
    exact ⟨t, .number hnumber, ht⟩
  · cases h

theorem opening_of_skipStart {b : Bracket} (h : skipStart s = .ok (some b, rest)) :
    ∃ g, Blanks g ∧ s = g ++ b.opening :: rest := by
  unfold skipStart at h
  split at h
  · cases h
  next c after hs =>
  split_ifs at h with hsquare hcurly
  · cases h
    rw [hsquare] at hs
    exact exists_of_skipBlanks hs
  · cases h
    rw [hcurly] at hs
    exact exists_of_skipBlanks hs
  -- Whatever else begins here is no bracket.
  on_goal 6 => cases h
  all_goals
    obtain ⟨read, -, heq⟩ := map_eq_ok_iff.mp h
    cases heq

/-! ## Brackets -/

/-- Goes on after an item: with the next one, if brackets are open. -/
def resume (fuel : Nat) : List Bracket × List Char → Except Stop (List Char)
  | ([], s) => .ok s
  | (b :: outer, s) => skipItems fuel (b :: outer) s

/-- Goes on after a value. -/
def afterValue (fuel : Nat) (opened : List Bracket) (s : List Char) : Except Stop (List Char) :=
  skipClosing opened s >>= resume fuel

/-- After a value in brackets stands a comma, or the closing bracket. -/
theorem afterValue_cons {fuel : Nat} {b : Bracket} {outer : List Bracket}
    (h : afterValue fuel (b :: outer) s = .ok rest) :
    ∃ g, Blanks g ∧
      ((∃ s', s = g ++ ',' :: s' ∧ skipItems fuel (b :: outer) s' = .ok rest) ∨
        ∃ s', s = g ++ b.closing :: s' ∧ afterValue fuel outer s' = .ok rest) := by
  unfold afterValue skipClosing at h
  split at h
  · cases h
  next c after hs =>
  obtain ⟨g, hg, hs⟩ := exists_of_skipBlanks hs
  split_ifs at h with hcomma hclosing
  · exact ⟨g, hg, .inl ⟨after, by rw [hs, hcomma], h⟩⟩
  · exact ⟨g, hg, .inr ⟨after, by rw [hs, hclosing], h⟩⟩
  · cases h

/-- What stands in the innermost of some brackets, or without brackets. -/
def Entry : List Bracket → List Char → Prop
  | [], i => Value i
  | b :: _, i => Item b i

/-- What stands before a value. -/
theorem exists_lead {opened : List Bracket} {s' : List Char}
    (h : skipLead opened s = .ok s') {g : List Char} (hg : Blanks g) (hs' : s' = g ++ rest) :
    ∃ g p, Blanks g ∧ s = g ++ (p ++ rest) ∧ ∀ {v}, Value v → Entry opened (p ++ v) := by
  unfold skipLead at h
  split at h
  · obtain ⟨g₁, k, cs, g₂, hg₁, hk, hg₂, hs⟩ := exists_of_skipKey h
    refine ⟨g₁, '"' :: (k ++ '"' :: (g₂ ++ ':' :: g)), hg₁, by simp [hs, hs'], fun hv => ?_⟩
    show Item .curly _
    simpa using Item.named hk hg₂ hg hv
  · next hne =>
    cases h
    refine ⟨g, [], hg, hs', fun hv => ?_⟩
    match opened, hne with
    | [], _ => exact hv
    | .square :: _, _ => exact .plain hv
    | .curly :: outer, hne => exact absurd rfl (hne outer)

/-- A value, maybe after its name, or an opening bracket in place of the value. -/
theorem skipItems_succ {fuel : Nat} {opened : List Bracket}
    (h : skipItems (fuel + 1) opened s = .ok rest) :
    ∃ g p s', Blanks g ∧ s = g ++ (p ++ s') ∧ (∀ {v}, Value v → Entry opened (p ++ v)) ∧
      ((∃ v s'', Value v ∧ s' = v ++ s'' ∧ afterValue fuel opened s'' = .ok rest) ∨
        ∃ b g' s'', Blanks g' ∧ s' = b.opening :: (g' ++ s'') ∧
          skipItems fuel (b :: opened) s'' = .ok rest) := by
  unfold skipItems at h
  obtain ⟨⟨opened', last⟩, hitem, hresume⟩ := bind_eq_ok_iff.mp h
  have hresume : resume fuel (opened', last) = .ok rest := by
    cases opened' <;> exact hresume
  unfold skipItem at hitem
  obtain ⟨s₁, hlead, hitem⟩ := bind_eq_ok_iff.mp hitem
  obtain ⟨⟨start, s₂⟩, hstart, hitem⟩ := bind_eq_ok_iff.mp hitem
  cases start with
  | none =>
    obtain ⟨g, v, hg, hv, hs⟩ := value_of_skipStart hstart
    obtain ⟨g, p, hg, hs, hp⟩ := exists_lead hlead hg hs
    have hafter : afterValue fuel opened s₂ = .ok rest := bind_eq_ok_iff.mpr ⟨_, hitem, hresume⟩
    exact ⟨g, p, v ++ s₂, hg, hs, hp, .inl ⟨v, s₂, hv, rfl, hafter⟩⟩
  | some b =>
    obtain ⟨g, hg, hs⟩ := opening_of_skipStart hstart
    obtain ⟨g, p, hg, hs, hp⟩ := exists_lead hlead hg hs
    obtain ⟨g', hg', hs₂⟩ := exists_skipBlanks s₂
    refine ⟨g, p, b.opening :: s₂, hg, hs, hp, ?_⟩
    cases hblanks : skipBlanks s₂ with
    | nil => simp only [hblanks] at hitem; cases hitem
    | cons c after =>
      rw [hblanks] at hs₂
      simp only [hblanks] at hitem
      split_ifs at hitem with hclosing
      · have hafter : afterValue fuel opened after = .ok rest :=
          bind_eq_ok_iff.mpr ⟨_, hitem, hresume⟩
        refine .inl ⟨_, after, .empty b hg', ?_, hafter⟩
        rw [hs₂, hclosing]
        simp
      · cases hitem
        exact .inr ⟨b, g', c :: after, hg', by rw [hs₂], hresume⟩

/-- Reading from an item on comes to where the innermost bracket closes, and goes
on from there with less fuel. -/
theorem exists_items {fuel : Nat} {b : Bracket} {outer : List Bracket}
    (h : skipItems fuel (b :: outer) s = .ok rest) :
    ∃ g i t s' fuel', Blanks g ∧ Item b i ∧ Items b t ∧ s = g ++ (i ++ (t ++ b.closing :: s')) ∧
      fuel' < fuel ∧ afterValue fuel' outer s' = .ok rest := by
  induction fuel using Nat.strong_induction_on generalizing b outer s with
  | _ fuel ih =>
  cases fuel with
  | zero => cases h
  | succ fuel =>
    -- Once the item itself was read, what follows are the others or the closing bracket.
    have hothers : ∀ {g i s' fuel'}, Blanks g → Item b i → s = g ++ (i ++ s') → fuel' ≤ fuel →
        afterValue fuel' (b :: outer) s' = .ok rest →
        ∃ g i t s' fuel', Blanks g ∧ Item b i ∧ Items b t ∧
          s = g ++ (i ++ (t ++ b.closing :: s')) ∧ fuel' < fuel + 1 ∧
          afterValue fuel' outer s' = .ok rest := by
      intro g i s' fuel' hg hi hs hle hafter
      obtain ⟨g', hg', ⟨s'', hs', hskip⟩ | ⟨s'', hs', hafter⟩⟩ := afterValue_cons hafter
      · obtain ⟨g₁, i₁, t, last, fuel₁, hg₁, hi₁, ht, hs'', hlt, hafter⟩ :=
          ih fuel' (Nat.lt_succ_of_le hle) hskip
        exact ⟨g, i, _, last, fuel₁, hg, hi, .cons hg' hg₁ hi₁ ht, by simp [hs, hs', hs''],
          by omega, hafter⟩
      · exact ⟨g, i, g', s'', fuel', hg, hi, .nil hg', by rw [hs, hs'], by omega, hafter⟩
    obtain ⟨g, p, s', hg, hs, hp, ⟨v, s'', hv, hs', hafter⟩ | ⟨b', g', s'', hg', hs', hskip⟩⟩ :=
      skipItems_succ h
    · exact hothers hg (hp hv) (by simp [hs, hs']) le_rfl hafter
    · obtain ⟨g₁, i, t, last, fuel', hg₁, hi, ht, hs'', hlt, hafter⟩ :=
        ih fuel (Nat.lt_succ_self fuel) hskip
      have hv : Value (b'.opening :: ((g' ++ g₁) ++ (i ++ (t ++ [b'.closing])))) :=
        .items b' (hg'.append hg₁) hi ht
      exact hothers hg (hp hv) (by simp [hs, hs', hs'']) hlt.le hafter

/-- What is skipped is a value, after blanks. -/
theorem skip_sound (h : skip s = .ok rest) : ∃ g v, Blanks g ∧ Value v ∧ s = g ++ (v ++ rest) := by
  obtain ⟨g, p, s', hg, hs, hp, ⟨v, s'', hv, hs', hafter⟩ | ⟨b, g', s'', hg', hs', hskip⟩⟩ :=
    skipItems_succ h
  · cases hafter
    exact ⟨g, p ++ v, hg, hp hv, by simp [hs, hs']⟩
  · obtain ⟨g₁, i, t, last, fuel', hg₁, hi, ht, hs'', -, hafter⟩ := exists_items hskip
    cases hafter
    exact ⟨g, _, hg, hp (.items b (hg'.append hg₁) hi ht), by simp [hs, hs', hs'']⟩

/-! ## Texts -/

theorem exists_of_key {name : String} (h : key s = .ok (name, rest)) :
    ∃ k, Quoted name k ∧ s = k ++ rest := by
  unfold key at h
  split at h
  · obtain ⟨⟨cs, last⟩, hstring, heq⟩ := map_eq_ok_iff.mp h
    cases heq
    obtain ⟨t, rfl, ht⟩ := string_sound hstring
    exact ⟨'"' :: (t ++ ['"']), ⟨t, rfl, by rwa [String.toList_ofList]⟩, by simp⟩
  · cases h

theorem Numeral.found?_ne_string {n : Numeral} {v : String} : n.found? ≠ some (.string v) := by
  unfold Numeral.found?
  extract_lets
  split_ifs
  · nofun
  · simp [Option.map_eq_some_iff]

theorem exists_of_found {v : String} (h : found s = .ok (.string v, rest)) :
    ∃ w, Quoted v w ∧ s = w ++ rest := by
  unfold found at h
  split at h
  · cases h
  next c after =>
  split_ifs at h with _ _ _ _ _ hquote
  · cases h
  · cases h
  · cases (eq_of_map_expectWord h).1
  · cases (eq_of_map_expectWord h).1
  · cases (eq_of_map_expectWord h).1
  · obtain ⟨⟨cs, last⟩, hstring, heq⟩ := map_eq_ok_iff.mp h
    cases heq
    obtain ⟨t, rfl, ht⟩ := string_sound hstring
    exact ⟨'"' :: (t ++ ['"']), ⟨t, rfl, by rwa [String.toList_ofList]⟩, by simp [hquote]⟩
  · unfold number at h
    obtain ⟨⟨n, last⟩, -, hfound⟩ := bind_eq_ok_iff.mp h
    dsimp only at hfound
    split at hfound
    · next hn =>
      cases hfound
      exact absurd hn Numeral.found?_ne_string
    · cases hfound
  · cases h

theorem text_sound {wanted v : String} (h : text wanted s = .ok (v, rest)) :
    ∃ g w, Blanks g ∧ Quoted v w ∧ s = g ++ (w ++ rest) := by
  unfold text at h
  obtain ⟨⟨f, last⟩, hfound, h⟩ := bind_eq_ok_iff.mp h
  split at h
  · next heq =>
    cases heq
    cases h
    obtain ⟨g, hg, hs⟩ := exists_skipBlanks s
    obtain ⟨w, hw, heq⟩ := exists_of_found hfound
    exact ⟨g, w, hg, hw, heq ▸ hs⟩
  · cases h

/-- A value is a text or is none. -/
theorem exists_datum {w : List Char} (h : Value w) : ∃ d, Datum d w := by
  by_cases hw : ∃ v, Quoted v w
  · obtain ⟨v, hv⟩ := hw
    exact ⟨some v, .text hv⟩
  · exact ⟨none, .other h (not_exists.mp hw)⟩

/-! ## Lists -/

section
variable {b : Bracket} {isFirst : Bool}

theorem exists_of_nextItem_false (h : nextItem b isFirst s = .ok (false, rest)) :
    ∃ g, Blanks g ∧ s = g ++ b.closing :: rest := by
  unfold nextItem at h
  split at h
  · cases h
  next c after hs =>
  split_ifs at h with hclosing
  · cases h
    exact exists_of_skipBlanks (hclosing ▸ hs)
  · cases h
  · split at h
    · cases h
    · split_ifs at h <;> cases h
  · cases h

/-- What was read over goes before an item and all that follow it. -/
theorem exists_of_nextItem_true {α : Type} {P : α → List Char → Prop}
    (h : nextItem b isFirst s = .ok (true, rest)) :
    ∃ g, s = g ++ rest ∧ ∀ {a as g' i t}, Blanks g' → P a i → Listed P false as t →
      Listed P isFirst (a :: as) (g ++ (g' ++ (i ++ t))) := by
  unfold nextItem at h
  split at h
  · cases h
  next c after hs =>
  obtain ⟨g, hg, hs⟩ := exists_of_skipBlanks hs
  split_ifs at h with _ hfirst hcomma
  · cases h
  · cases h
    refine ⟨g, hs, fun hg' hi ht => ?_⟩
    obtain rfl : isFirst = true := hfirst
    simpa using Listed.first (hg.append hg') hi ht
  · split at h
    · cases h
    next d last hafter =>
    obtain ⟨g', hg', hafter⟩ := exists_of_skipBlanks hafter
    split_ifs at h
    · cases h
    · cases h
      refine ⟨g ++ ',' :: g', by simp [hs, hcomma, hafter], fun hg'' hi ht => ?_⟩
      obtain rfl : isFirst = false := Bool.eq_false_iff.mpr hfirst
      simpa using Listed.next hg (hg'.append hg'') hi ht
  · cases h

end

end FlatQuery.Json
