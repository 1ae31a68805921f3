import FlatQuery.Proofs.Query.Conditions
import FlatQuery.Proofs.Stage.Group

/-!
# Written calls

A call as it may be written is a name in any letter case with the argument in
parentheses, and blanks around the call and around the argument
(`WrittenCall`). An entry is a call exactly if it is written so
(`read?_eq_some_iff`), and it is written so in one way only
(`WrittenCall.text_injective`), since no word character is a blank or a
parenthesis. An entry that is no call is a plain field.
-/

namespace FlatQuery

open Text

/-! ## Characters -/

theorem isWordChar_toUpper (c : Char) : isWordChar c.toUpper = isWordChar c :=
  apply_toUpper (by decide) c

theorem isBlank_of_isWordChar {c : Char} (h : isWordChar c = true) : isBlank c = false :=
  isBlank_of_class (by decide +kernel) h

theorem AggregateCall.isBlank_of_isArgumentChar {c : Char} (h : isArgumentChar c = true) :
    isBlank c = false := by
  rw [isArgumentChar, Bool.or_eq_true, beq_iff_eq] at h
  rcases h with h | rfl
  · exact isBlank_of_isWordChar h
  · decide

theorem Aggregate.ofName?_eq_some_iff {s : List Char} {function : Aggregate} :
    ofName? s = some function ↔ sameLetters s function.name.toList = true := by
  constructor
  · exact fun h => by simpa using List.find?_some h
  · intro h
    rw [sameLetters, beq_iff_eq] at h
    cases function <;> simp only [ofName?, all, sameLetters, h, List.find?_cons] <;> rfl

/-! ## Arguments -/

/-- A star, or word characters and dots. -/
inductive CallArgument
  | star
  | column (chars : List Char) (nonempty : chars ≠ [])
      (word : ∀ c ∈ chars, AggregateCall.isArgumentChar c = true)

namespace CallArgument

def chars : CallArgument → List Char
  | star => ['*']
  | column chars .. => chars

theorem solid (a : CallArgument) : Solid a.chars := by
  cases a with
  | star => decide
  | column chars _ hword => exact fun c hc => AggregateCall.isBlank_of_isArgumentChar (hword c hc)

theorem ne_nil (a : CallArgument) : a.chars ≠ [] := by
  cases a with
  | star => simp [chars]
  | column chars hne _ => exact hne

theorem chars_injective {a b : CallArgument} (h : a.chars = b.chars) : a = b := by
  have hstar : ∀ {cs : List Char} (hne : cs ≠ [])
      (hword : ∀ c ∈ cs, AggregateCall.isArgumentChar c = true), ['*'] ≠ cs := by
    rintro cs - hword rfl
    exact absurd (hword '*' (by simp)) (by decide)
  cases a with
  | star =>
    cases b with
    | star => rfl
    | column cs hne hword => exact absurd h (hstar hne hword)
  | column cs hne hword =>
    cases b with
    | star => exact absurd h.symm (hstar hne hword)
    | column ds => cases h; rfl

/-- The argument is read up to the first character that cannot be in it. -/
theorem readArgument?_append (a : CallArgument) {r : List Char}
    (hr : ∀ c ∈ r.head?, AggregateCall.isArgumentChar c = false) :
    AggregateCall.readArgument? (a.chars ++ r) = some (a.chars, r) := by
  cases a with
  | star => rfl
  | column cs hne hword =>
    obtain ⟨htake, hdrop⟩ := takeWhile_dropWhile hword hr
    have hne' : cs.isEmpty = false := by simpa using hne
    unfold AggregateCall.readArgument?
    split
    · next rest h =>
      obtain ⟨c, cs, rfl⟩ := List.exists_cons_of_ne_nil hne
      cases h
      exact absurd (hword '*' (by simp)) (by decide)
    · rw [chars, htake, hdrop, hne']
      rfl

theorem exists_of_readArgument? {s argument r : List Char}
    (h : AggregateCall.readArgument? s = some (argument, r)) :
    ∃ a : CallArgument, a.chars = argument ∧ s = argument ++ r := by
  unfold AggregateCall.readArgument? at h
  split at h
  · cases h
    exact ⟨.star, rfl, rfl⟩
  · split at h
    · cases h
    · next hne =>
      cases h
      refine ⟨.column _ (by simpa using hne) fun c hc => List.mem_takeWhile_imp hc, rfl, ?_⟩
      rw [List.takeWhile_append_dropWhile]

end CallArgument

/-! ## Calls -/

/-- A call with the blanks and the letter case that its writer chose. -/
structure WrittenCall where
  lead : Pad
  function : Aggregate
  name : Keyword function.name
  before : Pad
  argument : CallArgument
  after : Pad
  trail : Pad

namespace WrittenCall

/-- What follows the opening parenthesis. -/
def inner (w : WrittenCall) : List Char :=
  w.before.chars ++ (w.argument.chars ++ (w.after.chars ++ [')']))

/-- The call without the blanks around it. -/
def core (w : WrittenCall) : List Char := w.name.chars ++ '(' :: w.inner

def text (w : WrittenCall) : List Char := w.lead.chars ++ (w.core ++ w.trail.chars)

def call (w : WrittenCall) : AggregateCall :=
  ⟨String.ofList w.text, w.function, String.ofList w.argument.chars⟩

theorem isWordChar_name (w : WrittenCall) : ∀ c ∈ w.name.chars, isWordChar c = true := by
  have hname : w.function.name.toList.all isWordChar = true := by
    cases w.function <;> decide
  exact apply_of_sameLetters isWordChar_toUpper w.name.same (List.all_eq_true.mp hname)

theorem tight_core (w : WrittenCall) : Tight w.core := by
  have hname := w.name.word (by cases w.function <;> decide)
  have hclose : Tight [')'] := Solid.tight (by decide) (by simp)
  have := (hname.1.tight hname.2).between hclose
    ('(' :: (w.before.chars ++ (w.argument.chars ++ w.after.chars)))
  simpa [core, inner] using this

theorem trim_text (w : WrittenCall) : trim w.text = w.core :=
  trim_eq w.lead.blank w.trail.blank w.tight_core.first w.tight_core.last

theorem lead_text (w : WrittenCall) : w.text.takeWhile isBlank = w.lead.chars :=
  (takeWhile_dropWhile w.lead.blank (w.tight_core.first.append w.tight_core.nonempty)).1

theorem name_core (w : WrittenCall) :
    w.core.takeWhile isWordChar = w.name.chars ∧ w.core.dropWhile isWordChar = '(' :: w.inner :=
  takeWhile_dropWhile w.isWordChar_name fun c hc => by cases hc; decide

theorem trimStart_inner (w : WrittenCall) :
    trimStart w.inner = w.argument.chars ++ (w.after.chars ++ [')']) :=
  (takeWhile_dropWhile w.before.blank (w.argument.solid.first.append w.argument.ne_nil)).2

theorem trimStart_after (w : WrittenCall) : trimStart (w.after.chars ++ [')']) = [')'] :=
  (takeWhile_dropWhile w.after.blank fun c hc => by cases hc; decide).2

/-- The argument ends at a blank or at the closing parenthesis. -/
theorem after_stops (w : WrittenCall) :
    ∀ c ∈ (w.after.chars ++ [')']).head?, AggregateCall.isArgumentChar c = false := by
  intro c hc
  cases ha : w.after.chars with
  | nil =>
    rw [ha] at hc
    cases hc
    decide
  | cons b r =>
    rw [ha] at hc
    cases hc
    have hblank : isBlank c = true := w.after.blank c (by simp [ha])
    rw [Bool.eq_false_iff]
    intro h
    rw [AggregateCall.isBlank_of_isArgumentChar h] at hblank
    cases hblank

theorem read?_text (w : WrittenCall) :
    AggregateCall.read? (String.ofList w.text) = some w.call := by
  unfold AggregateCall.read?
  rw [String.toList_ofList]
  simp only [w.trim_text, w.name_core, w.trimStart_inner,
    w.argument.readArgument?_append w.after_stops, w.trimStart_after,
    Aggregate.ofName?_eq_some_iff.mpr w.name.same, Option.bind_eq_bind, Option.bind_some, if_pos]
  rfl

/-- A text is its first blanks and what is left without them. -/
theorem exists_lead (s : List Char) : ∃ p : Pad, s = p.chars ++ trimStart s :=
  ⟨⟨s.takeWhile isBlank, fun _ hc => List.mem_takeWhile_imp hc⟩,
    List.takeWhile_append_dropWhile.symm⟩

theorem exists_of_read? {text : String} {call : AggregateCall}
    (h : AggregateCall.read? text = some call) :
    ∃ w : WrittenCall, w.text = text.toList ∧ w.call = call := by
  unfold AggregateCall.read? at h
  simp only [Option.bind_eq_bind, Option.pure_def] at h
  split at h
  · next inner hinner =>
    obtain ⟨⟨argument, rest⟩, hread, h⟩ := Option.bind_eq_some_iff.mp h
    split at h
    · next hclose =>
      obtain ⟨function, hname, h⟩ := Option.bind_eq_some_iff.mp h
      obtain ⟨a, b, ha, hb, -, -, htext⟩ := exists_trim text.toList
      obtain ⟨before, hbefore⟩ := exists_lead inner
      obtain ⟨after, hafter⟩ := exists_lead rest
      obtain ⟨argument, rfl, hargument⟩ := CallArgument.exists_of_readArgument? hread
      have hname := Aggregate.ofName?_eq_some_iff.mp hname
      have hcore : (trim text.toList).takeWhile isWordChar ++ '(' :: (before.chars ++
          (argument.chars ++ (after.chars ++ [')']))) = trim text.toList := by
        rw [← hclose, ← hafter, ← hargument, ← hbefore, ← hinner, List.takeWhile_append_dropWhile]
      let w : WrittenCall :=
        ⟨⟨a, ha⟩, function, ⟨_, hname⟩, before, argument, after, ⟨b, hb⟩⟩
      have hw : w.text = text.toList := by
        conv_rhs => rw [htext, ← hcore]
        rfl
      refine ⟨w, hw, ?_⟩
      cases h
      rw [call, hw, String.ofList_toList]
    · cases h
  · cases h

/-- There is one way only to take a text as a call. -/
theorem text_injective {w v : WrittenCall} (h : w.text = v.text) : w = v := by
  have hcore : w.core = v.core := by rw [← w.trim_text, h, v.trim_text]
  have hname : w.name.chars = v.name.chars := by rw [← w.name_core.1, hcore, v.name_core.1]
  have hinner : w.inner = v.inner := by
    have := w.name_core.2.symm.trans (hcore ▸ v.name_core.2)
    exact (List.cons.inj this).2
  have hfunction : w.function = v.function := by
    have hw := Aggregate.ofName?_eq_some_iff.mpr w.name.same
    rw [hname, Aggregate.ofName?_eq_some_iff.mpr v.name.same] at hw
    exact (Option.some.inj hw).symm
  have hrest := w.trimStart_inner.symm.trans (hinner ▸ v.trimStart_inner)
  have hread := congrArg AggregateCall.readArgument? hrest
  rw [w.argument.readArgument?_append w.after_stops, v.argument.readArgument?_append v.after_stops,
    Option.some_inj, Prod.mk.injEq] at hread
  have hargument := CallArgument.chars_injective hread.1
  have hafter := Pad.eq_of_chars (List.append_cancel_right hread.2)
  have hbefore : w.before = v.before := by
    unfold inner at hinner
    rw [hargument, hafter] at hinner
    exact Pad.eq_of_chars (List.append_cancel_right hinner)
  have hlead : w.lead = v.lead := Pad.eq_of_chars (by rw [← w.lead_text, h, v.lead_text])
  have htrail : w.trail = v.trail := by
    unfold text at h
    rw [hlead, hcore] at h
    exact Pad.eq_of_chars (List.append_cancel_left (List.append_cancel_left h))
  obtain ⟨lead, function, ⟨name, hsame⟩, before, argument, after, trail⟩ := w
  obtain ⟨lead', function', ⟨name', hsame'⟩, before', argument', after', trail'⟩ := v
  cases hlead
  cases hfunction
  cases hname
  cases hbefore
  cases hargument
  cases hafter
  cases htrail
  rfl

end WrittenCall

namespace AggregateCall

theorem read?_eq_some_iff {text : String} {call : AggregateCall} :
    read? text = some call ↔
      call.text = text ∧ ∃ w : WrittenCall, w.text = text.toList ∧ w.function = call.function ∧
        String.ofList w.argument.chars = call.field := by
  constructor
  · intro h
    obtain ⟨w, hw, rfl⟩ := WrittenCall.exists_of_read? h
    exact ⟨read?_text h, w, hw, rfl, rfl⟩
  · rintro ⟨rfl, w, hw, hfunction, hfield⟩
    have hread := w.read?_text
    rw [hw, String.ofList_toList] at hread
    rw [hread, WrittenCall.call, hw, String.ofList_toList, hfunction, hfield]

theorem read?_eq_none_iff {text : String} :
    read? text = none ↔ ∀ w : WrittenCall, w.text ≠ text.toList := by
  constructor
  · intro h w hw
    have hread := w.read?_text
    rw [hw, String.ofList_toList, h] at hread
    cases hread
  · intro h
    rw [Option.eq_none_iff_forall_ne_some]
    intro call hread
    obtain ⟨w, hw, -⟩ := WrittenCall.exists_of_read? hread
    exact h w hw

end AggregateCall

/-! ## Entries that are no calls -/

/-- A plain field in the row of a group: the cell of the first row if it is a
grouping field, and null if not. -/
def Group.plainCell (fields : List String) (input : List Row) (entry k : String) : Cell :=
  if entry ∈ fields then
    ((input.find? fun r => key fields r = k).bind fun r => r.get? entry).getD .null
  else .null

theorem Group.get?_rows_plain {fields selected : List String} {entry : String}
    (he : entry ∈ selected) (hc : AggregateCall.read? entry = none) (input : List Row) :
    List.Forall₂ (fun k row => row.get? entry = some (plainCell fields input entry k))
      (keys fields input) ((rows fields selected input).map (Row.project selected)) := by
  rw [rows_eq, List.map_map, List.forall₂_map_right_iff]
  refine List.forall₂_same.mpr fun k _ => ?_
  have hrow := selects_project fields selected input k
  unfold plainCell
  by_cases hm : entry ∈ fields
  · rw [if_pos hm]
    exact hrow.grouped entry he hc hm
  · rw [if_neg hm]
    exact hrow.other entry he hc hm

/-- **Calls.** An entry is read as a call exactly if it is written as one, and a
text can be taken as a call in one way only. Calls that differ in letter case and
blanks alone have the same function and field. Every other entry is a plain
field, also where rows are grouped. -/
theorem AggregateCall.read?_exact :
    (∀ text call, read? text = some call ↔
      call.text = text ∧ ∃ w : WrittenCall, w.text = text.toList ∧ w.function = call.function ∧
        String.ofList w.argument.chars = call.field) ∧
    (∀ w v : WrittenCall, w.text = v.text → w = v) ∧
    (∀ w v : WrittenCall, w.function = v.function → w.argument = v.argument →
      ∃ c d, read? (String.ofList w.text) = some c ∧ read? (String.ofList v.text) = some d ∧
        c.function = d.function ∧ c.field = d.field) ∧
    ∀ text, (∀ w : WrittenCall, w.text ≠ text.toList) →
      read? text = none ∧
      ∀ fields selected input, text ∈ selected →
        List.Forall₂ (fun k row => row.get? text = some (Group.plainCell fields input text k))
          (Group.keys fields input)
          ((Group.rows fields selected input).map (Row.project selected)) := by
  refine ⟨fun text call => read?_eq_some_iff, fun w v => WrittenCall.text_injective,
    fun w v hfunction hargument => ?_, fun text h => ?_⟩
  · exact ⟨w.call, v.call, w.read?_text, v.read?_text, hfunction,
      congrArg (fun a : CallArgument => String.ofList a.chars) hargument⟩
  · have hnone := read?_eq_none_iff.mpr h
    exact ⟨hnone, fun fields selected input he => Group.get?_rows_plain he hnone input⟩

/-- A call with blanks everywhere, and a blank where none may stand. -/
theorem AggregateCall.read?_exact_sample :
    read? "\u00A0cOuNt(\t* )" = some ⟨"\u00A0cOuNt(\t* )", .count, "*"⟩ ∧
      read? "COUNT (*)" = none ∧
      ((Group.rows ["city"] ["COUNT (*)"] [.ofList [("city", .text "Oslo")]]).map
        (Row.project ["COUNT (*)"])).map (fun row => row.get? "COUNT (*)") = [some .null] := by
  have pad : ∀ c, isBlank c = true → AllBlank [c] := fun c hc => List.forall_mem_singleton.mpr hc
  let w : WrittenCall :=
    ⟨⟨['\u00A0'], pad _ (by decide)⟩, .count, ⟨"cOuNt".toList, by decide⟩,
      ⟨['\t'], pad _ (by decide)⟩, .star, ⟨[' '], pad _ (by decide)⟩, .none⟩
  have hplain : ∀ w : WrittenCall, w.text ≠ "COUNT (*)".toList :=
    read?_eq_none_iff.mp (by decide +kernel)
  obtain ⟨hread, -, -, hother⟩ := read?_exact
  obtain ⟨hnone, hrows⟩ := hother _ hplain
  refine ⟨(hread _ _).mpr ⟨rfl, w, rfl, rfl, rfl⟩, hnone, ?_⟩
  have hkeys : Group.keys ["city"] [.ofList [("city", .text "Oslo")]] = ["Oslo"] := by
    decide +kernel
  have hcells := hrows ["city"] ["COUNT (*)"] [.ofList [("city", .text "Oslo")]] (by simp)
  rw [hkeys] at hcells
  obtain ⟨row, tail, hrow, htail, hall⟩ := List.forall₂_cons_left_iff.mp hcells
  rw [hall, List.forall₂_nil_left_iff.mp htail, List.map_singleton, hrow,
    Group.plainCell, if_neg (by decide)]

end FlatQuery
