import FlatQuery.Json.Reader
import FlatQuery.Proofs.Json.Strings

/-!
# Objects of texts

A reader for objects all of whose values are texts, in the order in which the
members stand, repeated keys included. It reads back what is written with
spelled strings and no blanks (`readObject_spelled`).
-/

namespace FlatQuery.Json

/-! ## Reading -/

/-- The members up to the end of an object, of which none or some were read. Every
member has a character of its own, so `fuel` need not exceed their number. -/
def membersFrom : (fuel : Nat) → (isFirst : Bool) → List Char → Except Stop (Texts × List Char)
  | 0, _, s => stopAt .endInObject s
  | fuel + 1, isFirst, s => do
    let (more, s) ← nextItem .curly isFirst s
    if more then
      let (name, s) ← key s
      let s ← colon s
      let (value, s) ← text "a string" s
      let (others, s) ← membersFrom fuel false s
      .ok ((name, value) :: others, s)
    else .ok ([], s)

/-- The members of a text that is one object of texts and nothing else. -/
def readObject (s : List Char) : Except Stop Texts :=
  match skipBlanks s with
  | '\x7b' :: rest => do
    let (members, rest) ← membersFrom (rest.length + 1) true rest
    match skipBlanks rest with
    | [] => .ok members
    | rest => stopBefore .trailingText rest
  | rest => stopBefore .missingValue rest

/-! ## Writing -/

section
variable (escape : Char → List Char)

def spelledMember (m : String × String) : List Char :=
  spelled escape m.1 ++ ':' :: spelled escape m.2

/-- The members after the first one, up to the end of the object. -/
def spelledRest (members : Texts) (rest : List Char) : List Char :=
  members.flatMap (fun m => ',' :: spelledMember escape m) ++ '\x7d' :: rest

/-- An object with at least one member. -/
def spelledObject (first : String × String) (others : Texts) (rest : List Char) : List Char :=
  '\x7b' :: (spelledMember escape first ++ spelledRest escape others rest)

theorem spelledRest_cons (m : String × String) (members : Texts) (rest : List Char) :
    spelledRest escape (m :: members) rest =
      ',' :: (spelledMember escape m ++ spelledRest escape members rest) := by
  simp [spelledRest]

/-- Texts with commas between them. -/
theorem intercalate_comma (first : List Char) (others : List (List Char)) :
    [','].intercalate (first :: others) = first ++ others.flatMap fun other => ',' :: other := by
  induction others generalizing first with
  | nil => simp
  | cons other others ih =>
    rw [List.intercalate_cons_cons, ih, List.flatMap_cons]
    simp

theorem spelledObject_eq (first : String × String) (others : Texts) (rest : List Char) :
    spelledObject escape first others rest =
      '\x7b' ::
        ([','].intercalate ((first :: others).map (spelledMember escape)) ++ '\x7d' :: rest) := by
  rw [List.map_cons, intercalate_comma, List.flatMap_map, List.append_assoc]
  rfl

theorem length_le_spelledRest (members : Texts) (rest : List Char) :
    members.length < (spelledRest escape members rest).length := by
  induction members with
  | nil => simp [spelledRest]
  | cons m members ih =>
    rw [spelledRest_cons]
    simp only [List.length_cons, List.length_append]
    omega

end

/-- The members of an object, each one after a comma. -/
def separatedMembers (members : List (String × String)) : List Char :=
  members.flatMap fun m => ',' :: (spelled escape m.1 ++ ':' :: m.2.toList)

theorem separatedMembers_cons (m : String × String) (members : List (String × String)) :
    separatedMembers (m :: members) =
      ',' :: (spelled escape m.1 ++ ':' :: (m.2.toList ++ separatedMembers members)) := by
  simp [separatedMembers]

theorem toList_object (members : List (String × String)) :
    (object members).toList = '\x7b' :: ((separatedMembers members).tail ++ ['\x7d']) := by
  have hmembers : (members.map fun m => quote m.1 ++ ":" ++ m.2).map String.toList =
      members.map fun m => spelled escape m.1 ++ ':' :: m.2.toList := by
    rw [List.map_map]
    apply List.map_congr_left
    intro m _
    simp [toList_quote]
  have hbody : (",".intercalate (members.map fun m => quote m.1 ++ ":" ++ m.2)).toList =
      (separatedMembers members).tail := by
    rw [String.toList_intercalate, hmembers]
    cases members with
    | nil => rfl
    | cons m members =>
      rw [List.map_cons, separatedMembers_cons, List.tail_cons]
      refine (intercalate_comma _ _).trans ?_
      simp [separatedMembers, List.flatMap_map]
  unfold object
  simp only [String.toList_append, hbody]
  rfl

/-! ## Reading back -/

section
variable {escape : Char → List Char} (h : ∀ c, Spells c (escape c))
include h

theorem key_spelled (s : String) (rest : List Char) :
    key (spelled escape s ++ rest) = .ok (s, rest) := by
  rw [spelled_append]
  unfold key
  simp only [string_spelled h, Except.map, String.ofList_toList]

theorem text_spelled (wanted s : String) (rest : List Char) :
    text wanted (spelled escape s ++ rest) = .ok (s, rest) := by
  have hfound : found (spelled escape s ++ rest) = .ok (.string s, rest) := by
    rw [spelled_append]
    unfold found
    simp [string_spelled h, Except.map]
  have hblanks : skipBlanks (spelled escape s ++ rest) = spelled escape s ++ rest := rfl
  unfold text
  rw [hblanks, hfound]
  rfl

/-- One member, and then the others. -/
theorem membersFrom_member {fuel : Nat} {isFirst : Bool} {s rest last : List Char}
    {m : String × String} {others : Texts}
    (hnext : nextItem .curly isFirst s = .ok (true, spelledMember escape m ++ rest))
    (hothers : membersFrom fuel false rest = .ok (others, last)) :
    membersFrom (fuel + 1) isFirst s = .ok (m :: others, last) := by
  have hkey : key (spelledMember escape m ++ rest) =
      .ok (m.1, ':' :: (spelled escape m.2 ++ rest)) := by
    rw [spelledMember, List.append_assoc, key_spelled h]
    rfl
  have hcolon : colon (':' :: (spelled escape m.2 ++ rest)) = .ok (spelled escape m.2 ++ rest) :=
    rfl
  unfold membersFrom
  simp only [hnext, hkey, hcolon, text_spelled h, hothers, bind, Except.bind, if_true]

theorem membersFrom_spelledRest (members : Texts) (rest : List Char) {fuel : Nat}
    (hf : members.length < fuel) :
    membersFrom fuel false (spelledRest escape members rest) = .ok (members, rest) := by
  induction members generalizing fuel with
  | nil =>
    obtain ⟨fuel, rfl⟩ := Nat.exists_eq_succ_of_ne_zero (Nat.ne_zero_of_lt hf)
    rfl
  | cons m members ih =>
    obtain ⟨fuel, rfl⟩ := Nat.exists_eq_succ_of_ne_zero (Nat.ne_zero_of_lt hf)
    rw [spelledRest_cons]
    exact membersFrom_member h rfl (ih (Nat.lt_of_succ_lt_succ hf))

/-- Blanks may follow the object. -/
theorem readObject_spelled (first : String × String) (others : Texts) {rest : List Char}
    (hrest : skipBlanks rest = []) :
    readObject (spelledObject escape first others rest) = .ok (first :: others) := by
  have hmembers : membersFrom
      ((spelledMember escape first ++ spelledRest escape others rest).length + 1) true
      (spelledMember escape first ++ spelledRest escape others rest) =
        .ok (first :: others, rest) := by
    apply membersFrom_member h rfl
    apply membersFrom_spelledRest h
    have hlength := length_le_spelledRest escape others rest
    rw [List.length_append]
    omega
  have hblanks : skipBlanks (spelledObject escape first others rest) =
      spelledObject escape first others rest := rfl
  unfold readObject
  rw [hblanks]
  simp only [spelledObject, hmembers, bind, Except.bind, hrest]

end

end FlatQuery.Json
