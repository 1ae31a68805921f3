import FlatQuery.Trace.Record
import FlatQuery.Proofs.Json.Members
import FlatQuery.Proofs.KeyOrder

/-!
# Lines of the trace

A line is an object of texts that is read back as the members of its record
(`readObject_line`), so it tells the event, the severity and the fields in the
order of their keys. No control character stands in it as it is, whatever the
texts of the record have in them, so a record takes one line.
-/

namespace FlatQuery

namespace Record

/-! ## Spellings -/

theorem spells_escape (c : Char) : Json.Spells c (escape c) := by
  unfold escape
  split_ifs with hquote hbackslash hn hr ht hcontrol
  · subst hquote; exact .letter rfl (by decide)
  · subst hbackslash; exact .letter rfl (by decide)
  · subst hn; exact .letter rfl (by decide)
  · subst hr; exact .letter rfl (by decide)
  · subst ht; exact .letter rfl (by decide)
  · simp only [isControl, Bool.or_eq_true, Bool.and_eq_true, decide_eq_true_eq] at hcontrol
    exact .digits (by omega)
  · simp only [isControl, Bool.or_eq_true, decide_eq_true_eq, not_or] at hcontrol
    exact .itself hquote hbackslash (by omega)

/-! ## Control characters -/

/-- Characters none of which is a control character. -/
def Printable (s : List Char) : Prop := ∀ c ∈ s, isControl c = false

theorem printable_nil : Printable [] := fun _ h => nomatch h

theorem printable_cons {c : Char} {s : List Char} (hc : isControl c = false) (hs : Printable s) :
    Printable (c :: s) := by
  intro d hd
  rcases List.mem_cons.mp hd with rfl | hd
  · exact hc
  · exact hs d hd

theorem printable_append {s t : List Char} (hs : Printable s) (ht : Printable t) :
    Printable (s ++ t) := by
  intro c hc
  exact (List.mem_append.mp hc).elim (hs c) (ht c)

theorem printable_flatMap {α : Type} {f : α → List Char} {l : List α} (h : ∀ a, Printable (f a)) :
    Printable (l.flatMap f) := by
  intro c hc
  obtain ⟨a, _, hc⟩ := List.mem_flatMap.mp hc
  exact h a c hc

theorem isControl_digitChar (n : Nat) : isControl (Nat.digitChar (n % 16)) = false := by
  have h : n % 16 < 16 := Nat.mod_lt n (by decide)
  generalize n % 16 = d at h
  interval_cases d <;> rfl

theorem printable_unicodeEscape (c : Char) : Printable (Json.unicodeEscape c) := by
  intro d hd
  simp only [Json.unicodeEscape, List.mem_cons, List.not_mem_nil, or_false] at hd
  rcases hd with rfl | rfl | rfl | rfl | rfl | rfl
  · rfl
  · rfl
  all_goals exact isControl_digitChar _

theorem printable_escape (c : Char) : Printable (escape c) := by
  unfold escape
  split_ifs with hquote hbackslash hn hr ht hcontrol
  iterate 5 exact printable_cons rfl (printable_cons rfl printable_nil)
  · exact printable_unicodeEscape c
  · exact printable_cons (Bool.eq_false_iff.mpr hcontrol) printable_nil

theorem printable_quote (s : String) : Printable (quote s) :=
  printable_cons rfl
    (printable_append (printable_flatMap printable_escape) (printable_cons rfl printable_nil))

theorem printable_memberText (m : String × String) : Printable (memberText m) :=
  printable_append (printable_quote m.1) (printable_cons rfl (printable_quote m.2))

theorem printable_line (r : Record) : Printable r.line.toList := by
  rw [line, String.toList_ofList, members, List.map_cons, Json.intercalate_comma, List.flatMap_map]
  apply printable_cons rfl
  apply printable_append _ (printable_cons rfl printable_nil)
  apply printable_append (printable_memberText _)
  exact printable_flatMap fun m => printable_cons rfl (printable_memberText m)

/-! ## Reading back -/

/-- A line, and what follows it. -/
theorem line_append (r : Record) (rest : List Char) :
    r.line.toList ++ rest =
      Json.spelledObject escape ("event", r.event) (("severity", r.severity.name) :: r.sortedFields)
        rest := by
  have hmember : Json.spelledMember escape = memberText := rfl
  rw [Json.spelledObject_eq, line, String.toList_ofList, hmember, List.cons_append,
    List.append_assoc]
  rfl

theorem readObject_line (r : Record) {rest : List Char} (h : Json.skipBlanks rest = []) :
    Json.readObject (r.line.toList ++ rest) = .ok r.members := by
  rw [line_append]
  exact Json.readObject_spelled spells_escape _ _ h

theorem name_injective : Severity.name.Injective := by
  intro s t h
  cases s <;> cases t <;> first | rfl | exact absurd h (by decide)

theorem members_of_line {r s : Record} (h : r.line = s.line) : r.members = s.members := by
  have hr := readObject_line r (show Json.skipBlanks [] = [] from rfl)
  rw [h, readObject_line s rfl] at hr
  exact (Except.ok.inj hr).symm

/-- **Lines.** A record is written on one line with no control character in it. The
line is an object of texts and is read back as the event, the severity and the
fields in the order of their keys, those with one key in the order given. So
records with the same line have these in common, and without repeated keys the
order of the fields does not show. -/
theorem line_decodes (r : Record) :
    let written := (r.line ++ "\n").toList
    (∃ line, written = line ++ ['\n'] ∧ ∀ c ∈ line, isControl c = false) ∧ written.count '\n' = 1 ∧
      Json.readObject written =
        .ok (("event", r.event) :: ("severity", r.severity.name) :: r.sortedFields) ∧
      r.sortedFields.Perm r.fields ∧ (r.sortedFields.Pairwise fun a b => a.1 ≤ b.1) ∧
      (∀ key, (r.sortedFields.filter fun field => field.1 = key) =
        r.fields.filter fun field => field.1 = key) ∧
      (∀ other : Record, other.line = r.line →
        other.event = r.event ∧ other.severity = r.severity ∧ other.sortedFields = r.sortedFields) ∧
      ∀ fields : List (String × String), fields.Perm r.fields → (r.fields.map Prod.fst).Nodup →
        ({ r with fields := fields } : Record).line = r.line := by
  intro written
  have hwritten : written = r.line.toList ++ ['\n'] := String.toList_append
  refine ⟨⟨_, hwritten, printable_line r⟩, ?_, ?_, ?_, ?_, ?_, ?_, ?_⟩
  · have hline : '\n' ∉ r.line.toList := fun hm => absurd (printable_line r _ hm) (by decide)
    rw [hwritten, List.count_append, List.count_eq_zero.mpr hline]
    rfl
  · rw [hwritten]
    exact readObject_line r rfl
  · exact sortByKey_perm r.fields
  · exact pairwise_sortByKey r.fields
  · exact filter_sortByKey r.fields
  · intro other h
    have hmembers := members_of_line h
    simp only [members, List.cons.injEq, Prod.mk.injEq, true_and] at hmembers
    obtain ⟨hevent, hseverity, hfields⟩ := hmembers
    exact ⟨hevent, name_injective hseverity, hfields⟩
  · intro fields hp h
    unfold line members sortedFields
    rw [sortByKey_eq_of_perm hp h]

/-- A record with every kind of escape, and with a key that is given twice. -/
theorem line_decodes_sample :
    let r : Record := ⟨.warn, "A\"B\\", [("q\n", "\x7f\u0085\x00"), ("k", "2"), ("k", "1\té")]⟩
    let sorted := [("k", "2"), ("k", "1\té"), ("q\n", "\x7f\u0085\x00")]
    r.line = "\x7b\"event\":\"A\\\"B\\\\\",\"severity\":\"WARN\",\"k\":\"2\",\"k\":\"1\\té\"," ++
        "\"q\\n\":\"\\u007f\\u0085\\u0000\"\x7d" ∧
      Json.readObject (r.line ++ "\n").toList =
        .ok (("event", "A\"B\\") :: ("severity", "WARN") :: sorted) ∧
      ∀ other : Record, other.line = r.line → other.sortedFields = sorted := by
  intro r sorted
  have hsorted : r.sortedFields = sorted := by cbv
  obtain ⟨-, -, hread, -, -, -, hother, -⟩ := line_decodes r
  rw [hsorted] at hread
  refine ⟨?_, hread, fun other h => hsorted ▸ (hother other h).2.2⟩
  rw [line, members, hsorted]
  decide +kernel

end Record

end FlatQuery
