import FlatQuery.Table.Source
import FlatQuery.Proofs.Fault
import FlatQuery.Proofs.OrderMap
import FlatQuery.Proofs.Text.Utf8
import FlatQuery.Proofs.Text.Words

/-!
# Tables that are read from texts

A record can be read if all of its fields are texts and it has as many of them
as the header (`Record.Fits`). Then it is a row with the columns of the header
(`Record.Fills`). One record that cannot be read is enough, and there is no
table: the first such record is reported (`Folder.parse_all_or_nothing`).
-/

namespace FlatQuery

namespace Delimited

/-! ## Texts of fields -/

/-- The text of a field, without the blanks at its ends. -/
def fieldText? (bytes : List UInt8) : Option String := (Text.decode? bytes).map Text.trimString

theorem blank_of_isAsciiBlank {b : UInt8} (h : isAsciiBlank b = true) :
    b < 128 ∧ Text.isBlank (Text.asciiChar b) = true := by
  simp only [isAsciiBlank, Bool.or_eq_true, beq_iff_eq] at h
  obtain (((rfl | rfl) | rfl) | rfl) | rfl := h <;> decide

theorem exists_trimAscii (bytes : List UInt8) :
    ∃ a b, (∀ c ∈ a, isAsciiBlank c = true) ∧ (∀ c ∈ b, isAsciiBlank c = true) ∧
      bytes = a ++ (trimAscii bytes ++ b) := by
  refine ⟨bytes.takeWhile isAsciiBlank, (bytes.dropWhile isAsciiBlank).rtakeWhile isAsciiBlank,
    fun c hc => List.mem_takeWhile_imp hc, fun c hc => List.mem_rtakeWhile_imp hc, ?_⟩
  have htrim : trimAscii bytes = (bytes.dropWhile isAsciiBlank).rdropWhile isAsciiBlank := rfl
  rw [htrim, List.rdropWhile_append_rtakeWhile, List.takeWhile_append_dropWhile]

/-- Blanks taken off before a field is decoded make no difference. -/
theorem fieldText?_trimAscii (bytes : List UInt8) :
    fieldText? (trimAscii bytes) = fieldText? bytes := by
  obtain ⟨a, b, ha, hb, hbytes⟩ := exists_trimAscii bytes
  have blanks : ∀ l : List UInt8, (∀ c ∈ l, isAsciiBlank c = true) →
      (∀ c ∈ l, c < 128) ∧ Text.AllBlank (l.map Text.asciiChar) := by
    intro l hl
    refine ⟨fun c hc => (blank_of_isAsciiBlank (hl c hc)).1, ?_⟩
    intro c hc
    obtain ⟨d, hd, rfl⟩ := List.mem_map.mp hc
    exact (blank_of_isAsciiBlank (hl d hd)).2
  obtain ⟨ha₁, ha₂⟩ := blanks a ha
  obtain ⟨hb₁, hb₂⟩ := blanks b hb
  conv => rhs; rw [hbytes]
  unfold fieldText?
  rw [Text.decode?_ascii_append ha₁, Text.decode?_append_ascii hb₁, Option.map_map, Option.map_map]
  apply congrArg (Option.map · _)
  funext s
  simp [Text.trimString, Text.trim_between ha₂ hb₂]

theorem decodeFields_eq_ok_iff {index : Nat} {place : Place} {field : Nat}
    {fields : List (List UInt8)} {texts : List String} :
    decodeFields index place field fields = .ok texts ↔ fields.map fieldText? = texts.map some := by
  induction fields generalizing field texts with
  | nil => cases texts <;> simp [decodeFields]
  | cons bytes fields ih =>
    unfold decodeFields
    cases hdecoded : Text.decode? bytes with
    | none => cases texts <;> simp [fieldText?, hdecoded]
    | some text =>
      constructor
      · intro h
        obtain ⟨others, hothers, htexts⟩ := bind_eq_ok_iff.mp h
        cases htexts
        simp [fieldText?, hdecoded, ih.mp hothers]
      · intro h
        cases texts with
        | nil => cases h
        | cons first others =>
          obtain ⟨hfirst, hothers⟩ := List.cons.inj h
          rw [fieldText?, hdecoded] at hfirst
          obtain rfl := Option.some.inj hfirst
          rw [ih.mpr hothers]; rfl

theorem length_of_texts {fields : List (List UInt8)} {texts : List String}
    (h : fields.map fieldText? = texts.map some) : texts.length = fields.length := by
  have hlength := congrArg List.length h
  rw [List.length_map, List.length_map] at hlength
  exact hlength.symm

theorem exists_texts {fields : List (List UInt8)}
    (h : ∀ bytes ∈ fields, (Text.decode? bytes).isSome) :
    ∃ texts : List String, fields.map fieldText? = texts.map some := by
  induction fields with
  | nil => exact ⟨[], rfl⟩
  | cons bytes fields ih =>
    obtain ⟨texts, htexts⟩ := ih fun c hc => h c (List.mem_cons_of_mem _ hc)
    obtain ⟨text, htext⟩ := Option.isSome_iff_exists.mp (h bytes List.mem_cons_self)
    exact ⟨Text.trimString text :: texts, by simp [fieldText?, htext, htexts]⟩

theorem isSome_of_texts {fields : List (List UInt8)} {texts : List String}
    (h : fields.map fieldText? = texts.map some) :
    ∀ bytes ∈ fields, (Text.decode? bytes).isSome := by
  intro bytes hm
  have hsome : fieldText? bytes ∈ texts.map some := h ▸ List.mem_map_of_mem hm
  obtain ⟨text, -, htext⟩ := List.mem_map.mp hsome
  rw [← Option.isSome_map (f := Text.trimString), ← fieldText?, ← htext]; rfl

/-! ## Rows -/

namespace Record

/-- Every field is a text, and there is one for each column. -/
structure Fits (columns : Nat) (record : Record) : Prop where
  texts : ∀ bytes ∈ record.fields, (Text.decode? bytes).isSome
  length : record.fields.length = columns

instance (columns : Nat) (record : Record) : Decidable (record.Fits columns) :=
  decidable_of_iff
    ((∀ bytes ∈ record.fields, (Text.decode? bytes).isSome) ∧ record.fields.length = columns)
    ⟨fun h => ⟨h.1, h.2⟩, fun h => ⟨h.1, h.2⟩⟩

/-- The texts of the fields under the names of the header. -/
def Makes (header : List String) (record : Record) (row : Row) : Prop :=
  record.fields.length = header.length ∧ ∃ texts : List String,
    record.fields.map fieldText? = texts.map some ∧
      row = OrderMap.ofList (header.zip (texts.map Cell.text))

/-- The row has the columns of the header, and under each name the text of the
field at its last place. -/
structure Fills (header : List String) (record : Record) (row : Row) : Prop where
  keys : row.keys = header.eraseDups
  cell : ∀ (i : Nat) (name : String), header[i]? = some name → (∀ j > i, header[j]? ≠ some name) →
    ∃ bytes text, record.fields[i]? = some bytes ∧ fieldText? bytes = some text ∧
      Text.trimString text = text ∧ row.get? name = some (.text text)

variable {header : List String} {record : Record} {row : Row}

theorem Makes.fits (h : record.Makes header row) : record.Fits header.length := by
  obtain ⟨hlength, texts, htexts, -⟩ := h
  exact ⟨isSome_of_texts htexts, hlength⟩

theorem Fits.exists_row (h : record.Fits header.length) : ∃ row, record.Makes header row := by
  obtain ⟨texts, htexts⟩ := exists_texts h.texts
  exact ⟨_, h.length, texts, htexts, rfl⟩

theorem Makes.keys (h : record.Makes header row) : row.keys = header.eraseDups := by
  obtain ⟨hlength, texts, htexts, rfl⟩ := h
  have hcells : header.length ≤ (texts.map Cell.text).length := by
    rw [List.length_map, length_of_texts htexts, hlength]
  rw [OrderMap.keys_ofList, List.map_fst_zip hcells]

theorem trimString_fieldText {bytes : List UInt8} {text : String}
    (h : fieldText? bytes = some text) :
    Text.trimString text = text := by
  obtain ⟨s, -, rfl⟩ := Option.map_eq_some_iff.mp h
  simp [Text.trimString, Text.trim_trim]

theorem Makes.fills (h : record.Makes header row) : record.Fills header row := by
  refine ⟨h.keys, ?_⟩
  intro i name hname hlast
  obtain ⟨hlength, texts, htexts, rfl⟩ := h
  have hi : i < header.length := (List.getElem?_eq_some_iff.mp hname).1
  have hfield : i < record.fields.length := hlength ▸ hi
  have htext : i < texts.length := length_of_texts htexts ▸ hfield
  have hat := congrArg (·[i]?) htexts
  simp only [List.getElem?_map, List.getElem?_eq_getElem hfield, List.getElem?_eq_getElem htext,
    Option.map_some, Option.some.injEq] at hat
  refine ⟨record.fields[i], texts[i], List.getElem?_eq_getElem hfield, hat,
    trimString_fieldText hat, ?_⟩
  -- the columns after the last one of this name are written later, under other names
  let cells := header.zip (texts.map Cell.text)
  have hcell : cells[i]? = some (name, Cell.text texts[i]) := by
    simp [cells, List.getElem?_zip_eq_some, hname, htext]
  obtain ⟨hlt, hget⟩ := List.getElem?_eq_some_iff.mp hcell
  have hsplit : cells = cells.take i ++ (name, Cell.text texts[i]) :: cells.drop (i + 1) := by
    rw [← hget, List.cons_getElem_drop_succ, List.take_append_drop]
  rw [show header.zip (texts.map Cell.text) = cells from rfl, hsplit]
  apply OrderMap.get?_ofList_last
  intro e he hkey
  obtain ⟨j, hj⟩ := List.mem_iff_getElem?.mp he
  rw [List.getElem?_drop, List.getElem?_zip_eq_some] at hj
  exact hlast (i + 1 + j) (by omega) (hkey ▸ hj.1)

end Record

theorem readRow_eq_ok_iff {header : List String} {index : Nat} {record : Record} {row : Row} :
    readRow header index record = .ok row ↔ record.Makes header row := by
  have htrim : (record.fields.map trimAscii).map fieldText? = record.fields.map fieldText? := by
    simp [fieldText?_trimAscii]
  unfold readRow Record.Makes
  by_cases hlength : record.fields.length = header.length
  · rw [if_neg (not_not.mpr hlength)]
    constructor
    · intro h
      obtain ⟨texts, htexts, hrow⟩ := bind_eq_ok_iff.mp h
      cases hrow
      exact ⟨hlength, texts, htrim ▸ decodeFields_eq_ok_iff.mp htexts, rfl⟩
    · intro h
      obtain ⟨-, texts, htexts, rfl⟩ := h
      rw [decodeFields_eq_ok_iff.mpr (htrim.trans htexts)]; rfl
  · rw [if_pos hlength]
    simp [hlength]

theorem readRows_eq_ok_iff {header : List String} {index : Nat} {records : List Record}
    {rows : List Row} :
    readRows header index records = .ok rows ↔ List.Forall₂ (Record.Makes header) records rows := by
  induction records generalizing index rows with
  | nil => cases rows <;> simp [readRows]
  | cons record records ih =>
    unfold readRows
    constructor
    · intro h
      obtain ⟨row, hrow, h⟩ := bind_eq_ok_iff.mp h
      obtain ⟨rest, hrest, h⟩ := bind_eq_ok_iff.mp h
      cases h
      exact .cons (readRow_eq_ok_iff.mp hrow) (ih.mp hrest)
    · intro h
      cases h with
      | cons hrow hrest =>
        exact bind_eq_ok_iff.mpr ⟨_, readRow_eq_ok_iff.mpr hrow,
          bind_eq_ok_iff.mpr ⟨_, ih.mpr hrest, rfl⟩⟩

/-! ## Faults -/

/-- The number of the record that an error is about. -/
def Error.index : Error → Nat
  | .unequalLengths index .. => index
  | .invalidUtf8 index .. => index

theorem fails_decodeFields (index : Nat) (place : Place) (field : Nat)
    (fields : List (List UInt8)) :
    Fails (fun error => error.index = index) (decodeFields index place field fields) := by
  induction fields generalizing field with
  | nil => exact fails_ok []
  | cons bytes fields ih =>
    unfold decodeFields
    split
    · exact fails_error rfl
    · exact (ih (field + 1)).bind fun _ => fails_ok _

theorem fails_readRow (header : List String) (index : Nat) (record : Record) :
    Fails (fun error => error.index = index) (readRow header index record) := by
  unfold readRow
  split
  · exact fails_error rfl
  · exact (fails_decodeFields _ _ _ _).bind fun _ => fails_ok _

theorem readRow_not_fits {header : List String} {record : Record}
    (h : ¬ record.Fits header.length) (index : Nat) :
    ∃ error, readRow header index record = .error error ∧ error.index = index := by
  cases hrow : readRow header index record with
  | error error => exact ⟨error, rfl, fails_readRow _ _ _ error hrow⟩
  | ok row => exact absurd (readRow_eq_ok_iff.mp hrow).fits h

theorem readRows_not_fits {header : List String} {before : List Record} {record : Record}
    (hbefore : ∀ r ∈ before, r.Fits header.length) (h : ¬ record.Fits header.length)
    (after : List Record) (index : Nat) :
    ∃ error, readRows header index (before ++ record :: after) = .error error ∧
      error.index = index + before.length := by
  induction before generalizing index with
  | nil =>
    obtain ⟨error, herror, hindex⟩ := readRow_not_fits h index
    exact ⟨error, by rw [List.nil_append, readRows, herror]; rfl, hindex⟩
  | cons first before ih =>
    obtain ⟨row, hrow⟩ := (hbefore first List.mem_cons_self).exists_row
    obtain ⟨error, herror, hindex⟩ :=
      ih (fun r hr => hbefore r (List.mem_cons_of_mem _ hr)) (index + 1)
    refine ⟨error, ?_, by rw [hindex, List.length_cons]; omega⟩
    rw [List.cons_append, readRows, readRow_eq_ok_iff.mpr hrow]
    simp [bind, Except.bind, herror]

/-! ## Tables -/

/-- As many as the first record has fields. -/
def columns (records : List Record) : Nat := records.head?.elim 0 fun first => first.fields.length

def Readable (records : List Record) : Prop := ∀ record ∈ records, record.Fits (columns records)

/-- The texts of the first record. -/
def IsHeader (header : List String) (records : List Record) : Prop :=
  ∀ first ∈ records.head?, first.fields.map fieldText? = header.map some

theorem parse_eq_ok_iff {delimiter : UInt8} {bytes : List UInt8} {rows : List Row} :
    parse delimiter bytes = .ok rows ↔ ∃ header, IsHeader header (records delimiter bytes) ∧
      List.Forall₂ (Record.Makes header) (records delimiter bytes).tail rows := by
  unfold parse IsHeader
  cases records delimiter bytes with
  | nil => simp [eq_comm]
  | cons first data =>
    constructor
    · intro h
      obtain ⟨header, hheader, hrows⟩ := bind_eq_ok_iff.mp h
      exact ⟨header, by simpa using decodeFields_eq_ok_iff.mp hheader, readRows_eq_ok_iff.mp hrows⟩
    · intro h
      obtain ⟨header, hheader, hrows⟩ := h
      exact bind_eq_ok_iff.mpr ⟨header, decodeFields_eq_ok_iff.mpr (hheader first rfl),
        readRows_eq_ok_iff.mpr hrows⟩

theorem exists_first_unfit {records : List Record} (h : ¬ Readable records) :
    ∃ before record after, records = before ++ record :: after ∧
      (∀ r ∈ before, r.Fits (columns records)) ∧ ¬ record.Fits (columns records) := by
  cases hfind : records.find? fun r => ¬ r.Fits (columns records) with
  | none =>
    refine absurd ?_ h
    simpa [Readable] using hfind
  | some record =>
    obtain ⟨hrecord, before, after, hrecords, hbefore⟩ := List.find?_eq_some_iff_append.mp hfind
    exact ⟨before, record, after, hrecords, by simpa using hbefore, by simpa using hrecord⟩

theorem exists_makes {header : List String} {records : List Record}
    (h : ∀ record ∈ records, record.Fits header.length) :
    ∃ rows, List.Forall₂ (Record.Makes header) records rows := by
  induction records with
  | nil => exact ⟨[], .nil⟩
  | cons record records ih =>
    obtain ⟨row, hrow⟩ := (h record List.mem_cons_self).exists_row
    obtain ⟨rows, hrows⟩ := ih fun r hr => h r (List.mem_cons_of_mem _ hr)
    exact ⟨row :: rows, .cons hrow hrows⟩

theorem Readable.exists_rows {records : List Record} (h : Readable records) :
    ∃ header rows, IsHeader header records ∧
      List.Forall₂ (Record.Makes header) records.tail rows := by
  cases records with
  | nil => exact ⟨[], [], by simp [IsHeader], .nil⟩
  | cons first data =>
    obtain ⟨header, hheader⟩ := exists_texts (h first List.mem_cons_self).texts
    have hcolumns : columns (first :: data) = header.length := (length_of_texts hheader).symm
    obtain ⟨rows, hrows⟩ := exists_makes fun r hr => hcolumns ▸ h r (List.mem_cons_of_mem _ hr)
    exact ⟨header, rows, by simpa [IsHeader] using hheader, hrows⟩

theorem parse_not_fits {delimiter : UInt8} {bytes : List UInt8} {before : List Record}
    {record : Record} {after : List Record}
    (hrecords : records delimiter bytes = before ++ record :: after)
    (hbefore : ∀ r ∈ before, r.Fits (columns (records delimiter bytes)))
    (h : ¬ record.Fits (columns (records delimiter bytes))) :
    ∃ error, parse delimiter bytes = .error error ∧ error.index = before.length := by
  unfold parse
  rw [hrecords] at hbefore h ⊢
  cases before with
  | nil =>
    -- a header has as many fields as itself, so one of them is no text
    cases hheader : decodeFields 0 record.place 0 record.fields with
    | error error =>
      have hindex : error.index = 0 := fails_decodeFields _ _ _ _ error hheader
      exact ⟨error, by simp [hheader, bind, Except.bind], hindex⟩
    | ok header => exact absurd ⟨isSome_of_texts (decodeFields_eq_ok_iff.mp hheader), rfl⟩ h
  | cons first before =>
    obtain ⟨header, hheader⟩ := exists_texts (hbefore first List.mem_cons_self).texts
    have hcolumns : columns (first :: before ++ record :: after) = header.length :=
      (length_of_texts hheader).symm
    rw [hcolumns] at hbefore h
    obtain ⟨error, herror, hindex⟩ :=
      readRows_not_fits (fun r hr => hbefore r (List.mem_cons_of_mem _ hr)) h after 1
    refine ⟨error, ?_, by rw [hindex, List.length_cons, Nat.add_comm]⟩
    simp [decodeFields_eq_ok_iff.mpr hheader, bind, Except.bind, herror]

theorem keys_parse {delimiter : UInt8} {bytes : List UInt8} {rows : List Row}
    (h : parse delimiter bytes = .ok rows) : ∃ columns, ∀ row ∈ rows, row.keys = columns := by
  obtain ⟨header, -, hrows⟩ := parse_eq_ok_iff.mp h
  refine ⟨header.eraseDups, ?_⟩
  intro row hm
  clear h
  generalize (records delimiter bytes).tail = data at hrows
  induction hrows with
  | nil => cases hm
  | cons hrow _ ih =>
    cases hm with
    | head => exact hrow.keys
    | tail _ hm => exact ih hm

end Delimited

open Delimited

/-- **All or nothing.** If every record can be read, there is a row for each
record after the header, in their order; otherwise there is no table, and the
first record that cannot be read is reported. -/
theorem Folder.parse_all_or_nothing (f : Folder) (name : String) (bytes : List UInt8) :
    (Readable (records f.delimiter bytes) → ∃ header rows, f.parse name bytes = .ok rows ∧
      IsHeader header (records f.delimiter bytes) ∧
        List.Forall₂ (Record.Fills header) (records f.delimiter bytes).tail rows) ∧
    (¬ Readable (records f.delimiter bytes) → ∃ before record after error,
      records f.delimiter bytes = before ++ record :: after ∧
        (∀ r ∈ before, r.Fits (columns (records f.delimiter bytes))) ∧
        ¬ record.Fits (columns (records f.delimiter bytes)) ∧
        f.parse name bytes = .error (.delimited name error) ∧ error.index = before.length) := by
  constructor
  · intro h
    obtain ⟨header, rows, hheader, hrows⟩ := h.exists_rows
    have hparse : Delimited.parse f.delimiter bytes = .ok rows :=
      parse_eq_ok_iff.mpr ⟨header, hheader, hrows⟩
    exact ⟨header, rows, by rw [Folder.parse, hparse], hheader,
      hrows.imp fun _ _ hrow => hrow.fills⟩
  · intro h
    obtain ⟨before, record, after, hrecords, hbefore, hrecord⟩ := exists_first_unfit h
    obtain ⟨error, herror, hindex⟩ := parse_not_fits hrecords hbefore hrecord
    exact ⟨before, record, after, error, hrecords, hbefore, hrecord, by rw [Folder.parse, herror],
      hindex⟩

theorem Folder.parse_all_or_nothing_sample :
    let f : Folder := ⟨"tables", "csv", 0x2C⟩
    let bytes := Text.encode "a, a ,b\n1,2,3\n 4 ,5,6\n"
    let ragged := Text.encode "a,b\n1,2\n3\n"
    (∃ header rows, f.parse "t" bytes = .ok rows ∧ IsHeader header (records f.delimiter bytes) ∧
      List.Forall₂ (Record.Fills header) (records f.delimiter bytes).tail rows) ∧
      ∃ error, f.parse "t" ragged = .error (.delimited "t" error) := by
  intro f bytes ragged
  constructor
  · apply (f.parse_all_or_nothing "t" bytes).1
    unfold Readable
    decide +kernel
  · have hragged : ¬ Readable (records f.delimiter ragged) := by
      unfold Readable
      decide +kernel
    obtain ⟨-, -, -, error, -, -, -, herror, -⟩ := (f.parse_all_or_nothing "t" ragged).2 hragged
    exact ⟨error, herror⟩

end FlatQuery
