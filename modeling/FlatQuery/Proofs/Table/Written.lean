import FlatQuery.Proofs.Table.Delimited

/-!
# Tables that are written as texts

Every field is written between quotes, with the quotes inside it doubled. So
delimiters and line ends of a field are not taken for those of the text, and a
table that is written is read back as it was (`Folder.parse_written`).
-/

namespace FlatQuery

namespace Delimited

/-! ## Writing -/

def doubled (b : UInt8) : List UInt8 := if b = quoteByte then [quoteByte, quoteByte] else [b]

def writeField (field : List UInt8) : List UInt8 :=
  quoteByte :: (field.flatMap doubled ++ [quoteByte])

/-- Fields with the delimiter between them, and a line feed after the last. -/
def writeRecord (delimiter : UInt8) : List (List UInt8) → List UInt8
  | [] => [lineFeed]
  | [field] => writeField field ++ [lineFeed]
  | field :: fields => writeField field ++ delimiter :: writeRecord delimiter fields

def writeTexts (delimiter : UInt8) (texts : List String) : List UInt8 :=
  writeRecord delimiter (texts.map Text.encode)

/-! ## Reading what is written -/

namespace Reader

/-- Where a reader is in its record, whatever its place in the text. -/
structure Within (r : Reader) (mode : Mode) (field : List UInt8) (closed : List (List UInt8)) :
    Prop where
  mode : r.mode = mode
  field : r.field = field
  closed : r.closed = closed

/-- Whatever follows `bytes`, one reader goes on after them as the other does from there. -/
def Leads (delimiter : UInt8) (r : Reader) (bytes : List UInt8) (s : Reader) : Prop :=
  ∀ rest, r.run delimiter (bytes ++ rest) = s.run delimiter rest

variable {delimiter : UInt8} {r s t : Reader} {field : List UInt8} {closed : List (List UInt8)}

theorem Leads.trans {bytes more : List UInt8} (h : Leads delimiter r bytes s)
    (ht : Leads delimiter s more t) : Leads delimiter r (bytes ++ more) t := by
  intro rest
  rw [List.append_assoc, h, ht]

theorem leads_of_step {b : UInt8} (h : r.step delimiter b = (s, none)) :
    Leads delimiter r [b] s := by
  intro rest
  simp [run, h]

variable (delimiter)

theorem leads_quote (h : r.Within .inQuotes field closed) :
    ∃ s, s.Within .afterQuote field closed ∧ Leads delimiter r [quoteByte] s := by
  refine ⟨{ r.advance quoteByte with mode := .afterQuote }, ⟨rfl, h.field, h.closed⟩,
    leads_of_step ?_⟩
  simp [step, advance, h.mode]

theorem leads_doubled (h : r.Within .inQuotes field closed) (b : UInt8) :
    ∃ s, s.Within .inQuotes (b :: field) closed ∧ Leads delimiter r (doubled b) s := by
  unfold doubled
  by_cases hb : b = quoteByte
  · rw [if_pos hb, hb]
    obtain ⟨s, hs, hrs⟩ := leads_quote delimiter h
    refine ⟨(s.advance quoteByte).keep .inQuotes quoteByte, ⟨rfl, ?_, hs.closed⟩,
      hrs.trans (leads_of_step ?_)⟩
    · exact congrArg (quoteByte :: ·) hs.field
    · simp [step, advance, hs.mode]
  · rw [if_neg hb]
    refine ⟨(r.advance b).keep .inQuotes b, ⟨rfl, ?_, h.closed⟩, leads_of_step ?_⟩
    · exact congrArg (b :: ·) h.field
    · simp [step, advance, h.mode, hb]

theorem leads_flatMap_doubled (h : r.Within .inQuotes field closed) (bytes : List UInt8) :
    ∃ s, s.Within .inQuotes (bytes.reverse ++ field) closed ∧
      Leads delimiter r (bytes.flatMap doubled) s := by
  induction bytes generalizing r field with
  | nil => exact ⟨r, h, fun _ => rfl⟩
  | cons b bytes ih =>
    obtain ⟨s, hs, hrs⟩ := leads_doubled delimiter h b
    obtain ⟨t, ht, hst⟩ := ih hs
    refine ⟨t, ?_, hrs.trans hst⟩
    rwa [List.reverse_cons, List.append_assoc]

theorem leads_writeField {mode : Mode} (hmode : mode = .betweenRecords ∨ mode = .fieldStart)
    (h : r.Within mode [] closed) (bytes : List UInt8) :
    ∃ s, s.Within .afterQuote bytes.reverse closed ∧ Leads delimiter r (writeField bytes) s := by
  have hopen : Leads delimiter r [quoteByte] { r.advance quoteByte with mode := .inQuotes } := by
    apply leads_of_step
    obtain rfl | rfl := hmode <;>
      simp [step, startField, advance, h.mode, isLineEnd, quoteByte, lineFeed, carriageReturn]
  have hopened :
      ({ r.advance quoteByte with mode := .inQuotes } : Reader).Within .inQuotes [] closed :=
    ⟨rfl, h.field, h.closed⟩
  obtain ⟨s, hs, hrs⟩ := leads_flatMap_doubled delimiter hopened bytes
  rw [List.append_nil] at hs
  obtain ⟨t, ht, hst⟩ := leads_quote delimiter hs
  exact ⟨t, ht, hopen.trans (hrs.trans hst)⟩

variable {delimiter}

theorem leads_delimiter (hquote : delimiter ≠ quoteByte) (h : r.Within .afterQuote field closed) :
    ∃ s, s.Within .fieldStart [] (field.reverse :: closed) ∧ Leads delimiter r [delimiter] s := by
  refine ⟨(r.advance delimiter).closeField, ⟨rfl, rfl, ?_⟩, leads_of_step ?_⟩
  · simp [closeField, advance, h.field, h.closed]
  · simp [step, unquoted, advance, h.mode, hquote]

theorem run_lineFeed (hlineFeed : delimiter ≠ lineFeed) (h : r.Within .afterQuote field closed)
    (rest : List UInt8) :
    ∃ (record : Record) (s : Reader), record.fields = closed.reverse ++ [field.reverse] ∧
      s.Within .betweenRecords [] [] ∧
        r.run delimiter (lineFeed :: rest) = record :: s.run delimiter rest := by
  refine ⟨(r.advance lineFeed).record, (r.advance lineFeed).endRecord.1, ?_, ⟨rfl, rfl, rfl⟩, ?_⟩
  · simp [record, advance, h.field, h.closed]
  · have hstep : r.step delimiter lineFeed = (r.advance lineFeed).endRecord := by
      have hne : lineFeed ≠ quoteByte := by decide
      have hend : isLineEnd lineFeed = true := by decide
      simp [step, unquoted, advance, h.mode, hlineFeed.symm, hne, hend]
    simp [run, hstep, endRecord]

variable (hquote : delimiter ≠ quoteByte) (hlineFeed : delimiter ≠ lineFeed)
include hquote hlineFeed

theorem run_writeRecord {mode : Mode} (hmode : mode = .betweenRecords ∨ mode = .fieldStart)
    (h : r.Within mode [] closed) {fields : List (List UInt8)} (hne : fields ≠ [])
    (rest : List UInt8) :
    ∃ (record : Record) (s : Reader), record.fields = closed.reverse ++ fields ∧
      s.Within .betweenRecords [] [] ∧
        r.run delimiter (writeRecord delimiter fields ++ rest) =
          record :: s.run delimiter rest := by
  induction fields generalizing r mode closed with
  | nil => exact absurd rfl hne
  | cons field fields ih =>
    obtain ⟨s, hs, hrs⟩ := leads_writeField delimiter hmode h field
    cases fields with
    | nil =>
      obtain ⟨record, t, hrecord, ht, hst⟩ := run_lineFeed hlineFeed hs rest
      refine ⟨record, t, by simpa using hrecord, ht, ?_⟩
      rw [writeRecord, List.append_assoc, hrs, List.singleton_append, hst]
    | cons next fields =>
      obtain ⟨t, ht, hst⟩ := leads_delimiter hquote hs
      obtain ⟨record, u, hrecord, hu, htu⟩ := ih (.inr rfl) ht (by simp)
      refine ⟨record, u, by simpa using hrecord, hu, ?_⟩
      rw [writeRecord, List.append_assoc, hrs, List.cons_append, ← List.singleton_append, hst, htu]
      simp

theorem fields_run_written {rows : List (List (List UInt8))} (h : r.Within .betweenRecords [] [])
    (hne : ∀ fields ∈ rows, fields ≠ []) :
    (r.run delimiter (rows.flatMap (writeRecord delimiter))).map Record.fields = rows := by
  induction rows generalizing r with
  | nil => simp [run, finish, h.mode]
  | cons fields rows ih =>
    obtain ⟨record, s, hrecord, hs, hrs⟩ := run_writeRecord hquote hlineFeed (.inl rfl) h
      (hne fields (by simp)) (rows.flatMap (writeRecord delimiter))
    rw [List.flatMap_cons, hrs, List.map_cons, ih hs fun f hf => hne f (by simp [hf]), hrecord]
    rfl

end Reader

theorem writeRecord_eq_cons (delimiter : UInt8) {fields : List (List UInt8)} (hne : fields ≠ []) :
    ∃ rest, writeRecord delimiter fields = quoteByte :: rest := by
  obtain ⟨field, fields, rfl⟩ := List.exists_cons_of_ne_nil hne
  cases fields <;> exact ⟨_, rfl⟩

theorem fields_records_written {delimiter : UInt8} (hquote : delimiter ≠ quoteByte)
    (hlineFeed : delimiter ≠ lineFeed) {rows : List (List (List UInt8))}
    (hne : ∀ fields ∈ rows, fields ≠ []) :
    (records delimiter (rows.flatMap (writeRecord delimiter))).map Record.fields = rows := by
  have hrun := Reader.fields_run_written (r := .initial 0) hquote hlineFeed ⟨rfl, rfl, rfl⟩ hne
  unfold records
  split
  · next rest hbytes =>
    -- the first byte is a quote, so there is no byte order mark
    cases rows with
    | nil => cases hbytes
    | cons fields rows =>
      obtain ⟨more, hmore⟩ := writeRecord_eq_cons delimiter (hne fields (by simp))
      rw [List.flatMap_cons, hmore] at hbytes
      cases hbytes
  · exact hrun

/-! ## Tables -/

theorem texts_encode {texts : List String} (h : ∀ text ∈ texts, Text.trimString text = text) :
    (texts.map Text.encode).map fieldText? = texts.map some := by
  rw [List.map_map]
  apply List.map_congr_left
  intro text hm
  simp [fieldText?, Text.decode?_encode, h text hm]

/-- The row of one text for each column. -/
def textRow (header texts : List String) : Row := OrderMap.ofList (header.zip (texts.map Cell.text))

theorem makes_textRow {header : List String} {rows : List (List String)}
    (hlength : ∀ texts ∈ rows, texts.length = header.length)
    (htrim : ∀ texts ∈ rows, ∀ text ∈ texts, Text.trimString text = text) {data : List Record}
    (hdata : data.map Record.fields = rows.map (List.map Text.encode)) :
    List.Forall₂ (Record.Makes header) data (rows.map (textRow header)) := by
  induction rows generalizing data with
  | nil =>
    obtain rfl := List.map_eq_nil_iff.mp hdata
    exact .nil
  | cons texts rows ih =>
    obtain ⟨record, data, rfl, hrecord, hdata⟩ := List.map_eq_cons_iff.mp hdata
    have htexts := texts_encode (htrim texts (by simp))
    refine .cons ⟨?_, texts, ?_, rfl⟩ (ih (fun t ht => hlength t (by simp [ht]))
      (fun t ht => htrim t (by simp [ht])) hdata)
    · rw [hrecord, List.length_map, hlength texts (by simp)]
    · rw [hrecord, htexts]

theorem entries_textRow {header texts : List String} (hnodup : header.Nodup)
    (hlength : texts.length = header.length) :
    (textRow header texts).entries = header.zip (texts.map Cell.text) := by
  apply OrderMap.entries_ofList
  rw [List.map_fst_zip (by simp [hlength])]
  exact hnodup

end Delimited

open Delimited

/-- **Round trip.** A table that is written with its header is read back: the
same rows in the same order, each with the columns in the order of the header. -/
theorem Folder.parse_written (f : Folder) (name : String) (hquote : f.delimiter ≠ quoteByte)
    (hlineFeed : f.delimiter ≠ lineFeed) {header : List String} {rows : List (List String)}
    (hne : header ≠ []) (hnodup : header.Nodup)
    (hlength : ∀ texts ∈ rows, texts.length = header.length)
    (htrim : ∀ texts ∈ header :: rows, ∀ text ∈ texts, Text.trimString text = text) :
    ∃ table, f.parse name ((header :: rows).flatMap (writeTexts f.delimiter)) = .ok table ∧
      table.map OrderMap.entries = rows.map fun texts => header.zip (texts.map Cell.text) := by
  let table := (header :: rows).map (List.map Text.encode)
  have htable : ∀ fields ∈ table, fields ≠ [] := by
    intro fields hm
    obtain ⟨texts, ht, rfl⟩ := List.mem_map.mp hm
    have hcolumns : texts.length = header.length := by
      cases ht with
      | head => rfl
      | tail _ ht => exact hlength texts ht
    have hpos : 0 < header.length := List.length_pos_iff.mpr hne
    exact List.length_pos_iff.mp (by rw [List.length_map]; omega)
  have hbytes : (header :: rows).flatMap (writeTexts f.delimiter) =
      table.flatMap (writeRecord f.delimiter) := by
    rw [List.flatMap_map]; rfl
  have hfields := fields_records_written hquote hlineFeed htable
  rw [← hbytes] at hfields
  obtain ⟨first, data, hrecords, hfirst, hdata⟩ := List.map_eq_cons_iff.mp hfields
  have hparse : Delimited.parse f.delimiter ((header :: rows).flatMap (writeTexts f.delimiter)) =
      .ok (rows.map (textRow header)) := by
    rw [parse_eq_ok_iff, hrecords]
    refine ⟨header, ?_, makes_textRow hlength (fun texts ht => htrim texts (by simp [ht])) hdata⟩
    simpa [IsHeader, hfirst] using texts_encode (htrim header (by simp))
  refine ⟨rows.map (textRow header), by rw [Folder.parse, hparse], ?_⟩
  rw [List.map_map]
  exact List.map_congr_left fun texts ht => entries_textRow hnodup (hlength texts ht)

theorem Folder.parse_written_sample :
    let f : Folder := ⟨"tables", "csv", 0x2C⟩
    let header := ["name", "the, \"note\""]
    let rows := [["Ann", "a,b\r\n\n\"c\""], ["", "\""]]
    f.delimiter ≠ quoteByte ∧ f.delimiter ≠ lineFeed ∧ header ≠ [] ∧ header.Nodup ∧
      (∀ texts ∈ rows, texts.length = header.length) ∧
      (∀ texts ∈ header :: rows, ∀ text ∈ texts, Text.trimString text = text) ∧
      ∃ table, f.parse "t" ((header :: rows).flatMap (writeTexts f.delimiter)) = .ok table ∧
        table.map OrderMap.entries = rows.map fun texts => header.zip (texts.map Cell.text) := by
  intro f header rows
  have htrim : ∀ texts ∈ header :: rows, ∀ text ∈ texts, Text.trimString text = text := by decide
  have hlength : ∀ texts ∈ rows, texts.length = header.length := by decide
  exact ⟨by decide, by decide, by decide, by decide, hlength, htrim,
    f.parse_written "t" (by decide) (by decide) (by decide) (by decide) hlength htrim⟩

end FlatQuery
