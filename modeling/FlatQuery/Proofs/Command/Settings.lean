import FlatQuery.Proofs.Json.Record
import FlatQuery.Proofs.Table.Confinement

/-!
# Settings that are resolved

Settings are checked before they are used, and the check covers every use: valid
settings name a severity and a folder (`Config.exists_usable`). So a query whose
settings are resolved is executed (`runQuery_eq`), and one whose settings are not
leaves the process as it was (`resolveConfig_usable`). What the settings are is said
of the text of the file alone (`Config.Given`, `Config.Written`).
-/

namespace FlatQuery

/-! ## Valid settings -/

namespace Config

/-- Settings on which all succeeds that a query asks of them. -/
structure Usable (c : Config) (severity : Severity) (folder : Folder) : Prop where
  validate_eq : c.validate = .ok ()
  delimiterByte_eq : c.delimiterByte = .ok folder.delimiter
  logSeverity_eq : c.logSeverity = .ok severity
  applyLogLevel_eq : ∀ level, c.applyLogLevel.run.run level = (.ok (), severity)
  folder_eq : c.folder = .ok folder

theorem applyLogLevel_of_ok {c : Config} {severity : Severity} (h : c.logSeverity = .ok severity)
    (level : Severity) : c.applyLogLevel.run.run level = (.ok (), severity) := by
  unfold applyLogLevel
  rw [h]
  rfl

theorem logSeverity_of_validate {c : Config} (h : c.validate = .ok ()) :
    ∃ severity, c.logSeverity = .ok severity := by
  unfold validate at h
  split at h
  · cases h
  · split at h
    · cases h
    · obtain ⟨delimiter, -, h⟩ := bind_eq_ok_iff.mp h
      obtain ⟨severity, hseverity, -⟩ := bind_eq_ok_iff.mp h
      exact ⟨severity, hseverity⟩

theorem exists_usable {c : Config} (h : c.validate = .ok ()) :
    ∃ severity folder, c.Usable severity folder ∧ folder.root = c.dataDir ∧
      folder.extension = c.extension := by
  obtain ⟨severity, hseverity⟩ := logSeverity_of_validate h
  obtain ⟨-, -, delimiter, hfolder⟩ := validate_ok h
  have hdelimiter : c.delimiterByte = .ok delimiter := by
    obtain ⟨d, hd, heq⟩ := bind_eq_ok_iff.mp hfolder
    cases heq
    exact hd
  exact ⟨severity, _, ⟨h, hdelimiter, hseverity, applyLogLevel_of_ok hseverity, hfolder⟩, rfl, rfl⟩

/-! ## Where settings come from -/

def memberNames : List String := ["data_dir", "extension", "delimiter", "log_level"]

/-- The settings that a file and a folder given by option make, valid or not. -/
inductive Given (files : Files) : Option String → Option String → Config → Prop
  | byOption (dataDir : String) : Given files none (some dataDir) ⟨dataDir, "csv", ",", "warn"⟩
  | byFile {path text folder extension delimiter level : String} {bytes : List UInt8}
      {members : List (String × Option String)} (dataDir? : Option String)
      (hfile : files path = .ok bytes) (htext : Text.decode? bytes = some text)
      (hmembers : Json.Holds memberNames text.toList members)
      (hfolder : members.lookup "data_dir" = some (some folder))
      (hextension : (members.lookup "extension").getD (some "csv") = some extension)
      (hdelimiter : (members.lookup "delimiter").getD (some ",") = some delimiter)
      (hlevel : (members.lookup "log_level").getD (some "warn") = some level) :
      Given files (some path) dataDir? ⟨dataDir?.getD folder, extension, delimiter, level⟩

/-- A file that was written as an object of settings. Each stands at most once, and
all but the folder may be left out. -/
inductive Written (files : Files) (path : String) : Config → Prop
  | object {members : Json.Texts} {folder : String}
      (hfile : files path =
        .ok (Text.encode (Json.object (members.map fun m => (m.1, Json.quote m.2)))))
      (hnames : ∀ m ∈ members, m.1 ∈ memberNames) (hnodup : (members.map Prod.fst).Nodup)
      (hfolder : members.lookup "data_dir" = some folder) :
      Written files path
        ⟨folder, (members.lookup "extension").getD "csv", (members.lookup "delimiter").getD ",",
          (members.lookup "log_level").getD "warn"⟩

theorem map_name_form : form.members.map Json.Member.name = memberNames := rfl

/-- Only the folder is required of a file. -/
theorem complete_iff {texts : Json.Texts} :
    form.Complete texts ↔ "data_dir" ∈ texts.map Prod.fst := by
  simp [Json.Form.Complete, form]

theorem parse_eq_ok_iff {text : String} {c : Config} :
    parse text = .ok c ↔ ∃ texts, Json.record form text = .ok texts ∧ ofTexts texts = c := by
  unfold parse
  cases Json.record form text <;> simp

theorem readText_eq_ok_iff {files : Files} {path text : String} :
    readText files path = .ok text ↔
      ∃ bytes, files path = .ok bytes ∧ Text.decode? bytes = some text := by
  unfold readText
  cases files path with
  | error failure => simp
  | ok bytes => cases hdecode : Text.decode? bytes <;> simp [hdecode]

theorem read_eq_ok_iff {files : Files} {path : String} {c : Config} :
    read files path = .ok c ↔
      ∃ text, readText files path = .ok text ∧ parse text = .ok c ∧ c.validate = .ok () := by
  unfold read
  rw [bind_eq_ok_iff]
  refine exists_congr fun text => and_congr_right fun _ => ?_
  rw [bind_eq_ok_iff]
  constructor
  · intro h
    obtain ⟨config, hparse, h⟩ := h
    obtain ⟨⟨⟩, hvalid, h⟩ := bind_eq_ok_iff.mp h
    obtain rfl := Except.ok.inj h
    exact ⟨hparse, hvalid⟩
  · intro h
    exact ⟨c, h.1, bind_eq_ok_iff.mpr ⟨(), h.2, rfl⟩⟩

theorem given_of_read {files : Files} {path : String} {base : Config} (dataDir? : Option String)
    (h : read files path = .ok base) :
    Given files (some path) dataDir? { base with dataDir := dataDir?.getD base.dataDir } := by
  obtain ⟨text, htext, hparse, -⟩ := read_eq_ok_iff.mp h
  obtain ⟨bytes, hfile, hbytes⟩ := readText_eq_ok_iff.mp htext
  obtain ⟨texts, htexts, rfl⟩ := parse_eq_ok_iff.mp hparse
  obtain ⟨hcomplete, members, hmembers, hlookup⟩ := Json.record_sound htexts
  obtain ⟨folder, hfolder⟩ : ∃ folder, texts.lookup "data_dir" = some folder :=
    Option.isSome_iff_exists.mp (Json.isSome_lookup_iff.mpr (complete_iff.mp hcomplete))
  rw [map_name_form] at hmembers hlookup
  have hgetD : ∀ name ∈ memberNames, ∀ usual : String,
      (members.lookup name).getD (some usual) = some ((texts.lookup name).getD usual) := by
    intro name hname usual
    rw [hlookup name hname]
    cases texts.lookup name <;> rfl
  have hgiven : Given files (some path) dataDir? _ :=
    .byFile dataDir? hfile hbytes hmembers (by rw [hlookup _ (by decide), hfolder]; rfl)
      (hgetD "extension" (by decide) "csv") (hgetD "delimiter" (by decide) ",")
      (hgetD "log_level" (by decide) "warn")
  simpa [ofTexts, ofDataDir, hfolder] using hgiven

/-- Settings that are written are read as they were. -/
theorem parse_of_written {files : Files} {path : String} {own : Config}
    (h : Written files path own) :
    ∃ text, readText files path = .ok text ∧ parse text = .ok own := by
  cases h with
  | object hfile hnames hnodup hfolder =>
    rw [← map_name_form] at hnames
    have hcomplete :=
      complete_iff.mpr (Json.isSome_lookup_iff.mp (Option.isSome_of_eq_some hfolder))
    have hrecord := Json.record_object (by rintro rfl; cases hfolder) hnames hnodup hcomplete
    refine ⟨_, readText_eq_ok_iff.mpr ⟨_, hfile, Text.decode?_encode _⟩,
      parse_eq_ok_iff.mpr ⟨_, hrecord, ?_⟩⟩
    simp [ofTexts, ofDataDir, hfolder]

theorem read_eq_ok_iff_of_written {files : Files} {path : String} {own base : Config}
    (h : Written files path own) :
    read files path = .ok base ↔ base = own ∧ own.validate = .ok () := by
  obtain ⟨text, htext, hparse⟩ := parse_of_written h
  rw [read_eq_ok_iff, htext]
  constructor
  · intro h
    obtain ⟨text', heq, hparse', hvalid⟩ := h
    obtain rfl := Except.ok.inj heq
    obtain rfl := Except.ok.inj (hparse'.symm.trans hparse)
    exact ⟨rfl, hvalid⟩
  · rintro ⟨rfl, hvalid⟩
    exact ⟨text, rfl, hparse, hvalid⟩

end Config

namespace Command

/-! ## Resolving -/

section
variable {files : Files} {path? dataDir? : Option String}

theorem baseConfig_file (path : String) :
    (baseConfig files (some path) dataDir?).value = (Config.read files path).mapError .config := by
  simp only [baseConfig, Config.load]
  cases Config.read files path <;> rfl

theorem override_eq_ok_iff {base c : Config} :
    override dataDir? base = .ok c ↔
      c = { base with dataDir := dataDir?.getD base.dataDir } ∧ c.validate = .ok () := by
  unfold override
  extract_lets config
  cases hvalid : config.validate with
  | error error =>
    refine ⟨nofun, ?_⟩
    rintro ⟨rfl, hc⟩
    rw [hvalid] at hc
    cases hc
  | ok _ =>
    constructor
    · intro h
      obtain rfl := Except.ok.inj h
      exact ⟨rfl, hvalid⟩
    · rintro ⟨rfl, -⟩
      rfl

theorem override_eq_error {base : Config} {failure : Failure}
    (h : override dataDir? base = .error failure) : ∃ error, failure = .config error := by
  unfold override at h
  extract_lets config at h
  cases hvalid : config.validate with
  | error error => rw [hvalid] at h; exact ⟨error, (Except.error.inj h).symm⟩
  | ok _ => rw [hvalid] at h; cases h

/-- With a file, its settings have to be valid before another folder takes the
place of theirs and then. -/
theorem resolveConfig_file_eq_ok_iff {path : String} {c : Config} :
    (resolveConfig files (some path) dataDir?).value = .ok c ↔
      ∃ base, Config.read files path = .ok base ∧
        c = { base with dataDir := dataDir?.getD base.dataDir } ∧ c.validate = .ok () := by
  have hvalue : (resolveConfig files (some path) dataDir?).value =
      (baseConfig files (some path) dataDir?).value >>= override dataDir? := rfl
  rw [hvalue, baseConfig_file, bind_eq_ok_iff]
  cases Config.read files path with
  | error error => simp [Except.mapError]
  | ok base => simp [Except.mapError, override_eq_ok_iff]

theorem given_of_resolveConfig {c : Config}
    (h : (resolveConfig files path? dataDir?).value = .ok c) :
    c.Given files path? dataDir? := by
  match path?, dataDir? with
  | none, none => cases h
  | none, some dataDir =>
    obtain ⟨rfl, -⟩ := override_eq_ok_iff.mp h
    exact .byOption dataDir
  | some path, dataDir? =>
    obtain ⟨base, hread, rfl, -⟩ := resolveConfig_file_eq_ok_iff.mp h
    exact Config.given_of_read dataDir? hread

theorem resolveConfig_eq_ok_iff_of_written {path : String} {own c : Config}
    (h : own.Written files path) :
    (resolveConfig files (some path) dataDir?).value = .ok c ↔
      own.validate = .ok () ∧ c = { own with dataDir := dataDir?.getD own.dataDir } ∧
        c.validate = .ok () := by
  rw [resolveConfig_file_eq_ok_iff]
  simp only [Config.read_eq_ok_iff_of_written h, and_assoc, exists_eq_left]

theorem failure_of_resolveConfig {failure : Failure}
    (h : (resolveConfig files path? dataDir?).value = .error failure) :
    path? = none ∧ dataDir? = none ∧ failure = .missingDataDir ∨
      ¬ (path? = none ∧ dataDir? = none) ∧ ∃ error, failure = .config error := by
  match path?, dataDir? with
  | none, none => exact .inl ⟨rfl, rfl, (Except.error.inj h).symm⟩
  | none, some dataDir => exact .inr ⟨by simp, override_eq_error h⟩
  | some path, dataDir? =>
    refine .inr ⟨by simp, ?_⟩
    obtain hbase | ⟨base, -, h⟩ := bind_eq_error_iff.mp h
    · rw [baseConfig_file] at hbase
      cases hread : Config.read files path with
      | error error => rw [hread] at hbase; exact ⟨error, (Except.error.inj hbase).symm⟩
      | ok read => rw [hread] at hbase; cases hbase
    · exact override_eq_error h

/-! ## Preparing -/

theorem prepare_of_ok {c : Config} {severity : Severity} {folder : Folder}
    (h : (resolveConfig files path? dataDir?).value = .ok c) (hc : c.Usable severity folder)
    (level : Severity) :
    (prepare files path? dataDir?).run.run level = (.ok (c, folder), severity) := by
  have hlevel : (c.applyLogLevel.adapt Failure.config).run.run level = (.ok (), severity) := by
    rw [ExceptT.run_adapt, StateT.run_map, hc.applyLogLevel_eq]
    rfl
  unfold prepare
  rw [h]
  have hconfig : (liftM (Except.ok c : Except Failure Config) :
      ExceptT Failure (StateM Severity) Config) = pure c := rfl
  rw [hconfig, pure_bind, hc.folder_eq, ExceptT.run_bind, StateT.run_bind, hlevel]
  rfl

theorem prepare_of_error {failure : Failure}
    (h : (resolveConfig files path? dataDir?).value = .error failure) (level : Severity) :
    (prepare files path? dataDir?).run.run level = (.error failure, level) := by
  unfold prepare
  rw [h]
  rfl

/-- A query prepares, and then executes over the folder it got, at the severity
that it set. -/
theorem runQuery_eq (level : Severity) (elapsed : Nat) (sql : String) :
    runQuery files level elapsed path? dataDir? sql =
      let early := level.lines (resolveConfig files path? dataDir?).records
      match (prepare files path? dataDir?).run.run level with
      | (.error failure, _) => ⟨"", early, .error failure⟩
      | (.ok (_, folder), shown) =>
        let executed := execute (folder.source files) elapsed sql
        let trace := early ++ shown.lines executed.records
        match executed.value with
        | .ok result => ⟨rowsResponse result.rows ++ "\n", trace, .ok ()⟩
        | .error error => ⟨errorResponse error ++ "\n", trace, .error (.query error.code)⟩ := by
  unfold runQuery
  cases h : (resolveConfig files path? dataDir?).value with
  | error failure => simp only [h, prepare_of_error h level]
  | ok c =>
    obtain ⟨severity, folder, hc, -⟩ := Config.exists_usable (validate_of_resolveConfig h)
    cases hexecute : (execute (folder.source files) elapsed sql).value with
    | ok result =>
      simp only [h, prepare_of_ok h hc level, hc.logSeverity_eq, hc.folder_eq, hexecute]
    | error error =>
      simp only [h, prepare_of_ok h hc level, hc.logSeverity_eq, hc.folder_eq, hexecute]

theorem result_runQuery_of_ok {c : Config} (h : (resolveConfig files path? dataDir?).value = .ok c)
    (level : Severity) (elapsed : Nat) (sql : String) :
    (runQuery files level elapsed path? dataDir? sql).result = .ok () ∨
      ∃ code, (runQuery files level elapsed path? dataDir? sql).result = .error (.query code) := by
  obtain ⟨severity, folder, hc, -⟩ := Config.exists_usable (validate_of_resolveConfig h)
  rw [runQuery_eq, prepare_of_ok h hc level]
  dsimp only
  cases (execute (folder.source files) elapsed sql).value with
  | ok result => exact .inl rfl
  | error error => exact .inr ⟨error.code, rfl⟩

end

/-- **Resolved settings.** Settings that are resolved are those of the file or the
usual ones, over the folder given by option; whatever a query asks of them
succeeds, so it can only fail as a query. A file that was written as an object of
settings is resolved to them exactly if they are valid with either folder.
Settings that are not resolved fail for want of a folder exactly if neither a file
nor a folder is given, and for the settings otherwise, and the process shows
records from the same severity on as before. -/
theorem resolveConfig_usable (files : Files) (path? dataDir? : Option String) :
    (∀ c, (resolveConfig files path? dataDir?).value = .ok c →
      c.Given files path? dataDir? ∧
      (∃ severity folder, c.Usable severity folder ∧ folder.root = c.dataDir ∧
        folder.extension = c.extension ∧
        ∀ level, (prepare files path? dataDir?).run.run level = (.ok (c, folder), severity)) ∧
      ∀ level elapsed sql,
        (runQuery files level elapsed path? dataDir? sql).result = .ok () ∨
          ∃ code, (runQuery files level elapsed path? dataDir? sql).result = .error (.query code)) ∧
    (∀ path (own c : Config), path? = some path → own.Written files path →
      ((resolveConfig files path? dataDir?).value = .ok c ↔
        own.validate = .ok () ∧ c = { own with dataDir := dataDir?.getD own.dataDir } ∧
          c.validate = .ok ())) ∧
    ∀ failure, (resolveConfig files path? dataDir?).value = .error failure →
      (failure = .missingDataDir ↔ path? = none ∧ dataDir? = none) ∧
      (failure ≠ .missingDataDir → ∃ error, failure = .config error) ∧
      ∀ level, (prepare files path? dataDir?).run.run level = (.error failure, level) := by
  refine ⟨?_, ?_, ?_⟩
  · intro c h
    obtain ⟨severity, folder, hc, hroot, hextension⟩ :=
      Config.exists_usable (validate_of_resolveConfig h)
    exact ⟨given_of_resolveConfig h, ⟨severity, folder, hc, hroot, hextension, prepare_of_ok h hc⟩,
      result_runQuery_of_ok h⟩
  · rintro path own c rfl hwritten
    exact resolveConfig_eq_ok_iff_of_written hwritten
  · intro failure h
    obtain ⟨hpath, hdir, rfl⟩ | ⟨hsome, error, rfl⟩ := failure_of_resolveConfig h
    · exact ⟨by simp [hpath, hdir], fun hne => absurd rfl hne, prepare_of_error h⟩
    · exact ⟨by simp [hsome], fun _ => ⟨error, rfl⟩, prepare_of_error h⟩

/-- A file with settings of its own and a folder given by option; a file with a
delimiter that is no single character. -/
theorem resolveConfig_usable_sample :
    let file (members : Json.Texts) : Files := fun _ => .ok (Text.encode
      (Json.object (members.map fun m => (m.1, Json.quote m.2))))
    let members : Json.Texts :=
      [("log_level", "error"), ("extension", "tsv"), ("delimiter", ";"), ("data_dir", "data")]
    let own : Files := file members
    let bad : Files := file [("delimiter", ";;"), ("data_dir", "data")]
    let c : Config := ⟨"other", "tsv", ";", "error"⟩
    let failure : Failure := .config (.badDelimiter ";;")
    (resolveConfig own (some "flat.json") (some "other")).value = .ok c ∧
      c.Given own (some "flat.json") (some "other") ∧
      (∀ level, (prepare own (some "flat.json") (some "other")).run.run level =
        (.ok (c, ⟨"other", "tsv", 0x3B⟩), .error)) ∧
      (resolveConfig bad (some "flat.json") none).value = .error failure ∧
      ∀ level, (prepare bad (some "flat.json") none).run.run level = (.error failure, level) := by
  intro file members own bad c failure
  have hwritten : Config.Written own "flat.json" ⟨"data", "tsv", ";", "error"⟩ :=
    @Config.Written.object own "flat.json" members "data" rfl (by decide) (by decide) rfl
  have hc : (resolveConfig own (some "flat.json") (some "other")).value = .ok c :=
    ((resolveConfig_usable _ _ _).2.1 "flat.json" _ c rfl hwritten).mpr
      ⟨by decide +kernel, rfl, by decide +kernel⟩
  have hfailure : (resolveConfig bad (some "flat.json") none).value = .error failure := by
    decide +kernel
  obtain ⟨hgiven, ⟨severity, folder, husable, -, -, hprepare⟩, -⟩ :=
    (resolveConfig_usable _ _ _).1 c hc
  have hseverity : c.logSeverity = .ok .error := by decide +kernel
  have hfolder : c.folder = .ok ⟨"other", "tsv", 0x3B⟩ := by decide +kernel
  obtain rfl := Except.ok.inj (hseverity.symm.trans husable.logSeverity_eq)
  obtain rfl := Except.ok.inj (hfolder.symm.trans husable.folder_eq)
  exact ⟨hc, hgiven, hprepare, hfailure, ((resolveConfig_usable _ _ _).2.2 failure hfailure).2.2⟩

end Command

end FlatQuery
