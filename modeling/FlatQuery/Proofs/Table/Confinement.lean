import FlatQuery.Command.Run
import Mathlib.Data.String.Basic

/-!
# What a query can read

A query asks its source for the tables of its plan and for nothing else
(`execute_congr`). A folder turns the name of a table into a path, after a check
of the name; the settings check the extension. Only both checks together make the
path one step from the folder (`EntryOf`), whatever the query names, so that no
query reads a file outside of it.
-/

namespace FlatQuery

/-! ## The tables of a query -/

def Plan.tables (plan : Plan) : List String :=
  plan.table :: (plan.join.map JoinClause.table).toList

/-- Two sources that answer alike for some names. -/
structure Source.AgreeOn (source other : Source) (names : List String) : Prop where
  refusal? : ∀ name ∈ names, source.refusal? name = other.refusal? name
  load : ∀ name ∈ names, source.load name = other.load name

section
variable {source other : Source}

theorem loadTable_congr {name : String} (h : source.load name = other.load name) :
    loadTable source name = loadTable other name := by
  unfold loadTable
  rw [h]

theorem loadTables_congr {plan : Plan} (h : source.AgreeOn other plan.tables) :
    loadTables source plan = loadTables other plan := by
  have hmem : plan.table ∈ plan.tables := List.mem_cons_self
  have hfirst := loadTable_congr (h.load _ hmem)
  unfold loadTables
  cases hj : plan.join with
  | none => simp only [hfirst]
  | some clause =>
    have hjoined : clause.table ∈ plan.tables := by simp [Plan.tables, hj]
    have hsecond := loadTable_congr (h.load _ hjoined)
    have hrefusal : firstRefusal? source [plan.table, clause.table] =
        firstRefusal? other [plan.table, clause.table] := by
      unfold firstRefusal?
      simp only [List.findSome?_cons, List.findSome?_nil, h.refusal? _ hmem, h.refusal? _ hjoined]
    simp only [hfirst, hsecond, hrefusal]

theorem execute_congr {query : String} (elapsed : Nat)
    (h : ∀ plan, Plan.parse query = .ok plan → source.AgreeOn other plan.tables) :
    execute source elapsed query = execute other elapsed query := by
  unfold execute
  cases hp : Plan.parse query with
  | error error => rfl
  | ok plan => simp only [loadTables_congr (h plan hp)]

end

/-! ## Entries of a directory -/

/-- The place that a path names. -/
def placeOf (path : String) : Place := (pathNames path).foldl Place.step (Place.start path)

/-- `path` names the entry `file` of a directory: a name that neither cuts the path
again nor stands for a directory on the way, and one step from the directory. -/
structure EntryOf (directory file path : String) : Prop where
  path_eq : path = joinPath directory file
  slash : '/' ∉ file.toList
  backslash : '\\' ∉ file.toList
  ne_here : file ≠ "."
  ne_parent : file ≠ ".."
  place_eq : placeOf path = placeOf directory ++ [file]

theorem pathNames_entry {file : String} (h : '/' ∉ file.toList) : pathNames file = [file] := by
  unfold pathNames
  have hsingle : List.splitOnP (· == '/') file.toList = [file.toList] :=
    List.splitOnP_eq_singleton fun c hc => beq_eq_false_iff_ne.mpr (ne_of_mem_of_not_mem hc h)
  rw [String.splitToList_of_valid, hsingle]
  simp

theorem pathNames_slash (directory file : String) :
    pathNames (directory ++ "/" ++ file) = pathNames directory ++ pathNames file := by
  unfold pathNames
  have htext : (directory ++ "/" ++ file).toList = directory.toList ++ '/' :: file.toList := by simp
  simp only [String.splitToList_of_valid, htext]
  rw [List.splitOnP_append_cons _ _ (by rfl), List.map_append]

theorem start_append {directory : String} (h : directory ≠ "") (rest : String) :
    Place.start (directory ++ rest) = Place.start directory := by
  have hiff : (directory ++ rest).startsWith "/" = directory.startsWith "/" := by
    rw [Bool.eq_iff_iff, String.startsWith_string_iff, String.startsWith_string_iff,
      String.toList_append]
    cases hd : directory.toList with
    | nil => exact absurd (String.toList_eq_nil_iff.mp hd) h
    | cons c s => simp
  unfold Place.start
  rw [hiff]

theorem placeOf_slash {directory file : String} (hd : directory ≠ "") (hf : '/' ∉ file.toList) :
    placeOf (directory ++ "/" ++ file) = (placeOf directory).step file := by
  unfold placeOf
  rw [pathNames_slash, pathNames_entry hf, List.foldl_append, String.append_assoc, start_append hd]
  rfl

/-- It does not matter whether a directory is written with a slash at its end. -/
theorem placeOf_joinPath {directory file : String} (hd : directory ≠ "") (hf : '/' ∉ file.toList) :
    placeOf (joinPath directory file) = (placeOf directory).step file := by
  have hstart : file.startsWith "/" = false := by
    rw [String.startsWith_string_eq_false_iff]
    intro hbegins
    exact hf (hbegins.subset (by decide))
  unfold joinPath
  rw [if_neg (by simp [hstart, hd])]
  split
  · next hend =>
    rw [String.endsWith_eq_endsWith_toSlice, String.Slice.endsWith_string_iff] at hend
    obtain ⟨s, hs⟩ := hend
    obtain ⟨above, rfl⟩ : ∃ above, directory = above ++ "/" :=
      ⟨String.ofList s, by rw [← String.toList_inj]; simpa using hs.symm⟩
    -- the empty name after the slash is no step
    have hnames : pathNames (above ++ "/") = pathNames above ++ [""] := by
      simpa [pathNames_entry] using pathNames_slash above ""
    unfold placeOf
    rw [pathNames_slash, pathNames_entry hf, hnames, start_append hd]
    simp only [List.foldl_append, List.foldl_cons, List.foldl_nil]
    rfl
  · exact placeOf_slash hd hf

/-! ## Names and extensions -/

namespace Folder

theorem hasDoubleDot_iff {s : List Char} : hasDoubleDot s = true ↔ ['.', '.'] <:+: s := by
  fun_induction hasDoubleDot s with
  | case1 rest => simp [List.infix_cons_iff]
  | case2 c rest hrest ih =>
    -- two dots in front are the case before
    have hbegins : ¬ ['.', '.'] <+: c :: rest := by
      rintro ⟨t, ht⟩
      cases ht
      exact hrest t rfl rfl
    rw [List.infix_cons_iff, ih]
    simp [hbegins]
  | case3 => simp

theorem isSafeName_iff {name : String} :
    isSafeName name = true ↔ name ≠ "" ∧ '/' ∉ name.toList ∧ '\\' ∉ name.toList ∧
      ¬ ['.', '.'] <:+: name.toList := by
  unfold isSafeName
  simp [← hasDoubleDot_iff, and_assoc]

theorem path_of_safe (f : Folder) {name : String} (h : isSafeName name = true) :
    f.path name = .ok (joinPath f.root (name ++ "." ++ f.extension)) := by
  unfold path refusal?
  rw [if_pos h]

theorem path_of_not_safe (f : Folder) {name : String} (h : ¬ isSafeName name = true) :
    f.path name = .error (.notFound name) := by
  unfold path refusal?
  rw [if_neg h]

theorem path_error_iff (f : Folder) (name : String) (error : TableError) :
    f.path name = .error error ↔ error = .notFound name ∧
      (name = "" ∨ '/' ∈ name.toList ∨ '\\' ∈ name.toList ∨ ['.', '.'] <:+: name.toList) := by
  by_cases h : isSafeName name = true
  · rw [path_of_safe f h]
    have := isSafeName_iff.mp h
    simp only [reduceCtorEq, false_iff]
    tauto
  · rw [path_of_not_safe f h]
    rw [isSafeName_iff] at h
    simp only [Except.error.injEq]
    constructor
    · rintro rfl
      exact ⟨rfl, by tauto⟩
    · exact fun he => he.1.symm

end Folder

namespace Config

theorem isExtension_iff {s : List Char} :
    isExtension s = true ↔ s ≠ [] ∧ '.' ∉ s ∧ '/' ∉ s ∧ '\\' ∉ s := by
  unfold isExtension
  simp [and_assoc]

theorem validate_ok {c : Config} (h : c.validate = .ok ()) :
    c.dataDir ≠ "" ∧ isExtension c.extension.toList = true ∧
      ∃ delimiter, c.folder = .ok ⟨c.dataDir, c.extension, delimiter⟩ := by
  unfold validate at h
  split at h
  · cases h
  · next hdir =>
    split at h
    · cases h
    · next hext =>
      cases hd : c.delimiterByte with
      | error error => rw [hd] at h; cases h
      | ok delimiter =>
        refine ⟨by simpa using hdir, by simpa using hext, delimiter, ?_⟩
        unfold folder
        rw [hd]
        rfl

end Config

theorem EntryOf.of_safe {directory name extension : String} (hd : directory ≠ "")
    (hname : Folder.isSafeName name = true) (hext : Config.isExtension extension.toList = true) :
    let file := name ++ "." ++ extension
    EntryOf directory file (joinPath directory file) := by
  intro file
  obtain ⟨hempty, hslash, hback, -⟩ := Folder.isSafeName_iff.mp hname
  obtain ⟨hempty', -, hslash', hback'⟩ := Config.isExtension_iff.mp hext
  have htext : file.toList = name.toList ++ '.' :: extension.toList := by simp [file]
  -- Too long to be `.` or `..`, which a name such as `.` may well begin.
  have hlength : 2 < file.toList.length := by
    have hn : 0 < name.toList.length := List.length_pos_iff.mpr (by simpa using hempty)
    have he : 0 < extension.toList.length := List.length_pos_iff.mpr hempty'
    rw [htext, List.length_append, List.length_cons]
    omega
  have hfile : '/' ∉ file.toList := by simp [htext, hslash, hslash']
  have hne : file ≠ "" ∧ file ≠ "." ∧ file ≠ ".." := by
    refine ⟨?_, ?_, ?_⟩ <;> intro he <;> rw [he] at hlength <;> exact absurd hlength (by decide)
  refine ⟨rfl, hfile, by simp [htext, hback, hback'], hne.2.1, hne.2.2, ?_⟩
  rw [placeOf_joinPath hd hfile]
  unfold Place.step
  rw [if_neg (by simp [hne]), if_neg hne.2.2]

theorem EntryOf.file_inj {directory file file' path path' : String}
    (h : EntryOf directory file path)
    (h' : EntryOf directory file' path') (hplace : placeOf path = placeOf path') :
    file = file' := by
  rw [h.place_eq, h'.place_eq] at hplace
  simpa using hplace

theorem Config.entryOf_path {c : Config} {f : Folder} (h : c.validate = .ok ())
    (hfolder : c.folder = .ok f) {name path : String} (hpath : f.path name = .ok path) :
    EntryOf c.dataDir (name ++ "." ++ c.extension) path := by
  obtain ⟨hdir, hext, delimiter, hf⟩ := validate_ok h
  obtain rfl := Except.ok.inj (hf.symm.trans hfolder)
  by_cases hsafe : Folder.isSafeName name = true
  · rw [Folder.path_of_safe _ hsafe] at hpath
    cases hpath
    exact .of_safe hdir hsafe hext
  · rw [Folder.path_of_not_safe _ hsafe] at hpath
    cases hpath

/-! ## Queries over a folder -/

/-- The paths at which a query looks: those of the tables of its plan, where the
folder takes their names. -/
def Folder.Resolves (f : Folder) (query path : String) : Prop :=
  ∃ plan, Plan.parse query = .ok plan ∧ ∃ name ∈ plan.tables, f.path name = .ok path

theorem Folder.execute_congr (f : Folder) {query : String} {files files' : Files} (elapsed : Nat)
    (h : ∀ path, f.Resolves query path → files path = files' path) :
    execute (f.source files) elapsed query = execute (f.source files') elapsed query := by
  refine FlatQuery.execute_congr elapsed fun plan hplan => ⟨fun _ _ => rfl, fun name hname => ?_⟩
  show f.load files name = f.load files' name
  unfold load
  cases hp : f.path name with
  | error error => rfl
  | ok path => simp only [h path ⟨plan, hplan, name, hname, hp⟩]

/-- **Confinement.** Valid settings give a folder. It looks for each table that it
takes under a name of its own, one step from the directory of the settings; it takes
every name but the empty one and those with a slash of either kind or two dots in a
row; and a query over it comes to the same however the files differ at other paths
than those of its tables. -/
theorem Config.folder_confined {c : Config} (h : c.validate = .ok ()) :
    ∃ f : Folder, c.folder = .ok f ∧
      (∀ name path, f.path name = .ok path →
        EntryOf c.dataDir (name ++ "." ++ c.extension) path) ∧
      (∀ name other path path', f.path name = .ok path → f.path other = .ok path' →
        name ≠ other → path ≠ path' ∧ placeOf path ≠ placeOf path') ∧
      (∀ name error, f.path name = .error error ↔ error = .notFound name ∧
        (name = "" ∨ '/' ∈ name.toList ∨ '\\' ∈ name.toList ∨ ['.', '.'] <:+: name.toList)) ∧
      ∀ query elapsed files files', (∀ path, f.Resolves query path → files path = files' path) →
        execute (f.source files) elapsed query = execute (f.source files') elapsed query := by
  obtain ⟨-, -, delimiter, hfolder⟩ := validate_ok h
  let f : Folder := ⟨c.dataDir, c.extension, delimiter⟩
  have hentry : ∀ name path, f.path name = .ok path →
      EntryOf c.dataDir (name ++ "." ++ c.extension) path := fun _ _ => entryOf_path h hfolder
  refine ⟨f, hfolder, hentry, ?_, f.path_error_iff, fun _ elapsed _ _ => f.execute_congr elapsed⟩
  intro name other path path' hpath hpath' hne
  have hplace : placeOf path ≠ placeOf path' := by
    intro heq
    have hfile := (hentry name path hpath).file_inj (hentry other path' hpath') heq
    exact hne (by simpa [String.append_assoc] using hfile)
  exact ⟨fun heq => hplace (congrArg placeOf heq), hplace⟩

/-- A directory that is written with a slash, and a name that ends in a dot. -/
theorem Config.folder_confined_sample :
    let c : Config := { Config.ofDataDir "../data/" with extension := "tsv" }
    let query := "SELECT id FROM a."
    let table : Files := fun path =>
      if path = "../data/a..tsv" then .ok (Text.encode "id\n7\n") else .error .missing
    let others : Files := fun path =>
      if path = "../data/a..tsv" then .ok (Text.encode "id\n7\n") else .ok []
    c.validate = .ok () ∧
      ∃ f : Folder, c.folder = .ok f ∧ f.path "a." = .ok "../data/a..tsv" ∧
        EntryOf "../data/" "a..tsv" "../data/a..tsv" ∧
        f.path "../a" = .error (.notFound "../a") ∧
        execute (f.source table) 0 query = execute (f.source others) 0 query := by
  intro c query table others
  have hvalid : c.validate = .ok () := by decide +kernel
  obtain ⟨f, hfolder, hentry, -, hrefused, hexecute⟩ := folder_confined hvalid
  have hsettings : c.folder = .ok ⟨"../data/", "tsv", 0x2C⟩ := by decide +kernel
  obtain rfl : ⟨"../data/", "tsv", 0x2C⟩ = f := Except.ok.inj (hsettings.symm.trans hfolder)
  have hpath : Folder.path ⟨"../data/", "tsv", 0x2C⟩ "a." = .ok "../data/a..tsv" := by
    decide +kernel
  have hplan : Plan.parse query = .ok ⟨["id"], "a.", [], none, none⟩ := by decide +kernel
  refine ⟨hvalid, _, hfolder, hpath, hentry "a." _ hpath, ?_, hexecute query 0 table others ?_⟩
  · exact (hrefused "../a" _).mpr ⟨rfl, by decide +kernel⟩
  · rintro path ⟨plan, hparse, name, hname, hpath'⟩
    rw [hplan] at hparse
    cases hparse
    obtain rfl : name = "a." := by simpa [Plan.tables] using hname
    rw [hpath] at hpath'
    cases hpath'
    rfl

/-! ## Commands -/

namespace Command

theorem mem_tablePaths_iff {files : Files} {config dataDir : Option String} {sql path : String} :
    path ∈ tablePaths files (.query config dataDir sql) ↔
      ∃ settings f, (resolveConfig files config dataDir).value = .ok settings ∧
        settings.folder = .ok f ∧ f.Resolves sql path := by
  have hok : ∀ tried : Except TableError String, tried.toOption = some path ↔ tried = .ok path := by
    intro tried
    cases tried <;> simp [Except.toOption]
  unfold tablePaths Folder.Resolves Plan.tables
  cases hsettings : (resolveConfig files config dataDir).value with
  | error failure => simp [hsettings]
  | ok settings =>
    cases hplan : Plan.parse sql with
    | error error => simp [hsettings, hplan]
    | ok plan =>
      cases hfolder : settings.folder with
      | error error => simp [hsettings, hplan, hfolder]
      | ok f => simp [hsettings, hplan, hfolder, hok]

theorem validate_of_override {dataDir : Option String} {base settings : Config}
    (h : override dataDir base = .ok settings) : settings.validate = .ok () := by
  unfold override at h
  extract_lets config at h
  cases hvalid : config.validate with
  | error error => rw [hvalid] at h; cases h
  | ok _ =>
    rw [hvalid] at h
    rwa [← Except.ok.inj h]

theorem validate_of_resolveConfig {files : Files} {config dataDir : Option String}
    {settings : Config} (h : (resolveConfig files config dataDir).value = .ok settings) :
    settings.validate = .ok () := by
  unfold resolveConfig at h
  cases hbase : (baseConfig files config dataDir).value with
  | error failure =>
    simp only [hbase] at h
    cases h
  | ok base =>
    simp only [hbase] at h
    exact validate_of_override h

/-- The tables of a command are entries of the directory that its settings name. -/
theorem entryOf_tablePaths {files : Files} {config dataDir : Option String} {sql path : String}
    (h : path ∈ tablePaths files (.query config dataDir sql)) :
    ∃ settings name, (resolveConfig files config dataDir).value = .ok settings ∧
      EntryOf settings.dataDir (name ++ "." ++ settings.extension) path := by
  obtain ⟨settings, f, hsettings, hfolder, plan, -, name, -, hpath⟩ := mem_tablePaths_iff.mp h
  exact ⟨settings, name, hsettings,
    Config.entryOf_path (validate_of_resolveConfig hsettings) hfolder hpath⟩

theorem resolveConfig_congr {files files' : Files} {config : Option String}
    (dataDir : Option String) (h : ∀ path, config = some path → files path = files' path) :
    resolveConfig files config dataDir = resolveConfig files' config dataDir := by
  unfold resolveConfig baseConfig
  cases config with
  | none => cases dataDir <;> rfl
  | some path =>
    have hload : Config.load files path = Config.load files' path := by
      unfold Config.load Config.read Config.readText
      rw [h path rfl]
    simp only [hload]

/-- **What a command reads.** A command does the same however the files differ at
other paths than those of its settings and of its tables. -/
theorem run_eq_of_agree {files files' : Files} (level : Severity) (elapsed : Nat)
    (command : Command)
    (h : ∀ path ∈ command.configPaths ++ command.tablePaths files, files path = files' path) :
    command.run files level elapsed = command.run files' level elapsed := by
  cases command with
  | explain sql => rfl
  | query config dataDir sql =>
    have hconfig : resolveConfig files config dataDir = resolveConfig files' config dataDir := by
      apply resolveConfig_congr
      rintro path rfl
      exact h path (by simp [configPaths])
    show runQuery files level elapsed config dataDir sql =
      runQuery files' level elapsed config dataDir sql
    unfold runQuery
    rw [← hconfig]
    cases hsettings : (resolveConfig files config dataDir).value with
    | error failure => simp only [hsettings]
    | ok settings =>
      simp only [hsettings]
      cases hfolder : settings.folder with
      | error error => cases settings.logSeverity <;> rfl
      | ok f =>
        have hexecute : execute (f.source files) elapsed sql =
            execute (f.source files') elapsed sql := by
          refine f.execute_congr elapsed fun path hpath => h path (List.mem_append_right _ ?_)
          exact mem_tablePaths_iff.mpr ⟨settings, f, hsettings, hfolder, hpath⟩
        cases settings.logSeverity with
        | error error => rfl
        | ok shown => simp only [hexecute]

end Command

end FlatQuery
