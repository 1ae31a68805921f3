import FlatQuery.Command.Arguments
import FlatQuery.Config
import FlatQuery.KeyOrder

/-!
# Running commands

A command reads files, prints one text, and traces. The settings decide which
records show: those of reading the settings at the level given, those of the
query at the level the settings name.
-/

namespace FlatQuery

namespace Command

/-- Why a command could not do its work. -/
inductive Failure
  | config (error : ConfigError)
  | io (message : String)
  | missingDataDir
  /-- The query failed; its error was printed. -/
  | query (code : String)
deriving DecidableEq, Repr

namespace Failure

def code : Failure → String
  | config _ => "FLATSQL_CLI_CONFIG_ERROR"
  | io _ => "FLATSQL_CLI_IO_ERROR"
  | missingDataDir => "FLATSQL_CLI_MISSING_DATA_DIR"
  | query _ => "FLATSQL_CLI_QUERY_FAILED"

def message : Failure → String
  | config error => error.message
  | io message => message
  | missingDataDir => "No table directory. Pass --data-dir or --config."
  | query code => "Query failed with " ++ code

def render (f : Failure) : String := f.code ++ ": " ++ f.message

end Failure

/-! ## Settings -/

/-- The settings before a folder given by option takes the place of theirs. -/
def baseConfig (files : Files) (path? dataDir? : Option String) :
    Traced (Except Failure Config) :=
  match path?, dataDir? with
  | some path, _ =>
    let loaded := Config.load files path
    ⟨loaded.value.mapError .config, loaded.records⟩
  | none, some dataDir => ⟨.ok (.ofDataDir dataDir), []⟩
  | none, none => ⟨.error .missingDataDir, []⟩

/-- Settings with another folder, if they are valid then. -/
def override (dataDir? : Option String) (base : Config) : Except Failure Config :=
  let config := { base with dataDir := dataDir?.getD base.dataDir }
  match config.validate with
  | .ok _ => .ok config
  | .error error => .error (.config error)

/-- The settings of a query: those of the file, or the usual ones without a
file, over the folder given by option. -/
def resolveConfig (files : Files) (path? dataDir? : Option String) :
    Traced (Except Failure Config) :=
  let base := baseConfig files path? dataDir?
  ⟨base.value.bind (override dataDir?), base.records⟩

/-- The settings of a query and the folder of its tables. The state is the
severity from which the process shows records. -/
def prepare (files : Files) (path? dataDir? : Option String) :
    ExceptT Failure (StateM Severity) (Config × Folder) := do
  let config ← (resolveConfig files path? dataDir?).value
  config.applyLogLevel.adapt Failure.config
  let folder ← config.folder.mapError Failure.config
  return (config, folder)

/-! ## Responses -/

/-- A JSON object with its members in ascending order. -/
def sortedObject (members : List (String × String)) : String :=
  Json.object (sortByKey members)

def rowsResponse (rows : List Row) : String :=
  sortedObject
    [("status", Json.quote "ok"),
      ("data", Json.array (rows.map fun row =>
        sortedObject (row.entries.map fun (key, cell) => (key, cell.json))))]

def errorResponse (error : EngineError) : String :=
  sortedObject
    [("status", Json.quote "error"), ("code", Json.quote error.code),
      ("message", Json.quote error.message)]

/-! ## Outcomes -/

/-- What a command printed, which lines it traced, and how it ended. -/
structure Outcome where
  printed : String
  trace : List String
  result : Except Failure Unit

namespace Outcome

/-- What goes to the error stream: the trace and the failure. -/
def diagnostics (o : Outcome) : String :=
  String.join ((o.trace ++
    match o.result with
    | .ok _ => []
    | .error failure => [failure.render]).map (· ++ "\n"))

def exitCode (o : Outcome) : UInt8 :=
  match o.result with
  | .ok _ => 0
  | .error _ => 1

end Outcome

def runQuery (files : Files) (level : Severity) (elapsed : Nat)
    (path? dataDir? : Option String) (sql : String) : Outcome :=
  let resolved := resolveConfig files path? dataDir?
  let early := level.lines resolved.records
  match resolved.value with
  | .error failure => ⟨"", early, .error failure⟩
  | .ok config =>
    match config.logSeverity, config.folder with
    | .error error, _ | _, .error error => ⟨"", early, .error (.config error)⟩
    | .ok shown, .ok folder =>
      let executed := execute (folder.source files) elapsed sql
      let trace := early ++ shown.lines executed.records
      match executed.value with
      | .ok result => ⟨rowsResponse result.rows ++ "\n", trace, .ok ()⟩
      | .error error => ⟨errorResponse error ++ "\n", trace, .error (.query error.code)⟩

def runExplain (level : Severity) (sql : String) : Outcome :=
  let explained := FlatQuery.explain sql
  ⟨explained.value.text ++ "\n", level.lines explained.records, .ok ()⟩

/-- Runs a command, with records shown from `level` on until settings say otherwise. -/
def run (files : Files) (level : Severity) (elapsed : Nat) : Command → Outcome
  | query config dataDir sql => runQuery files level elapsed config dataDir sql
  | explain sql => runExplain level sql

/-! ## Files -/

/-- The settings file of a command. -/
def configPaths : Command → List String
  | query (some path) _ _ => [path]
  | _ => []

/-- The table files of a command, for which the settings have to be known. -/
def tablePaths (files : Files) : Command → List String
  | query config dataDir sql =>
    match (resolveConfig files config dataDir).value, Plan.parse sql with
    | .ok settings, .ok plan =>
      match settings.folder with
      | .ok folder =>
        (plan.table :: (plan.join.map JoinClause.table).toList).filterMap fun name =>
          (folder.path name).toOption
      | .error _ => []
    | _, _ => []
  | explain _ => []

end Command

end FlatQuery
