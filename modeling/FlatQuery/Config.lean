import FlatQuery.Engine
import FlatQuery.Json.Reader

/-!
# Settings

Where the tables are, how they are written and what is traced. The settings
are kept in a JSON file in which only the folder of the tables is required.
-/

namespace FlatQuery

structure Config where
  dataDir : String
  /-- Of the table files, without the dot. -/
  extension : String
  delimiter : String
  logLevel : String
deriving DecidableEq, Repr

inductive ConfigError
  | unreadable (path : String) (failure : ReadFailure)
  | unparsable (fault : Json.LocatedFault)
  | emptyDataDir
  | badExtension (extension : String)
  | badDelimiter (delimiter : String)
  | badLogLevel (name : String)
deriving DecidableEq, Repr

def ConfigError.message : ConfigError → String
  | unreadable path failure => "Failed to read config " ++ path ++ ": " ++ failure.message
  | unparsable fault => "Invalid config JSON: " ++ fault.message
  | emptyDataDir => "Invalid config: data_dir must not be empty"
  | badExtension extension => "Invalid config: Invalid extension: '" ++ extension ++ "'"
  | badDelimiter delimiter =>
    "Invalid config: delimiter must be a single ASCII character, got '" ++ delimiter ++ "'"
  | badLogLevel name =>
    "Invalid config: Invalid log_level: '" ++ name ++
      "'. Must be one of trace, info, warn, error, fatal."

namespace Config

/-- Comma-separated tables in `dataDir`, and warnings shown. -/
def ofDataDir (dataDir : String) : Config := ⟨dataDir, "csv", ",", "warn"⟩

/-- The settings as a JSON object. -/
def json (c : Config) : String :=
  Json.object
    [("data_dir", Json.quote c.dataDir), ("extension", Json.quote c.extension),
      ("delimiter", Json.quote c.delimiter), ("log_level", Json.quote c.logLevel)]

/-! ## Validity -/

/-- The delimiter, a single byte. -/
def delimiterByte (c : Config) : Except ConfigError UInt8 :=
  match c.delimiter.toList with
  | [d] => if d.toNat < 0x80 then .ok (UInt8.ofNat d.toNat) else .error (.badDelimiter c.delimiter)
  | _ => .error (.badDelimiter c.delimiter)

def logSeverity (c : Config) : Except ConfigError Severity :=
  match Severity.ofName? c.logLevel with
  | some severity => .ok severity
  | none => .error (.badLogLevel c.logLevel)

/-- Records show from the severity of the settings on, in place of the process's own. -/
def applyLogLevel (c : Config) : ExceptT ConfigError (StateM Severity) Unit := do
  set (← c.logSeverity)

/-- An extension has neither dots nor slashes, so that it cannot lead out of the folder. -/
def isExtension (s : List Char) : Bool :=
  !s.isEmpty && !s.contains '.' && !s.contains '/' && !s.contains '\\'

def validate (c : Config) : Except ConfigError Unit := do
  if c.dataDir.isEmpty then .error .emptyDataDir
  else if !isExtension c.extension.toList then .error (.badExtension c.extension)
  else
    let _ ← c.delimiterByte
    let _ ← c.logSeverity
    .ok ()

/-- The folder of the tables. -/
def folder (c : Config) : Except ConfigError Folder := do
  .ok ⟨c.dataDir, c.extension, ← c.delimiterByte⟩

/-! ## Reading -/

/-- The members of a settings file. -/
def form : Json.Form :=
  ⟨"struct Config",
    [⟨"data_dir", "path string", true⟩, ⟨"extension", "a string", false⟩,
      ⟨"delimiter", "a string", false⟩, ⟨"log_level", "a string", false⟩]⟩

/-- Settings from the members that are there. -/
def ofTexts (texts : Json.Texts) : Config :=
  let usual := ofDataDir ((texts.lookup "data_dir").getD "")
  ⟨usual.dataDir, (texts.lookup "extension").getD usual.extension,
    (texts.lookup "delimiter").getD usual.delimiter, (texts.lookup "log_level").getD usual.logLevel⟩

/-- Reads settings, valid or not. -/
def parse (text : String) : Except ConfigError Config :=
  match Json.record form text with
  | .ok texts => .ok (ofTexts texts)
  | .error fault => .error (.unparsable fault)

/-- The text of a file. -/
def readText (files : Files) (path : String) : Except ConfigError String :=
  match files path with
  | .error failure => .error (.unreadable path failure)
  | .ok bytes =>
    match Text.decode? bytes with
    | some text => .ok text
    | none => .error (.unreadable path .invalidUtf8)

/-- Reads a settings file whose settings have to be valid. -/
def read (files : Files) (path : String) : Except ConfigError Config := do
  let config ← parse (← readText files path)
  config.validate
  .ok config

def loadedRecord (c : Config) : Record := Event.configLoaded.record [("data_dir", c.dataDir)]

/-- Reads a settings file and records it. -/
def load (files : Files) (path : String) : Traced (Except ConfigError Config) :=
  match read files path with
  | .ok config => ⟨.ok config, [config.loadedRecord]⟩
  | .error error => ⟨.error error, []⟩

end Config

end FlatQuery
