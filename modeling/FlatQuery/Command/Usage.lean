import FlatQuery.Command.Arguments

/-!
# Usage

What is printed for arguments that run nothing: help, the version, and what
is wrong with the arguments.
-/

namespace FlatQuery.Command

def lines (parts : List String) : String := String.join (parts.map (· ++ "\n"))

def programHelp : String :=
  lines
    ["A small SELECT/JOIN/GROUP BY query engine over flat delimited tables",
      "",
      "Usage: flatsql <COMMAND>",
      "",
      "Commands:",
      "  query    Execute a single query and print the rows as JSON",
      "  explain  Describe how a query would run, without reading any table",
      "  help     Print this message or the help of the given subcommand(s)",
      "",
      "Options:",
      "  -h, --help     Print help",
      "  -V, --version  Print version"]

def Verb.helpText : Verb → String
  | query =>
    lines
      ["Execute a single query and print the rows as JSON",
        "",
        "Usage: flatsql query [OPTIONS] <SQL>",
        "",
        "Arguments:",
        "  <SQL>  Query text",
        "",
        "Options:",
        "      --config <CONFIG>      Path to configuration file",
        "      --data-dir <DATA_DIR>  Table directory; overrides `data_dir` from the config file",
        "  -h, --help                 Print help"]
  | explain =>
    lines
      ["Describe how a query would run, without reading any table",
        "",
        "Usage: flatsql explain <SQL>",
        "",
        "Arguments:",
        "  <SQL>  Query text",
        "",
        "Options:",
        "  -h, --help  Print help"]
  | help =>
    lines
      ["Print this message or the help of the given subcommand(s)",
        "",
        "Usage: flatsql help [COMMAND]...",
        "",
        "Arguments:",
        "  [COMMAND]...  Print help for the subcommand(s)"]

def helpText (verb? : Option Verb) : String :=
  match verb? with
  | none => programHelp
  | some verb => verb.helpText

def versionText : String := lines ["flatsql 0.1.0"]

def UsageError.message : UsageError → String
  | missingCommand => "a command is required"
  | invalidCommand word => "unrecognized subcommand '" ++ word ++ "'"
  | unknownArgument argument => "unexpected argument '" ++ argument ++ "' found"
  | superfluousValue flag => "unexpected value for '--" ++ flag ++ "' found; no more were expected"
  | invalidValue option => "a value is required for '--" ++ option ++ "' but none was supplied"
  | repeatedOption option => "the argument '--" ++ option ++ "' cannot be used multiple times"
  | missingText => "the following required arguments were not provided: <SQL>"

/-- The exit code after arguments that cannot be understood. -/
def usageExitCode : UInt8 := 2

end FlatQuery.Command
