import FlatQuery.Text.Split

/-!
# Arguments

What a list of arguments asks for. There are two commands: `query` takes the
options `--config` and `--data-dir`, and both take one query text. The value
of an option is the next argument or follows an equals sign; it is taken up
only when the next option, text or end is reached, so that a flag nobody knows
is reported before a value that is no value. After `--` every argument is a
text.
-/

namespace FlatQuery

inductive Command
  | query (config dataDir : Option String) (sql : String)
  | explain (sql : String)
deriving DecidableEq, Repr

namespace Command

/-- The commands by name; `help` tells about the others. -/
inductive Verb
  | query
  | explain
  | help
deriving DecidableEq, Repr

namespace Verb

def name : Verb → String
  | query => "query"
  | explain => "explain"
  | help => "help"

def ofName? (s : String) : Option Verb := [query, explain, help].find? (·.name = s)

end Verb

/-- What a list of arguments asks for. Help without a verb is about the program. -/
inductive Request
  | run (command : Command)
  | help (verb : Option Verb)
  | version
deriving DecidableEq, Repr

inductive UsageError
  | missingCommand
  | invalidCommand (word : String)
  | unknownArgument (argument : String)
  | superfluousValue (flag : String)
  | invalidValue (option : String)
  | repeatedOption (option : String)
  | missingText
deriving DecidableEq, Repr

/-- An option that takes a value. -/
inductive Setting
  | config
  | dataDir
deriving DecidableEq, Repr

namespace Setting

def name : Setting → String
  | config => "config"
  | dataDir => "data-dir"

/-- The options of a command. -/
def ofVerb : Verb → List Setting
  | .query => [config, dataDir]
  | _ => []

end Setting

/-! ## One argument -/

/-- The shape of an argument, whatever its meaning. -/
inductive Argument
  /-- The two dashes after which every argument is a text. -/
  | separator
  | long (name : String) (value : Option String)
  /-- A dash and letters, of which the first decides. -/
  | short (letter : Char)
  | text
deriving DecidableEq, Repr

def Argument.ofString (s : String) : Argument :=
  match s.toList with
  | ['-', '-'] => separator
  | '-' :: '-' :: rest =>
    match Text.splitFirst? '=' rest with
    | some (name, value) => long (String.ofList name) (some (String.ofList value))
    | none => long (String.ofList rest) none
  | '-' :: letter :: _ => short letter
  | _ => text

/-! ## The arguments of a command -/

/-- What was given so far. `pending` is an option that is not taken up yet, with
its value if there is one. -/
structure Given where
  config : Option String
  dataDir : Option String
  sql : Option String
  pending : Option (Setting × Option String)
deriving DecidableEq, Repr

namespace Given

def nothing : Given := ⟨none, none, none, none⟩

def value? (g : Given) : Setting → Option String
  | .config => g.config
  | .dataDir => g.dataDir

/-- Takes up an option. It comes once and its value is not empty. -/
def take (g : Given) (setting : Setting) (value : String) : Except UsageError Given :=
  if (g.value? setting).isSome then .error (.repeatedOption setting.name)
  else if value.isEmpty then .error (.invalidValue setting.name)
  else
    match setting with
    | .config => .ok { g with config := some value }
    | .dataDir => .ok { g with dataDir := some value }

/-- Takes up the pending option. -/
def settle (g : Given) : Except UsageError Given :=
  match g.pending with
  | none => .ok g
  | some (setting, none) => .error (.invalidValue setting.name)
  | some (setting, some value) => { g with pending := none }.take setting value

/-- Takes up a query text, of which there is one. -/
def addText (g : Given) (text : String) : Except UsageError Given :=
  if g.sql.isSome then .error (.unknownArgument text)
  else g.settle.map fun settled => { settled with sql := some text }

/-- The command, once there are no more arguments. -/
def command (verb : Verb) (g : Given) : Except UsageError Request := do
  let g ← g.settle
  match g.sql, verb with
  | none, _ => .error .missingText
  | some sql, .query => .ok (.run (.query g.config g.dataDir sql))
  | some sql, .explain => .ok (.run (.explain sql))
  | some _, .help => .ok (.help none)

end Given

/-- Reads the arguments that are texts, whatever they look like. -/
def readTexts (verb : Verb) (g : Given) : List String → Except UsageError Request
  | [] => g.command verb
  | text :: rest => do readTexts verb (← g.addText text) rest

/-- Reads the arguments of a command. -/
def readArguments (verb : Verb) (g : Given) : List String → Except UsageError Request
  | [] => g.command verb
  | argument :: rest =>
    match Argument.ofString argument with
    | .separator => readTexts verb g rest
    | .long "help" none => g.settle.map fun _ => .help (some verb)
    | .long "help" (some _) => .error (.superfluousValue "help")
    | .long name value? =>
      match (Setting.ofVerb verb).find? (·.name = name) with
      | none => .error (.unknownArgument argument)
      | some setting => do
        let settled ← g.settle
        match value? with
        | some value => readArguments verb (← settled.take setting value) rest
        | none => readArguments verb { settled with pending := some (setting, none) } rest
    | .short letter =>
      if letter = 'h' then g.settle.map fun _ => .help (some verb)
      else .error (.unknownArgument argument)
    | .text =>
      match g.pending with
      | some (setting, none) =>
        readArguments verb { g with pending := some (setting, some argument) } rest
      | _ => do readArguments verb (← g.addText argument) rest

/-! ## All arguments -/

/-- Help about the program, or about the one verb that is named. -/
def readHelp : List String → Except UsageError Request
  | [] => .ok (.help none)
  | word :: rest =>
    match Verb.ofName? word, rest with
    | none, _ => .error (.invalidCommand word)
    | some verb, [] => .ok (.help (some verb))
    | some _, next :: _ => .error (.invalidCommand next)

/-- After `--` no command can be named any more. -/
def readSeparated : List String → Except UsageError Request
  | [] => .error .missingCommand
  | word :: _ =>
    match Verb.ofName? word with
    | some _ => .error (.unknownArgument word)
    | none => .error (.invalidCommand word)

def Request.parse : List String → Except UsageError Request
  | [] => .error .missingCommand
  | word :: rest =>
    match Verb.ofName? word with
    | some .help => readHelp rest
    | some verb => readArguments verb .nothing rest
    | none =>
      match Argument.ofString word with
      | .separator => readSeparated rest
      | .long "help" none => .ok (.help none)
      | .long "version" none => .ok .version
      | .long "help" (some _) => .error (.superfluousValue "help")
      | .long "version" (some _) => .error (.superfluousValue "version")
      | .long _ _ => .error (.unknownArgument word)
      | .short letter =>
        if letter = 'h' then .ok (.help none)
        else if letter = 'V' then .ok .version
        else .error (.unknownArgument word)
      | .text => .error (.invalidCommand word)

end Command

end FlatQuery
