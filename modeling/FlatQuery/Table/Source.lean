import FlatQuery.Table.Error

/-!
# Where tables come from

A source loads the rows of a named table. Some names it can refuse at once,
before any table is read; `refusal?` says which. `Store` keeps tables in
memory, `Folder` reads one delimited file per table.
-/

namespace FlatQuery

structure Source where
  refusal? : String → Option TableError
  load : String → Except TableError (List Row)

/-! ## Tables in memory -/

/-- Tables by name. A table added under a name in use replaces the other. -/
abbrev Store := OrderMap String (List Row)

namespace Store

def load (s : Store) (name : String) : Except TableError (List Row) :=
  match s.get? name with
  | some rows => .ok rows
  | none => .error (.notFound name)

def source (s : Store) : Source := ⟨fun _ => none, s.load⟩

end Store

/-! ## Tables in a folder -/

structure Folder where
  root : String
  /-- Without the dot. -/
  extension : String
  delimiter : UInt8
deriving DecidableEq, Repr

namespace Folder

def hasDoubleDot : List Char → Bool
  | '.' :: '.' :: _ => true
  | _ :: rest => hasDoubleDot rest
  | [] => false

/-- A name may not be empty, hold a slash of either kind or two dots in a row,
so that no name leads out of the folder. -/
def isSafeName (name : String) : Bool :=
  let s := name.toList
  !s.isEmpty && !s.contains '/' && !s.contains '\\' && !hasDoubleDot s

def refusal? (name : String) : Option TableError :=
  if isSafeName name then none else some (.notFound name)

/-- The file of a table. -/
def path (f : Folder) (name : String) : Except TableError String :=
  match refusal? name with
  | some error => .error error
  | none => .ok (joinPath f.root (name ++ "." ++ f.extension))

/-- The rows of a table text. -/
def parse (f : Folder) (name : String) (bytes : List UInt8) : Except TableError (List Row) :=
  match Delimited.parse f.delimiter bytes with
  | .ok rows => .ok rows
  | .error error => .error (.delimited name error)

def load (files : Files) (f : Folder) (name : String) : Except TableError (List Row) :=
  match f.path name with
  | .error error => .error error
  | .ok path =>
    match files path with
    | .error failure => .error (.ofFailure name failure)
    | .ok bytes => f.parse name bytes

def source (files : Files) (f : Folder) : Source := ⟨refusal?, f.load files⟩

end Folder

end FlatQuery
