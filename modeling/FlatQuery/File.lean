/-!
# Files

Reading a path gives the bytes of a file or a failure. `Directory` holds
files in memory and resolves paths as a file system does: name by name,
where `.` stays and `..` goes up, at last out of the working directory. The
directories above it are there, with no entries but those that were added.
-/

namespace FlatQuery

/-- Why a file could not be read. -/
inductive FailureKind
  | notFound
  | permissionDenied
  | alreadyExists
  | isADirectory
  | notADirectory
  | invalidFilename
  | invalidInput
  | invalidData
  | timedOut
  | interrupted
  | wouldBlock
  | unexpectedEnd
  | unsupported
  | outOfMemory
  | brokenPipe
  | writeZero
  | addressInUse
  | addressNotAvailable
  | connectionRefused
  | connectionReset
  | connectionAborted
  | notConnected
  | other
deriving DecidableEq, Repr

def FailureKind.description : FailureKind → String
  | notFound => "entity not found"
  | permissionDenied => "permission denied"
  | alreadyExists => "entity already exists"
  | isADirectory => "is a directory"
  | notADirectory => "not a directory"
  | invalidFilename => "invalid filename"
  | invalidInput => "invalid input parameter"
  | invalidData => "invalid data"
  | timedOut => "timed out"
  | interrupted => "operation interrupted"
  | wouldBlock => "operation would block"
  | unexpectedEnd => "unexpected end of file"
  | unsupported => "unsupported"
  | outOfMemory => "out of memory"
  | brokenPipe => "broken pipe"
  | writeZero => "write zero"
  | addressInUse => "address in use"
  | addressNotAvailable => "address not available"
  | connectionRefused => "connection refused"
  | connectionReset => "connection reset"
  | connectionAborted => "connection aborted"
  | notConnected => "not connected"
  | other => "other error"

structure ReadFailure where
  kind : FailureKind
  message : String
deriving DecidableEq, Repr

namespace ReadFailure

def ofKind (kind : FailureKind) : ReadFailure := ⟨kind, kind.description⟩

def missing : ReadFailure := ⟨.notFound, "No such file or directory (os error 2)"⟩

def directory : ReadFailure := ⟨.isADirectory, "Is a directory (os error 21)"⟩

def throughFile : ReadFailure := ⟨.notADirectory, "Not a directory (os error 20)"⟩

def nameTooLong : ReadFailure := ⟨.invalidFilename, "File name too long (os error 36)"⟩

def nulByte : ReadFailure :=
  ⟨.invalidInput, "file name contained an unexpected NUL byte"⟩

def invalidUtf8 : ReadFailure := ⟨.invalidData, "stream did not contain valid UTF-8"⟩

end ReadFailure

/-- What reading a path gives. -/
abbrev Files := String → Except ReadFailure (List UInt8)

/-- Joins a file name to a directory path. An empty directory adds nothing, and
a name that begins with a slash stands for itself. -/
def joinPath (directory file : String) : String :=
  if file.startsWith "/" || directory.isEmpty then file
  else if directory.endsWith "/" then directory ++ file
  else directory ++ "/" ++ file

/-! ## Directories in memory -/

/-- Names that lead to a place from the working directory. The first ones may be
`..`, once for each directory above, or the very first `/`, the root. -/
abbrev Place := List String

namespace Place

/-- The place that `..` names. Nothing lies above the root. -/
def parent (place : Place) : Place :=
  match place.getLast? with
  | none => [".."]
  | some ".." => place ++ [".."]
  | some "/" => place
  | some _ => place.dropLast

/-- One name further. The empty name, which comes from two slashes in a row or
a slash at an end, stays as `.` does. -/
def step (place : Place) (name : String) : Place :=
  if name = "" ∨ name = "." then place
  else if name = ".." then place.parent
  else place ++ [name]

/-- Where the way along a path begins. -/
def start (path : String) : Place :=
  if path.startsWith "/" then ["/"] else []

/-- The places that names lead through, the first and the last among them. -/
def passed (place : Place) : List String → List Place
  | [] => [place]
  | name :: rest => place :: passed (place.step name) rest

end Place

/-- The names of a path. -/
def pathNames (path : String) : List String := path.splitToList (· == '/')

/-- Files by their places, and the directories that are there. -/
structure Directory where
  files : List (Place × List UInt8)
  folders : List Place

namespace Directory

inductive Node
  | file (bytes : List UInt8)
  | directory (place : Place)

def empty : Directory := ⟨[], [[]]⟩

/-- Adds a file, and the directories on the way to it. A file added later stands
before one that was there. -/
def addFile (d : Directory) (path : String) (bytes : List UInt8) : Directory :=
  let start := Place.start path
  { files := ((pathNames path).foldl Place.step start, bytes) :: d.files
    folders := (start.passed (pathNames path)).dropLast ++ d.folders }

/-- Adds a directory, and those on the way to it. -/
def addFolder (d : Directory) (path : String) : Directory :=
  { d with folders := (Place.start path).passed (pathNames path) ++ d.folders }

/-- What was added at a place. -/
def node? (d : Directory) (place : Place) : Option Node :=
  match d.files.find? (·.1 = place) with
  | some (_, bytes) => some (.file bytes)
  | none => if place ∈ d.folders then some (.directory place) else none

/-- The longest name of a file, in bytes. -/
def maxName : Nat := 255

/-- The longest path, in bytes. -/
def maxPath : Nat := 4095

/-- What a name stands for in a directory. -/
def entry (d : Directory) (place : Place) (name : String) : Except ReadFailure Node :=
  if name ∈ ["", ".", ".."] then .ok (.directory (place.step name))
  else if maxName < name.utf8ByteSize then .error .nameTooLong
  else
    match d.node? (place.step name) with
    | none => .error .missing
    | some node => .ok node

/-- Follows names one by one. Only a directory has entries, `.` and `..` among
them, so nothing may follow a file, not even a slash. -/
def walk (d : Directory) : Node → List String → Except ReadFailure Node
  | node, [] => .ok node
  | .file _, _ :: _ => .error .throughFile
  | .directory place, name :: rest =>
    match d.entry place name with
    | .error failure => .error failure
    | .ok node => walk d node rest

/-- Reads what a path leads to. -/
def read (d : Directory) : Files := fun path =>
  if '\x00' ∈ path.toList then .error .nulByte
  else if path.isEmpty then .error .missing
  else if maxPath < path.utf8ByteSize then .error .nameTooLong
  else
    match d.walk (.directory (Place.start path)) (pathNames path) with
    | .error failure => .error failure
    | .ok (.directory _) => .error .directory
    | .ok (.file bytes) => .ok bytes

end Directory

end FlatQuery
