import FlashMarkup.Storage.Path

/-!
# File systems

A file system holds files and directories under absolute locations and has a current directory.
A path is resolved name by name: every location that is stepped through has to be a directory, also
by a dot. A path that ends in a slash can only lead to a directory.
-/

namespace FlashMarkup

/-- Why a file cannot be read or written. -/
inductive FileError where
  | notFound
  | notDirectory
  | isDirectory
  | nameTooLong
  | notText
  | zeroByte
  | other (message : Text)
deriving DecidableEq, Repr

/-- The message that reports the failure. -/
def FileError.message : FileError → Text
  | .notFound => "No such file or directory (os error 2)"
  | .notDirectory => "Not a directory (os error 20)"
  | .isDirectory => "Is a directory (os error 21)"
  | .nameTooLong => "File name too long (os error 36)"
  | .notText => "stream did not contain valid UTF-8"
  | .zeroByte => "file name contained an unexpected NUL byte"
  | .other message => message

/-- What a location holds. -/
inductive FileSystem.Entry where
  | file (content : Bytes)
  | directory
deriving DecidableEq, Repr

/-- A location: the names on the way from the root. -/
abbrev FileSystem.Location := List Bytes

/-- Files and directories, and the directory at which relative paths start. -/
structure FileSystem where
  entries : List (FileSystem.Location × FileSystem.Entry)
  current : FileSystem.Location

namespace FileSystem

/-- What a location holds. The root is always a directory. -/
def lookup (system : FileSystem) (location : Location) : Option Entry :=
  if location = [] then some .directory
  else (system.entries.find? (·.1 == location)).map Prod.snd

/-- Put an entry at a location, in the place of the one that is there. -/
def place (location : Location) (entry : Entry) :
    List (Location × Entry) → List (Location × Entry)
  | [] => [(location, entry)]
  | (other, old) :: rest =>
    if other = location then (location, entry) :: rest
    else (other, old) :: place location entry rest

/-- The file system with an entry at a location. -/
def store (system : FileSystem) (location : Location) (entry : Entry) : FileSystem :=
  { system with entries := place location entry system.entries }

/-- How many bytes a name may have. -/
def maxName : Nat := 255

/-- How many bytes a path may have. -/
def maxPath : Nat := 4095

/-- Step from a location, which has to be a directory, to the next name. -/
def enter (system : FileSystem) (location : Location) (name : Bytes) :
    Except FileError Location :=
  match system.lookup location with
  | none => .error .notFound
  | some (.file _) => .error .notDirectory
  | some .directory =>
    if name = [Path.dot] then .ok location
    else if name = [Path.dot, Path.dot] then .ok location.dropLast
    else if maxName < name.length then .error .nameTooLong
    else .ok (location ++ [name])

/-- Whether a path can only lead to a directory, because it ends in a slash. -/
def endsInSlash (path : Path) : Bool := path.bytes.getLast? == some Path.slash

/-- The location that a path leads to. Nothing has to be there. -/
def resolve (system : FileSystem) (path : Path) : Except FileError Location :=
  if path.bytes = [] then .error .notFound
  else if path.bytes.contains 0 then .error .zeroByte
  else if maxPath < path.bytes.length then .error .nameTooLong
  else
    ((pieces Path.slash path.bytes).filter fun piece => !piece.isEmpty).foldlM system.enter
      (if path.isAbsolute then [] else system.current)

/-- The bytes of the file that a path leads to. -/
def read (system : FileSystem) (path : Path) : Except FileError Bytes := do
  let location ← system.resolve path
  match system.lookup location with
  | none => .error .notFound
  | some .directory => .error .isDirectory
  | some (.file content) =>
    if endsInSlash path then .error .notDirectory else .ok content

/-- The location of the file that a path leads to, which is there or can be created. -/
def writable (system : FileSystem) (path : Path) : Except FileError Location := do
  let location ← system.resolve path
  match system.lookup location with
  | none => if endsInSlash path then .error .isDirectory else .ok location
  | some .directory => .error .isDirectory
  | some (.file _) => if endsInSlash path then .error .notDirectory else .ok location

/-- The file system after a file has been given new content. -/
def write (system : FileSystem) (path : Path) (content : Bytes) :
    Except FileError FileSystem := do
  let location ← system.writable path
  .ok (system.store location (.file content))

/-- The file system after bytes have been added to the end of a file, which is created if there is
    none. -/
def append (system : FileSystem) (path : Path) (content : Bytes) :
    Except FileError FileSystem := do
  let location ← system.writable path
  match system.lookup location with
  | some (.file old) => .ok (system.store location (.file (old ++ content)))
  | _ => .ok (system.store location (.file content))

/-- The file system with a directory at a location, and directories above it. -/
def makeDirectories (system : FileSystem) : (above below : Location) → FileSystem
  | above, [] => system.store above .directory
  | above, name :: below =>
    makeDirectories (if above = [] then system else system.store above .directory)
      (above ++ [name]) below
termination_by structural _ below => below

/-- A text file's content. -/
def readText (system : FileSystem) (path : Path) : Except FileError Text := do
  let content ← system.read path
  match content.decode? with
  | some text => .ok text
  | none => .error .notText

end FileSystem

end FlashMarkup
