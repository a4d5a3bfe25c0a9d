import FlashMarkup.Text.Bytes

/-!
# Paths

A path is any byte sequence; slashes separate its parts. Empty parts and single dots between
parts do not count, but a dot at the very start does. Two paths are the same if their parts are,
whatever files they lead to.
-/

namespace FlashMarkup

/-- A path as it was written. -/
structure Path where
  bytes : Bytes
deriving DecidableEq, Repr

namespace Path

/-- The byte that separates parts. -/
def slash : UInt8 := 0x2F

/-- The byte that separates a stem from its extension. -/
def dot : UInt8 := 0x2E

/-- The path that a text spells. -/
def ofText (content : Text) : Path := ⟨content.toBytes⟩

/-- The text that spells the path, if its bytes are well-formed. -/
def toText? (path : Path) : Option Text := path.bytes.decode?

/-- The path as a message shows it. -/
def display (path : Path) : Text := path.bytes.display

/-- A part of a path that counts. -/
inductive Part where
  /-- The slash that an absolute path starts with. -/
  | root
  /-- The dot that a relative path may start with. -/
  | here
  | parent
  | name (bytes : Bytes)
deriving DecidableEq, Repr

/-- The part that a piece between slashes stands for. Only the first piece can be `here`. -/
def partOf? (isFirst : Bool) (piece : Bytes) : Option Part :=
  if piece = [] then none
  else if piece = [dot] then if isFirst then some .here else none
  else if piece = [dot, dot] then some .parent
  else some (.name piece)

/-- Whether the path starts at the root. -/
def isAbsolute (path : Path) : Bool := path.bytes.head? == some slash

/-- The parts of the path that count, in order. -/
def parts (path : Path) : List Part :=
  (if path.isAbsolute then [.root] else []) ++
    match pieces slash path.bytes with
    | [] => []
    | first :: rest => (partOf? true first).toList ++ rest.filterMap (partOf? false)

/-- The bytes of a part. -/
def Part.bytes : Part → Bytes
  | .root => []
  | .here => [dot]
  | .parent => [dot, dot]
  | .name spelling => spelling

/-- The parts of the path as a message shows them, joined by single slashes and without the dot that
    it may start with. -/
def displayParts (path : Path) : Text :=
  Text.join "/" ((path.parts.filter (· != .here)).map fun part => part.bytes.display)

/-- Whether two paths have the same parts. -/
def same (first second : Path) : Bool := first.parts == second.parts

/-- A reversed path without the slashes and the single dots it ends with. -/
def dropTrailing : Bytes → Bytes
  | [] => []
  | [byte] => if byte = slash then [] else [byte]
  | byte :: next :: rest =>
    if byte = slash ∨ (byte = dot ∧ next = slash) then dropTrailing (next :: rest)
    else byte :: next :: rest

/-- What stands before the last part of the path, and that part. -/
def split (path : Path) : Bytes × Bytes :=
  let backwards := dropTrailing path.bytes.reverse
  ((backwards.dropWhile (· != slash)).reverse, (backwards.takeWhile (· != slash)).reverse)

/-- The name of the file that the path leads to. A path that ends in dots, or is only a root, has
    none. -/
def fileName? (path : Path) : Option Bytes :=
  let name := path.split.2
  if name = [] ∨ name = [dot] ∨ name = [dot, dot] then none else some name

/-- The stem and the extension of a file name. The extension stands behind the last dot, unless
    the name starts with that dot. -/
def splitName (name : Bytes) : Bytes × Option Bytes :=
  match name.reverse.dropWhile (· != dot) with
  | [] => (name, none)
  | [_] => (name, none)
  | _ :: stem => (stem.reverse, some (name.reverse.takeWhile (· != dot)).reverse)

/-- The extension of the file name. -/
def extension? (path : Path) : Option Bytes := path.fileName?.bind fun name => (splitName name).2

/-- The stem of the file name. -/
def fileStem? (path : Path) : Option Bytes := path.fileName?.map fun name => (splitName name).1

/-- The path cut behind the stem of its file name, with an extension put there. A path without a
    file name stays as it is. -/
def putExtension (path : Path) (extension : Text) : Path :=
  match path.fileStem? with
  | none => path
  | some stem => ⟨path.split.1 ++ stem ++ dot :: extension.toBytes⟩

/-- The path with one more extension behind its file name. A path without a file name stays as it
    is. -/
def addExtension (path : Path) (extension : Text) : Path :=
  match path.fileName? with
  | none => path
  | some name => ⟨path.split.1 ++ name ++ dot :: extension.toBytes⟩

/-- The path with its extension replaced, or with one added. As many bytes as the old extension
    has are cut from the end of the path first, slashes included. -/
def withExtension (path : Path) (extension : Text) : Path :=
  match path.extension? with
  | none => path.putExtension extension
  | some old => putExtension ⟨path.bytes.take (path.bytes.length - old.length)⟩ extension

end Path

end FlashMarkup
