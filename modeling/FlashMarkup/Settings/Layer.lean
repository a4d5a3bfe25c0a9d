import FlashMarkup.Settings.Basic
import FlashMarkup.Settings.Merge
import FlashMarkup.Storage.FileSystem
import FlashMarkup.Toml.Read

/-!
# Layers of settings

Settings come from layers over the defaults. Files are written over each other in order; overrides
are written over all files, wherever they stand among them. A file that is not there is looked for
once more with an extension added; after that it is an error if the file is required, and no layer
at all if it is not. The same goes for a file that holds no text.
-/

namespace FlashMarkup

/-- A layer over the defaults. -/
inductive Layer where
  /-- A file, with the path at which it was found and its content. -/
  | file (path : Path) (required : Bool) (found : Option (Path × Bytes))
  | override (key : Text) (value : Setting)

namespace Layer

/-- The paths at which a file is looked for. -/
def candidates (path : Path) : List Path := [path, path.addExtension "toml"]

/-- The first readable file at one of the given paths. -/
def find {m : Type → Type} [Monad m] (read : Path → m (Except FileError Bytes)) :
    List Path → m (Option (Path × Bytes))
  | [] => pure none
  | path :: others => do
    match ← read path with
    | .ok content => pure (some (path, content))
    | .error _ => find read others

/-- The layer of a file, as far as it is there. -/
def ofFile {m : Type → Type} [Monad m] (read : Path → m (Except FileError Bytes)) (path : Path)
    (required : Bool) : m Layer := do
  pure (.file path required (← find read (candidates path)))

/-- The entries that a file writes, with the path at which it was found as their origin. -/
def entries (path : Path) (content : Text) : Except SettingsError (List (Text × Setting)) :=
  match Toml.read? content with
  | some table => .ok (Setting.ofTomlEntries (some path.displayParts) table)
  | none => .error (.fileMalformed path)

/-- A configuration with a layer left out, which is an error if the layer is required. -/
def leaveOut (root : Setting) (required : Bool) (failure : SettingsError) :
    Except SettingsError Setting :=
  if required then .error failure else .ok root

/-- A configuration with a file written over it. Overrides wait. -/
def addFile (root : Setting) : Layer → Except SettingsError Setting
  | .file _ required (some (found, content)) =>
    match content.decode? with
    | some text => (entries found text).map root.writeFile
    | none => leaveOut root required (.fileUnreadable .notText)
  | .file path required none => leaveOut root required (.fileNotFound path)
  | .override _ _ => .ok root

/-- The key path and the value of an override. -/
def override? : Layer → Option (Except SettingsError (KeyPath × Setting))
  | .file _ _ _ => none
  | .override key value =>
    some (((KeyPath.ofText key).map fun path => (path, value)).mapError .badKey)

end Layer

namespace Settings

/-- The configuration that layers make. A key that cannot be read is reported before any file is
    looked at. -/
def merge (layers : List Layer) : Except SettingsError Setting := do
  let overrides ← (layers.filterMap Layer.override?).mapM id
  let files ← layers.foldlM Layer.addFile defaults
  .ok (overrides.foldl (fun root (path, value) => root.write path value) files)

/-- The settings that layers make. -/
def ofLayers (layers : List Layer) : Except SettingsError Settings := do
  ofSetting (← merge layers)

end Settings

end FlashMarkup
