import FlashMarkup.Compile.File

/-!
# Places for artifacts

Two workspaces for compiling files: a file system, in which artifacts replace files, and a shelf next
to a file system, which takes every artifact and leaves the files alone. Both drop events.
-/

namespace FlashMarkup

/-- The text of a file, or the message that says why it cannot be read. -/
def FileSystem.sourceText (system : FileSystem) (path : Path) : Except Text Text :=
  (system.readText path).mapError FileError.message

/-- A file system as the place of sources and artifacts. -/
def FileSystem.workspace : Workspace (StateM FileSystem) where
  read path := do return (← get).sourceText path
  store path content := do
    match (← get).write path content.toBytes with
    | .ok system =>
      set system
      return .ok ()
    | .error failure => return .error failure.message
  report _ := pure ()

/-- A shelf as the place of artifacts, with the sources in a file system. -/
def Shelf.workspace (system : FileSystem) : Workspace (StateM Shelf) where
  read path := pure (system.sourceText path)
  store path content := do
    modify (·.add path content)
    return .ok ()
  report _ := pure ()

/-- A workspace in which storing at some paths fails with a message. -/
def Workspace.refusing {m : Type → Type} [Monad m] (workspace : Workspace m)
    (refuses : Path → Bool) (message : Text) : Workspace m where
  read := workspace.read
  store path content :=
    if refuses path then pure (.error message) else workspace.store path content
  report := workspace.report

end FlashMarkup
