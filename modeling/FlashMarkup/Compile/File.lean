import FlashMarkup.Compile.Journal
import FlashMarkup.Compile.Report
import FlashMarkup.Storage.FileSystem

/-!
# Compiling a file

A source file is read, compiled, and its page and its record are written next to each other. A
path that would be written over the source is refused before anything is read. A failure never
stops the run half-way through a report: each one becomes an entry of the report, and a page that
cannot be written does not keep the record from being written.

The run is described over any place that can read a source, store an artifact and take events,
so the same description serves the real disk, a file system held in memory, and a store that
refuses everything.
-/

namespace FlashMarkup

/-- A place where sources are read, artifacts are stored and events are reported. A failure comes
    with its message. -/
structure Workspace (m : Type → Type) where
  read : Path → m (Except Text Text)
  store : Path → Text → m (Except Text Unit)
  report : Log.Event → m Unit

/-- The paths of the page and of the record: the output path, or else the input path, with its
    extension replaced. -/
def artifactPaths (input : Path) (output : Option Path) : Path × Path :=
  let base := output.getD input
  (base.withExtension "html", base.withExtension "json")

namespace Workspace

/-- The name under which runs on files report. -/
def target : Text := "flashml::flashml::pipeline::report"

variable {m : Type → Type} [Monad m]

/-- Report an event about a path. -/
def say (workspace : Workspace m) (level : Log.Level) (message field : Text) (path : Path)
    (others : List (Text × Text)) : m Unit :=
  workspace.report ⟨level, target, message, (field, path.display) :: others⟩

/-- Store one artifact. The answer is its path, or the entry that says why it is not there. -/
def storeArtifact (workspace : Workspace m) (done : Text) (path : Path) (content : Text) :
    m (Except ReportedError Path) := do
  match ← workspace.store path content with
  | .ok () =>
    workspace.say .info done "path" path []
    return .ok path
  | .error reason =>
    workspace.say .error "failed to write artifact" "path" path [("error", reason)]
    return .error ⟨.general, "failed to write " ++ path.display ++ ": " ++ reason⟩

/-- The path of a stored artifact. -/
def stored? : Except ReportedError Path → Option Path
  | .ok path => some path
  | .error _ => none

/-- The entry for an artifact that is not there. -/
def failure? : Except ReportedError Path → Option ReportedError
  | .ok _ => none
  | .error entry => some entry

/-- Compile the text of a source file and store both artifacts. -/
def compileText (workspace : Workspace m) (options : CompileOptions) (input : Path)
    (paths : Path × Path) (source : Text) : m Report := do
  (Journal.ofCompile options source).forM workspace.report
  match compile options source with
  | .error problem =>
    workspace.say .error problem.message "input" input []
    return .failed input (ReportedError.ofCompileError problem)
  | .ok compiled =>
    let html ← workspace.storeArtifact "wrote html" paths.1 compiled.html
    let record ← workspace.storeArtifact "wrote intermediate record" paths.2
      (compiled.json options)
    return ⟨input, stored? html, stored? record, (failure? html).toList ++ (failure? record).toList⟩

/-- Compile a source file. -/
def compileFile (workspace : Workspace m) (options : CompileOptions) (input : Path)
    (output : Option Path) : m Report := do
  workspace.say .info "compiling file" "input" input []
  let paths := artifactPaths input output
  if paths.1.same input || paths.2.same input then
    workspace.say .error "artifact path would overwrite the input" "input" input []
    return .failed input [⟨.general, "refusing to overwrite the input " ++ input.display ++
      "; choose another output path with -o"⟩]
  else
    match ← workspace.read input with
    | .error reason =>
      workspace.say .error "failed to read source" "input" input [("error", reason)]
      return .failed input
        [⟨.general, "failed to read " ++ input.display ++ ": " ++ reason⟩]
    | .ok source => workspace.compileText options input paths source

end Workspace

/-- Artifacts kept in memory, in the order in which they were stored. -/
structure Shelf where
  artifacts : List (Path × Text)

namespace Shelf

/-- No artifact. -/
def empty : Shelf := ⟨[]⟩

/-- The shelf with one more artifact. -/
def add (shelf : Shelf) (path : Path) (content : Text) : Shelf :=
  ⟨shelf.artifacts ++ [(path, content)]⟩

/-- The first artifact that was stored under the same path. -/
def get? (shelf : Shelf) (path : Path) : Option Text :=
  (shelf.artifacts.find? fun artifact => artifact.1.same path).map Prod.snd

end Shelf

end FlashMarkup
