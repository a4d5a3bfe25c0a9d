import FlashMarkup.Compile.Place
import Mathlib.Data.List.Basic

/-!
# Running against any files and any sink

Compiling a file reads once and writes at most twice. What a file holds and how a write is answered
may depend on anything, so both are given here as functions of a state that only writes change: a
depot. A file system is one depot, and watching a depot, so that every write attempted on it is
kept with its answer, makes another one. Events may change the state as well, or be dropped. The run
on a depot is computed once, as a function of what is read, how the writes are answered and what the
events do.
-/

namespace FlashMarkup

variable {σ : Type}

/-- Files and a sink for artifacts: what a file holds in a state, and how a write is answered and
    what state it leaves. -/
structure Depot (σ : Type) where
  read : σ → Path → Except FileError Bytes
  write : σ → Path → Text → Except Text Unit × σ

/-- A write that was attempted, with its answer. -/
structure Attempt where
  path : Path
  content : Text
  answer : Except Text Unit

/-- The event about a path. -/
def Workspace.event (level : Log.Level) (message field : Text) (path : Path)
    (others : List (Text × Text)) : Log.Event :=
  ⟨level, Workspace.target, message, (field, path.display) :: others⟩

namespace Attempt

/-- The path of the write, or the entry that a report has for it if it was refused. -/
def result (attempt : Attempt) : Except ReportedError Path :=
  match attempt.answer with
  | .ok () => .ok attempt.path
  | .error reason =>
    .error ⟨.general, "failed to write " ++ attempt.path.display ++ ": " ++ reason⟩

/-- The path of the write, if it was not refused. -/
def written? (attempt : Attempt) : Option Path := Workspace.stored? attempt.result

/-- What is reported about the write once it has been answered. -/
def event (done : Text) (attempt : Attempt) : Log.Event :=
  match attempt.answer with
  | .ok () => Workspace.event .info done "path" attempt.path []
  | .error reason =>
    Workspace.event .error "failed to write artifact" "path" attempt.path [("error", reason)]

/-- The entry that a report has for the write, if it was refused. -/
def complaint? (attempt : Attempt) : Option ReportedError := Workspace.failure? attempt.result

end Attempt

namespace Depot

/-- The text of a file, which has to be well-formed UTF-8. -/
def readText (depot : Depot σ) (state : σ) (path : Path) : Except FileError Text := do
  let content ← depot.read state path
  match content.decode? with
  | some text => .ok text
  | none => .error .notText

/-- The depot as the place of sources and artifacts. Events are dropped. -/
def workspace (depot : Depot σ) : Workspace (StateM σ) where
  read path := do return (depot.readText (← get) path).mapError FileError.message
  store path content := modifyGet fun state => depot.write state path content
  report _ := pure ()

/-- The depot with the writes that have been attempted on it, in order. -/
def watched (depot : Depot σ) : Depot (σ × List Attempt) where
  read state := depot.read state.1
  write state path content :=
    let (answer, after) := depot.write state.1 path content
    (answer, after, state.2 ++ [⟨path, content, answer⟩])

variable (depot : Depot σ) (options : CompileOptions) (input : Path) (output : Option Path)
  (state : σ)

/-- The report of compiling a file. -/
def report : Report := ((depot.workspace.compileFile options input output).run state).1

/-- The state that compiling a file leaves. -/
def after : σ := ((depot.workspace.compileFile options input output).run state).2

/-- The writes that compiling a file attempts. -/
def attempts : List Attempt := (depot.watched.after options input output (state, [])).2

/-- The path of an artifact has the same parts as the path of the input. -/
def Collides : Prop :=
  (artifactPaths input output).1.parts = input.parts ∨
    (artifactPaths input output).2.parts = input.parts

instance : Decidable (Collides input output) := instDecidableOr

/-- The entry that refuses to write over the input. -/
def refusal : ReportedError :=
  ⟨.general, "refusing to overwrite the input " ++ input.display ++
    "; choose another output path with -o"⟩

/-- The entry for an input that cannot be read. -/
def unreadable (failure : FileError) : ReportedError :=
  ⟨.general, "failed to read " ++ input.display ++ ": " ++ failure.message⟩

/-- The report of two attempted writes, the page and the record. -/
def reportOf (first second : Attempt) : Report :=
  ⟨input, first.written?, second.written?, [first, second].filterMap Attempt.complaint?⟩

/-- Watching changes nothing about what is read. -/
theorem readText_watched (earlier : List Attempt) :
    depot.watched.readText (state, earlier) input = depot.readText state input := rfl

/-- Acting on items one after the other takes the state from step to step. -/
theorem run_forM {α : Type} {act : α → StateM σ PUnit} {step : σ → α → σ}
    (each : ∀ item state, (act item).run state = (⟨⟩, step state item)) (items : List α)
    (state : σ) : (items.forM act).run state = (⟨⟩, items.foldl step state) := by
  induction items generalizing state with
  | nil => rfl
  | cons item rest ih =>
    rw [List.foldl_cons, ← ih, List.forM_eq_forM, List.forM_cons, StateT.run_bind, each]
    rfl

section Noting

variable (note : σ → Log.Event → σ)

/-- The depot as the place of sources and artifacts, in which every event is noted in the state. -/
def noting : Workspace (StateM σ) where
  read path := do return (depot.readText (← get) path).mapError FileError.message
  store path content := modifyGet fun state => depot.write state path content
  report event := modify fun state => note state event

/-- A write that is attempted and whose outcome is noted, with the state that is left. -/
def attempt (done : Text) (path : Path) (content : Text) : Attempt × σ :=
  let answered := depot.write state path content
  let tried : Attempt := ⟨path, content, answered.1⟩
  (tried, note answered.2 (tried.event done))

/-- Storing an artifact is one attempted write. -/
theorem run_storeArtifact_noting (done : Text) (path : Path) (content : Text) :
    ((depot.noting note).storeArtifact done path content).run state =
      let tried := depot.attempt state note done path content
      (tried.1.result, tried.2) := by
  have stored : ((depot.noting note).store path content).run state =
      depot.write state path content := rfl
  unfold Workspace.storeArtifact attempt
  rw [StateT.run_bind, stored]
  obtain ⟨answer, after⟩ := depot.write state path content
  cases answer <;> rfl

/-- Compiling a text as a function of how the writes are answered. -/
theorem run_compileText_noting (paths : Path × Path) (source : Text) :
    ((depot.noting note).compileText options input paths source).run state =
      let heard := (Journal.ofCompile options source).foldl note state
      match compile options source with
      | .error problem =>
        (.failed input (ReportedError.ofCompileError problem),
          note heard (Workspace.event .error problem.message "input" input []))
      | .ok compiled =>
        let first := depot.attempt heard note "wrote html" paths.1 compiled.html
        let second := depot.attempt first.2 note "wrote intermediate record" paths.2
          (compiled.json options)
        (reportOf input first.1 second.1, second.2) := by
  have events : ((Journal.ofCompile options source).forM (depot.noting note).report).run state =
      (⟨⟩, (Journal.ofCompile options source).foldl note state) := run_forM (fun _ _ => rfl) _ _
  unfold Workspace.compileText
  rw [StateT.run_bind, events]
  cases compile options source with
  | error problem => rfl
  | ok compiled =>
    change (((depot.noting note).storeArtifact "wrote html" paths.1 compiled.html >>= _ :
      StateM σ Report).run _) = _
    rw [StateT.run_bind, run_storeArtifact_noting]
    dsimp only
    generalize depot.attempt _ note "wrote html" paths.1 compiled.html = first
    change (((depot.noting note).storeArtifact _ _ _ >>= _ : StateM σ Report).run first.2) = _
    rw [StateT.run_bind, run_storeArtifact_noting]
    dsimp only
    generalize depot.attempt first.2 note _ paths.2 (compiled.json options) = second
    obtain ⟨⟨_, _, firstAnswer⟩, between⟩ := first
    obtain ⟨⟨_, _, secondAnswer⟩, final⟩ := second
    cases firstAnswer <;> cases secondAnswer <;> rfl

/-- Compiling a file as a function of what is read and how the writes are answered. -/
theorem run_compileFile_noting :
    ((depot.noting note).compileFile options input output).run state =
      let heard := note state (Workspace.event .info "compiling file" "input" input [])
      if Collides input output then
        (.failed input [refusal input],
          note heard
            (Workspace.event .error "artifact path would overwrite the input" "input" input []))
      else
        match depot.readText heard input with
        | .error failure =>
          (.failed input [unreadable input failure],
            note heard (Workspace.event .error "failed to read source" "input" input
              [("error", failure.message)]))
        | .ok source =>
          ((depot.noting note).compileText options input (artifactPaths input output) source).run
            heard := by
  have collides : ((artifactPaths input output).1.same input ||
      (artifactPaths input output).2.same input) = true ↔ Collides input output := by
    simp [Path.same, Collides]
  have said (level : Log.Level) (message : Text) (others : List (Text × Text)) (state : σ) :
      ((depot.noting note).say level message "input" input others).run state =
        (⟨⟩, note state (Workspace.event level message "input" input others)) := rfl
  have read (state : σ) : ((depot.noting note).read input).run state =
      ((depot.readText state input).mapError FileError.message, state) := rfl
  unfold Workspace.compileFile
  rw [StateT.run_bind, said]
  simp only [collides]
  split
  next => rfl
  next =>
    generalize note state _ = heard
    change (((depot.noting note).read input >>= _ : StateM σ Report).run heard) = _
    rw [StateT.run_bind, read]
    cases depot.readText heard input <;> rfl

end Noting

/-- To drop events is to leave the state as it is at each of them. -/
theorem workspace_eq_noting : depot.workspace = depot.noting fun state _ => state := rfl

/-- Compiling a text as a function of how the writes are answered. -/
theorem run_compileText (paths : Path × Path) (source : Text) :
    (depot.workspace.compileText options input paths source).run state =
      match compile options source with
      | .error problem => (.failed input (ReportedError.ofCompileError problem), state)
      | .ok compiled =>
        let first := depot.write state paths.1 compiled.html
        let second := depot.write first.2 paths.2 (compiled.json options)
        (reportOf input ⟨paths.1, compiled.html, first.1⟩
          ⟨paths.2, compiled.json options, second.1⟩, second.2) := by
  rw [workspace_eq_noting, run_compileText_noting, List.foldl_fixed]
  rfl

/-- Compiling a file as a function of what is read and how the writes are answered. -/
theorem run_compileFile :
    (depot.workspace.compileFile options input output).run state =
      if Collides input output then (.failed input [refusal input], state)
      else
        match depot.readText state input with
        | .error failure => (.failed input [unreadable input failure], state)
        | .ok source =>
          (depot.workspace.compileText options input (artifactPaths input output) source).run
            state := by
  rw [workspace_eq_noting, run_compileFile_noting]

/-- The state that a run leaves is the one that its attempted writes lead to one by one. -/
theorem after_eq_foldl :
    depot.after options input output state =
      (depot.attempts options input output state).foldl
        (fun before attempt => (depot.write before attempt.path attempt.content).2) state := by
  unfold attempts after
  rw [run_compileFile, run_compileFile, readText_watched]
  split
  next => rfl
  next =>
    cases depot.readText state input with
    | error failure => rfl
    | ok source =>
      dsimp only
      rw [run_compileText, run_compileText]
      cases compile options source <;> rfl

end Depot

/-- The files of a file system, with artifacts written to it. -/
def FileSystem.depot : Depot FileSystem where
  read := FileSystem.read
  write system path content :=
    match system.write path content.toBytes with
    | .ok after => (.ok (), after)
    | .error failure => (.error failure.message, system)

/-- Compiling in a file system is compiling in its depot. -/
theorem FileSystem.workspace_eq : FileSystem.workspace = FileSystem.depot.workspace := by
  unfold FileSystem.workspace Depot.workspace FileSystem.depot
  congr 1
  funext path content system
  change (match system.write path content.toBytes with
    | .ok after => do
      set after
      return .ok ()
    | .error failure => return .error failure.message : StateM FileSystem (Except Text Unit))
      system = (match system.write path content.toBytes with
        | .ok after => (.ok (), after)
        | .error failure => (.error failure.message, system))
  cases system.write path content.toBytes <;> rfl

end FlashMarkup
