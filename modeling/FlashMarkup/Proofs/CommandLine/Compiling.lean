import FlashMarkup.Proofs.CommandLine.Session
import FlashMarkup.Proofs.Compile.Outcome

/-!
# Compiling a file in a session

The session is one more depot, in which events are noted. So the run on a depot says what
compiling does here. What it reads and how its writes are answered does not depend on the log, as
long as the log is another file: only the files that the command is given decide how it ends.
-/

namespace FlashMarkup

/-- The two files that a compiled source becomes: its page and then its record. -/
def Compiled.files (options : CompileOptions) (paths : Path × Path) (compiled : Compiled) :
    List (Path × Bytes) :=
  [(paths.1, compiled.html.toBytes), (paths.2, (compiled.json options).toBytes)]

/-- A report of two writes is a success exactly if both were taken. -/
theorem Depot.isSuccess_reportOf (input : Path) (first second : Attempt) :
    (reportOf input first second).isSuccess = true ↔
      first.answer = .ok () ∧ second.answer = .ok () := by
  simp [reportOf, Report.isSuccess, List.filterMap_eq_nil_iff]

/-- The report of a source that does not compile has an entry. -/
theorem entries_ne_nil {options : CompileOptions} {source : Text} {problem : CompileError}
    (failed : compile options source = .error problem) :
    ReportedError.ofCompileError problem ≠ [] := by
  rw [problem.entries_eq]
  exact mt List.map_eq_nil_iff.mp (compile_eq_error_iff.mp failed).problems_ne_nil

namespace Session

variable (filter : Option Text) (logger : Logger) (session : Session)

/-- The files of a session, with artifacts written to them. -/
def depot : Depot Session where
  read session := session.files.read
  write session path content :=
    match session.files.write path content.toBytes with
    | .ok files => (.ok (), { session with files })
    | .error failure => (.error failure.message, session)

/-- Compiling in a session is compiling in its depot, with every event noted. -/
theorem workspace_eq :
    (console filter).workspace logger = depot.noting (noted logger) := by
  unfold Console.workspace Depot.noting
  congr 1
  · funext path session
    have text : depot.readText session path = session.files.readText path := rfl
    change ((console filter).readText path >>= fun content =>
      pure (content.mapError FileError.message) : StateM Session _).run session = _
    rw [StateT.run_bind, run_readText, ← text]
    rfl
  · funext path content session
    have written : ((console filter).write path content.toBytes).run session =
        ((update fun files => files.write path content.toBytes).run session) := rfl
    change ((console filter).write path content.toBytes >>= fun answer =>
      pure (answer.mapError FileError.message) : StateM Session _).run session = _
    rw [StateT.run_bind, written, run_update]
    change _ = depot.write session path content
    unfold depot
    dsimp only
    cases session.files.write path content.toBytes <;> rfl
  · funext event session
    exact run_log filter logger session event

/-- A write leaves the files after the attempt, and it is taken if its path leads to a file. -/
theorem depot_write (path : Path) (content : Text) :
    (depot.write session path content).2 =
        { session with files := session.files.put path content.toBytes } ∧
      ((depot.write session path content).1 = .ok () ↔
        (session.files.destination? path).isSome) := by
  unfold depot FileSystem.put FileSystem.write FileSystem.destination?
  dsimp only
  cases session.files.writable path <;> simp [bind, Except.bind, Except.toOption]

variable {logger session} {system : FileSystem}

/-- A write in a session that has the files of a file system: the files are those after the write,
    and it is taken if its path leads to a file. -/
theorem HasFiles.attempt (has : HasFiles logger session system) (done : Text) (path : Path)
    (content : Text) :
    HasFiles logger (depot.attempt session (Session.noted logger) done path content).2
        (system.put path content.toBytes) ∧
      ((depot.attempt session (Session.noted logger) done path content).1.answer = .ok () ↔
        (system.destination? path).isSome) := by
  obtain ⟨left, answer⟩ := depot_write session path content
  constructor
  · refine HasFiles.noted ?_ _
    rw [left]
    exact has.put path content.toBytes
  · rw [← has.directories.destination?]
    exact answer

/-- The events about a file that is read and whose text does not compile. -/
def failureEvents (options : CompileOptions) (input : Path) (source : Text)
    (problem : CompileError) : List Log.Event :=
  Workspace.event .info "compiling file" "input" input [] :: Journal.ofCompile options source ++
    [Workspace.event .error problem.message "input" input []]

variable (logger session) (options : CompileOptions) (input : Path) (output : Option Path)

/-- The report of compiling a file in a session, and the session afterwards. -/
def compiling : Report × Session :=
  (((console filter).workspace logger).compileFile options input output).run session

variable {logger session input}

/-- What compiling a file in a session can do, if the log is another file: it fails for a reason
    other than its text, it fails with the problems of the text, or it attempts to write both
    artifacts. -/
theorem compiling_cases (has : HasFiles logger session system)
    (spared : logger.Spares system input) :
    ((Depot.Collides input output ∨ ∀ source, system.readText input ≠ .ok source) ∧
      (compiling filter logger session options input output).1.isSuccess = false) ∨
    (∃ source problem, ¬Depot.Collides input output ∧ system.readText input = .ok source ∧
      compile options source = .error problem ∧
      compiling filter logger session options input output =
        (.failed input (ReportedError.ofCompileError problem),
          notedAll logger session (failureEvents options input source problem))) ∨
    ∃ source result, ¬Depot.Collides input output ∧ system.readText input = .ok source ∧
      compile options source = .ok result ∧
      ((compiling filter logger session options input output).1.isSuccess = true ↔
        system.Takes (result.files options (artifactPaths input output))) ∧
      HasFiles logger (compiling filter logger session options input output).2
        (system.putAll (result.files options (artifactPaths input output))) := by
  let opening := Workspace.event .info "compiling file" "input" input []
  have heard : HasFiles logger (noted logger session opening) system := has.noted opening
  have read (source : Text) :
      depot.readText (noted logger session opening) input = .ok source ↔
        system.readText input = .ok source := heard.readText_iff spared
  unfold compiling
  rw [workspace_eq, Depot.run_compileFile_noting]
  dsimp only
  split
  next collides => exact .inl ⟨.inl collides, rfl⟩
  next distinct =>
    cases found : depot.readText (noted logger session opening) input with
    | error failure =>
      have unread (source : Text) : system.readText input ≠ .ok source := by
        rw [ne_eq, ← read, found]
        nofun
      exact .inl ⟨.inr unread, rfl⟩
    | ok source =>
      have text := (read source).mp found
      dsimp only
      rw [Depot.run_compileText_noting]
      cases compiled : compile options source with
      | error problem =>
        refine .inr (.inl ⟨source, problem, distinct, text, compiled, ?_⟩)
        simp only [failureEvents, notedAll, List.foldl_cons, List.foldl_append,
          List.cons_append, List.foldl_nil]
      | ok result =>
        have journal : HasFiles logger ((Journal.ofCompile options source).foldl
            (noted logger) (noted logger session opening)) system := heard.notedAll _
        obtain ⟨between, page⟩ := journal.attempt "wrote html" (artifactPaths input output).1
          result.html
        obtain ⟨final, record⟩ := between.attempt "wrote intermediate record"
          (artifactPaths input output).2 (result.json options)
        rw [(system.put_sameDirectories _ _).destination?] at record
        refine .inr (.inr ⟨source, result, distinct, text, compiled, ?_, final⟩)
        rw [Depot.isSuccess_reportOf, FileSystem.takes_iff]
        simp only [Compiled.files, List.forall_mem_cons, List.not_mem_nil, false_implies,
          implies_true, and_true]
        exact and_congr page record

/-- A report that is a success is the only one with which compiling succeeds. -/
theorem exitCode_eq_success_iff (succeeded : Bool) :
    Program.exitCode succeeded = .success ↔ succeeded = true := by
  cases succeeded <;> decide

/-- The lines that name the artifacts of a report. -/
def writtenLines (report : Report) : Text :=
  (report.html.toList ++ report.record.toList).flatMap Program.writtenLine

/-- Compiling at the command line: a report on the whole is printed; else the artifacts are named,
    and the errors are complained about. -/
theorem run_compileCommand (logger : Logger) (session : Session) (settings : Settings)
    (path : Text) (output : Option Text) (wholeReport : Bool) :
    (Program.compileCommand (console filter) logger settings path output wholeReport).run session =
      let compiled := compiling filter logger session settings.compileOptions (.ofText path)
        (output.map .ofText)
      (Program.exitCode compiled.1.isSuccess,
        if wholeReport then compiled.2.printing compiled.1.toJson.line
        else (compiled.2.printing (writtenLines compiled.1)).complaining
          (compiled.1.errors.flatMap Program.errorLine)) := by
  unfold Program.compileCommand
  have ran : (((console filter).workspace logger).compileFile settings.compileOptions (.ofText path)
      (output.map .ofText)).run session =
        compiling filter logger session settings.compileOptions (.ofText path)
          (output.map .ofText) := rfl
  rw [StateT.run_bind, ran]
  dsimp only
  generalize compiling filter logger session settings.compileOptions _ _ = compiled
  obtain ⟨report, left⟩ := compiled
  cases wholeReport with
  | true => rfl
  | false =>
    have written := run_forM_print filter left Program.writtenLine
      (report.html.toList ++ report.record.toList)
    have complained := run_forM_complain filter (left.printing (writtenLines report))
      Program.errorLine report.errors
    change ((report.html.toList ++ report.record.toList).forM
      (fun path => (console filter).print (Program.writtenLine path)) >>= fun _ =>
        report.errors.forM (fun error => (console filter).complain (Program.errorLine error)) >>=
          fun _ => pure (Program.exitCode report.isSuccess) : StateM Session ExitCode).run left = _
    rw [StateT.run_bind, written]
    exact congrArg (fun told : PUnit × Session => (Program.exitCode report.isSuccess, told.2))
      complained

end Session

end FlashMarkup
