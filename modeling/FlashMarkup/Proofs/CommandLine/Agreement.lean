import FlashMarkup.Proofs.CommandLine.Compiling

/-!
# Checking agrees with compiling

Checking a file goes through the same phases as compiling it, but tells the outcome in another
way: it collects what it finds, and compiling fails with it. So one succeeds as far as its text
goes exactly if the other does, and both name the same problems in the same order, each command in
its own words.
-/

namespace FlashMarkup

/-- What checking says in front of a problem: the phase that failed, unless the problem is a
    violation of the grammar. -/
def ErrorCategory.phaseWords : ErrorCategory → Text
  | .lexical => "lexical error: "
  | .syntactic => "syntax error: "
  | .semantic | .general => []

/-- The messages of an error are the entries that a report has for it, behind other words. -/
theorem CompileError.messages_eq (problem : CompileError) :
    problem.messages = (ReportedError.ofCompileError problem).map
      fun entry => entry.category.phaseWords ++ entry.message := by
  cases problem with
  | lexical failure => rfl
  | syntactic failure => rfl
  | semantic diagnostics =>
    rw [ReportedError.ofCompileError, List.map_map]
    rfl

/-- Checking finds nothing in a source that compiles, and else it finds why the source does not. -/
theorem check_eq (options : CompileOptions) (source : Text) :
    check source =
      match compile options source with
      | .ok _ => .ok []
      | .error (.semantic diagnostics) => .ok diagnostics
      | .error problem => .error problem := by
  unfold check compile
  cases parsed : parse source with
  | error problem =>
    -- parsing never fails with violations of the grammar
    have arises : problem.ArisesFrom source :=
      compile_eq_error_iff.mp (show compile options source = .error problem by
        rw [compile, parsed]
        rfl)
    cases problem with
    | lexical failure => rfl
    | syntactic failure => rfl
    | semantic diagnostics =>
      obtain ⟨document, read, -⟩ := arises
      rw [parsed] at read
      cases read
  | ok document =>
    simp only [Except.map, bind, Except.bind]
    cases document.validate <;> rfl

namespace Session

variable (filter : Option Text) (logger : Logger) (session : Session)

/-- Checking at the command line, told from what compiling the same source gives. -/
theorem run_checkCommand (options : CompileOptions) (path : Text) :
    (Program.checkCommand (console filter) logger path).run session =
      match session.files.readText (.ofText path) with
      | .error failure =>
        (.failure,
          session.complaining ("Error reading " ++ path ++ ": " ++ failure.message ++ "\n"))
      | .ok source =>
        let heard := notedAll logger session (Journal.ofCheck source)
        match compile options source with
        | .ok _ => (.success, heard.printing (Program.fileLine path "ok"))
        | .error problem =>
          (.failure, heard.complaining (problem.messages.flatMap (Program.fileLine path))) := by
  unfold Program.checkCommand
  rw [run_withSource]
  cases session.files.readText (.ofText path) with
  | error failure => rfl
  | ok source =>
    dsimp only
    rw [StateT.run_bind, run_forM_log, check_eq options]
    generalize notedAll logger session (Journal.ofCheck source) = heard
    cases compiled : compile options source with
    | ok result => rfl
    | error problem =>
      have present := (compile_eq_error_iff.mp compiled).problems_ne_nil
      cases problem with
      | lexical failure => exact run_complainAll filter heard path _
      | syntactic failure => exact run_complainAll filter heard path _
      | semantic diagnostics =>
        cases diagnostics with
        | nil => exact absurd rfl present
        | cons first rest => exact run_complainAll filter heard path _

/-- A line that checking prints about an entry of a report. -/
def checkLine (path : Text) (entry : ReportedError) : Text :=
  Program.fileLine path (entry.category.phaseWords ++ entry.message)

variable {logger session} {system : FileSystem} {path : Text}

/-- Checking in a session that has the files of a file system: it succeeds if the file is a text
    that compiles, it complains about every problem of a text that does not, and the files stay
    the same. -/
theorem checkCommand_spec (has : HasFiles logger session system)
    (spared : logger.Spares system (.ofText path)) (options : CompileOptions) :
    let checked := (Program.checkCommand (console filter) logger path).run session
    (checked.1 = .success ↔ ∃ source result,
      system.readText (.ofText path) = .ok source ∧ compile options source = .ok result) ∧
    (∀ source problem, system.readText (.ofText path) = .ok source →
      compile options source = .error problem →
        checked.2.complaints = session.complaints ++
          (Journal.ofCheck source).flatMap logger.shown ++
            (ReportedError.ofCompileError problem).flatMap (checkLine path)) ∧
    HasFiles logger checked.2 system := by
  have read (source : Text) : session.files.readText (.ofText path) = .ok source ↔
      system.readText (.ofText path) = .ok source := has.readText_iff spared
  simp only [← read]
  rw [run_checkCommand filter logger session options]
  cases session.files.readText (.ofText path) with
  | error failure => exact ⟨by simp, nofun, has⟩
  | ok source =>
    obtain ⟨-, complaints⟩ := notedAll_streams logger session (Journal.ofCheck source)
    have heard := has.notedAll (Journal.ofCheck source)
    dsimp only
    cases compiled : compile options source with
    | ok result =>
      refine ⟨iff_of_true rfl ⟨source, result, rfl, compiled⟩, ?_, heard⟩
      rintro _ problem ⟨⟩ failed
      rw [compiled] at failed
      cases failed
    | error problem =>
      refine ⟨iff_of_false nofun ?_, ?_, heard⟩
      · rintro ⟨_, result, ⟨⟩, compiles⟩
        rw [compiled] at compiles
        cases compiles
      · rintro _ other ⟨⟩ failed
        obtain rfl : problem = other := Except.error.inj (compiled.symm.trans failed)
        have said : problem.messages.flatMap (Program.fileLine path) =
            (ReportedError.ofCompileError problem).flatMap (checkLine path) := by
          rw [problem.messages_eq, List.flatMap_map]
          rfl
        rw [← complaints, ← said]
        rfl

/-- Compiling in a session whose log is another file succeeds if the file is a text that compiles
    and both artifacts are taken. -/
theorem compileCommand_success_iff (has : HasFiles logger session system)
    (spared : logger.Spares system (.ofText path))
    (distinct : ¬Depot.Collides (.ofText path) none) (chosen : Settings) (wholeReport : Bool) :
    ((Program.compileCommand (console filter) logger chosen path none wholeReport).run
        session).1 = .success ↔
      ∃ source result, system.readText (.ofText path) = .ok source ∧
        compile chosen.compileOptions source = .ok result ∧
          system.Takes (result.files chosen.compileOptions
            (artifactPaths (.ofText path) none)) := by
  rw [run_compileCommand]
  dsimp only [Option.map_none]
  rw [exitCode_eq_success_iff]
  obtain ⟨collides | unread, fails⟩ | ⟨source, problem, -, text, failed, run⟩ |
    ⟨source, result, -, text, compiled, success, -⟩ :=
      compiling_cases filter chosen.compileOptions none has spared
  · exact absurd collides distinct
  · simp [fails, unread]
  · simp [run, text, failed, Report.failed, Report.isSuccess, entries_ne_nil failed]
  · simp [text, compiled, success]

/-- What compiling complains about in a session whose log is another file, if the file is a text
    that does not compile. -/
theorem compileCommand_failure (has : HasFiles logger session system)
    (spared : logger.Spares system (.ofText path))
    (distinct : ¬Depot.Collides (.ofText path) none) (chosen : Settings) {source : Text}
    {problem : CompileError} (text : system.readText (.ofText path) = .ok source)
    (failed : compile chosen.compileOptions source = .error problem) :
    (compiling filter logger session chosen.compileOptions (.ofText path) none).1 =
        .failed (.ofText path) (ReportedError.ofCompileError problem) ∧
      ((Program.compileCommand (console filter) logger chosen path none false).run
          session).2.complaints = session.complaints ++
        (failureEvents chosen.compileOptions (.ofText path) source problem).flatMap logger.shown ++
          (ReportedError.ofCompileError problem).flatMap Program.errorLine := by
  have run : compiling filter logger session chosen.compileOptions (.ofText path) none =
      (.failed (.ofText path) (ReportedError.ofCompileError problem), notedAll logger session
        (failureEvents chosen.compileOptions (.ofText path) source problem)) := by
    obtain ⟨collides | unread, -⟩ | ⟨other, otherProblem, -, textToo, failedToo, run⟩ |
      ⟨other, result, -, textToo, compiled, -⟩ :=
        compiling_cases filter chosen.compileOptions none has spared
    · exact absurd collides distinct
    · exact absurd text (unread source)
    · obtain rfl : source = other := Except.ok.inj (text.symm.trans textToo)
      obtain rfl : problem = otherProblem := Except.error.inj (failed.symm.trans failedToo)
      exact run
    · obtain rfl : source = other := Except.ok.inj (text.symm.trans textToo)
      cases failed.symm.trans compiled
  obtain ⟨-, complaints⟩ := notedAll_streams logger session
    (failureEvents chosen.compileOptions (.ofText path) source problem)
  rw [run_compileCommand]
  dsimp only [Option.map_none]
  rw [run, ← complaints]
  generalize notedAll logger session _ = heard
  exact ⟨rfl, rfl⟩

variable {filter} {config : Option Text} {chosen : Settings}

/-- Checking a file agrees with compiling it, for a file whose artifacts are other files and which
    is not the log. Checking succeeds if the file is a text that compiles. If the text does not
    compile, both commands complain about the entries of the report of compiling it, one line for
    each, behind what they log. Checking leaves all files but the log as they are. And compiling
    succeeds if checking does and both artifacts are taken. -/
theorem check_agrees_with_compile (loads : settings filter config system = .ok chosen)
    (distinct : ¬Depot.Collides (.ofText path) none)
    (apart : ∀ log ∈ chosen.logFile, ¬system.SameFile log (.ofText path)) :
    let checked := outcome filter config (.check path) system
    let compiled := outcome filter config (.compile path none false) system
    let begun := opened filter chosen system
    let report := (compiling filter begun.1 begun.2 chosen.compileOptions (.ofText path) none).1
    (checked.1 = .success ↔ ∃ source result, system.readText (.ofText path) = .ok source ∧
      compile chosen.compileOptions source = .ok result) ∧
    (∀ source problem, system.readText (.ofText path) = .ok source →
      compile chosen.compileOptions source = .error problem →
        report = .failed (.ofText path) (ReportedError.ofCompileError problem) ∧
        checked.2.complaints = begun.2.complaints ++
          (Journal.ofCheck source).flatMap begun.1.shown ++
            report.errors.flatMap (checkLine path) ∧
        compiled.2.complaints = begun.2.complaints ++
          (failureEvents chosen.compileOptions (.ofText path) source problem).flatMap
            begun.1.shown ++
            report.errors.flatMap Program.errorLine) ∧
    FileSystem.AgreeOutside (chosen.logFile.bind system.destination?) checked.2.files system ∧
    (compiled.1 = .success ↔ checked.1 = .success ∧
      ∀ source result, system.readText (.ofText path) = .ok source →
        compile chosen.compileOptions source = .ok result →
          system.Takes (result.files chosen.compileOptions
            (artifactPaths (.ofText path) none))) := by
  have spared := spares_of_not_sameFile filter apart
  obtain ⟨-, -, has⟩ := opened_spec filter chosen system
  have within := place?_opened filter chosen system
  obtain ⟨succeeds, complains, keeps⟩ :=
    checkCommand_spec filter has spared chosen.compileOptions
  have taken := compileCommand_success_iff filter has spared distinct chosen false
  rw [outcome_eq loads, outcome_eq loads]
  refine ⟨succeeds, ?_, ?_, ?_⟩
  · intro source problem text failed
    obtain ⟨reported, complaints⟩ :=
      compileCommand_failure filter has spared distinct chosen text failed
    rw [reported]
    exact ⟨rfl, complains source problem text failed, complaints⟩
  · exact FileSystem.AgreeOutside.mono keeps within
  · refine taken.trans (Iff.trans ?_ (and_congr_left' succeeds.symm))
    constructor
    · rintro ⟨source, result, text, compiles, both⟩
      refine ⟨⟨source, result, text, compiles⟩, ?_⟩
      intro other otherResult textToo compilesToo
      obtain rfl : source = other := Except.ok.inj (text.symm.trans textToo)
      obtain rfl : result = otherResult := Except.ok.inj (compiles.symm.trans compilesToo)
      exact both
    · rintro ⟨⟨source, result, text, compiles⟩, both⟩
      exact ⟨source, result, text, compiles, both source result text compiles⟩

/-- A script with an attribute that its title may not have. -/
def violatingScript : FileSystem :=
  ⟨[([Text.toBytes "m"],
    .file (Text.toBytes "@velocista@@titulo x='1'@Hi@/titulo@@/velocista@\n"))], []⟩

/-- Both commands fail on the script with the same message, each behind its own log. -/
theorem check_agrees_with_compile_violating :
    settings none none violatingScript = .ok ⟨{}, {}, "info", none⟩ ∧
      ¬Depot.Collides (.ofText "m") none ∧
      (outcome none none (.check "m") violatingScript).1 ≠ .success ∧
      (outcome none none (.compile "m" none false) violatingScript).1 ≠ .success ∧
      (outcome none none (.check "m") violatingScript).2.complaints =
        "0  WARN validation failed count=1\n" ++
          "m: attribute 'x' is not allowed on 'titulo' at 1:12\n" ∧
      (outcome none none (.compile "m" none false) violatingScript).2.complaints =
        "0  INFO compiling file input=m\n" ++ "0  INFO compiling bytes=49\n" ++
          "0  WARN validation failed, skipping emitters count=1\n" ++
            "0 ERROR 1 semantic error(s)\n" ++
              "  - attribute 'x' is not allowed on 'titulo' at 1:12 input=m\n" ++
          "semantic error: attribute 'x' is not allowed on 'titulo' at 1:12\n" := by
  have loads : settings none none violatingScript = .ok ⟨{}, {}, "info", none⟩ := by
    decide +kernel
  have distinct : ¬Depot.Collides (.ofText "m") none := by decide +kernel
  have text : violatingScript.readText (.ofText "m") =
      .ok "@velocista@@titulo x='1'@Hi@/titulo@@/velocista@\n" := by decide +kernel
  have failed : compile {} "@velocista@@titulo x='1'@Hi@/titulo@@/velocista@\n" =
      .error (.semantic [⟨.disallowedAttribute "titulo" "x", some ⟨1, 12⟩⟩]) := by
    refine Result.map_eq_error_iff.mp (show (compile {}
      "@velocista@@titulo x='1'@Hi@/titulo@@/velocista@\n").map Compiled.html = _ from ?_)
    decide +kernel
  obtain ⟨succeeds, fails, -, compiles⟩ := check_agrees_with_compile loads distinct nofun
  obtain ⟨reported, checked, compiled⟩ := fails _ _ text failed
  have unsuccessful : (outcome none none (.check "m") violatingScript).1 ≠ .success := by
    intro success
    obtain ⟨source, result, textToo, compiles⟩ := succeeds.mp success
    obtain rfl := Except.ok.inj (text.symm.trans textToo)
    cases failed.symm.trans compiles
  rw [reported] at checked compiled
  refine ⟨loads, distinct, unsuccessful, fun success => unsuccessful (compiles.mp success).1,
    ?_, ?_⟩
  · rw [checked]
    decide +kernel
  · rw [compiled]
    decide +kernel

end Session

end FlashMarkup
