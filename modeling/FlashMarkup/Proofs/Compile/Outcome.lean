import FlashMarkup.Proofs.Compile.Depot
import FlashMarkup.Proofs.Compile.RoundTrip

/-!
# What the report of a run says

Compiling a file ends in one of four ways: the run is refused because it would write over its
input, the input cannot be read, its text does not compile, or both artifacts are written as far as
the sink lets them. The paths, the text that is read and what it compiles to decide which way it
is, and each way comes with its own errors and attempted writes. The report has a path for exactly
the artifacts that the sink took, and it is free of errors exactly if both were taken. The last
point needs that no failure is reported as an empty list of errors: a document fails validation
only with a violation.
-/

namespace FlashMarkup

namespace CompileError

/-- The phase that fails with an error. -/
def phase : CompileError → ErrorCategory
  | .lexical _ => .lexical
  | .syntactic _ => .syntactic
  | .semantic _ => .semantic

/-- The problems that an error is about, in words: one for a failure of scanning or parsing, and one
    for each violation of the grammar. -/
def problems : CompileError → List Text
  | .lexical failure => [failure.message]
  | .syntactic failure => [failure.message]
  | .semantic diagnostics => diagnostics.map Diagnostic.toText

/-- Whether a source fails with an error: its phase is the first that does not go through, and it
    fails in this way. Validation fails only with some violation. -/
def ArisesFrom (source : Text) : CompileError → Prop
  | .lexical failure => Token.scan source = .error failure
  | .syntactic failure =>
    ∃ tokens, Token.scan source = .ok tokens ∧ Document.ofTokens tokens = .error failure
  | .semantic diagnostics =>
    ∃ document, parse source = .ok document ∧ document.validate = diagnostics ∧ diagnostics ≠ []

/-- The entries for an error are its problems, all in the category of its phase. -/
theorem entries_eq (problem : CompileError) :
    ReportedError.ofCompileError problem = problem.problems.map (⟨problem.phase, ·⟩) := by
  cases problem with
  | lexical failure => rfl
  | syntactic failure => rfl
  | semantic diagnostics =>
    rw [problems, List.map_map]
    rfl

/-- An error that arises is about some problem. -/
theorem ArisesFrom.problems_ne_nil {source : Text} {problem : CompileError}
    (arises : problem.ArisesFrom source) : problem.problems ≠ [] := by
  cases problem with
  | lexical failure => exact List.cons_ne_nil _ _
  | syntactic failure => exact List.cons_ne_nil _ _
  | semantic diagnostics =>
    obtain ⟨document, -, -, present⟩ := arises
    simpa [problems] using present

end CompileError

/-- A source fails to compile with exactly the errors that arise from it. -/
theorem compile_eq_error_iff {options : CompileOptions} {source : Text} {problem : CompileError} :
    compile options source = .error problem ↔ problem.ArisesFrom source := by
  cases scanned : Token.scan source with
  | error failure =>
    have parsed : parse source = .error (.lexical failure) := by
      rw [parse, tokenize, scanned]
      rfl
    rw [compile, parsed]
    cases problem <;> simp [CompileError.ArisesFrom, scanned, parsed, bind, Except.bind]
  | ok tokens =>
    cases read : Document.ofTokens tokens with
    | error failure =>
      have parsed : parse source = .error (.syntactic failure) := by
        rw [parse, tokenize, scanned]
        simp [Except.mapError, bind, Except.bind, read]
      rw [compile, parsed]
      cases problem <;> simp [CompileError.ArisesFrom, scanned, read, parsed, bind, Except.bind]
    | ok document =>
      have parsed : parse source = .ok document := parse_eq_ok_iff.mpr ⟨tokens, scanned, read⟩
      rw [compile, parsed]
      cases checked : document.validate <;> cases problem <;>
        simp [CompileError.ArisesFrom, scanned, read, parsed, checked, bind, Except.bind]
      rintro rfl
      exact List.cons_ne_nil _ _

namespace Attempt

/-- A write gives its path exactly if it was taken. -/
@[simp]
theorem written?_eq_some_iff {attempt : Attempt} {path : Path} :
    attempt.written? = some path ↔ attempt.path = path ∧ attempt.answer = .ok () := by
  obtain ⟨_, _, _ | _⟩ := attempt <;> simp [written?, result, Workspace.stored?]

/-- A write gives no entry exactly if it was taken. -/
@[simp]
theorem complaint?_eq_none_iff {attempt : Attempt} :
    attempt.complaint? = none ↔ attempt.answer = .ok () := by
  obtain ⟨_, _, _ | _⟩ := attempt <;> simp [complaint?, result, Workspace.failure?]

end Attempt

/-- The ways in which compiling a file ends. -/
inductive Ending where
  /-- An artifact would be written over the input. -/
  | refused
  /-- The input cannot be read as a text. -/
  | unreadable (failure : FileError)
  /-- The text of the input does not compile. -/
  | uncompilable (source : Text) (problem : CompileError)
  /-- The text of the input compiles. -/
  | compiled (source : Text) (result : Compiled)

namespace Depot

variable {σ : Type} (depot : Depot σ) (options : CompileOptions) (input : Path)
  (output : Option Path) (state : σ)

/-- What holds of the errors of the report and the attempted writes if a run ends in some way. -/
def EndsIn (errors : List ReportedError) (attempts : List Attempt) : Ending → Prop
  | .refused => Collides input output ∧ errors = [refusal input] ∧ attempts = []
  | .unreadable failure =>
    ¬Collides input output ∧ depot.readText state input = .error failure ∧
      errors = [unreadable input failure] ∧ attempts = []
  | .uncompilable source problem =>
    ¬Collides input output ∧ depot.readText state input = .ok source ∧
      compile options source = .error problem ∧ problem.ArisesFrom source ∧
      errors = problem.problems.map (⟨problem.phase, ·⟩) ∧ errors ≠ [] ∧ attempts = []
  | .compiled source result =>
    ¬Collides input output ∧ depot.readText state input = .ok source ∧
      compile options source = .ok result ∧
      (∃ first second, attempts =
        [⟨(artifactPaths input output).1, result.html, first⟩,
          ⟨(artifactPaths input output).2, result.json options, second⟩]) ∧
      errors = attempts.filterMap Attempt.complaint?

/-- A run ends in one way only: the paths, the text that is read and what it compiles to decide
    between the four. -/
theorem endsIn_unique {errors : List ReportedError} {attempts : List Attempt}
    {first second : Ending}
    (endsFirst : depot.EndsIn options input output state errors attempts first)
    (endsSecond : depot.EndsIn options input output state errors attempts second) :
    first = second := by
  cases first <;> cases second <;> simp_all [EndsIn]

/-- What a run can do: the way in which it ends, with its report and the writes it attempts. -/
theorem run_cases :
    (Collides input output ∧
      depot.report options input output state = .failed input [refusal input] ∧
      depot.attempts options input output state = []) ∨
    (∃ failure, ¬Collides input output ∧ depot.readText state input = .error failure ∧
      depot.report options input output state = .failed input [unreadable input failure] ∧
      depot.attempts options input output state = []) ∨
    (∃ source problem, ¬Collides input output ∧ depot.readText state input = .ok source ∧
      compile options source = .error problem ∧
      depot.report options input output state =
        .failed input (ReportedError.ofCompileError problem) ∧
      depot.attempts options input output state = []) ∨
    ∃ source result, ¬Collides input output ∧ depot.readText state input = .ok source ∧
      compile options source = .ok result ∧
      ∃ first second,
        let html : Attempt := ⟨(artifactPaths input output).1, result.html, first⟩
        let record : Attempt := ⟨(artifactPaths input output).2, result.json options, second⟩
        depot.report options input output state = reportOf input html record ∧
          depot.attempts options input output state = [html, record] := by
  rw [report, attempts, after, run_compileFile, run_compileFile, readText_watched]
  split
  next collides => exact .inl ⟨collides, rfl, rfl⟩
  next apart =>
    cases depot.readText state input with
    | error failure => exact .inr (.inl ⟨failure, apart, rfl, rfl, rfl⟩)
    | ok source =>
      dsimp only
      rw [run_compileText, run_compileText]
      cases compiled : compile options source with
      | error problem =>
        exact .inr (.inr (.inl ⟨source, problem, apart, rfl, compiled, rfl, rfl⟩))
      | ok result =>
        exact .inr (.inr (.inr ⟨source, result, apart, rfl, compiled, _, _, rfl, rfl⟩))

/-- A run ends in some way. -/
theorem exists_ending :
    ∃ ending, depot.EndsIn options input output state
      (depot.report options input output state).errors
      (depot.attempts options input output state) ending := by
  obtain ⟨collides, told, tried⟩ | ⟨failure, apart, read, told, tried⟩ |
    ⟨source, problem, apart, read, compiled, told, tried⟩ |
    ⟨source, result, apart, read, compiled, first, second, told, tried⟩ :=
      depot.run_cases options input output state
  · exact ⟨.refused, collides, by rw [told]; rfl, tried⟩
  · exact ⟨.unreadable failure, apart, read, by rw [told]; rfl, tried⟩
  · have arises : problem.ArisesFrom source := compile_eq_error_iff.mp compiled
    have entries : (depot.report options input output state).errors =
        problem.problems.map (⟨problem.phase, ·⟩) := by
      rw [told, ← problem.entries_eq]
      rfl
    refine ⟨.uncompilable source problem, apart, read, compiled, arises, entries, ?_, tried⟩
    rw [entries]
    exact fun empty => arises.problems_ne_nil (List.map_eq_nil_iff.mp empty)
  · refine ⟨.compiled source result, apart, read, compiled, ⟨first, second, tried⟩, ?_⟩
    rw [told, tried]
    rfl

/-- The paths of the report and whether it is a success, told from the attempted writes. -/
theorem report_of_attempts :
    (depot.report options input output state).html =
      (depot.attempts options input output state)[0]?.bind Attempt.written? ∧
    (depot.report options input output state).record =
      (depot.attempts options input output state)[1]?.bind Attempt.written? ∧
    ((depot.report options input output state).isSuccess = true ↔
      (depot.attempts options input output state).length = 2 ∧
        ∀ attempt ∈ depot.attempts options input output state, attempt.answer = .ok ()) := by
  obtain ⟨-, told, tried⟩ | ⟨failure, -, -, told, tried⟩ |
    ⟨source, problem, -, -, compiled, told, tried⟩ |
    ⟨source, result, -, -, -, first, second, told, tried⟩ :=
      depot.run_cases options input output state
  · simp [told, tried, Report.failed, Report.isSuccess]
  · simp [told, tried, Report.failed, Report.isSuccess]
  · -- the only failure whose list of entries could be empty
    have present := (compile_eq_error_iff.mp compiled).problems_ne_nil
    simp [told, tried, Report.failed, Report.isSuccess, problem.entries_eq, present]
  · simp [told, tried, reportOf, Report.isSuccess, List.filterMap_eq_nil_iff]

/-- The report of compiling a file says what happened. The run ends in exactly one way, the report
    has a path for exactly the artifacts that were taken, and it is a success if both were. -/
theorem report_tells_ending :
    (∃! ending, depot.EndsIn options input output state
      (depot.report options input output state).errors
      (depot.attempts options input output state) ending) ∧
    (∀ path, (depot.report options input output state).html = some path ↔
      ∃ page, (depot.attempts options input output state)[0]? = some ⟨path, page, .ok ()⟩) ∧
    (∀ path, (depot.report options input output state).record = some path ↔
      ∃ json, (depot.attempts options input output state)[1]? = some ⟨path, json, .ok ()⟩) ∧
    ((depot.report options input output state).isSuccess = true ↔
      (depot.attempts options input output state).length = 2 ∧
        ∀ attempt ∈ depot.attempts options input output state, attempt.answer = .ok ()) := by
  obtain ⟨ending, ends⟩ := depot.exists_ending options input output state
  obtain ⟨html, record, success⟩ := depot.report_of_attempts options input output state
  have taken (attempt : Option Attempt) (path : Path) :
      attempt.bind Attempt.written? = some path ↔
        ∃ content, attempt = some ⟨path, content, .ok ()⟩ := by
    rw [Option.bind_eq_some_iff]
    constructor
    · rintro ⟨⟨_, content, _⟩, rfl, written⟩
      obtain ⟨rfl, rfl⟩ := Attempt.written?_eq_some_iff.mp written
      exact ⟨content, rfl⟩
    · rintro ⟨content, rfl⟩
      exact ⟨_, rfl, Attempt.written?_eq_some_iff.mpr ⟨rfl, rfl⟩⟩
  refine ⟨⟨ending, ends, fun other endsToo =>
    depot.endsIn_unique options input output state endsToo ends⟩, ?_, ?_, success⟩
  · exact fun path => html ▸ taken _ path
  · exact fun path => record ▸ taken _ path

end Depot

end FlashMarkup
