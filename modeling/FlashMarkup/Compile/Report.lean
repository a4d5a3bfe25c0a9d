import FlashMarkup.Compile.Error
import FlashMarkup.Data.Json
import FlashMarkup.Storage.Path

/-!
# Compile reports

The outcome of compiling one file: which artifacts have been written, and every error in the order
in which it arose.
-/

namespace FlashMarkup

/-- The phase in which an error arose. Everything around the compiler is general. -/
inductive ErrorCategory where
  | lexical
  | syntactic
  | semantic
  | general
deriving DecidableEq, Repr

/-- The word for a category. -/
def ErrorCategory.toText : ErrorCategory → Text
  | .lexical => "lexical"
  | .syntactic => "syntactic"
  | .semantic => "semantic"
  | .general => "general"

/-- An error as a report lists it. -/
structure ReportedError where
  category : ErrorCategory
  message : Text
deriving DecidableEq, Repr

namespace ReportedError

/-- The entries for a compile error, one per problem. -/
def ofCompileError : CompileError → List ReportedError
  | .lexical failure => [⟨.lexical, failure.message⟩]
  | .syntactic failure => [⟨.syntactic, failure.message⟩]
  | .semantic diagnostics => diagnostics.map fun diagnostic => ⟨.semantic, diagnostic.toText⟩

/-- The entry as structured data. -/
def toData (error : ReportedError) : Data :=
  .record [("category", .text error.category.toText), ("message", .text error.message)]

end ReportedError

/-- The outcome of compiling one file. An artifact has a path once it has been written. -/
structure Report where
  input : Path
  html : Option Path
  record : Option Path
  errors : List ReportedError
deriving DecidableEq, Repr

namespace Report

/-- The report of a run that wrote nothing. -/
def failed (input : Path) (errors : List ReportedError) : Report := ⟨input, none, none, errors⟩

/-- Whether the run had no error. -/
def isSuccess (report : Report) : Bool := report.errors.isEmpty

/-- A path that may be missing, as structured data; nothing if it does not spell a text. -/
def pathData? : Option Path → Option Data
  | none => some .null
  | some path => path.toText?.map .text

/-- The report as structured data; nothing if some path does not spell a text. -/
def toData? (report : Report) : Option Data := do
  let input ← pathData? (some report.input)
  let html ← pathData? report.html
  let record ← pathData? report.record
  some (.record [("input", input), ("html", html), ("intermediate", record),
    ("errors", .list (report.errors.map ReportedError.toData))])

/-- The report as JSON; empty if some path does not spell a text. -/
def toJson (report : Report) : Text :=
  match report.toData? with
  | some data => data.toJsonPretty
  | none => []

end Report

end FlashMarkup
