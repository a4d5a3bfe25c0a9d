import FlashMarkup.Compile.Error
import FlashMarkup.Document.Record
import FlashMarkup.Html.Page

/-!
# Compiling

A source becomes tokens, the tokens a document, and a document without violations becomes a page
and a record. The phases run in this order and the first that fails decides the error.
-/

namespace FlashMarkup

/-- The tokens of a source. -/
def tokenize (source : Text) : Except CompileError (List Token) :=
  (Token.scan source).mapError .lexical

/-- The document of a source. -/
def parse (source : Text) : Except CompileError Document := do
  let tokens ← tokenize source
  (Document.ofTokens tokens).mapError .syntactic

/-- The violations of the grammar in a source; none if and only if the source compiles. -/
def check (source : Text) : Except CompileError (List Diagnostic) :=
  (parse source).map Document.validate

/-- What can be chosen about both outputs. -/
structure CompileOptions where
  page : Html.Options := {}
  record : Record.Options := {}
deriving DecidableEq, Repr

/-- What a source compiles to. -/
structure Compiled where
  document : Document
  record : Record
  html : Text

/-- Compile a source. Violations of the grammar leave it without any output. -/
def compile (options : CompileOptions) (source : Text) : Except CompileError Compiled := do
  let document ← parse source
  match document.validate with
  | [] => .ok ⟨document, .ofDocument document, Html.renderPage options.page document⟩
  | first :: rest => .error (.semantic (first :: rest))

/-- The record of a compiled source as it is stored. -/
def Compiled.json (options : CompileOptions) (compiled : Compiled) : Text :=
  compiled.record.toJson options.record

end FlashMarkup
