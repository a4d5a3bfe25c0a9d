import FlashMarkup.Compile.Basic
import FlashMarkup.Log.Event
import FlashMarkup.Text.Bytes

/-!
# Events of compiling

What each phase reports about a source. A phase that fails reports nothing, and so do the phases
behind it.
-/

namespace FlashMarkup.Journal

/-- The name under which the phases report. -/
def target : Text := "flashml::flashml::pipeline::compiler"

/-- A field whose value is a number. -/
def count (name : Text) (value : Nat) : Text × Text := (name, Text.decimal value)

/-- The events of tokenizing a source. -/
def ofTokenize (source : Text) : List Log.Event :=
  match tokenize source with
  | .ok tokens => [⟨.debug, target, "lexing complete", [count "tokens" tokens.length]⟩]
  | .error _ => []

/-- The events of parsing a source. -/
def ofParse (source : Text) : List Log.Event :=
  ofTokenize source ++
    match parse source with
    | .ok document =>
      [⟨.debug, target, "parsing complete",
        [count "nodes" document.nodeCount, count "elements" document.elementCount]⟩]
    | .error _ => []

/-- The events of checking a source. -/
def ofCheck (source : Text) : List Log.Event :=
  ofParse source ++
    match check source with
    | .ok (first :: rest) =>
      [⟨.warn, target, "validation failed", [count "count" (first :: rest).length]⟩]
    | _ => []

/-- The events of compiling a source. -/
def ofCompile (options : CompileOptions) (source : Text) : List Log.Event :=
  [⟨.info, target, "compiling", [count "bytes" source.byteLength]⟩] ++ ofParse source ++
    match compile options source with
    | .ok compiled =>
      [⟨.info, target, "compilation complete", [count "html_bytes" compiled.html.byteLength]⟩]
    | .error (.semantic diagnostics) =>
      [⟨.warn, target, "validation failed, skipping emitters",
        [count "count" diagnostics.length]⟩]
    | .error _ => []

end FlashMarkup.Journal
