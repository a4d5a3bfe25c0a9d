import FlashMarkup.Document.Parse
import FlashMarkup.Grammar.Validate
import FlashMarkup.Token.Scan

/-!
# Compile errors

A source fails in one of three phases. Scanning and parsing stop at their first failure;
validation reports everything it finds at once.
-/

namespace FlashMarkup

/-- Why a source has no output. -/
inductive CompileError where
  | lexical (failure : LexError)
  | syntactic (failure : SyntaxError)
  | semantic (diagnostics : List Diagnostic)
deriving DecidableEq, Repr

namespace CompileError

/-- The failure of scanning or parsing in words, without the phase. -/
def cause? : CompileError → Option Text
  | .lexical failure => some failure.message
  | .syntactic failure => some failure.message
  | .semantic _ => none

/-- Where scanning or parsing stopped. -/
def position? : CompileError → Option Position
  | .lexical failure => some failure.position
  | .syntactic failure => some failure.position
  | .semantic _ => none

/-- The messages of the error, one per problem. -/
def messages : CompileError → List Text
  | .lexical failure => ["lexical error: " ++ failure.message]
  | .syntactic failure => ["syntax error: " ++ failure.message]
  | .semantic diagnostics => diagnostics.map Diagnostic.toText

/-- The error as one text. Only violations of the grammar take more than one line. -/
def message : CompileError → Text
  | .lexical failure => "lexical error: " ++ failure.message
  | .syntactic failure => "syntax error: " ++ failure.message
  | .semantic diagnostics =>
    Text.decimal diagnostics.length ++ " semantic error(s)" ++
      diagnostics.flatMap fun diagnostic => ("\n  - " : Text) ++ diagnostic.toText

end CompileError

end FlashMarkup
