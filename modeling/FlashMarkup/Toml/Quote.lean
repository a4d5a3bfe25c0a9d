import FlashMarkup.Number.Decimal
import FlashMarkup.Toml.Layout

/-!
# Quoted texts in TOML files

A text stands between single or double quotes, or between three of either kind if it has several
lines. Only double quotes know escapes. A quoted text is read piece by piece: each piece adds some
content or closes the quotes.
-/

namespace FlashMarkup.Toml

/-- A piece of a quoted text: the content it adds, and the number of characters it takes behind its
    first. -/
inductive Piece where
  | inside (content : Text) (more : Nat)
  | close (content : Text) (more : Nat)

/-- The content up to the closing quotes, and what follows them. -/
def quotedBody (piece? : Char → Text → Option Piece) : Text → Option (Text × Text)
  | [] => none
  | c :: rest =>
    match piece? c rest with
    | none => none
    | some (.inside added more) =>
      (quotedBody piece? (rest.drop more)).map fun (content, left) => (added ++ content, left)
    | some (.close added more) => some (added, rest.drop more)
termination_by source => source.length
decreasing_by simp only [List.length_cons, List.length_drop]; omega

/-- The characters with an escape of one letter. -/
def escapes : List (Char × Char) :=
  [('b', '\x08'), ('t', '\t'), ('n', '\n'), ('f', '\x0c'), ('r', '\r'), ('"', '"'), ('\\', '\\')]

/-- The character with the given code, written with a fixed number of hexadecimal digits. -/
def scalar? (width : Nat) (source : Text) : Option Char := do
  let digits := source.take width
  let code ← if digits.length = width then Text.digits? 16 digits else none
  if code.isValidChar then some (Char.ofNat code) else none

/-- The escape behind a backslash: its character, and the number of characters it takes. -/
def escape? : Text → Option (Char × Nat)
  | [] => none
  | c :: rest =>
    if c = 'u' then (scalar? 4 rest).map fun scalar => (scalar, 5)
    else if c = 'U' then (scalar? 8 rest).map fun scalar => (scalar, 9)
    else (escapes.lookup c).map fun scalar => (scalar, 1)

/-- The number of characters that an escaped line break takes behind its backslash: the rest of the
    line, which has to be blank, and all blanks and line breaks behind it. -/
def escapedBreak? (source : Text) : Option Nat :=
  (lineBreak? (skipBlanks source)).map fun after => source.length - (skipLines after).length

/-- A piece between single quotes. -/
def literalPiece? (c : Char) (_rest : Text) : Option Piece :=
  if c = '\'' then some (.close [] 0)
  else if isPlain c then some (.inside [c] 0)
  else none

/-- A piece between double quotes. -/
def basicPiece? (c : Char) (rest : Text) : Option Piece :=
  if c = '"' then some (.close [] 0)
  else if c = '\\' then (escape? rest).map fun (scalar, count) => .inside [scalar] count
  else if isPlain c then some (.inside [c] 0)
  else none

/-- A run of quotes in a text of several lines. Fewer than three belong to the text; otherwise three
    close it, and up to two before those belong to it. -/
def quoteRun (quote : Char) (rest : Text) : Piece :=
  let more := (rest.takeWhile (· == quote)).length
  if more < 2 then .inside (List.replicate (more + 1) quote) more
  else
    let kept := min (more - 2) 2
    .close (List.replicate kept quote) (kept + 2)

/-- A line break in a text of several lines, which always counts as a line feed. -/
def breakPiece? (c : Char) (rest : Text) : Option Piece :=
  if c = '\n' then some (.inside ['\n'] 0)
  else if c = '\r' ∧ rest.head? = some '\n' then some (.inside ['\n'] 1)
  else none

/-- A piece between three single quotes. -/
def literalLinesPiece? (c : Char) (rest : Text) : Option Piece :=
  if c = '\'' then some (quoteRun '\'' rest)
  else if isPlain c then some (.inside [c] 0)
  else breakPiece? c rest

/-- A piece between three double quotes. -/
def basicLinesPiece? (c : Char) (rest : Text) : Option Piece :=
  if c = '"' then some (quoteRun '"' rest)
  else if c = '\\' then
    match escapedBreak? rest with
    | some count => some (.inside [] count)
    | none => basicPiece? c rest
  else if isPlain c then some (.inside [c] 0)
  else breakPiece? c rest

/-- The text without the line break that may follow three opening quotes. -/
def dropFirstBreak (source : Text) : Text := (lineBreak? source).getD source

/-- A quoted text on one line, and what follows it. -/
def lineQuote? : Text → Option (Text × Text)
  | '"' :: rest => quotedBody basicPiece? rest
  | '\'' :: rest => quotedBody literalPiece? rest
  | _ => none

/-- A quoted text, and what follows it. -/
def quote? : Text → Option (Text × Text)
  | '"' :: '"' :: '"' :: rest => quotedBody basicLinesPiece? (dropFirstBreak rest)
  | '\'' :: '\'' :: '\'' :: rest => quotedBody literalLinesPiece? (dropFirstBreak rest)
  | source => lineQuote? source

end FlashMarkup.Toml
