import FlashMarkup.Toml.Quote
import FlashMarkup.Toml.Reserved
import FlashMarkup.Toml.Table
import FlashMarkup.Toml.Word

/-!
# Reading TOML files

A file is read statement by statement. Keys may be quoted and are joined by dots; lists may go over
several lines, tables between braces may not. Lists and tables nest to a fixed depth, and a fixed
number of keys can be joined. Nothing is said about what is wrong with a file that cannot be read.

Between two characters that are taken, reading makes at most three steps, so four times the length
of a text bounds the number of steps.
-/

namespace FlashMarkup.Toml

/-- Whether a character may stand in a key without quotes. -/
def isBareKeyChar (c : Char) : Bool := c.isAlphanum || c == '_' || c == '-'

/-- One key, and what follows it. -/
def key? (source : Text) : Option (Text × Text) :=
  let bare := source.takeWhile isBareKeyChar
  if bare.isEmpty then lineQuote? source else some (bare, source.dropWhile isBareKeyChar)

/-- Up to some number of keys joined by dots, and what follows them and the blanks behind them. -/
def keysUpTo? : (count : Nat) → Text → Option (List Text × Text)
  | 0, _ => none
  | count + 1, source => do
    let (key, after) ← key? (skipBlanks source)
    match skipBlanks after with
    | '.' :: rest => do
      let (path, left) ← keysUpTo? count rest
      some (key :: path, left)
    | left => some ([key], left)

/-- How many keys dots may join. -/
def maxKeys : Nat := 79

/-- Keys joined by dots, and what follows them and the blanks behind them. -/
def keyPath? (source : Text) : Option (List Text × Text) := keysUpTo? maxKeys source

/-- How deep lists and tables between brackets may nest. -/
def maxNesting : Nat := 79

mutual

/-- A value inside `room` further brackets at most, and what follows it. -/
def value? : (steps room : Nat) → Text → Option (Toml × Text)
  | 0, _, _ => none
  | steps + 1, room, source =>
    match source with
    | '[' :: rest =>
      if room = 0 then none
      else (items? steps (room - 1) rest).map fun (items, left) => (.list items, left)
    | '\x7b' :: rest =>
      if room = 0 then none
      else
        match skipBlanks rest with
        | '\x7d' :: left => some (.table [], left)
        | body => do
          let (assignments, left) ← assignments? steps (room - 1) body
          some (← inlineTable? assignments, left)
    | '"' :: _ => (quote? source).map fun (content, left) => (.text content, left)
    | '\'' :: _ => (quote? source).map fun (content, left) => (.text content, left)
    | _ => word? source

/-- The items of a list up to its closing bracket, and what follows it. -/
def items? : (steps room : Nat) → Text → Option (List Toml × Text)
  | 0, _, _ => none
  | steps + 1, room, source =>
    match skipLayout source with
    | ']' :: left => some ([], left)
    | start => do
      let (first, after) ← value? steps room start
      match skipLayout after with
      | ',' :: rest => do
        let (others, left) ← items? steps room rest
        some (first :: others, left)
      | ']' :: left => some ([first], left)
      | _ => none

/-- An assignment, and what follows it. -/
def assignment? : (steps room : Nat) → Text → Option ((List Text × Toml) × Text)
  | 0, _, _ => none
  | steps + 1, room, source => do
    let (path, after) ← keyPath? source
    match after with
    | '=' :: rest => do
      let (value, left) ← value? steps room (skipBlanks rest)
      some ((path, value), left)
    | _ => none

/-- The assignments of a table up to its closing brace, and what follows it. -/
def assignments? : (steps room : Nat) → Text → Option (List (List Text × Toml) × Text)
  | 0, _, _ => none
  | steps + 1, room, source => do
    let (first, after) ← assignment? steps room source
    match skipBlanks after with
    | ',' :: rest => do
      let (others, left) ← assignments? steps room rest
      some (first :: others, left)
    | '\x7d' :: left => some ([first], left)
    | _ => none

end

/-- The number of steps that is always enough to read a value from a text. -/
def stepsFor (source : Text) : Nat := 4 * source.length + 4

/-- A header behind its opening brackets, and what follows the closing ones. -/
def header? (isItem : Bool) (source : Text) : Option (Statement × Text) := do
  let (path, after) ← keyPath? source
  match isItem, after with
  | false, ']' :: left => some (.header path, left)
  | true, ']' :: ']' :: left => some (.item path, left)
  | _, _ => none

/-- A statement, and what follows it. -/
def statement? (source : Text) : Option (Statement × Text) :=
  match source with
  | '[' :: '[' :: rest => header? true rest
  | '[' :: rest => header? false rest
  | _ =>
    (assignment? (stepsFor source) maxNesting source).map fun ((path, value), left) =>
      (.assignment path value, left)

/-- The statements of a text, each on a line of its own. -/
def statements? : (lines : Nat) → Text → Option (List Statement)
  | 0, _ => none
  | lines + 1, source =>
    match skipBlanks source with
    | [] => some []
    | c :: rest =>
      if c = '#' ∨ c = '\n' ∨ c = '\r' then do
        statements? lines (← endStatement (c :: rest))
      else do
        let (statement, after) ← statement? (c :: rest)
        let others ← statements? lines (← endStatement after)
        some (statement :: others)

/-- The text without the mark that may stand before its first character. -/
def dropMark : Text → Text
  | [] => []
  | c :: rest => if c = '\uFEFF' then rest else c :: rest

/-- The entries of the table that a file spells, if it can be read. -/
def read? (source : Text) : Option (List (Text × Toml)) := do
  let source := dropMark source
  settleFile? (← ofStatements? (← statements? (source.length + 1) source))

end FlashMarkup.Toml
