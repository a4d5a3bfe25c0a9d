import FlashMarkup.Data.Basic
import FlashMarkup.Data.Scalar
import FlashMarkup.Text.Bytes

/-!
# YAML

The block layout of structured data, without line folding. A text is written in the first of four
styles that can hold it: plain, in single quotes, as a literal block, or in double quotes. Which
style is tried first depends on whether the text has several lines and on whether a plain word
would read back as something else; which styles can hold it depends on its characters alone.
-/

namespace FlashMarkup.Data

/-- The styles of texts. -/
inductive ScalarStyle where
  | plain
  | singleQuoted
  | literal
  | doubleQuoted
deriving DecidableEq, Repr

/-- Whether a character separates lines. -/
def isBreak (c : Char) : Bool :=
  c == '\n' || c == '\r' || c == '\x85' || c == '\u2028' || c == '\u2029'

/-- Whether a character ends a word; a missing character does. -/
def endsWord : Option Char → Bool
  | none => true
  | some c => c == ' ' || c == '\t' || c == '\x00' || isBreak c

/-- Whether a character may stand unescaped outside double quotes. -/
def isPlainPrintable (c : Char) : Bool :=
  let code := c.toNat
  code == 0x0A || (0x20 ≤ code && code ≤ 0x7E) || (0xA0 ≤ code && code ≤ 0xD7FF) ||
    (0xE000 ≤ code && code ≤ 0xFFFD && code != 0xFEFF) || 0x10000 ≤ code

/-- The characters that give the word they begin a meaning. -/
def indicators : List Char :=
  ['#', ',', '[', ']', '\x7b', '\x7d', '&', '*', '!', '|', '>', '\'', '"', '%', '@', '\x60']

/-- Whether the first character of a text gives it a meaning, alone or before a blank. -/
def startsWithIndicator : Text → Bool
  | [] => false
  | c :: rest =>
    indicators.contains c || ((c == '?' || c == ':' || c == '-') && endsWord rest.head?)

/-- Whether some later character ends a key or begins a comment. -/
def holdsIndicator : Text → Bool
  | [] => false
  | [_] => false
  | first :: c :: rest =>
    (c == ':' && endsWord rest.head?) || (c == '#' && endsWord (some first)) ||
      holdsIndicator (c :: rest)

/-- Whether two neighbouring characters of a text satisfy a test. -/
def anyNeighbours (test : Char → Char → Bool) : Text → Bool
  | [] => false
  | [_] => false
  | first :: second :: rest => test first second || anyNeighbours test (second :: rest)

/-- Whether a text marks the start or the end of a data file. -/
def isFileMarker (content : Text) : Bool :=
  ("---" : Text).isPrefixOf content || ("..." : Text).isPrefixOf content

/-- What a text's characters say about the styles that can hold it. -/
structure ScalarShape where
  /-- It starts or ends with a space or a break, or holds a break. -/
  unbounded : Bool
  /-- It holds characters that mean something in a plain word. -/
  meaningful : Bool
  /-- A space follows a break. -/
  breakThenSpace : Bool
  /-- A break follows a space, or a character has to be escaped. -/
  escaped : Bool
  /-- It ends with a space. -/
  spaceAtEnd : Bool

/-- The shape of a text. -/
def shape (content : Text) : ScalarShape where
  unbounded := content.head? == some ' ' || content.getLast? == some ' ' || content.any isBreak
  meaningful := isFileMarker content || startsWithIndicator content || holdsIndicator content
  breakThenSpace := anyNeighbours (fun first second => isBreak first && second == ' ') content
  escaped :=
    anyNeighbours (fun first second => first == ' ' && isBreak second) content ||
      content.any fun c => !isPlainPrintable c
  spaceAtEnd := content.getLast? == some ' '

/-- Whether a style can hold a text of the given shape. -/
def ScalarShape.fits (shape : ScalarShape) : ScalarStyle → Bool
  | .plain =>
    !(shape.unbounded || shape.meaningful || shape.breakThenSpace || shape.escaped)
  | .singleQuoted => !(shape.breakThenSpace || shape.escaped)
  | .literal => !(shape.spaceAtEnd || shape.escaped)
  | .doubleQuoted => true

/-- The style that is tried first. -/
def wantedStyle (content : Text) : ScalarStyle :=
  if content.contains '\n' then .literal
  else if isAmbiguous content then .singleQuoted
  else .plain

/-- The style in which a text is written: the wanted one, or the next that can hold the text. -/
def styleOf (content : Text) : ScalarStyle :=
  let shape := shape content
  let quoted : ScalarStyle := if shape.fits .singleQuoted then .singleQuoted else .doubleQuoted
  match wantedStyle content with
  | .plain => if shape.fits .plain then .plain else quoted
  | .singleQuoted => quoted
  | .literal => if shape.fits .literal then .literal else .doubleQuoted
  | .doubleQuoted => .doubleQuoted

/-- The upper-case hexadecimal digits of a number, `width` of them. -/
def hexDigits (width code : Nat) : Text :=
  let digits := (Nat.toDigits 16 code).map Char.toUpper
  List.replicate (width - digits.length) '0' ++ digits

/-- The letters that escape some characters inside double quotes. -/
def escapeLetters : List (Char × Char) :=
  [('\x00', '0'), ('\x07', 'a'), ('\x08', 'b'), ('\t', 't'), ('\n', 'n'), ('\x0b', 'v'),
    ('\x0c', 'f'), ('\r', 'r'), ('\x1b', 'e'), ('"', '"'), ('\\', '\\'), ('\x85', 'N'),
    ('\u2028', 'L'), ('\u2029', 'P')]

/-- One character inside double quotes. -/
def yamlChar (c : Char) : Text :=
  match escapeLetters.lookup c with
  | some letter => ['\\', letter]
  | none =>
    if isPlainPrintable c then [c]
    else if c.toNat ≤ 0xFF then '\\' :: 'x' :: hexDigits 2 c.toNat
    else if c.toNat ≤ 0xFFFF then '\\' :: 'u' :: hexDigits 4 c.toNat
    else '\\' :: 'U' :: hexDigits 8 c.toNat

/-- A text in single quotes. A break is followed by the indentation of what stands behind it. -/
def singleQuoted (column : Nat) (content : Text) : Text :=
  let rec write (broken : Bool) : Text → Text
    | [] => if broken then Text.spaces column else []
    | c :: rest =>
      if isBreak c then c :: write true rest
      else
        (if broken then Text.spaces column else []) ++ (if c = '\'' then ['\'', '\''] else [c]) ++
          write false rest
  '\'' :: write false content ++ ['\'']

/-- How a literal block is announced: its indentation if it begins with a space or a break, and
    what becomes of the breaks at its end. -/
def literalHeader (content : Text) : Text :=
  let indentation : Text :=
    if content.head?.any fun c => c == ' ' || isBreak c then ['2'] else []
  let chomping : Text :=
    match content.reverse with
    | [] => ['-']
    | [last] => if isBreak last then ['+'] else ['-']
    | last :: previous :: _ =>
      if !isBreak last then ['-'] else if isBreak previous then ['+'] else []
  '|' :: indentation ++ chomping

/-- The lines of a literal block. Only a line that holds something is indented. -/
def literalLines (column : Nat) (broken : Bool) : Text → Text
  | [] => []
  | c :: rest =>
    if isBreak c then c :: literalLines column true rest
    else (if broken then Text.spaces column else []) ++ c :: literalLines column false rest

/-- A text as a value or a key. `column` is where continued lines start. -/
def yamlText (column : Nat) (content : Text) : Text :=
  match styleOf content with
  | .plain => content
  | .singleQuoted => singleQuoted column content
  | .literal => literalHeader content ++ '\n' :: literalLines column true content
  | .doubleQuoted => '"' :: content.flatMap yamlChar ++ ['"']

/-- Whether a key may stand on the line of its value. -/
def isSimpleKey (key : Text) : Bool := key.byteLength ≤ 128 && !key.any isBreak

/-- End a line, unless the text has already ended it. -/
def endYamlLine (content : Text) : Text :=
  match content.getLast? with
  | some c => if isBreak c then content else content ++ ['\n']
  | none => ['\n']

/-- A key with the mark that leads to its value. -/
def yamlKey (column : Nat) (key : Text) : Text :=
  if isSimpleKey key then yamlText (column + 2) key ++ ":"
  else endYamlLine ("? " ++ yamlText (column + 2) key) ++ Text.spaces column ++ ":"

mutual

/-- The fields of a record whose keys stand at a column. The first line is not indented: it
    starts where the text before it ends. -/
def yamlFields (column : Nat) : List (Text × Data) → Text
  | [] => []
  | [(name, value)] => yamlKey column name ++ yamlValue column value
  | (name, value) :: rest =>
    yamlKey column name ++ yamlValue column value ++ Text.spaces column ++ yamlFields column rest

/-- The items of a list at a column. The first line is not indented. -/
def yamlItems (column : Nat) : List Data → Text
  | [] => []
  | [item] => '-' :: ' ' :: yamlItem column item
  | item :: rest => '-' :: ' ' :: yamlItem column item ++ Text.spaces column ++ yamlItems column rest

/-- A value behind its key, up to the end of its last line. A list is not indented, a record is. -/
def yamlValue (column : Nat) : Data → Text
  | .record (field :: rest) =>
    '\n' :: Text.spaces (column + 2) ++ yamlFields (column + 2) (field :: rest)
  | .list (item :: rest) => '\n' :: Text.spaces column ++ yamlItems column (item :: rest)
  | .record [] => [' ', '\x7b', '\x7d', '\n']
  | .list [] => " []\n"
  | .text content => endYamlLine (' ' :: yamlText (column + 2) content)
  | .null => " null\n"
  | .boolean value => if value then " true\n" else " false\n"
  | .number value => ' ' :: Text.decimal value ++ ['\n']

/-- An item behind its mark, up to the end of its last line. -/
def yamlItem (column : Nat) : Data → Text
  | .record (field :: rest) => yamlFields (column + 2) (field :: rest)
  | .list (item :: rest) => yamlItems (column + 2) (item :: rest)
  | .record [] => ['\x7b', '\x7d', '\n']
  | .list [] => "[]\n"
  | .text content => endYamlLine (yamlText (column + 2) content)
  | .null => "null\n"
  | .boolean value => if value then "true\n" else "false\n"
  | .number value => Text.decimal value ++ ['\n']

end

/-- The value as a data file of its own. -/
def toYaml : Data → Text
  | .record (field :: rest) => yamlFields 0 (field :: rest)
  | value => yamlItem 0 value

end FlashMarkup.Data
