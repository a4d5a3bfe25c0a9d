import FlashMarkup.Data.Basic

/-!
# JSON

Two layouts of one notation. The compact layout has no blank outside strings; the indented one
puts every item and every field on a line of its own, two spaces deeper than its container. Only
quotes, backslashes and the control characters below U+0020 are escaped in a string.

A value is written in front of the text that follows it, so that every character is put in its place
once, however deep its value lies.
-/

namespace FlashMarkup.Data

/-- One character inside a JSON string. -/
def jsonChar (c : Char) : Text :=
  if c = '"' then ['\\', '"']
  else if c = '\\' then ['\\', '\\']
  else if c = '\n' then ['\\', 'n']
  else if c = '\r' then ['\\', 'r']
  else if c = '\t' then ['\\', 't']
  else if c = '\x08' then ['\\', 'b']
  else if c = '\x0c' then ['\\', 'f']
  else if c.toNat < 0x20 then ['\\', 'u', '0', '0'] ++ Text.hexPair c.toNat
  else [c]

/-- A JSON string. -/
def jsonString (content : Text) : Text := '"' :: content.flatMap jsonChar ++ ['"']

mutual

/-- The compact layout of a value, in front of what follows it. -/
def compactBefore (after : Text) : Data → Text
  | .null => "null" ++ after
  | .boolean true => "true" ++ after
  | .boolean false => "false" ++ after
  | .number value => Text.decimal value ++ after
  | .text content => jsonString content ++ after
  | .list items => '[' :: compactItems after items
  | .record fields => '\x7b' :: compactFields after fields

/-- The items of a list in the compact layout, with the closing bracket. -/
def compactItems (after : Text) : List Data → Text
  | [] => ']' :: after
  | [item] => compactBefore (']' :: after) item
  | item :: rest => compactBefore (',' :: compactItems after rest) item

/-- The fields of a record in the compact layout, with the closing brace. -/
def compactFields (after : Text) : List (Text × Data) → Text
  | [] => '\x7d' :: after
  | [(name, value)] => jsonString name ++ ':' :: compactBefore ('\x7d' :: after) value
  | (name, value) :: rest =>
    jsonString name ++ ':' :: compactBefore (',' :: compactFields after rest) value

end

/-- The value in the compact layout. -/
def toJson (data : Data) : Text := compactBefore [] data

/-- A line break and the indentation of the given level, in front of what follows them. -/
def breakBefore (level : Nat) (after : Text) : Text := '\n' :: Text.spaces (2 * level) ++ after

mutual

/-- The indented layout of a value whose container stands at the given level, in front of what
    follows it. -/
def indentedBefore (level : Nat) (after : Text) : Data → Text
  | .null => "null" ++ after
  | .boolean true => "true" ++ after
  | .boolean false => "false" ++ after
  | .number value => Text.decimal value ++ after
  | .text content => jsonString content ++ after
  | .list [] => "[]" ++ after
  | .list (item :: rest) =>
    '[' :: breakBefore (level + 1) (indentedItems level after (item :: rest))
  | .record [] => ['\x7b', '\x7d'] ++ after
  | .record (field :: rest) =>
    '\x7b' :: breakBefore (level + 1) (indentedFields level after (field :: rest))

/-- The items of a list at the given level, with the closing bracket. -/
def indentedItems (level : Nat) (after : Text) : List Data → Text
  | [] => ']' :: after
  | [item] => indentedBefore (level + 1) (breakBefore level (']' :: after)) item
  | item :: rest =>
    indentedBefore (level + 1)
      (',' :: breakBefore (level + 1) (indentedItems level after rest)) item

/-- The fields of a record at the given level, with the closing brace. -/
def indentedFields (level : Nat) (after : Text) : List (Text × Data) → Text
  | [] => '\x7d' :: after
  | [(name, value)] =>
    jsonString name ++
      ':' :: ' ' :: indentedBefore (level + 1) (breakBefore level ('\x7d' :: after)) value
  | (name, value) :: rest =>
    jsonString name ++
      ':' :: ' ' ::
        indentedBefore (level + 1)
          (',' :: breakBefore (level + 1) (indentedFields level after rest)) value

end

/-- The value in the indented layout, from the start of a line. -/
def toJsonPretty (data : Data) : Text := indentedBefore 0 [] data

end FlashMarkup.Data
