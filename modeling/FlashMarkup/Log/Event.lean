import FlashMarkup.Text.Basic

/-!
# Log events

What the compiler reports about its own work. An event has a level, the name of the part that
reports it, a message, and named values in order.
-/

namespace FlashMarkup

/-- Levels of events, from the gravest to the most detailed. -/
inductive Log.Level where
  | error
  | warn
  | info
  | debug
  | trace
deriving DecidableEq, Repr

/-- An event with its named values. -/
structure Log.Event where
  level : Log.Level
  target : Text
  message : Text
  fields : List (Text × Text)
deriving DecidableEq, Repr

namespace Log

/-- How detailed a level is. -/
def Level.detail : Level → Nat
  | .error => 1
  | .warn => 2
  | .info => 3
  | .debug => 4
  | .trace => 5

/-- The name of a level, five characters wide. -/
def Level.toText : Level → Text
  | .error => "ERROR"
  | .warn => " WARN"
  | .info => " INFO"
  | .debug => "DEBUG"
  | .trace => "TRACE"

/-- The controls that are written as two hexadecimal digits: those that a terminal acts on. -/
def escapedControls : List Char := ['\x07', '\x08', '\x0c', '\x1b', '\x7f']

/-- A character of a message. Characters that a terminal could take for commands are escaped. -/
def messageChar (c : Char) : Text :=
  if escapedControls.contains c then '\\' :: 'x' :: Text.hexPair c.toNat
  else if 0x80 ≤ c.toNat ∧ c.toNat ≤ 0x9F then
    '\\' :: 'u' :: '\x7b' :: Text.hexPair c.toNat ++ ['\x7d']
  else [c]

/-- A named value, with a leading space. -/
def fieldText (name value : Text) : Text := " " ++ name ++ "=" ++ value

/-- The event in one line: the level, the message, the fields. -/
def Event.toText (event : Event) : Text :=
  event.level.toText ++ " " ++ event.message.flatMap messageChar ++
    event.fields.flatMap fun (name, value) => fieldText name value

end Log

end FlashMarkup
