import FlashMarkup.Text.Basic

/-!
# Commands

What the program can be asked to do: to carry out a command, to help, or to tell its version.
-/

namespace FlashMarkup

/-- The kinds of commands. -/
inductive CommandName where
  | compile
  | check
  | inspect
  | listFormats
deriving DecidableEq, Repr

/-- A command with its arguments. -/
inductive Command where
  | compile (path : Text) (output : Option Text) (report : Bool)
  | check (path : Text)
  | inspect (path format : Text)
  | listFormats
deriving DecidableEq, Repr

/-- What the program can help with. -/
inductive HelpTopic where
  | program
  | command (name : CommandName)
  /-- Asking for help. -/
  | help
deriving DecidableEq, Repr

/-- A command with the configuration file that was named for it, or a question about the program. -/
inductive Request where
  | run (config : Option Text) (command : Command)
  | help (topic : HelpTopic)
  | version
deriving DecidableEq, Repr

namespace CommandName

/-- The word for a command. -/
def toText : CommandName → Text
  | .compile => "compile"
  | .check => "check"
  | .inspect => "inspect"
  | .listFormats => "list-formats"

/-- All commands, in the order in which help lists them. -/
def all : List CommandName := [.compile, .check, .inspect, .listFormats]

/-- The command that a word names. -/
def ofText? (word : Text) : Option CommandName := all.find? fun name => name.toText = word

end CommandName

/-- The word that asks for help. -/
def helpWord : Text := "help"

/-- The format in which a file is shown if none is chosen. -/
def defaultFormat : Text := "ast-treeviz"

end FlashMarkup
