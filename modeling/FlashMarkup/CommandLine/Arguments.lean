import FlashMarkup.CommandLine.Command

/-!
# Arguments

The words behind the program's name choose a command, the file it works on, and options. An option is
a letter behind a hyphen or a name behind two; its value follows at once, behind an equals sign, or as
the next word. No option may be given twice at the same place, and every word behind two lone hyphens
is no option. The option for a configuration file may stand before or behind the name of the command,
and there it counts more.
-/

namespace FlashMarkup

/-- Why the arguments make no request. -/
inductive UsageError where
  | missingCommand
  | unknownCommand (word : Text)
  | unknownOption (word : Text)
  | missingValue (name : Text)
  | unexpectedValue (name : Text)
  | repeatedOption (name : Text)
  | missingPath
  | unexpectedWord (word : Text)
deriving DecidableEq, Repr

/-- The message that reports the error. -/
def UsageError.message : UsageError → Text
  | .missingCommand => "a command is required"
  | .unknownCommand word => "unknown command '" ++ word ++ "'"
  | .unknownOption word => "unexpected argument '" ++ word ++ "'"
  | .missingValue name => "a value is required for '--" ++ name ++ "'"
  | .unexpectedValue name => "unexpected value for '--" ++ name ++ "'"
  | .repeatedOption name => "the argument '--" ++ name ++ "' cannot be used multiple times"
  | .missingPath => "a path is required"
  | .unexpectedWord word => "unexpected argument '" ++ word ++ "'"

namespace Arguments

/-- The options and the plain words that are understood at some place. -/
structure Syntax where
  /-- The options with a value, and their letters. -/
  valued : List (Text × Char)
  /-- The options without a value. -/
  flags : List Text
  /-- Whether the version can be asked for. -/
  hasVersion : Bool
  /-- How many plain words there may be. -/
  room : Nat

/-- What has been read so far. -/
structure Reading where
  values : List (Text × Text)
  flags : List Text
  plain : List Text

/-- Nothing read. -/
def Reading.start : Reading := ⟨[], [], []⟩

/-- The end of reading: at a question about the program, or with what has been read and the words
    that are left. -/
inductive Outcome where
  | help
  | version
  | read (reading : Reading) (rest : List Text)

/-- A word as an option or as a plain word. -/
inductive Word where
  | terminator
  | long (name : Text) (value : Option Text)
  | short (letter : Char) (value : Text)
  | plain

/-- The kind of a word. A lone hyphen is a plain word. -/
def wordOf (word : Text) : Word :=
  match word with
  | ['-', '-'] => .terminator
  | '-' :: '-' :: rest =>
    match rest.dropWhile (· != '=') with
    | _ :: value => .long (rest.takeWhile (· != '=')) (some value)
    | [] => .long rest none
  | '-' :: letter :: rest => .short letter rest
  | _ => .plain

/-- Whether a word can be the value of the option before it. -/
def isValue (word : Text) : Bool :=
  match wordOf word with
  | .plain => true
  | _ => false

/-- The value of an option, if it was given. -/
def Reading.value? (reading : Reading) (name : Text) : Option Text := reading.values.lookup name

/-- Read the value of an option. -/
def Reading.addValue (reading : Reading) (name value : Text) : Except UsageError Reading :=
  if (reading.value? name).isSome then .error (.repeatedOption name)
  else .ok { reading with values := reading.values ++ [(name, value)] }

/-- Read an option without a value. -/
def Reading.addFlag (reading : Reading) (name : Text) : Except UsageError Reading :=
  if reading.flags.contains name then .error (.repeatedOption name)
  else .ok { reading with flags := reading.flags ++ [name] }

/-- Read a plain word, if there is room for it. -/
def Reading.addPlain (reading : Reading) (room : Nat) (word : Text) : Except UsageError Reading :=
  if reading.plain.length < room then .ok { reading with plain := reading.plain ++ [word] }
  else .error (.unexpectedWord word)

/-- What an option asks for: an answer about the program, a flag, or a value that may stand in the
    same word. -/
inductive Meaning where
  | help
  | version
  | flag (name : Text)
  | value (name : Text) (attached : Option Text)
  | wrong (failure : UsageError)

/-- The meaning of an option with a name. -/
def longMeaning (language : Syntax) (name : Text) (attached : Option Text) : Meaning :=
  if (language.valued.lookup name).isSome then .value name attached
  else
    let known := name = ("help" : Text) ∨ (name = ("version" : Text) ∧ language.hasVersion) ∨
      name ∈ language.flags
    if known then
      if attached.isSome then .wrong (.unexpectedValue name)
      else if name = ("help" : Text) then .help
      else if name ∈ language.flags then .flag name
      else .version
    else .wrong (.unknownOption ("--" ++ name))

/-- The value that follows a letter in the same word, behind an optional equals sign. -/
def attachedValue? : Text → Option Text
  | [] => none
  | '=' :: value => some value
  | value => some value

/-- The meaning of an option with a letter. -/
def shortMeaning (language : Syntax) (letter : Char) (rest : Text) : Meaning :=
  match language.valued.find? fun option => option.2 == letter with
  | some (name, _) => .value name (attachedValue? rest)
  | none =>
    if letter = 'h' then .help
    else if letter = 'V' ∧ language.hasVersion then .version
    else .wrong (.unknownOption ['-', letter])

/-- The meaning of a word that is an option. -/
def meaning? (language : Syntax) (word : Text) : Option Meaning :=
  match wordOf word with
  | .long name attached => some (longMeaning language name attached)
  | .short letter rest => some (shortMeaning language letter rest)
  | .terminator | .plain => none

/-- Read words up to the end, or up to the first plain word if there is no room for any. -/
def read (language : Syntax) : Reading → List Text → Except UsageError Outcome
  | reading, [] => .ok (.read reading [])
  | reading, word :: rest =>
    match meaning? language word with
    | some .help => .ok .help
    | some .version => .ok .version
    | some (.wrong failure) => .error failure
    | some (.flag name) => do read language (← reading.addFlag name) rest
    | some (.value name (some attached)) => do
      read language (← reading.addValue name attached) rest
    | some (.value name none) =>
      match rest with
      | [] => .error (.missingValue name)
      | next :: others =>
        if isValue next then do read language (← reading.addValue name next) others
        else .error (.missingValue name)
    | none =>
      if word = ("--" : Text) then do
        let reading ← rest.foldlM (fun reading word => reading.addPlain language.room word) reading
        .ok (.read reading [])
      else if language.room = 0 then .ok (.read reading (word :: rest))
      else do read language (← reading.addPlain language.room word) rest

/-- What is understood before the name of a command. -/
def programSyntax : Syntax := ⟨[("config", 'c')], [], true, 0⟩

/-- What is understood behind the name of a command that takes a path. -/
def commandSyntax (valued : List (Text × Char)) (flags : List Text) : Syntax :=
  ⟨("config", 'c') :: valued, flags, false, 1⟩

/-- The request for help behind the word that asks for it. -/
def readHelp : List Text → Except UsageError Request
  | [] => .ok (.help .program)
  | [word] =>
    match CommandName.ofText? word with
    | some name => .ok (.help (.command name))
    | none => if word = helpWord then .ok (.help .help) else .error (.unknownCommand word)
  | _ :: extra :: _ => .error (.unknownCommand extra)

/-- The only plain word that has been read. -/
def pathOf (reading : Reading) : Except UsageError Text :=
  match reading.plain with
  | path :: _ => .ok path
  | [] => .error .missingPath

/-- A command and what is understood behind its name. -/
structure Form where
  language : Syntax
  command : Reading → Except UsageError Command

/-- The form of a command. -/
def formOf : CommandName → Form
  | .compile =>
    ⟨commandSyntax [("output", 'o')] ["report"], fun reading => do
      .ok (.compile (← pathOf reading) (reading.value? "output")
        (reading.flags.contains "report"))⟩
  | .check => ⟨commandSyntax [] [], fun reading => do .ok (.check (← pathOf reading))⟩
  | .inspect =>
    ⟨commandSyntax [("format", 'f')] [], fun reading => do
      .ok (.inspect (← pathOf reading) ((reading.value? "format").getD defaultFormat))⟩
  | .listFormats => ⟨{ commandSyntax [] [] with room := 0 }, fun _ => .ok .listFormats⟩

/-- The request of a command, behind its name. -/
def readCommand (name : CommandName) (outer : Option Text) (words : List Text) :
    Except UsageError Request := do
  let form := formOf name
  match ← read form.language .start words with
  | .help => .ok (.help (.command name))
  | .version => .ok .version
  | .read _ (word :: _) => .error (.unexpectedWord word)
  | .read reading [] =>
    .ok (.run ((reading.value? "config").or outer) (← form.command reading))

/-- The request that the arguments make. -/
def request (words : List Text) : Except UsageError Request := do
  match ← read programSyntax .start words with
  | .help => .ok (.help .program)
  | .version => .ok .version
  | .read _ [] => .error .missingCommand
  | .read reading (word :: rest) =>
    if word = helpWord then readHelp rest
    else
      match CommandName.ofText? word with
      | some name => readCommand name (reading.value? "config") rest
      | none => .error (.unknownCommand word)

end Arguments

end FlashMarkup
