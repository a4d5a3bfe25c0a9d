import FlashMarkup.Compile.File
import FlashMarkup.Log.Filter
import FlashMarkup.Text.Bytes

/-!
# Consoles

The world in which the program runs: files that are read and written, a log, and two streams of text.
The program is described over any console, so the same description runs on the real system and on a
session held in memory.
-/

namespace FlashMarkup

/-- The operations that the program needs. A failure with a file comes with its cause. -/
structure Console (m : Type → Type) where
  read : Path → m (Except FileError Bytes)
  write : Path → Bytes → m (Except FileError Unit)
  /-- Open a file for log lines, which is created if it is not there. -/
  openLog : Path → m (Except FileError Unit)
  /-- Add a line to an open log file. -/
  addToLog : Path → Text → m Unit
  /-- The present moment as log lines show it, without a space. -/
  stamp : m Text
  print : Text → m Unit
  complain : Text → m Unit
  /-- The log filter that the surroundings ask for. -/
  filter : Option Text

/-- Which events are logged, and the file to which they are if it is not the stream of complaints. -/
structure Logger where
  filter : Log.Filter
  file : Option Path

namespace Console

variable {m : Type → Type} [Monad m]

/-- The text of a file. -/
def readText (console : Console m) (path : Path) : m (Except FileError Text) := do
  match ← console.read path with
  | .error failure => return .error failure
  | .ok content =>
    match content.decode? with
    | some text => return .ok text
    | none => return .error .notText

/-- Log an event, if the filter admits it. -/
def log (console : Console m) (logger : Logger) (event : Log.Event) : m Unit := do
  if logger.filter.admits event then
    let line := (← console.stamp) ++ " " ++ event.toText ++ "\n"
    match logger.file with
    | some file => console.addToLog file line
    | none => console.complain line

/-- Complain about a word of a filter that is no directive. -/
def complainAbout (console : Console m) (word : Text) (fault : Log.Directive.Fault) : m Unit :=
  console.complain ("ignoring `" ++ word ++ "`: " ++ fault.message ++ "\n")

/-- The filter of the surroundings, if all its words are directives, or else that of the settings. -/
def chooseFilter (console : Console m) (configured : Text) : m Log.Filter := do
  match console.filter.bind Log.Filter.ofText? with
  | some filter => return filter
  | none =>
    (Log.Filter.faults configured).forM fun (word, fault) => console.complainAbout word fault
    return .ofText configured

/-- Open the log. A log file that cannot be opened is complained about and not used. -/
def startLog (console : Console m) (filter : Text) (file : Option Path) : m Logger := do
  let filter ← console.chooseFilter filter
  match file with
  | none => return ⟨filter, none⟩
  | some path =>
    match ← console.openLog path with
    | .ok () => return ⟨filter, some path⟩
    | .error failure =>
      console.complain ("Cannot open log file " ++ path.display ++ ": " ++ failure.message ++ "\n")
      return ⟨filter, none⟩

/-- The console as a workspace for compiling files, with its events logged. -/
def workspace (console : Console m) (logger : Logger) : Workspace m where
  read path := do return (← console.readText path).mapError FileError.message
  store path content := do
    return (← console.write path content.toBytes).mapError FileError.message
  report := console.log logger

end Console

end FlashMarkup
