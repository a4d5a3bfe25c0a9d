import FlashMarkup.CommandLine.Arguments
import FlashMarkup.CommandLine.Console
import FlashMarkup.CommandLine.Help
import FlashMarkup.Format.BuiltIn
import FlashMarkup.Settings.Layer
import FlashMarkup.Token.Listing

/-!
# Running the program

A run reads the arguments, then the settings, then opens the log and carries out one command. It ends
with zero if the command succeeds, with one if it fails, and with two if there is no command to carry
out because the arguments or the settings are wrong.
-/

namespace FlashMarkup

/-- How a run ends. -/
inductive ExitCode where
  | success
  | failure
  | misuse
deriving DecidableEq, Repr

/-- The number of an exit code. -/
def ExitCode.toNat : ExitCode → Nat
  | .success => 0
  | .failure => 1
  | .misuse => 2

namespace Program

/-- The name and the version of the program. -/
def versionText : Text := "flashml 0.1.0\n"

/-- How the program is used, and how to learn more. -/
def usageText : Text :=
  Text.unlines ["Usage: " ++ HelpTopic.program.page.usage, "", "For more information, try '--help'."]

/-- The file that configures the program where it runs. -/
def projectFile : Path := .ofText "flashml.toml"

/-- The format that shows tokens. It is no format of documents. -/
def tokenFormat : Text := "token-json"

/-- The formats in which documents are shown. -/
def registry (settings : Settings) : Registry := .builtIn settings.page settings.record

/-- The line about an artifact that has been written. -/
def writtenLine (path : Path) : Text := "wrote " ++ path.display ++ "\n"

/-- The line about an error of a report. -/
def errorLine (error : ReportedError) : Text :=
  error.category.toText ++ " error: " ++ error.message ++ "\n"

/-- A line about a file. -/
def fileLine (path message : Text) : Text := path ++ ": " ++ message ++ "\n"

/-- The lines about a format. -/
def formatLines (name description : Text) : Text :=
  "  " ++ name ++ "\n    " ++ description ++ "\n"

/-- The list of formats. -/
def formatList (settings : Settings) : Text :=
  "Available formats:\n\n" ++ formatLines tokenFormat "Scanner tokens as JSON" ++
    (registry settings).describe.flatMap fun (name, description) => formatLines name description

variable {m : Type → Type} [Monad m]

/-- The exit code of a command. -/
def exitCode (succeeded : Bool) : ExitCode := if succeeded then .success else .failure

/-- Compile a file and say what has been written, or print the whole report. -/
def compileCommand (console : Console m) (logger : Logger) (settings : Settings)
    (path : Text) (output : Option Text) (wholeReport : Bool) : m ExitCode := do
  let report ← (console.workspace logger).compileFile settings.compileOptions (.ofText path)
    (output.map .ofText)
  if wholeReport then console.print report.toJson.line
  else
    (report.html.toList ++ report.record.toList).forM fun path => console.print (writtenLine path)
    report.errors.forM fun error => console.complain (errorLine error)
  return exitCode report.isSuccess

/-- Go on with the text of a file, or complain that it cannot be read. -/
def withSource (console : Console m) (path : Text) (proceed : Text → m ExitCode) :
    m ExitCode := do
  match ← console.readText (.ofText path) with
  | .ok source => proceed source
  | .error failure =>
    console.complain ("Error reading " ++ path ++ ": " ++ failure.message ++ "\n")
    return .failure

/-- Complain about every problem of a file. -/
def complainAll (console : Console m) (path : Text) (messages : List Text) : m ExitCode := do
  messages.forM fun message => console.complain (fileLine path message)
  return .failure

/-- Check a file without writing anything. -/
def checkCommand (console : Console m) (logger : Logger) (path : Text) : m ExitCode :=
  withSource console path fun source => do
    (Journal.ofCheck source).forM (console.log logger)
    match check source with
    | .ok [] =>
      console.print (fileLine path "ok")
      return .success
    | .ok diagnostics => complainAll console path (diagnostics.map Diagnostic.toText)
    | .error problem => complainAll console path problem.messages

/-- Show the tokens of a source. -/
def showTokens (console : Console m) (logger : Logger) (path source : Text) : m ExitCode := do
  (Journal.ofTokenize source).forM (console.log logger)
  match tokenize source with
  | .ok tokens =>
    console.print (Token.listing tokens).toJsonPretty.line
    return .success
  | .error problem => complainAll console path problem.messages

/-- Show the document of a source in a format. Its last line is ended if the format does not. -/
def showDocument (console : Console m) (logger : Logger) (settings : Settings)
    (path source format : Text) : m ExitCode := do
  (Journal.ofParse source).forM (console.log logger)
  match parse source with
  | .error problem => complainAll console path problem.messages
  | .ok document =>
    match (registry settings).serialize document format with
    | .ok content =>
      console.print content.endLine
      return .success
    | .error failure =>
      console.complain ("Error: " ++ failure.message ++ "\n")
      return .failure

/-- Show the tokens or the document of a file. -/
def inspectCommand (console : Console m) (logger : Logger) (settings : Settings)
    (path format : Text) : m ExitCode :=
  withSource console path fun source =>
    if format = tokenFormat then showTokens console logger path source
    else showDocument console logger settings path source format

/-- Carry out a command. -/
def perform (console : Console m) (logger : Logger) (settings : Settings) :
    Command → m ExitCode
  | .compile path output report => compileCommand console logger settings path output report
  | .check path => checkCommand console logger path
  | .inspect path format => inspectCommand console logger settings path format
  | .listFormats => do
    console.print (formatList settings)
    return .success

/-- The settings of a run: the project's file may be missing, a named file may not. -/
def loadSettings (console : Console m) (config : Option Text) :
    m (Except SettingsError Settings) := do
  let project ← Layer.ofFile console.read projectFile false
  match config with
  | none => return Settings.ofLayers [project]
  | some path =>
    let named ← Layer.ofFile console.read (.ofText path) true
    return Settings.ofLayers [project, named]

/-- Carry out a command with the settings that it runs under. -/
def runCommand (console : Console m) (config : Option Text) (command : Command) :
    m ExitCode := do
  match ← loadSettings console config with
  | .error failure =>
    console.complain ("Error loading configuration: " ++ failure.message ++ "\n")
    return .misuse
  | .ok settings =>
    let logger ← console.startLog settings.filter settings.logFile
    perform console logger settings command

/-- Run the program. -/
def run (console : Console m) (words : List Text) : m ExitCode := do
  match Arguments.request words with
  | .ok (.help topic) =>
    console.print topic.page.toText
    return .success
  | .ok .version =>
    console.print versionText
    return .success
  | .ok (.run config command) => runCommand console config command
  | .error failure =>
    console.complain ("error: " ++ failure.message ++ "\n\n" ++ usageText)
    return .misuse

end Program

end FlashMarkup
