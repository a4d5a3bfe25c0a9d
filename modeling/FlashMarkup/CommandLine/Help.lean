import FlashMarkup.CommandLine.Command

/-!
# Help

Help about the program or about one of its commands is a page: what it does, how it is used, and lists
of what can be given to it, with the explanations in one column.
-/

namespace FlashMarkup

/-- A list of words with their explanations. -/
structure HelpSection where
  title : Text
  entries : List (Text × Text)

/-- A page of help. -/
structure HelpPage where
  about : Text
  usage : Text
  sections : List HelpSection

/-- A word with its explanation, which begins two columns behind the longest word. -/
def helpLine (width : Nat) (word explanation : Text) : Text :=
  Text.line ("  " ++ word ++ Text.spaces (width - word.length + 2) ++ explanation)

/-- The list with its title, behind an empty line. -/
def HelpSection.toText (part : HelpSection) : Text :=
  let width := (part.entries.map fun (word, _) => word.length).foldl max 0
  "\n" ++ part.title ++ ":\n" ++
    part.entries.flatMap fun (word, explanation) => helpLine width word explanation

/-- The text of a page. -/
def HelpPage.toText (page : HelpPage) : Text :=
  page.about ++ "\n\nUsage: " ++ page.usage ++ "\n" ++ page.sections.flatMap HelpSection.toText

namespace HelpTopic

/-- What a topic is about. -/
def about : HelpTopic → Text
  | .program => "Compile FlashML documents to HTML"
  | .command .compile => "Compile a document to HTML and the intermediate JSON record"
  | .command .check => "Validate a document without writing anything"
  | .command .inspect => "Print the tokens or a serialization of the parsed document"
  | .command .listFormats => "List the formats accepted by inspect"
  | .help => "Print this message or the help of the given subcommand(s)"

/-- The list of the commands. -/
def commandSection : HelpSection :=
  ⟨"Commands",
    CommandName.all.map (fun name => (name.toText, (command name).about)) ++
      [(helpWord, help.about)]⟩

/-- The argument of a command that takes a path. -/
def pathSection : HelpSection := ⟨"Arguments", [("<path>", "Path to the FlashML file")]⟩

/-- The option for a configuration file. -/
def configEntry : Text × Text :=
  ("-c, --config <config>", "Configuration file layered over flashml.toml and the defaults")

/-- The option for help. -/
def helpEntry : Text × Text := ("-h, --help", "Print help")

/-- The options of a command, between those that every command has. -/
def optionSection (entries : List (Text × Text)) : HelpSection :=
  ⟨"Options", configEntry :: entries ++ [helpEntry]⟩

/-- The page about a topic. -/
def page (topic : HelpTopic) : HelpPage :=
  match topic with
  | .program =>
    ⟨topic.about, "flashml [OPTIONS] <COMMAND>",
      [commandSection, ⟨"Options", [configEntry, helpEntry, ("-V, --version", "Print version")]⟩]⟩
  | .command .compile =>
    ⟨topic.about, "flashml compile [OPTIONS] <path>",
      [pathSection,
        optionSection
          [("-o, --output <output>", "HTML output path; the JSON record is written next to it"),
            ("    --report", "Print the compile report as JSON")]]⟩
  | .command .check =>
    ⟨topic.about, "flashml check [OPTIONS] <path>", [pathSection, optionSection []]⟩
  | .command .inspect =>
    ⟨topic.about, "flashml inspect [OPTIONS] <path>",
      [pathSection,
        optionSection
          [("-f, --format <format>",
            "Output format (see list-formats) [default: " ++ defaultFormat ++ "]")]]⟩
  | .command .listFormats =>
    ⟨topic.about, "flashml list-formats [OPTIONS]", [optionSection []]⟩
  | .help =>
    ⟨topic.about, "flashml help [COMMAND]...",
      [⟨"Arguments", [("[COMMAND]...", "Print help for the subcommand(s)")]⟩]⟩

end HelpTopic

end FlashMarkup
