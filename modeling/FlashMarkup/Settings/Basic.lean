import FlashMarkup.Compile.Basic
import FlashMarkup.Settings.Read

/-!
# Settings

What can be configured: the page, the layout of the record, and where and how much is logged.
-/

namespace FlashMarkup

/-- The settings of the compiler. -/
structure Settings where
  page : Html.Options
  record : Record.Options
  /-- Which events are logged. -/
  filter : Text
  /-- The file to which events are logged. -/
  logFile : Option Path
deriving DecidableEq, Repr

namespace Settings

/-- The section about pages. -/
def pageSection : Section := ⟨"html", "HtmlConfig", 3⟩

/-- The section about records. -/
def recordSection : Section := ⟨"intermediate", "IntermediateConfig", 1⟩

/-- The section about logging. -/
def loggingSection : Section := ⟨"logging", "LoggingConfig", 2⟩

/-- A value that belongs to no file. -/
def plain (content : Setting.Scalar) : Setting := .scalar none content

/-- The configuration before its first layer. -/
def defaults : Setting :=
  .table none
    [("html", .table none
        [("lang", plain (.text "es")), ("title", plain (.text "Documento FlashML")),
          ("indent", plain (.integer 2))]),
      ("intermediate", .table none [("pretty", plain (.boolean true))]),
      ("logging", .table none [("filter", plain (.text "info"))])]

/-- The settings about pages. -/
def readPage (value : Setting) : Except SettingsError Html.Options := do
  let part := pageSection
  part.ensure value
  let lang ← part.setting? value "lang" 0 Setting.readText
  let title ← part.setting? value "title" 1 Setting.readText
  let indent ← part.setting? value "indent" 2 Setting.readCount
  .ok ⟨← part.require value "lang" 0 lang, ← part.require value "title" 1 title,
    ← part.require value "indent" 2 indent⟩

/-- The settings about records. -/
def readRecord (value : Setting) : Except SettingsError Record.Options := do
  let part := recordSection
  part.ensure value
  let pretty ← part.setting? value "pretty" 0 Setting.readFlag
  .ok ⟨← part.require value "pretty" 0 pretty⟩

/-- The settings about logging. The file may be missing. -/
def readLogging (value : Setting) : Except SettingsError (Text × Option Path) := do
  let part := loggingSection
  part.ensure value
  let filter ← part.setting? value "filter" 0 Setting.readText
  let file ← part.setting? value "file" 1 Setting.readOptionalText
  .ok (← part.require value "filter" 0 filter, (file.bind id).map Path.ofText)

/-- The value of a section. -/
def sectionOf (root : Setting) (part : Section) : Except SettingsError Setting :=
  match root.entries.lookup part.key with
  | some value => .ok value
  | none => .error (.missingSetting part.key)

/-- The settings that a configuration spells. What it says beyond them is ignored. -/
def ofSetting (root : Setting) : Except SettingsError Settings := do
  let page ← readPage (← sectionOf root pageSection)
  let record ← readRecord (← sectionOf root recordSection)
  let (filter, logFile) ← readLogging (← sectionOf root loggingSection)
  .ok ⟨page, record, filter, logFile⟩

/-- What can be chosen about compiling. -/
def compileOptions (settings : Settings) : CompileOptions := ⟨settings.page, settings.record⟩

end Settings

end FlashMarkup
