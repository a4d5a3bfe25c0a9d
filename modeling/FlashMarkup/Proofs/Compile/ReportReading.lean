import FlashMarkup.Proofs.Compile.Outcome
import FlashMarkup.Proofs.Document.RecordReading
import FlashMarkup.Proofs.Storage.FileName
import FlashMarkup.Proofs.Text.Encoding

/-!
# Reports from their JSON

A report that is stored as JSON is read again: the paths, and the errors with their categories, in
their order. Everything in a report is a text but its paths, which are bytes. A report with a path
that spells no text is not stored at all: what is left is an empty text, which is not JSON. The
paths of a run are made of the paths that it is given, so a run that is given texts has such a path
in no report.
-/

namespace FlashMarkup

namespace Path

/-- Whether the bytes of a path are the encoding of a text. -/
def SpellsText (path : Path) : Prop := ∃ content : Text, path = .ofText content

/-- The text of a path is the one that it is the encoding of. -/
theorem toText?_eq_some_iff {path : Path} {content : Text} :
    path.toText? = some content ↔ path = .ofText content := by
  obtain ⟨bytes⟩ := path
  rw [toText?, Bytes.decode?_eq_some_iff, ofText, Path.mk.injEq]

/-- A path that spells no text has none. -/
theorem toText?_eq_none_iff {path : Path} : path.toText? = none ↔ ¬path.SpellsText := by
  rw [Option.eq_none_iff_forall_not_mem, SpellsText, not_exists]
  exact forall_congr' fun content => not_congr toText?_eq_some_iff

/-- A path that spells a text does so with a new extension. A stem ends in front of a dot, of a slash
    or of the end, so a character is in it as a whole or not at all. -/
theorem SpellsText.withExtension {path : Path} (spells : path.SpellsText) (extension : Text) :
    (path.withExtension extension).SpellsText := by
  cases named : path.fileName? with
  | none =>
    rw [withExtension_of_nameless named]
    exact spells
  | some name =>
    obtain ⟨front, trail, names⟩ := fileName?_eq_some_iff.mp named
    obtain ⟨stem, rest, -, -, whole, border, replaced⟩ := names.withExtension
    obtain ⟨content, rfl⟩ := spells
    have cut : content.toBytes = (front ++ stem) ++ rest := by
      have bytes : content.toBytes = front ++ name ++ trail := names.bytes
      rw [bytes, List.append_assoc, whole, List.append_assoc]
    have ascii : ∀ byte ∈ rest.head?, byte < 0x80 := by
      intro byte first
      obtain rfl | rfl := border byte first <;> decide
    obtain ⟨shorter, same⟩ := Text.exists_toBytes_eq_front cut ascii
    have behind (more : Text) : (⟨front ++ (stem ++ more.toBytes)⟩ : Path).SpellsText :=
      ⟨shorter ++ more, by rw [ofText, Text.toBytes_append, ← same, List.append_assoc]⟩
    split at replaced
    next alone =>
      obtain ⟨rfl, -⟩ := alone
      rw [replaced]
      exact behind "."
    next =>
      rw [replaced]
      exact behind ('.' :: extension)

end Path

/-- An empty text is not JSON. -/
theorem Json.read?_nil : read? [] = none := by
  have words : readWords? [] = some [] := by
    rw [readWords?.eq_def]
    rfl
  rw [read?, words]
  simp [expectValue?]

/-- The value of the field of a record that has a name. -/
def Data.field? (name : Text) : Data → Option Data
  | .record fields => (fields.find? (·.1 == name)).map Prod.snd
  | _ => none

/-- The category that a word stands for. -/
def ErrorCategory.ofText? (word : Text) : Option ErrorCategory :=
  [lexical, syntactic, semantic, general].find? (·.toText == word)

namespace ReportedError

/-- The entry that data stand for. -/
def ofData? (data : Data) : Option ReportedError :=
  match data.field? "category", data.field? "message" with
  | some (.text word), some (.text message) => (ErrorCategory.ofText? word).map (⟨·, message⟩)
  | _, _ => none

/-- An entry is read as it is stored. -/
theorem ofData_toData (error : ReportedError) : ofData? error.toData = some error := by
  obtain ⟨category, message⟩ := error
  cases category <;> rfl

/-- Entries are read as they are stored. -/
theorem mapM_ofData_toData (errors : List ReportedError) :
    (errors.map toData).mapM ofData? = some errors := by
  induction errors with
  | nil => rfl
  | cons error rest ih => simp [List.mapM_cons, ofData_toData, ih]

/-- Entries are stored under distinct keys. -/
theorem distinctKeys_toData (errors : List ReportedError) :
    Data.DistinctKeysOfItems (errors.map toData) := by
  induction errors with
  | nil => trivial
  | cons error rest ih =>
    have keys : (["category", "message"] : List Text).Nodup := by decide
    exact ⟨⟨keys, trivial, trivial, trivial⟩, ih⟩

end ReportedError

namespace Report

/-- The path that data stand for, which may be missing. -/
def pathOf? : Data → Option (Option Path)
  | .null => some none
  | .text content => some (some (.ofText content))
  | _ => none

/-- The report that data stand for. -/
def ofData? (data : Data) : Option Report :=
  match data.field? "input", data.field? "html", data.field? "intermediate",
    data.field? "errors" with
  | some (.text input), some html, some record, some (.list errors) =>
    match pathOf? html, pathOf? record, errors.mapM ReportedError.ofData? with
    | some html, some record, some errors => some ⟨.ofText input, html, record, errors⟩
    | _, _, _ => none
  | _, _, _, _ => none

/-- The fields of a report are found by their names. -/
theorem ofData?_record (input : Text) (html record : Data) (errors : List Data) :
    ofData? (.record [("input", .text input), ("html", html), ("intermediate", record),
        ("errors", .list errors)]) =
      match pathOf? html, pathOf? record, errors.mapM ReportedError.ofData? with
      | some html, some record, some errors => some ⟨.ofText input, html, record, errors⟩
      | _, _, _ => none :=
  rfl

/-- The paths in a report. -/
def paths (report : Report) : List Path :=
  report.input :: (report.html.toList ++ report.record.toList)

/-- A path that is missing or spells a text is read as it is stored. -/
theorem exists_pathData? {path : Option Path} (spells : ∀ given ∈ path, given.SpellsText) :
    ∃ data, pathData? path = some data ∧ data.DistinctKeys ∧ pathOf? data = some path := by
  cases path with
  | none => exact ⟨.null, rfl, trivial, rfl⟩
  | some path =>
    obtain ⟨content, rfl⟩ := spells path rfl
    refine ⟨.text content, ?_, trivial, rfl⟩
    rw [pathData?, Path.toText?_eq_some_iff.mpr rfl, Option.map_some]

/-- A path that spells no text is not stored. -/
theorem pathData?_eq_none {path : Path} (unspelled : ¬path.SpellsText) :
    pathData? (some path) = none := by
  rw [pathData?, Path.toText?_eq_none_iff.mpr unspelled, Option.map_none]

/-- A report whose paths spell texts is read as it is stored. -/
theorem exists_toData? {report : Report} (spells : ∀ path ∈ report.paths, path.SpellsText) :
    ∃ data, report.toData? = some data ∧ data.DistinctKeys ∧ ofData? data = some report := by
  obtain ⟨input, html, record, errors⟩ := report
  simp only [paths, List.forall_mem_cons, List.forall_mem_append, Option.mem_toList] at spells
  obtain ⟨⟨content, rfl⟩, htmlSpells, recordSpells⟩ := spells
  obtain ⟨page, storedPage, pageKeys, readPage⟩ := exists_pathData? htmlSpells
  obtain ⟨json, storedJson, jsonKeys, readJson⟩ := exists_pathData? recordSpells
  have storedInput : pathData? (some (.ofText content)) = some (.text content) := by
    rw [pathData?, Path.toText?_eq_some_iff.mpr rfl, Option.map_some]
  have keys : (["input", "html", "intermediate", "errors"] : List Text).Nodup := by decide
  refine ⟨.record [("input", .text content), ("html", page), ("intermediate", json),
    ("errors", .list (errors.map ReportedError.toData))], ?_, ?_, ?_⟩
  · simp only [toData?, storedInput, storedPage, storedJson, bind, Option.bind]
  · exact ⟨keys, trivial, pageKeys, jsonKeys, ReportedError.distinctKeys_toData errors, trivial⟩
  · rw [ofData?_record, readPage, readJson, ReportedError.mapM_ofData_toData]

/-- A report with a path that spells no text is not stored. -/
theorem toData?_eq_none {report : Report} {path : Path} (member : path ∈ report.paths)
    (unspelled : ¬path.SpellsText) : report.toData? = none := by
  have missing := pathData?_eq_none unspelled
  obtain ⟨input, html, record, errors⟩ := report
  simp only [paths, List.mem_cons, List.mem_append, Option.mem_toList] at member
  obtain rfl | rfl | rfl := member
  · simp [toData?, missing]
  · simp [toData?, missing]
  · simp [toData?, missing]

/-- Whether the JSON of a report is read as the report: it spells data in which no record has a key
    twice and that stand for the report. -/
def ReadsBack (report : Report) : Prop :=
  ∃ data, Json.read? report.toJson = some data ∧ data.DistinctKeys ∧ ofData? data = some report

/-- A report is read as it is stored exactly if its paths spell texts. -/
theorem readsBack_iff {report : Report} :
    report.ReadsBack ↔ ∀ path ∈ report.paths, path.SpellsText := by
  constructor
  · rintro ⟨data, read, -, -⟩ path member
    by_contra unspelled
    rw [toJson, toData?_eq_none member unspelled] at read
    exact Option.some_ne_none _ (read.symm.trans Json.read?_nil)
  · intro spells
    obtain ⟨data, stored, keys, same⟩ := exists_toData? spells
    refine ⟨data, ?_, keys, same⟩
    rw [toJson, stored]
    exact data.read_toJsonPretty

/-- A report that is not read back is stored as an empty text. -/
theorem toJson_eq_nil_iff {report : Report} : report.toJson = [] ↔ ¬report.ReadsBack := by
  constructor
  · rintro empty ⟨data, read, -, -⟩
    rw [empty, Json.read?_nil] at read
    cases read
  · intro lost
    rw [readsBack_iff] at lost
    push Not at lost
    obtain ⟨path, member, unspelled⟩ := lost
    rw [toJson, toData?_eq_none member unspelled]

end Report

namespace Depot

variable {σ : Type} (depot : Depot σ) (options : CompileOptions) (input : Path)
  (output : Option Path) (state : σ)

/-- The paths in the report of a run are those of the input and of artifacts. -/
theorem mem_paths_report {path : Path}
    (member : path ∈ (depot.report options input output state).paths) :
    path = input ∨ path = (artifactPaths input output).1 ∨
      path = (artifactPaths input output).2 := by
  obtain ⟨-, told, -⟩ | ⟨failure, -, -, told, -⟩ | ⟨source, problem, -, -, -, told, -⟩ |
    ⟨source, result, -, -, -, first, second, told, -⟩ :=
      depot.run_cases options input output state
  · exact .inl (by simpa [told, Report.failed, Report.paths] using member)
  · exact .inl (by simpa [told, Report.failed, Report.paths] using member)
  · exact .inl (by simpa [told, Report.failed, Report.paths] using member)
  · simp only [told, reportOf, Report.paths, List.mem_cons, List.mem_append, Option.mem_toList,
      Attempt.written?_eq_some_iff] at member
    obtain rfl | ⟨rfl, -⟩ | ⟨rfl, -⟩ := member
    · exact .inl rfl
    · exact .inr (.inl rfl)
    · exact .inr (.inr rfl)

/-- The report of compiling a file is read as it is stored exactly if its paths spell texts, and
    otherwise nothing is stored of it. If the paths that the run is given spell texts, those of
    its report do. -/
theorem report_reads_back_iff :
    let report := depot.report options input output state
    (report.ReadsBack ↔ ∀ path ∈ report.paths, path.SpellsText) ∧
      (report.toJson = [] ↔ ∃ path ∈ report.paths, ¬path.SpellsText) ∧
      ((∀ given ∈ input :: output.toList, given.SpellsText) → report.ReadsBack) := by
  intro report
  refine ⟨Report.readsBack_iff, ?_, fun spells => Report.readsBack_iff.mpr ?_⟩
  · rw [Report.toJson_eq_nil_iff, Report.readsBack_iff]
    push Not
    rfl
  · simp only [List.forall_mem_cons, Option.mem_toList] at spells
    obtain ⟨inputSpells, outputSpells⟩ := spells
    have base : (output.getD input).SpellsText := by
      cases output with
      | none => exact inputSpells
      | some output => exact outputSpells output rfl
    intro path member
    obtain rfl | rfl | rfl := depot.mem_paths_report options input output state member
    · exact inputSpells
    · exact base.withExtension "html"
    · exact base.withExtension "json"

end Depot

/-- A file that is not there is reported as an error, but the report is stored as an empty text if a
    byte of the path of the file cannot stand in a text. -/
theorem FileSystem.report_of_missing_file :
    let report := FileSystem.depot.report {} ⟨0xFF :: Text.toBytes ".flashml"⟩ none ⟨[], []⟩
    report.errors ≠ [] ∧ report.toJson = [] ∧ ¬report.ReadsBack := by
  intro report
  have empty : report.toJson = [] := by decide +kernel
  exact ⟨by decide +kernel, empty, Report.toJson_eq_nil_iff.mp empty⟩

end FlashMarkup
