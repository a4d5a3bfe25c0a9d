import FlashMarkup.Proofs.Settings.Keys

/-!
# What a configuration spells

A configuration spells a value for each of the settings if it has the three sections, and in them
the values under their names; a value that is null may be left out. If the values are of the
documented types, the configuration can be read, and the settings that it makes have these values.
-/

namespace FlashMarkup.Settings

open Setting (Scalar)

/-- Whether an entry of a section spells a value. Null may be left out. -/
def Shows (found : Option Setting) (scalar : Scalar) : Prop :=
  (∃ origin, found = some (.scalar origin scalar)) ∨ found = none ∧ scalar = .null

/-- Whether the entries of a section spell the values of its settings. -/
def PartSpells (part : Text) (entries : List (Text × Setting)) (values : Key → Scalar) : Prop :=
  ∀ key : Key, key.part = part → Shows (entries.lookup key.name) (values key)

/-- Whether a configuration spells values of the documented types. -/
structure Spells (root : Setting) (values : Key → Scalar) : Prop where
  taken : ∀ key : Key, key.Takes (values key)
  parts : ∀ key : Key, ∃ origin entries,
    root.entries.lookup key.part = some (.table origin entries) ∧
      PartSpells key.part entries values

/-- The defaults spell the initial values. -/
theorem spells_defaults : Spells defaults Key.initial where
  taken key := by
    cases key with
    | indent => exact ⟨2, by decide, rfl⟩
    | file => exact .inl rfl
    | _ => exact ⟨_, rfl⟩
  parts key := by
    cases key
    all_goals
      refine ⟨none, _, rfl, fun other same => ?_⟩
      cases other
      all_goals first
        | exact .inl ⟨none, rfl⟩
        | exact .inr ⟨rfl, rfl⟩
        | exact absurd same (by decide)

section Reading

variable {values : Key → Scalar} {entries : List (Text × Setting)} (origin : Option Text)

/-- A spelled value other than null is read from the entry under its name. -/
theorem setting?_spelled {α : Type} {part : Section} {name : Text} {index : Nat} {scalar : Scalar}
    {read : Text → Setting → Except SettingsError α} {value : α}
    (shows : Shows (entries.lookup name) scalar) (present : scalar ≠ .null)
    (reads : ∀ key origin, read key (.scalar origin scalar) = .ok value) :
    part.setting? (.table origin entries) name index read = .ok (some value) := by
  rcases shows with ⟨_, found⟩ | ⟨-, null⟩
  · simp only [Section.setting?, Setting.entries, found, reads, Except.map]
  · exact absurd null present

/-- The integers that are read as numbers are those of 64 bits without a sign. -/
theorem readCount_integer_iff {key : Text} {file : Option Text} {value : Int} {count : Nat} :
    Setting.readCount key (.scalar file (.integer value)) = .ok count ↔
      value = count ∧ count < Nat.pow 2 64 := by
  rw [Setting.readCount]
  split
  next within =>
    have below : value < (2 ^ 64 : Nat) := within.2
    rw [Except.ok.injEq]
    omega
  next outside =>
    refine iff_of_false (by simp [Setting.refuse]) ?_
    rintro ⟨rfl, below⟩
    exact outside ⟨Int.natCast_nonneg count, Int.ofNat_lt.mpr below⟩

/-- The settings about pages are read from a section that spells them. -/
theorem readPage_spelled (taken : ∀ key : Key, key.Takes (values key))
    (spelled : PartSpells Key.lang.part entries values) :
    ∃ page, readPage (.table origin entries) = .ok page ∧ values .lang = .text page.lang ∧
      values .title = .text page.title ∧ values .indent = .integer page.indent := by
  obtain ⟨lang, langValue⟩ := taken .lang
  obtain ⟨title, titleValue⟩ := taken .title
  obtain ⟨indent, bound, indentValue⟩ := taken .indent
  have langRead : pageSection.setting? (.table origin entries) "lang" 0 Setting.readText =
      .ok (some lang) :=
    setting?_spelled origin (langValue ▸ spelled .lang rfl) (by simp) fun _ _ => rfl
  have titleRead : pageSection.setting? (.table origin entries) "title" 1 Setting.readText =
      .ok (some title) :=
    setting?_spelled origin (titleValue ▸ spelled .title rfl) (by simp) fun _ _ => rfl
  have indentRead : pageSection.setting? (.table origin entries) "indent" 2 Setting.readCount =
      .ok (some indent) :=
    setting?_spelled origin (indentValue ▸ spelled .indent rfl) (by simp) fun _ _ =>
      readCount_integer_iff.mpr ⟨rfl, bound⟩
  refine ⟨⟨lang, title, indent⟩, ?_, langValue, titleValue, indentValue⟩
  simp only [readPage, Section.ensure, langRead, titleRead, indentRead, Section.require, bind,
    Except.bind]

/-- The settings about records are read from a section that spells them. -/
theorem readRecord_spelled (taken : ∀ key : Key, key.Takes (values key))
    (spelled : PartSpells Key.pretty.part entries values) :
    ∃ record, readRecord (.table origin entries) = .ok record ∧
      values .pretty = .boolean record.pretty := by
  obtain ⟨pretty, prettyValue⟩ := taken .pretty
  have prettyRead : recordSection.setting? (.table origin entries) "pretty" 0 Setting.readFlag =
      .ok (some pretty) :=
    setting?_spelled origin (prettyValue ▸ spelled .pretty rfl) (by simp) fun _ _ => rfl
  refine ⟨⟨pretty⟩, ?_, prettyValue⟩
  simp only [readRecord, Section.ensure, prettyRead, Section.require, bind, Except.bind]

/-- The file of the log is read from a section that spells it. Null and an entry that is missing
    come to the same. -/
theorem setting?_file (taken : Key.file.Takes (values .file))
    (spelled : PartSpells Key.file.part entries values) :
    ∃ file : Option (Option Text), loggingSection.setting? (.table origin entries) "file" 1
        Setting.readOptionalText = .ok file ∧
      (values .file = .null ∧ file.bind id = none ∨
        ∃ content, values .file = .text content ∧ file.bind id = some content) := by
  have shows : Shows (entries.lookup "file".toList) (values .file) := spelled .file rfl
  rcases taken with null | ⟨content, value⟩
  · rcases null ▸ shows with ⟨_, found⟩ | ⟨absent, -⟩
    · refine ⟨some none, ?_, .inl ⟨null, rfl⟩⟩
      simp only [Section.setting?, Setting.entries, found, Setting.readOptionalText, Except.map]
    · refine ⟨none, ?_, .inl ⟨null, rfl⟩⟩
      simp only [Section.setting?, Setting.entries, absent]
  · refine ⟨some (some content), ?_, .inr ⟨content, value, rfl⟩⟩
    exact setting?_spelled origin (value ▸ shows) (by simp) fun _ _ => rfl

/-- The settings about logging are read from a section that spells them. -/
theorem readLogging_spelled (taken : ∀ key : Key, key.Takes (values key))
    (spelled : PartSpells Key.filter.part entries values) :
    ∃ filter file, readLogging (.table origin entries) = .ok (filter, file) ∧
      values .filter = .text filter ∧
      (values .file = .null ∧ file = none ∨
        ∃ content, values .file = .text content ∧ file = some (Path.ofText content)) := by
  obtain ⟨filter, filterValue⟩ := taken .filter
  have filterRead : loggingSection.setting? (.table origin entries) "filter" 0 Setting.readText =
      .ok (some filter) :=
    setting?_spelled origin (filterValue ▸ spelled .filter rfl) (by simp) fun _ _ => rfl
  obtain ⟨file, fileRead, fileValue⟩ := setting?_file origin (taken .file) spelled
  refine ⟨filter, (file.bind id).map Path.ofText, ?_, filterValue, ?_⟩
  · simp only [readLogging, Section.ensure, filterRead, fileRead, Section.require, bind,
      Except.bind]
  · rcases fileValue with ⟨null, none⟩ | ⟨content, value, some⟩
    · exact .inl ⟨null, by rw [none, Option.map_none]⟩
    · exact .inr ⟨content, value, by rw [some, Option.map_some]⟩

end Reading

variable {root : Setting} {values : Key → Scalar}

/-- The section of a spelled setting is there. -/
theorem Spells.sectionOf (spells : Spells root values) (key : Key) (part : Section)
    (same : part.key = key.part) : ∃ origin entries,
      sectionOf root part = .ok (.table origin entries) ∧ PartSpells key.part entries values := by
  obtain ⟨origin, entries, found, spelled⟩ := spells.parts key
  exact ⟨origin, entries, by simp only [Settings.sectionOf, same, found], spelled⟩

/-- Settings are read from a configuration that spells them. -/
theorem Spells.ofSetting (spells : Spells root values) :
    ∃ settings, ofSetting root = .ok settings ∧ ∀ key, settings.Has key (values key) := by
  obtain ⟨pageOrigin, _, pageFound, pageSpelled⟩ := spells.sectionOf .lang pageSection rfl
  obtain ⟨recordOrigin, _, recordFound, recordSpelled⟩ :=
    spells.sectionOf .pretty recordSection rfl
  obtain ⟨loggingOrigin, _, loggingFound, loggingSpelled⟩ :=
    spells.sectionOf .filter loggingSection rfl
  obtain ⟨page, pageRead, lang, title, indent⟩ :=
    readPage_spelled pageOrigin spells.taken pageSpelled
  obtain ⟨record, recordRead, pretty⟩ :=
    readRecord_spelled recordOrigin spells.taken recordSpelled
  obtain ⟨filterText, logFile, loggingRead, filter, file⟩ :=
    readLogging_spelled loggingOrigin spells.taken loggingSpelled
  refine ⟨⟨page, record, filterText, logFile⟩, ?_, fun key => ?_⟩
  · rw [Settings.ofSetting]
    simp only [pageFound, pageRead, recordFound, recordRead, loggingFound, loggingRead, bind,
      Except.bind]
  · cases key with
    | lang => exact lang
    | title => exact title
    | indent => exact indent
    | pretty => exact pretty
    | filter => exact filter
    | file => exact file

end FlashMarkup.Settings
