import FlashMarkup.Proofs.Settings.Writing
import FlashMarkup.Proofs.Text.Encoding
import FlashMarkup.Settings.Layer

/-!
# Layers combine setting by setting

A file assigns the plain values in its sections, and those that stand under the whole path of a
setting; an override assigns its value. The settings that layers make are the defaults after the
assignments of all files in order and then those of all overrides in order.

This is shown write by write: a configuration that spells values spells the assigned ones after a
plain value is written into one of its sections, or a table over one of them. No file sets a setting
twice, so that it does not matter in which order its entries are written.
-/

namespace FlashMarkup

open Setting (Scalar)

namespace Toml

/-- The plain value that a value of a file stands for, if it is of a type that settings have. -/
def plain? : Toml → Option Scalar
  | .text content => some (.text content)
  | .integer value => some (.integer value)
  | .boolean value => some (.boolean value)
  | _ => none

/-- What an entry at the top of a file assigns. -/
def assignments : Text × Toml → List (Text × Scalar)
  | (part, .table entries) =>
    entries.filterMap fun entry => entry.2.plain?.map fun scalar => (part ++ "." ++ entry.1, scalar)
  | (path, value) => value.plain?.toList.map fun scalar => (path, scalar)

/-- Whether a value of a file is of the type of a setting. -/
def Suits (value : Toml) (key : Settings.Key) : Prop :=
  ∃ scalar, value.plain? = some scalar ∧ key.Takes scalar

/-- Whether an entry at the top of a file sets nothing but settings: in a section, or in one go. -/
inductive SetsSettings : Text × Toml → Prop
  | part (key : Settings.Key) (entries : List (Text × Toml))
      (each : ∀ entry ∈ entries, ∃ other : Settings.Key, other.part = key.part ∧
        entry.1 = other.name ∧ entry.2.Suits other) :
      SetsSettings (key.part, .table entries)
  | path (key : Settings.Key) (value : Toml) (suits : value.Suits key) :
      SetsSettings (key.path, value)

end Toml

namespace Layer

/-- What the file of a layer assigns, if there is one. -/
def fileAssignments : Layer → List (Text × Scalar)
  | .file _ _ (some (_, content)) =>
    ((content.decode?.bind Toml.read?).getD []).flatMap Toml.assignments
  | _ => []

/-- What a layer assigns over all files. -/
def overrideAssignments : Layer → List (Text × Scalar)
  | .override path (.scalar _ scalar) => [(path, scalar)]
  | _ => []

/-- Whether a layer sets nothing but settings, to values of their types, and a file none of them
    twice. A file may be missing where it is not required. -/
def SetsSettings : Layer → Prop
  | .file _ required none => required = false
  | .file _ _ (some (_, content)) =>
    ∃ source entries, content.decode? = some source ∧ Toml.read? source = some entries ∧
      (∀ entry ∈ entries, Toml.SetsSettings entry) ∧
      ((entries.flatMap Toml.assignments).map Prod.fst).Nodup
  | .override path value =>
    ∃ (key : Settings.Key) (origin : Option Text) (scalar : Scalar),
      path = key.path ∧ value = .scalar origin scalar ∧ key.Takes scalar

/-- Whether a layer assigns a value to a setting. -/
def Mentions (layer : Layer) (key : Settings.Key) : Prop :=
  ∃ scalar, (key.path, scalar) ∈ layer.fileAssignments ++ layer.overrideAssignments

/-- Whether two layers assign the same, in whichever order their files do so. -/
def Reordered (layer other : Layer) : Prop :=
  layer.fileAssignments.Perm other.fileAssignments ∧
    layer.overrideAssignments = other.overrideAssignments

/-- What a readable file assigns is what its entries assign. -/
theorem fileAssignments_eq {found : Path} {content : Bytes} {source : Text}
    {entries : List (Text × Toml)} (decoded : content.decode? = some source)
    (read : Toml.read? source = some entries) (path : Path) (required : Bool) :
    (Layer.file path required (some (found, content))).fileAssignments =
      entries.flatMap Toml.assignments := by
  rw [fileAssignments, decoded, Option.bind_some, read, Option.getD_some]

/-- No file that sets nothing but settings assigns to one of them twice. -/
theorem SetsSettings.distinct {layer : Layer} (settable : layer.SetsSettings) :
    (layer.fileAssignments.map Prod.fst).Nodup := by
  match layer, settable with
  | .file _ _ none, _ => exact List.nodup_nil
  | .file path required (some _), ⟨_, _, decoded, read, _, distinct⟩ =>
    rwa [fileAssignments_eq decoded read]
  | .override _ _, _ => exact List.nodup_nil

end Layer

namespace Settings

/-- The value that layers choose for a setting: that of the last override, else the one that comes
    last in files, else the initial one. -/
def chosen (layers : List Layer) (key : Key) : Scalar :=
  ((last? (layers.flatMap Layer.overrideAssignments) key).or
    (last? (layers.flatMap Layer.fileAssignments) key)).getD key.initial

section Files

variable {root : Setting} {values : Key → Scalar}

/-- A value of a file of a type that settings have is written as a plain value. -/
theorem ofToml_plain {value : Toml} {scalar : Scalar} (plain : value.plain? = some scalar)
    (file : Option Text) : Setting.ofToml file value = .scalar file scalar := by
  cases value <;> simp_all [Toml.plain?, Setting.ofToml]

/-- Such a value at the top of a file is assigned in one go. -/
theorem assignments_path {value : Toml} {scalar : Scalar} (plain : value.plain? = some scalar)
    (path : Text) : Toml.assignments (path, value) = [(path, scalar)] := by
  cases value <;> simp_all [Toml.plain?, Toml.assignments]

/-- A section of a file is spelled after it is written.

    Induct on its entries, each of which is written before those behind it. -/
theorem Spells.writePart (spells : Spells root values) (file : Option Text) (key : Key)
    {entries : List (Text × Toml)} (each : ∀ entry ∈ entries, ∃ other : Key,
      other.part = key.part ∧ entry.1 = other.name ∧ entry.2.Suits other) :
    Spells (root.write ⟨key.part, []⟩ (.table file (Setting.ofTomlEntries file entries)))
      (assign values (Toml.assignments (key.part, .table entries))) := by
  induction entries generalizing root values with
  | nil => exact spells.write_nil key file
  | cons entry rest later =>
    obtain ⟨name, value⟩ := entry
    obtain ⟨⟨other, within, named, scalar, plain, takes⟩, behind⟩ := List.forall_mem_cons.mp each
    obtain ⟨_, _, found, _⟩ := spells.parts other
    obtain rfl : name = other.name := named
    have assigned : Toml.assignments (key.part, .table ((other.name, value) :: rest)) =
        (other.path, scalar) :: Toml.assignments (key.part, .table rest) := by
      simp only [Toml.assignments, List.filterMap_cons, plain, Option.map_some, Key.path, within]
    rw [assigned, assign_cons, Setting.ofTomlEntries, ofToml_plain plain, ← within,
      write_part_cons found, within]
    exact later (within ▸ spells.write takes file) behind

/-- An entry of a file is spelled after it is written. -/
theorem Spells.writeEntry (spells : Spells root values) (file : Option Text) {entry : Text × Toml}
    (settable : Toml.SetsSettings entry) :
    Spells (root.writeFile [(entry.1, Setting.ofToml file entry.2)])
      (assign values (Toml.assignments entry)) := by
  cases settable with
  | part key entries each =>
    simp only [Setting.writeFile, List.foldl_cons, List.foldl_nil, Key.ofText_part, Setting.ofToml]
    exact spells.writePart file key each
  | path key value suits =>
    obtain ⟨scalar, plain, takes⟩ := suits
    simp only [Setting.writeFile, List.foldl_cons, List.foldl_nil, Key.ofText_path,
      ofToml_plain plain, assignments_path plain, assign_single]
    exact spells.write takes file

/-- A file is spelled after it is written. -/
theorem Spells.writeFile (spells : Spells root values) (file : Option Text)
    {entries : List (Text × Toml)} (settable : ∀ entry ∈ entries, Toml.SetsSettings entry) :
    Spells (root.writeFile (Setting.ofTomlEntries file entries))
      (assign values (entries.flatMap Toml.assignments)) := by
  induction entries generalizing root values with
  | nil => exact spells
  | cons entry rest later =>
    obtain ⟨first, behind⟩ := List.forall_mem_cons.mp settable
    rw [List.flatMap_cons, assign_append]
    exact later (spells.writeEntry file first) behind

/-- The file of a layer is spelled after the layer is added. -/
theorem Spells.addFile {layer : Layer} (spells : Spells root values)
    (settable : layer.SetsSettings) : ∃ written, Layer.addFile root layer = .ok written ∧
      Spells written (assign values layer.fileAssignments) := by
  match layer, settable with
  | .file _ _ none, optional =>
    obtain rfl := optional
    exact ⟨root, rfl, spells⟩
  | .file path required (some (found, content)), readable =>
    obtain ⟨source, entries, decoded, read, each, -⟩ := readable
    rw [Layer.fileAssignments_eq decoded read]
    refine ⟨_, ?_, spells.writeFile (some found.displayParts) each⟩
    simp only [Layer.addFile, decoded, Layer.entries, read, Except.map]
  | .override _ _, _ => exact ⟨root, rfl, spells⟩

/-- The files of layers are spelled after the layers are added. -/
theorem Spells.addFiles {layers : List Layer} (spells : Spells root values)
    (settable : ∀ layer ∈ layers, layer.SetsSettings) :
    ∃ written, layers.foldlM Layer.addFile root = .ok written ∧
      Spells written (assign values (layers.flatMap Layer.fileAssignments)) := by
  induction layers generalizing root values with
  | nil => exact ⟨root, rfl, spells⟩
  | cons layer rest later =>
    obtain ⟨first, behind⟩ := List.forall_mem_cons.mp settable
    obtain ⟨added, adds, spelled⟩ := spells.addFile first
    obtain ⟨written, writes, result⟩ := later spelled behind
    refine ⟨written, ?_, ?_⟩
    · rw [List.foldlM_cons, adds]
      exact writes
    · rwa [List.flatMap_cons, assign_append]

end Files

/-- The overrides among layers are read, and they are spelled after they are written. -/
theorem overrides_spelled {layers : List Layer}
    (settable : ∀ layer ∈ layers, layer.SetsSettings) :
    ∃ overrides, (layers.filterMap Layer.override?).mapM id = .ok overrides ∧
      ∀ {root values}, Spells root values →
        Spells (overrides.foldl (fun root (path, value) => root.write path value) root)
          (assign values (layers.flatMap Layer.overrideAssignments)) := by
  induction layers with
  | nil => exact ⟨[], rfl, fun spells => spells⟩
  | cons layer rest later =>
    obtain ⟨first, behind⟩ := List.forall_mem_cons.mp settable
    obtain ⟨overrides, reads, writes⟩ := later behind
    match layer, first with
    | .file _ _ _, _ => exact ⟨overrides, reads, writes⟩
    | .override _ _, ⟨key, origin, scalar, rfl, rfl, takes⟩ =>
      have read : Layer.override? (.override key.path (.scalar origin scalar)) =
          some (.ok (⟨key.part, [.key key.name]⟩, .scalar origin scalar)) := by
        simp only [Layer.override?, Key.ofText_path, Except.map, Except.mapError]
      refine ⟨(⟨key.part, [.key key.name]⟩, .scalar origin scalar) :: overrides, ?_, ?_⟩
      · rw [List.filterMap_cons_some read, List.mapM_cons, reads]
        rfl
      · intro root values spells
        exact assign_cons key scalar _ ▸ writes (spells.write takes origin)

/-- The configuration that layers make spells the values that they choose. -/
theorem merge_spells {layers : List Layer} (settable : ∀ layer ∈ layers, layer.SetsSettings) :
    ∃ merged, merge layers = .ok merged ∧ Spells merged (chosen layers) := by
  obtain ⟨overrides, reads, writes⟩ := overrides_spelled settable
  obtain ⟨files, adds, spelled⟩ := spells_defaults.addFiles settable
  have values : chosen layers = assign
      (assign Key.initial (layers.flatMap Layer.fileAssignments))
      (layers.flatMap Layer.overrideAssignments) := by
    funext key
    exact Option.getD_or
  refine ⟨_, ?_, values ▸ writes spelled⟩
  simp only [merge, reads, adds, bind, Except.bind]

/-- Layers that set nothing but settings choose each of them. -/
theorem ofLayers_chosen {layers : List Layer} (settable : ∀ layer ∈ layers, layer.SetsSettings) :
    ∃ settings, ofLayers layers = .ok settings ∧ ∀ key, settings.Has key (chosen layers key) := by
  obtain ⟨merged, merges, spells⟩ := merge_spells settable
  obtain ⟨settings, reads, has⟩ := spells.ofSetting
  refine ⟨settings, ?_, has⟩
  simp only [ofLayers, merges, bind, Except.bind, reads]

/-- A layer that does not mention a setting has no part in choosing it. -/
theorem chosen_unmentioned {before after : List Layer} {layer : Layer} {key : Key}
    (absent : ¬ layer.Mentions key) :
    chosen (before ++ layer :: after) key = chosen (before ++ after) key := by
  have unassigned {assignments : List (Text × Scalar)}
      (among : assignments ⊆ layer.fileAssignments ++ layer.overrideAssignments) :
      last? assignments key = none := by
    refine last?_eq_none fun assignment listed same => absent ⟨assignment.2, ?_⟩
    exact same ▸ among listed
  have file := unassigned (List.subset_append_left _ _)
  have override := unassigned (List.subset_append_right _ _)
  simp only [chosen, List.flatMap_append, List.flatMap_cons, last?_append, file, override,
    Option.or_none]

/-- A file that is not there makes no difference. -/
theorem merge_missing (before after : List Layer) (path : Path) :
    merge (before ++ .file path false none :: after) = merge (before ++ after) := by
  have overrides : (before ++ .file path false none :: after).filterMap Layer.override? =
      (before ++ after).filterMap Layer.override? := by
    rw [List.filterMap_append, List.filterMap_cons_none rfl, ← List.filterMap_append]
  have files : (before ++ .file path false none :: after).foldlM Layer.addFile defaults =
      (before ++ after).foldlM Layer.addFile defaults := by
    rw [List.foldlM_append, List.foldlM_append]
    rfl
  rw [merge, merge, overrides, files]

/-- Layers with files in another order choose the same. -/
theorem chosen_reordered {layers others : List Layer}
    (settable : ∀ layer ∈ layers, layer.SetsSettings)
    (reordered : List.Forall₂ Layer.Reordered layers others) : chosen layers = chosen others := by
  have same : (∀ key, last? (layers.flatMap Layer.fileAssignments) key =
        last? (others.flatMap Layer.fileAssignments) key) ∧
      layers.flatMap Layer.overrideAssignments = others.flatMap Layer.overrideAssignments := by
    induction reordered with
    | nil => exact ⟨fun _ => rfl, rfl⟩
    | cons pair _ later =>
      obtain ⟨first, behind⟩ := List.forall_mem_cons.mp settable
      obtain ⟨files, overrides⟩ := later behind
      refine ⟨fun key => ?_, ?_⟩
      · rw [List.flatMap_cons, List.flatMap_cons, last?_append, last?_append, files key,
          last?_perm first.distinct pair.1]
      · rw [List.flatMap_cons, List.flatMap_cons, pair.2, overrides]
  funext key
  rw [chosen, chosen, same.1 key, same.2]

/-- Layers combine setting by setting. If they set nothing but settings, to values of their types,
    they make settings, and each of these has the value of its last override, wherever that stands
    among the files, else the one that comes last in files, else the initial one. Without one of the
    layers the settings that it does not mention are the same; all of them are if it is a file that
    is not there. Nor does it matter in which order files assign. -/
theorem layers_combine {layers : List Layer} (settable : ∀ layer ∈ layers, layer.SetsSettings) :
    ∃ settings, ofLayers layers = .ok settings ∧
      (∀ key, settings.Has key (chosen layers key)) ∧
      (∀ before layer after, layers = before ++ layer :: after →
        ∃ others, ofLayers (before ++ after) = .ok others ∧
          (∀ key, ¬ layer.Mentions key → Agree settings others key) ∧
          ∀ path, layer = .file path false none → others = settings) ∧
      ∀ others, List.Forall₂ Layer.Reordered layers others →
        (∀ other ∈ others, other.SetsSettings) → ofLayers others = .ok settings := by
  obtain ⟨settings, made, has⟩ := ofLayers_chosen settable
  refine ⟨settings, made, has, ?_, fun others reordered settableOthers => ?_⟩
  · rintro before layer after rfl
    have fewer : ∀ other ∈ before ++ after, other.SetsSettings := by
      intro other member
      rcases List.mem_append.mp member with front | back
      · exact settable other (List.mem_append_left _ front)
      · exact settable other (List.mem_append_right _ (List.mem_cons_of_mem _ back))
    obtain ⟨others, madeOthers, hasOthers⟩ := ofLayers_chosen fewer
    refine ⟨others, madeOthers, fun key absent => ?_, ?_⟩
    · have same := has key
      rw [chosen_unmentioned absent] at same
      exact same.agree (hasOthers key)
    · rintro path rfl
      rw [ofLayers, merge_missing, ← ofLayers] at made
      exact Except.ok.inj (madeOthers.symm.trans made)
  · obtain ⟨found, madeOthers, hasOthers⟩ := ofLayers_chosen settableOthers
    rw [← chosen_reordered settable reordered] at hasOthers
    rw [madeOthers, eq_of_agree fun key => (hasOthers key).agree (has key)]

/-- A file that sets the language. -/
def englishFile : Text := "[html]\nlang = \"en\"\n"

/-- The file has one section with one setting. -/
theorem read_englishFile :
    Toml.read? englishFile =
      some [(Key.lang.part, .table [(Key.lang.name, .text "en".toList)])] := by
  have value : Toml.value? 51 79 "\"en\"\n" = some (.text "en".toList, "\n".toList) := by
    simp [Toml.value?, Toml.quote?, Toml.lineQuote?, Toml.quotedBody, Toml.basicPiece?,
      Toml.isPlain]
  have assignment : Toml.assignment? 52 79 "lang = \"en\"\n" =
      some (([Key.lang.name], .text "en".toList), "\n".toList) := by
    rw [Toml.assignment?]
    exact congrArg (Option.bind · _) value
  have statement : Toml.statement? "lang = \"en\"\n" =
      some (.assignment [Key.lang.name] (.text "en".toList), "\n".toList) :=
    congrArg (Option.map _) assignment
  have assigned : Toml.statements? 19 "lang = \"en\"\n" =
      some [.assignment [Key.lang.name] (.text "en".toList)] :=
    congrArg (Option.bind · _) statement
  have statements : Toml.statements? 20 englishFile =
      some [.header [Key.lang.part], .assignment [Key.lang.name] (.text "en".toList)] :=
    congrArg (Option.bind · _) assigned
  exact congrArg (Option.bind · _) statements

/-- An override in front of a file and of another one that is not there. -/
def stackedLayers : List Layer :=
  [.override Key.title.path (plain (.text "Team")),
    .file (Path.ofText "english.toml") true
      (some (Path.ofText "english.toml", englishFile.toBytes)),
    .file (Path.ofText "flashml.toml") false none]

/-- The title is that of the override, the language that of the file, and the indentation that of
    the defaults. -/
theorem layers_combine_stacked :
    (∀ layer ∈ stackedLayers, layer.SetsSettings) ∧
      ∃ settings, ofLayers stackedLayers = .ok settings ∧ settings.Has .title (.text "Team") ∧
        settings.Has .lang (.text "en") ∧ settings.Has .indent (.integer 2) := by
  have decoded : englishFile.toBytes.decode? = some englishFile := Bytes.decode?_eq_some_iff.mpr rfl
  have entry : Toml.SetsSettings (Key.lang.part, .table [(Key.lang.name, .text "en")]) :=
    .part .lang _ (List.forall_mem_singleton.mpr ⟨.lang, rfl, rfl, _, rfl, _, rfl⟩)
  have settable : ∀ layer ∈ stackedLayers, layer.SetsSettings := by
    refine List.forall_mem_cons.mpr ⟨?title, List.forall_mem_cons.mpr ⟨?file, ?missing⟩⟩
    case title => exact ⟨.title, _, _, rfl, rfl, _, rfl⟩
    case file =>
      exact ⟨_, _, decoded, read_englishFile, List.forall_mem_singleton.mpr entry,
        List.nodup_singleton _⟩
    case missing => exact List.forall_mem_singleton.mpr rfl
  have assigned : stackedLayers.flatMap Layer.fileAssignments = [(Key.lang.path, .text "en")] := by
    simp only [stackedLayers, List.flatMap_cons, Layer.fileAssignments, decoded, Option.bind_some,
      read_englishFile]
    rfl
  have lang : chosen stackedLayers .lang = .text "en" := by
    rw [chosen, assigned]
    rfl
  have indent : chosen stackedLayers .indent = .integer 2 := by
    rw [chosen, assigned]
    rfl
  obtain ⟨settings, made, has, -⟩ := layers_combine settable
  exact ⟨settable, settings, made, has .title, lang ▸ has .lang, indent ▸ has .indent⟩

end Settings

end FlashMarkup
