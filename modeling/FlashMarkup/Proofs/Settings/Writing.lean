import FlashMarkup.Proofs.Settings.Spelling
import FlashMarkup.Settings.Merge

/-!
# Writing over a configuration that spells values

A plain value that is written at the path of a setting is spelled afterwards, and the other settings
are spelled as before. A table that is written over a section comes to the same as its entries
written one after the other.
-/

namespace FlashMarkup

namespace Setting

/-- A value that is put under a key is found there, and nothing else changes. -/
theorem lookup_put (key name : Text) (value : Setting) (entries : List (Text × Setting)) :
    (put key value entries).lookup name =
      if name = key then some value else entries.lookup name := by
  induction entries with
  | nil =>
    by_cases same : name = key
    · simp [put, same]
    · simp [put, List.lookup_cons, beq_false_of_ne same, same]
  | cons entry rest later =>
    obtain ⟨other, old⟩ := entry
    by_cases found : other = key
    · subst found
      by_cases same : name = other
      · simp [put, same]
      · simp [put, List.lookup_cons, beq_false_of_ne same, same]
    · rw [put, if_neg found, List.lookup_cons, List.lookup_cons, later]
      by_cases same : name = other
      · simp [same, found]
      · simp [beq_false_of_ne same]

/-- A value that is put over another one replaces it. -/
theorem put_put (key : Text) (value other : Setting) (entries : List (Text × Setting)) :
    put key value (put key other entries) = put key value entries := by
  induction entries with
  | nil => simp [put]
  | cons entry rest later =>
    by_cases found : entry.1 = key <;> simp [put, found, later]

end Setting

namespace Settings

open Setting (Scalar lookup_put put_put)

namespace Key

/-- The name of a section is in lower case. -/
@[simp]
theorem toLower_part (key : Key) : Text.toLower key.part = key.part := by cases key <;> rfl

/-- The name of a setting is in lower case. -/
@[simp]
theorem toLower_name (key : Key) : Text.toLower key.name = key.name := by cases key <;> rfl

/-- The name of a section is a key path of its own. -/
theorem ofText_part (key : Key) : KeyPath.ofText key.part = .ok ⟨key.part, []⟩ := by
  cases key <;> rfl

/-- The path of a setting leads into its section. -/
theorem ofText_path (key : Key) :
    KeyPath.ofText key.path = .ok ⟨key.part, [.key key.name]⟩ := by
  cases key <;> rfl

end Key

variable {root : Setting} {values : Key → Scalar}

/-- A write at the path of a setting changes an entry of its section. -/
theorem write_path {key : Key} {origin : Option Text} {entries : List (Text × Setting)}
    (found : root.entries.lookup key.part = some (.table origin entries)) (value : Setting) :
    root.write ⟨key.part, [.key key.name]⟩ value =
      .table (Setting.tableOrigin (some root)) (Setting.put key.part (.table origin
        (Setting.put key.name (Setting.overlay (entries.lookup key.name) value) entries))
        root.entries) := by
  simp only [Setting.write, Setting.overlayAt, Option.map_some, Option.getD_some,
    Key.toLower_part, Key.toLower_name, found]
  rfl

/-- A table that is written over a section changes its entries one after the other. -/
theorem write_part {key : Key} {origin : Option Text} {entries : List (Text × Setting)}
    (found : root.entries.lookup key.part = some (.table origin entries))
    (file : Option Text) (incoming : List (Text × Setting)) :
    root.write ⟨key.part, []⟩ (.table file incoming) =
      .table (Setting.tableOrigin (some root)) (Setting.put key.part (.table origin
        (Setting.overlayEntries entries incoming)) root.entries) := by
  simp only [Setting.write, Setting.overlayAt, Option.map_some, Option.getD_some,
    Key.toLower_part, found]
  cases incoming <;> rfl

/-- A table that is written over a section changes its first entry and then the others. -/
theorem write_part_cons {key : Key} {origin : Option Text} {entries : List (Text × Setting)}
    (found : root.entries.lookup key.part = some (.table origin entries))
    (file : Option Text) (value : Setting) (rest : List (Text × Setting)) :
    root.write ⟨key.part, []⟩ (.table file ((key.name, value) :: rest)) =
      (root.write ⟨key.part, [.key key.name]⟩ value).write ⟨key.part, []⟩ (.table file rest) := by
  have written : (root.write ⟨key.part, [.key key.name]⟩ value).entries.lookup key.part =
      some (.table origin
        (Setting.put key.name (Setting.overlay (entries.lookup key.name) value) entries)) := by
    rw [write_path found, Setting.entries, lookup_put, if_pos rfl]
  rw [write_part found, write_part written, write_path found, Setting.entries, put_put,
    Setting.overlayEntries, Key.toLower_name]
  rfl

/-- A configuration with one section in place of another spells the values of the new section and
    those of the other sections. -/
theorem Spells.put {others : Key → Scalar} {key : Key} {entries : List (Text × Setting)}
    (spells : Spells root values) (origin file : Option Text)
    (spelled : PartSpells key.part entries others)
    (taken : ∀ other : Key, other.Takes (others other))
    (kept : ∀ other : Key, other.part ≠ key.part → others other = values other) :
    Spells (.table file (Setting.put key.part (.table origin entries) root.entries)) others where
  taken := taken
  parts other := by
    by_cases same : other.part = key.part
    · refine ⟨origin, entries, ?_, same ▸ spelled⟩
      rw [Setting.entries, lookup_put, if_pos same]
    · obtain ⟨beside, present, found, shown⟩ := spells.parts other
      refine ⟨beside, present, ?_, fun another within => ?_⟩
      · rw [Setting.entries, lookup_put, if_neg same, found]
      · rw [kept another (within ▸ same)]
        exact shown another within

/-- A value that is written at the path of a setting is spelled, and nothing else changes. -/
theorem Spells.write {key : Key} {scalar : Scalar} (spells : Spells root values)
    (takes : key.Takes scalar) (origin : Option Text) :
    Spells (root.write ⟨key.part, [.key key.name]⟩ (.scalar origin scalar))
      (Function.update values key scalar) := by
  obtain ⟨_, entries, found, spelled⟩ := spells.parts key
  rw [write_path found, Setting.overlay]
  refine spells.put _ _ (fun other within => ?_) (fun other => ?_) fun other apart => ?_
  · rw [lookup_put]
    by_cases same : other = key
    · rw [if_pos (Key.name_inj.mpr same), same, Function.update_self]
      exact .inl ⟨origin, rfl⟩
    · rw [if_neg (Key.name_inj.not.mpr same), Function.update_of_ne same]
      exact spelled other within
  · by_cases same : other = key
    · rwa [same, Function.update_self]
    · rw [Function.update_of_ne same]
      exact spells.taken other
  · exact Function.update_of_ne (fun same => apart (congrArg Key.part same)) _ _

/-- A table without entries changes nothing that a configuration spells. -/
theorem Spells.write_nil (spells : Spells root values) (key : Key) (file : Option Text) :
    Spells (root.write ⟨key.part, []⟩ (.table file [])) values := by
  obtain ⟨_, entries, found, spelled⟩ := spells.parts key
  rw [write_part found, Setting.overlayEntries]
  exact spells.put _ _ spelled spells.taken fun _ _ => rfl

end Settings

end FlashMarkup
