import FlashMarkup.Settings.Basic
import Mathlib.Data.List.Nodup
import Mathlib.Logic.Function.Basic

/-!
# The settings by their keys

There are six settings, each of them with a name, a section to which it belongs and a type. Layers
assign values to them under their paths. Of the values that are assigned to one setting the last one
counts, and a setting to which nothing is assigned keeps the value that it has.
-/

namespace FlashMarkup.Settings

open Setting (Scalar)

/-- The settings, as the documentation calls them. -/
inductive Key where
  | lang
  | title
  | indent
  | pretty
  | filter
  | file
deriving DecidableEq

namespace Key

/-- The section to which a setting belongs. -/
def part : Key → Text
  | .lang | .title | .indent => "html"
  | .pretty => "intermediate"
  | .filter | .file => "logging"

/-- The name of a setting in its section. -/
def name : Key → Text
  | .lang => "lang"
  | .title => "title"
  | .indent => "indent"
  | .pretty => "pretty"
  | .filter => "filter"
  | .file => "file"

/-- The section and the name with a dot between them. -/
def path (key : Key) : Text := key.part ++ "." ++ key.name

/-- Whether a value is of the type that is documented for a setting. The indentation is a number of
    64 bits. The file of the log may also be null, which stands for no file. -/
def Takes (key : Key) (scalar : Scalar) : Prop :=
  match key with
  | .lang | .title | .filter => ∃ content, scalar = .text content
  | .indent => ∃ count : Nat, count < Nat.pow 2 64 ∧ scalar = .integer count
  | .pretty => ∃ flag, scalar = .boolean flag
  | .file => scalar = .null ∨ ∃ content, scalar = .text content

/-- The value of a setting that nothing else sets. -/
def initial : Key → Scalar
  | .lang => .text "es"
  | .title => .text "Documento FlashML"
  | .indent => .integer 2
  | .pretty => .boolean true
  | .filter => .text "info"
  | .file => .null

/-- Different settings have different names. -/
theorem name_inj {key other : Key} : key.name = other.name ↔ key = other := by
  cases key <;> cases other <;> decide

/-- Different settings have different paths. -/
theorem path_inj {key other : Key} : key.path = other.path ↔ key = other := by
  cases key <;> cases other <;> decide

end Key

/-- Whether a value is that of one of the settings. -/
def Has (settings : Settings) (key : Key) (scalar : Scalar) : Prop :=
  match key with
  | .lang => scalar = .text settings.page.lang
  | .title => scalar = .text settings.page.title
  | .indent => scalar = .integer settings.page.indent
  | .pretty => scalar = .boolean settings.record.pretty
  | .filter => scalar = .text settings.filter
  | .file =>
    scalar = .null ∧ settings.logFile = none ∨
      ∃ content, scalar = .text content ∧ settings.logFile = some (Path.ofText content)

/-- Whether one of the settings is the same in two choices. -/
def Agree (settings others : Settings) : Key → Prop
  | .lang => settings.page.lang = others.page.lang
  | .title => settings.page.title = others.page.title
  | .indent => settings.page.indent = others.page.indent
  | .pretty => settings.record.pretty = others.record.pretty
  | .filter => settings.filter = others.filter
  | .file => settings.logFile = others.logFile

/-- Settings with the same value agree. -/
theorem Has.agree {settings others : Settings} {key : Key} {scalar : Scalar}
    (has : settings.Has key scalar) (same : others.Has key scalar) : Agree settings others key := by
  cases key <;> grind [Has, Agree]

/-- Settings that agree throughout are the same. -/
theorem eq_of_agree {settings others : Settings} (agree : ∀ key, Agree settings others key) :
    settings = others := by
  obtain ⟨⟨lang, title, indent⟩, ⟨pretty⟩, filter, logFile⟩ := settings
  obtain rfl : lang = others.page.lang := agree .lang
  obtain rfl : title = others.page.title := agree .title
  obtain rfl : indent = others.page.indent := agree .indent
  obtain rfl : pretty = others.record.pretty := agree .pretty
  obtain rfl : filter = others.filter := agree .filter
  obtain rfl : logFile = others.logFile := agree .file
  rfl

/-- The last value that is assigned to a setting. -/
def last? (assignments : List (Text × Scalar)) (key : Key) : Option Scalar :=
  assignments.reverse.lookup key.path

/-- The values of the settings once others have been assigned. -/
def assign (values : Key → Scalar) (assignments : List (Text × Scalar)) (key : Key) : Scalar :=
  (last? assignments key).getD (values key)

section Assigning

variable {values : Key → Scalar} {assignments : List (Text × Scalar)} {key : Key}

/-- What is assigned later counts. -/
theorem last?_append (assignments others : List (Text × Scalar)) (key : Key) :
    last? (assignments ++ others) key = (last? others key).or (last? assignments key) := by
  rw [last?, List.reverse_append, List.lookup_append]
  rfl

/-- Assignments are made one after the other. -/
theorem assign_append (others : List (Text × Scalar)) :
    assign values (assignments ++ others) = assign (assign values assignments) others := by
  funext key
  rw [assign, last?_append, Option.getD_or]
  rfl

/-- An assignment changes one setting. -/
theorem assign_single (key : Key) (scalar : Scalar) :
    assign values [(key.path, scalar)] = Function.update values key scalar := by
  funext other
  by_cases same : other = key
  · subst same
    simp [assign, last?]
  · have apart : (other.path == key.path) = false :=
      beq_false_of_ne fun equal => same (Key.path_inj.mp equal)
    simp [assign, last?, List.lookup_cons, apart, same]

/-- An assignment is made before those behind it. -/
theorem assign_cons (key : Key) (scalar : Scalar) (rest : List (Text × Scalar)) :
    assign values ((key.path, scalar) :: rest) =
      assign (Function.update values key scalar) rest := by
  rw [← List.singleton_append, assign_append, assign_single]

/-- A setting to which nothing is assigned has no last value. -/
theorem last?_eq_none (absent : ∀ assignment ∈ assignments, assignment.1 ≠ key.path) :
    last? assignments key = none := by
  refine List.lookup_eq_none_iff.mpr fun assignment listed => ?_
  rw [bne_iff_ne]
  exact (absent assignment (List.mem_reverse.mp listed)).symm

/-- Where no setting is assigned twice, the last value of a setting is the only one. -/
theorem last?_eq_some_iff (distinct : (assignments.map Prod.fst).Nodup) {scalar : Scalar} :
    last? assignments key = some scalar ↔ (key.path, scalar) ∈ assignments := by
  rw [last?, List.lookup_eq_some_iff, ← List.mem_reverse]
  constructor
  · rintro ⟨later, earlier, split, -⟩
    rw [split]
    exact List.mem_append_right _ List.mem_cons_self
  · intro listed
    obtain ⟨later, earlier, split⟩ := List.append_of_mem listed
    refine ⟨later, earlier, split, fun other member => ?_⟩
    rw [← List.nodup_reverse, ← List.map_reverse, split, List.map_append, List.map_cons,
      List.nodup_middle] at distinct
    rw [bne_iff_ne]
    intro same
    have named : other.1 ∈ later.map Prod.fst := List.mem_map_of_mem member
    exact (List.nodup_cons.mp distinct).1 (List.mem_append_left _ (same ▸ named))

/-- Where no setting is assigned twice, the order of the assignments does not matter. -/
theorem last?_perm {others : List (Text × Scalar)} (distinct : (assignments.map Prod.fst).Nodup)
    (perm : assignments.Perm others) : last? assignments key = last? others key := by
  have distinctOthers : (others.map Prod.fst).Nodup := (perm.map Prod.fst).nodup distinct
  ext scalar
  rw [last?_eq_some_iff distinct, last?_eq_some_iff distinctOthers, perm.mem_iff]

end Assigning

end FlashMarkup.Settings
