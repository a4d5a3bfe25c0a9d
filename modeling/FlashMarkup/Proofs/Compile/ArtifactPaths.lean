import FlashMarkup.Compile.File
import FlashMarkup.Proofs.Storage.FileName

/-!
# Where the artifacts of a file stand

The paths of the page and of the record are meant to be siblings: different paths in the directory
of the path they are derived from, with its stem, and derived again from either of them. They are,
unless that path names no file or has a single dot for its stem. A path that names no file keeps
the extension it does not have, so both artifacts are that path. And a file whose stem is a dot
loses its name with its extension: two dots are left, and they stand for a directory.
-/

namespace FlashMarkup

namespace Path

variable {path : Path} {front name trail stem : Bytes}

/-- Whether a path stands in the directory of another one, with its stem and an extension. -/
structure Beside (path base : Path) (ending : Text) : Prop where
  directory : path.parts.dropLast = base.parts.dropLast
  stem : path.fileStem? = base.fileStem?
  extension : path.extension? = some ending.toBytes

/-- Whether bytes can stand behind the last dot of a file name. -/
structure IsExtension (bytes : Bytes) : Prop where
  visible : bytes ≠ []
  single : slash ∉ bytes
  plain : dot ∉ bytes

/-- The stem of a name is a piece of it. -/
theorem mem_of_mem_stem {byte : UInt8} (member : byte ∈ (splitName name).1) : byte ∈ name := by
  obtain whole | ⟨stem, old, visible, plain, rfl⟩ := splitName_cases name
  · rwa [whole] at member
  · rw [splitName_append visible plain] at member
    exact List.mem_append_left _ member

namespace Names

/-- The stem of a file with an extension behind it names a file in the same place. -/
theorem extended (names : path.Names front name trail) (found : path.fileStem? = some stem)
    (visible : stem ≠ []) {extension : Bytes} (usable : IsExtension extension) :
    Names ⟨front ++ (stem ++ dot :: extension)⟩ front (stem ++ dot :: extension) [] where
  bytes := by rw [List.append_nil]
  closed := names.closed
  single := by
    have absent : slash ∉ stem := by
      obtain rfl : (splitName name).1 = stem := Option.some.inj (names.fileStem?.symm.trans found)
      exact fun member => names.single (mem_of_mem_stem member)
    have noDot : slash ≠ dot := by decide
    simp [absent, usable.single, noDot]
  proper := by
    refine ⟨by simp, by simp [List.append_eq_singleton_iff, visible], fun dots => ?_⟩
    have long := congrArg List.length dots
    have here := List.length_pos_iff.mpr visible
    have behind := List.length_pos_iff.mpr usable.visible
    simp only [List.length_append, List.length_cons, List.length_nil] at long
    omega
  trailing := .nil

/-- The stem of a file with an extension behind it stands beside the file. -/
theorem extended_beside (names : path.Names front name trail) (found : path.fileStem? = some stem)
    (visible : stem ≠ []) {ending : Text} (usable : IsExtension ending.toBytes) :
    Beside ⟨front ++ (stem ++ dot :: ending.toBytes)⟩ path ending := by
  have renamed := names.extended found visible usable
  have cut := splitName_append visible usable.plain
  refine ⟨?_, by rw [renamed.fileStem?, cut, found], by rw [renamed.extension?, cut]⟩
  rw [renamed.parts, names.parts, List.dropLast_concat, List.dropLast_concat]

/-- Different extensions behind the stem of a file make different paths. -/
theorem extended_parts_ne (names : path.Names front name trail)
    (found : path.fileStem? = some stem) (visible : stem ≠ []) {first second : Bytes}
    (usable : IsExtension first) (usableToo : IsExtension second) (differ : first ≠ second) :
    Path.parts ⟨front ++ (stem ++ dot :: first)⟩ ≠
      Path.parts ⟨front ++ (stem ++ dot :: second)⟩ := by
  rw [(names.extended found visible usable).parts, (names.extended found visible usableToo).parts]
  simpa using differ

end Names

/-- Whether a path loses its file name when its extension is replaced: the stem is a dot, and
    nothing stands behind the name. -/
def LosesName (path : Path) : Prop :=
  ∃ front name, path.Names front name [] ∧ path.fileStem? = some [dot]

/-- A path that loses its file name ends in two dots, whatever the new extension is. -/
theorem LosesName.withExtension (loses : path.LosesName) :
    ∃ dots : Path, dots.fileName? = none ∧ ∀ extension, path.withExtension extension = dots := by
  obtain ⟨front, name, names, found⟩ := loses
  obtain ⟨stem, rest, foundToo, -, -, -, replaced⟩ := names.withExtension
  obtain rfl : [dot] = stem := Option.some.inj (found.symm.trans foundToo)
  rw [if_pos ⟨rfl, rfl⟩] at replaced
  have ends : EndsIn ⟨front ++ [dot, dot]⟩ front [dot, dot] := ⟨rfl, names.closed, by decide⟩
  exact ⟨⟨front ++ [dot, dot]⟩, ends.fileName?_dots, replaced⟩

/-- Any other path keeps its place and its stem. -/
theorem exists_extended (found : path.fileStem? = some stem) (keeps : ¬path.LosesName) :
    ∃ front name trail, path.Names front name trail ∧ stem ≠ [] ∧
      ∀ extension, path.withExtension extension = ⟨front ++ (stem ++ dot :: extension.toBytes)⟩ := by
  obtain ⟨name, named, -⟩ := Option.map_eq_some_iff.mp found
  obtain ⟨front, trail, names⟩ := fileName?_eq_some_iff.mp named
  obtain ⟨other, rest, foundToo, visible, -, -, replaced⟩ := names.withExtension
  obtain rfl : stem = other := Option.some.inj (found.symm.trans foundToo)
  have unlike : ¬(stem = [dot] ∧ trail = []) := by
    rintro ⟨rfl, rfl⟩
    exact keeps ⟨front, name, names, found⟩
  rw [if_neg unlike] at replaced
  exact ⟨front, name, trail, names, visible, replaced⟩

/-- A path whose stem is not a dot keeps its file name. -/
theorem not_losesName (found : path.fileStem? = some stem) (solid : stem ≠ [dot]) :
    ¬path.LosesName := by
  rintro ⟨front, name, -, dots⟩
  exact solid (Option.some.inj (found.symm.trans dots))

variable {ending : Text}

/-- A path that keeps its file name stands beside itself with a new extension. -/
theorem withExtension_beside (found : path.fileStem? = some stem) (keeps : ¬path.LosesName)
    (usable : IsExtension ending.toBytes) : (path.withExtension ending).Beside path ending := by
  obtain ⟨front, name, trail, names, visible, replaced⟩ := exists_extended found keeps
  rw [replaced]
  exact names.extended_beside found visible usable

/-- The last of two extensions that are put behind a stem counts, unless the stem is a dot. -/
theorem withExtension_withExtension (found : path.fileStem? = some stem) (solid : stem ≠ [dot])
    (usable : IsExtension ending.toBytes) (later : Text) :
    (path.withExtension ending).withExtension later = path.withExtension later := by
  have keeps := not_losesName found solid
  obtain ⟨front, name, trail, names, visible, replaced⟩ := exists_extended found keeps
  have renamed := names.extended found visible usable
  have kept : (path.withExtension ending).fileStem? = some stem :=
    (withExtension_beside found keeps usable).stem.trans found
  obtain ⟨frontToo, nameToo, trailToo, namesToo, -, replacedToo⟩ :=
    exists_extended kept (not_losesName kept solid)
  rw [replaced] at namesToo
  obtain ⟨rfl, -⟩ := Prod.mk.inj (renamed.split.symm.trans namesToo.split)
  rw [replacedToo, replaced]

/-- With an extension behind the stem, a path whose stem is a dot loses its file name when that
    extension is replaced. -/
theorem losesName_withExtension (found : path.fileStem? = some [dot]) (keeps : ¬path.LosesName)
    (usable : IsExtension ending.toBytes) : (path.withExtension ending).LosesName := by
  obtain ⟨front, name, trail, names, visible, replaced⟩ := exists_extended found keeps
  have beside := withExtension_beside found keeps usable
  refine ⟨front, [dot] ++ dot :: ending.toBytes, ?_, beside.stem.trans found⟩
  rw [replaced]
  exact names.extended found visible usable

end Path

open FlashMarkup.Path

/-- The extension of a page. -/
theorem isExtension_html : IsExtension (Text.toBytes "html") := ⟨by decide, by decide, by decide⟩

/-- The extension of a record. -/
theorem isExtension_json : IsExtension (Text.toBytes "json") := ⟨by decide, by decide, by decide⟩

/-- What the paths of a page and a record are meant to be: different paths beside their base, from
    either of which both are derived again. -/
structure AreSiblings (input base : Path) (paths : Path × Path) : Prop where
  apart : paths.1.parts ≠ paths.2.parts
  page : paths.1.Beside base "html"
  record : paths.2.Beside base "json"
  stable : ∀ again ∈ [paths.1, paths.2], artifactPaths input (some again) = paths

variable {base : Path} {stem : Bytes}

/-- The artifacts of a path that keeps its file name have different paths. -/
theorem artifactPaths_apart (input : Path) (found : base.fileStem? = some stem)
    (keeps : ¬base.LosesName) :
    (artifactPaths input (some base)).1.parts ≠ (artifactPaths input (some base)).2.parts := by
  obtain ⟨front, name, trail, names, visible, replaced⟩ := exists_extended found keeps
  simp only [artifactPaths, Option.getD_some, replaced]
  exact names.extended_parts_ne found visible isExtension_html isExtension_json (by decide)

/-- The artifacts of a file whose stem is not a dot are siblings. -/
theorem areSiblings_of_stem (input : Path) (found : base.fileStem? = some stem)
    (solid : stem ≠ [dot]) : AreSiblings input base (artifactPaths input (some base)) where
  apart := artifactPaths_apart input found (not_losesName found solid)
  page := withExtension_beside found (not_losesName found solid) isExtension_html
  record := withExtension_beside found (not_losesName found solid) isExtension_json
  stable := by
    have again {ending : Text} (usable : IsExtension ending.toBytes) :
        artifactPaths input (some (base.withExtension ending)) =
          artifactPaths input (some base) := by
      simp only [artifactPaths, Option.getD_some, withExtension_withExtension found solid usable]
    intro path member
    obtain rfl | rfl : path = base.withExtension "html" ∨ path = base.withExtension "json" := by
      simpa [artifactPaths] using member
    · exact again isExtension_html
    · exact again isExtension_json

/-- Both artifacts of a path that loses its file name are one path, and it names no file. -/
theorem artifactPaths_of_losesName (input : Path) (loses : base.LosesName) :
    ∃ dots : Path, dots.fileName? = none ∧ artifactPaths input (some base) = (dots, dots) := by
  obtain ⟨dots, nameless, replaced⟩ := loses.withExtension
  exact ⟨dots, nameless, by simp only [artifactPaths, Option.getD_some, replaced]⟩

/-- Both artifacts of a path that names no file are that path. -/
theorem artifactPaths_of_nameless (input : Path) (nameless : base.fileName? = none) :
    artifactPaths input (some base) = (base, base) := by
  simp only [artifactPaths, Option.getD_some, withExtension_of_nameless nameless]

/-- The artifacts of a file whose stem is a dot are not siblings: derived again, they are one. -/
theorem not_areSiblings_of_dot (input : Path) (found : base.fileStem? = some [dot]) :
    ¬AreSiblings input base (artifactPaths input (some base)) := by
  intro siblings
  by_cases loses : base.LosesName
  · obtain ⟨dots, -, derived⟩ := artifactPaths_of_losesName input loses
    exact siblings.apart (by rw [derived])
  · obtain ⟨dots, -, derived⟩ := artifactPaths_of_losesName input
      (losesName_withExtension found loses isExtension_html)
    have stable := siblings.stable (base.withExtension "html") List.mem_cons_self
    exact siblings.apart (by rw [← stable, derived])

/-- The artifacts are siblings exactly if their base has a stem that is not a dot. -/
theorem areSiblings_iff (input base : Path) :
    AreSiblings input base (artifactPaths input (some base)) ↔
      ∃ stem, base.fileStem? = some stem ∧ stem ≠ [dot] := by
  constructor
  · intro siblings
    cases found : base.fileStem? with
    | none =>
      have nameless : base.fileName? = none := Option.map_eq_none_iff.mp found
      exact absurd (by rw [artifactPaths_of_nameless input nameless]) siblings.apart
    | some stem =>
      refine ⟨stem, rfl, ?_⟩
      rintro rfl
      exact not_areSiblings_of_dot input found siblings
  · rintro ⟨stem, found, solid⟩
    exact areSiblings_of_stem input found solid

/-- The artifacts share a path exactly if that path names no file. -/
theorem artifactPaths_share_iff (input base : Path) :
    (artifactPaths input (some base)).1.parts = (artifactPaths input (some base)).2.parts ↔
      (artifactPaths input (some base)).1.fileName? = none := by
  cases found : base.fileStem? with
  | none =>
    have nameless : base.fileName? = none := Option.map_eq_none_iff.mp found
    simp [artifactPaths_of_nameless input nameless, nameless]
  | some stem =>
    by_cases loses : base.LosesName
    · obtain ⟨dots, nameless, derived⟩ := artifactPaths_of_losesName input loses
      simp [derived, nameless]
    · have page : (base.withExtension "html").fileStem? = some stem :=
        (withExtension_beside found loses isExtension_html).stem.trans found
      obtain ⟨name, named, -⟩ := Option.map_eq_some_iff.mp page
      refine iff_of_false (artifactPaths_apart input found loses) fun nameless => ?_
      exact Option.some_ne_none name (named.symm.trans nameless)

/-- The artifacts are siblings exactly if what they are derived from has a stem that is not a dot.
    They share a path exactly if that path names no file, and they are both what they are derived
    from if it names none. -/
theorem artifactPaths_siblings_iff (input : Path) (output : Option Path) :
    let base := output.getD input
    let paths := artifactPaths input output
    (AreSiblings input base paths ↔ ∃ stem, base.fileStem? = some stem ∧ stem ≠ [dot]) ∧
      (paths.1.parts = paths.2.parts ↔ paths.1.fileName? = none) ∧
      (base.fileName? = none → paths = (base, base)) := by
  intro base paths
  -- The paths are derived from their base, wherever it is taken from.
  have derived : paths = artifactPaths input (some base) := rfl
  rw [derived]
  exact ⟨areSiblings_iff input base, artifactPaths_share_iff input base,
    artifactPaths_of_nameless input⟩

/-- The page and the record of a file whose stem is a dot share a path: the directory above. -/
theorem artifactPaths_of_dotted_source :
    let input := Path.ofText "..flashml"
    let paths := artifactPaths input none
    input.fileStem? = some [dot] ∧ paths = (.ofText "..", .ofText "..") ∧
      ¬AreSiblings input input paths :=
  ⟨by decide, by decide, fun siblings => siblings.apart (by decide)⟩

end FlashMarkup
