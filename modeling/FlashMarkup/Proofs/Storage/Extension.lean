import FlashMarkup.Proofs.Storage.FileName
import FlashMarkup.Proofs.Storage.FileSystem

/-!
# Files with different extensions

The last piece of a path names the file that the path leads to. This takes directories that form a
tree: then a path that ends in a slash or in dots leads to a directory or to nothing. So two paths
that differ in their extension never lead to the same file.
-/

namespace FlashMarkup

namespace FileSystem

open FlashMarkup.Path

/-- Whether the directories form a tree: each of them lies in a directory. This holds of all file
    systems that come about by making directories and writing files. -/
def IsTree (system : FileSystem) : Prop :=
  ∀ location, system.lookup location = some .directory →
    system.lookup location.dropLast = some .directory

/-- Without any entry there is the root alone. -/
theorem isTree_empty (current : Location) : IsTree ⟨[], current⟩ := by
  intro location found
  by_cases root : location = []
  · rw [root]
    rfl
  · simp [lookup, root] at found

/-- Where there are the same directories, they form a tree as well. -/
theorem IsTree.of_sameDirectories {first second : FileSystem} (tree : second.IsTree)
    (same : first.SameDirectories second) : first.IsTree :=
  fun location found => (same.directory _).mpr (tree location ((same.directory _).mp found))

/-- Writing a file keeps a tree. -/
theorem IsTree.put {system : FileSystem} (tree : system.IsTree) (path : Path) (content : Bytes) :
    (system.put path content).IsTree :=
  tree.of_sameDirectories (system.put_sameDirectories path content)

/-- What a location holds after a directory has been stored. The root is one already. -/
theorem lookup_store_directory (system : FileSystem) (location other : Location) :
    (system.store location .directory).lookup other =
      if other = location then some .directory else system.lookup other := by
  by_cases root : location = []
  · subst root
    unfold lookup store
    rw [find?_place]
    by_cases same : other = [] <;> simp [same]
  · exact lookup_store system root .directory other

/-- A directory that is stored in a directory keeps a tree. -/
theorem IsTree.store_directory {system : FileSystem} (tree : system.IsTree) {location : Location}
    (within : system.lookup location.dropLast = some .directory) :
    (system.store location .directory).IsTree := by
  intro other found
  rw [lookup_store_directory] at found ⊢
  split
  next => rfl
  next =>
    split at found
    next same => exact same ▸ within
    next => exact tree other found

/-- Making directories keeps a tree. Induct on the names below: what is stored so far is a
    directory, in which the next one is stored. -/
theorem IsTree.makeDirectories {system : FileSystem} (tree : system.IsTree)
    {above : Location} (within : system.lookup above.dropLast = some .directory)
    (below : Location) : (system.makeDirectories above below).IsTree := by
  induction below generalizing system above with
  | nil => exact tree.store_directory within
  | cons name rest inductionHypothesis =>
    rw [FileSystem.makeDirectories]
    split
    next root =>
      refine inductionHypothesis tree ?_
      rw [List.dropLast_concat, root]
      rfl
    next =>
      refine inductionHypothesis (tree.store_directory within) ?_
      rw [List.dropLast_concat, lookup_store_directory, if_pos rfl]

variable {system : FileSystem} {path : Path} {front name : Bytes} {location : Location}

/-- The names of a path are those in front of its last piece and that piece. -/
theorem names_endsIn (ends : path.EndsIn front name) (visible : name ≠ []) :
    ∃ above, (pieces slash path.bytes).filter (fun piece => !piece.isEmpty) = above ++ [name] := by
  have last : (pieces slash name).filter (fun piece => !piece.isEmpty) = [name] := by
    rw [pieces_of_not_mem ends.single]
    simp [visible]
  rw [ends.bytes]
  obtain rfl | ⟨above, rfl⟩ := ends.closed
  · exact ⟨[], last⟩
  · rw [List.append_assoc, List.singleton_append, pieces_append, List.filter_append, last]
    exact ⟨_, rfl⟩

/-- A path is resolved by stepping to its last piece. -/
theorem exists_enter_of_resolve (ends : path.EndsIn front name) (visible : name ≠ [])
    (resolved : system.resolve path = .ok location) :
    ∃ above, system.enter above name = .ok location := by
  obtain ⟨above, names⟩ := names_endsIn ends visible
  unfold resolve at resolved
  split at resolved
  next => cases resolved
  next =>
    split at resolved
    next => cases resolved
    next =>
      split at resolved
      next => cases resolved
      next =>
        rw [names, List.foldlM_append] at resolved
        obtain ⟨reached, -, left⟩ := Result.bind_eq_ok_iff.mp resolved
        obtain ⟨target, entered, same⟩ := Result.bind_eq_ok_iff.mp left
        obtain rfl : target = location := Except.ok.inj same
        exact ⟨reached, entered⟩

/-- In a tree a path that leads to a file ends in the name of that file. -/
theorem IsTree.endsIn_name (tree : system.IsTree) (ends : path.EndsIn front name)
    (leads : system.destination? path = some location) :
    Proper name ∧ location.getLast? = some name := by
  obtain ⟨resolved, noDirectory, noSlash⟩ := destination?_eq_some_iff.mp leads
  have visible : name ≠ [] := by
    rintro rfl
    obtain rfl | ⟨above, rfl⟩ := ends.closed
    · simp [resolve, ends.bytes] at resolved
    · simp [endsInSlash, ends.bytes] at noSlash
  obtain ⟨above, entered⟩ := exists_enter_of_resolve ends visible resolved
  have directory := directory_of_enter entered
  unfold enter at entered
  rw [directory] at entered
  dsimp only at entered
  split at entered
  next =>
    obtain rfl : above = location := Except.ok.inj entered
    exact absurd directory noDirectory
  next noDot =>
    split at entered
    next =>
      obtain rfl : above.dropLast = location := Except.ok.inj entered
      exact absurd (tree above directory) noDirectory
    next noDots =>
      split at entered
      next => cases entered
      next =>
        obtain rfl : above ++ [name] = location := Except.ok.inj entered
        exact ⟨⟨visible, noDot, noDots⟩, List.getLast?_concat⟩

/-- In a tree the paths of a file with two different extensions do not lead to one file. -/
theorem IsTree.not_sameFile_withExtension (tree : system.IsTree)
    (leads : system.destination? path = some location) {first second : Text}
    (firstSingle : slash ∉ first.toBytes) (secondSingle : slash ∉ second.toBytes)
    (different : first.toBytes ≠ second.toBytes) :
    ¬system.SameFile (path.withExtension first) (path.withExtension second) := by
  rintro ⟨shared, firstLeads, secondLeads⟩
  obtain ⟨front, name, ends⟩ := exists_endsIn path
  obtain ⟨proper, -⟩ := tree.endsIn_name ends leads
  obtain dots | ⟨stem, single, spelled⟩ := ends.withExtension_cases proper
  · rw [dots] at firstLeads
    have parent := ends.replace [dot, dot] (by decide)
    exact (tree.endsIn_name parent firstLeads).1.2.2 rfl
  · have whole {extension : Text} (plain : slash ∉ extension.toBytes) :
        slash ∉ stem ++ dot :: extension.toBytes := by
      simp only [List.mem_append, List.mem_cons, not_or]
      exact ⟨single, by decide, plain⟩
    rw [spelled] at firstLeads secondLeads
    have firstName := (tree.endsIn_name (ends.replace _ (whole firstSingle)) firstLeads).2
    have secondName := (tree.endsIn_name (ends.replace _ (whole secondSingle)) secondLeads).2
    have same : stem ++ dot :: first.toBytes = stem ++ dot :: second.toBytes :=
      Option.some.inj (firstName.symm.trans secondName)
    exact different (List.cons.inj (List.append_cancel_left same)).2

end FileSystem

end FlashMarkup
