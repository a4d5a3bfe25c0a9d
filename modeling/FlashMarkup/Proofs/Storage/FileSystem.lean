import FlashMarkup.Proofs.Result
import FlashMarkup.Storage.FileSystem

/-!
# Writing files one after the other

Where a path leads depends on the directories alone, and writing a file makes no directory and
removes none. So a path leads to the same file before, between and after writes, and that file holds
what was last written to a path that leads to it, under whatever spelling.
-/

namespace FlashMarkup.FileSystem

/-- An entry that has been placed is found, and every other one is found as before. -/
theorem find?_place (location other : Location) (entry : Entry)
    (entries : List (Location × Entry)) :
    (place location entry entries).find? (·.1 == other) =
      if other = location then some (location, entry) else entries.find? (·.1 == other) := by
  induction entries with
  | nil =>
    by_cases same : other = location
    · simp [place, same]
    · simp [place, same, Ne.symm same]
  | cons first rest inductionHypothesis =>
    obtain ⟨place, old⟩ := first
    by_cases here : place = location
    · by_cases same : other = location
      · simp [FileSystem.place, here, same]
      · simp [FileSystem.place, here, same, Ne.symm same]
    · by_cases same : place = other
      · have apart : other ≠ location := same ▸ here
        simp [FileSystem.place, same, apart]
      · simp [FileSystem.place, here, same, inductionHypothesis]

/-- What a location holds after something has been stored. -/
theorem lookup_store (system : FileSystem) {location : Location} (below : location ≠ [])
    (entry : Entry) (other : Location) :
    (system.store location entry).lookup other =
      if other = location then some entry else system.lookup other := by
  unfold lookup store
  rw [find?_place]
  by_cases root : other = []
  · simp [root, below.symm]
  · by_cases same : other = location
    · simp [same, below]
    · simp [root, same]

/-- The location of the file that a path leads to, if it is there or can be created. -/
def destination? (system : FileSystem) (path : Path) : Option Location :=
  (system.writable path).toOption

/-- A path leads to a file exactly if it leads to a place that is no directory. -/
theorem destination?_eq_some_iff {system : FileSystem} {path : Path} {location : Location} :
    system.destination? path = some location ↔
      system.resolve path = .ok location ∧ system.lookup location ≠ some .directory ∧
        endsInSlash path = false := by
  have unlessDirectory (target : Location) (resolved : system.resolve path = .ok target) :
      system.destination? path =
        if system.lookup target = some .directory ∨ endsInSlash path then none
        else some target := by
    unfold destination? writable
    rw [resolved]
    simp only [bind, Except.bind]
    cases held : system.lookup target with
    | none => cases endsInSlash path <;> simp [Except.toOption]
    | some entry => cases entry <;> cases endsInSlash path <;> simp [Except.toOption]
  cases resolved : system.resolve path with
  | error failure =>
    have none : system.destination? path = none := by
      unfold destination? writable
      rw [resolved]
      rfl
    simp [none]
  | ok target =>
    rw [unlessDirectory target resolved]
    grind

/-- Two paths lead to one file, which is there or can be created. -/
def SameFile (system : FileSystem) (first second : Path) : Prop :=
  ∃ location, system.destination? first = some location ∧
    system.destination? second = some location

/-- Where the second path is known to lead, the first has to lead as well. -/
theorem sameFile_iff {system : FileSystem} {first second : Path} {location : Location}
    (leads : system.destination? second = some location) :
    system.SameFile first second ↔ system.destination? first = some location := by
  constructor
  · rintro ⟨shared, firstLeads, secondLeads⟩
    rw [firstLeads, ← secondLeads, leads]
  · intro firstLeads
    exact ⟨location, firstLeads, leads⟩

/-- A path can be read exactly if it leads to a file that is there. -/
theorem read_eq_ok_iff {system : FileSystem} {path : Path} {content : Bytes} :
    system.read path = .ok content ↔
      ∃ location, system.destination? path = some location ∧
        system.lookup location = some (.file content) := by
  unfold read
  simp only [destination?_eq_some_iff]
  cases system.resolve path with
  | error failure => simp [bind, Except.bind]
  | ok target =>
    simp only [bind, Except.bind, Except.ok.injEq, and_assoc, exists_eq_left']
    cases system.lookup target with
    | none => simp
    | some entry => cases entry <;> cases endsInSlash path <;> simp

/-- Only a directory can be stepped through. -/
theorem directory_of_enter {system : FileSystem} {location target : Location} {name : Bytes}
    (entered : system.enter location name = .ok target) :
    system.lookup location = some .directory := by
  unfold enter at entered
  split at entered
  next => cases entered
  next => cases entered
  next found => exact found

/-- The same directories, and the same one at which relative paths start. -/
structure SameDirectories (first second : FileSystem) : Prop where
  current : first.current = second.current
  directory : ∀ location,
    first.lookup location = some .directory ↔ second.lookup location = some .directory

namespace SameDirectories

variable {first second third : FileSystem}

/-- Every file system has the same directories as itself. -/
theorem refl (system : FileSystem) : system.SameDirectories system := ⟨rfl, fun _ => Iff.rfl⟩

/-- It does not matter which of two file systems with the same directories comes first. -/
theorem symm (same : first.SameDirectories second) : second.SameDirectories first :=
  ⟨same.current.symm, fun location => (same.directory location).symm⟩

/-- File systems that have the same directories as a third one have the same directories. -/
theorem trans (former : first.SameDirectories second) (latter : second.SameDirectories third) :
    first.SameDirectories third :=
  ⟨former.current.trans latter.current,
    fun location => (former.directory location).trans (latter.directory location)⟩

/-- A step leads to the same place. -/
theorem enter (same : first.SameDirectories second) {location target : Location} {name : Bytes}
    (entered : first.enter location name = .ok target) :
    second.enter location name = .ok target := by
  have found := directory_of_enter entered
  unfold FileSystem.enter at entered ⊢
  rw [found] at entered
  rw [(same.directory location).mp found]
  exact entered

/-- A path leads to the same place. -/
theorem resolve (same : first.SameDirectories second) {path : Path} {target : Location}
    (resolved : first.resolve path = .ok target) : second.resolve path = .ok target := by
  have walk (names : List Bytes) (start : Location)
      (reached : names.foldlM first.enter start = .ok target) :
      names.foldlM second.enter start = .ok target := by
    induction names generalizing start with
    | nil => exact reached
    | cons name rest inductionHypothesis =>
      rw [List.foldlM_cons] at reached ⊢
      obtain ⟨next, entered, left⟩ := Result.bind_eq_ok_iff.mp reached
      exact Result.bind_eq_ok_iff.mpr ⟨next, same.enter entered, inductionHypothesis next left⟩
  unfold FileSystem.resolve at resolved ⊢
  rw [← same.current]
  split
  next empty => simp [empty] at resolved
  next filled =>
    rw [if_neg filled] at resolved
    split
    next zero => simp only [zero, if_true, reduceCtorEq] at resolved
    next whole =>
      rw [if_neg whole] at resolved
      split
      next long => simp only [long, if_true, reduceCtorEq] at resolved
      next short => exact walk _ _ ((if_neg short).symm.trans resolved)

/-- A path leads to the same file. -/
theorem destination? (same : first.SameDirectories second) (path : Path) :
    first.destination? path = second.destination? path := by
  have kept {first second : FileSystem} (same : first.SameDirectories second) {target : Location}
      (leads : first.destination? path = some target) :
      second.destination? path = some target := by
    obtain ⟨resolved, noDirectory, noSlash⟩ := destination?_eq_some_iff.mp leads
    exact destination?_eq_some_iff.mpr
      ⟨same.resolve resolved, mt (same.directory target).mpr noDirectory, noSlash⟩
  exact Option.ext fun target => ⟨kept same, kept same.symm⟩

end SameDirectories

/-- The file system after an attempt to write a file. A write that is refused changes nothing. -/
def put (system : FileSystem) (path : Path) (content : Bytes) : FileSystem :=
  match system.write path content with
  | .ok after => after
  | .error _ => system

/-- What a location holds after an attempt to write. -/
theorem lookup_put (system : FileSystem) (path : Path) (content : Bytes) (location : Location) :
    (system.put path content).lookup location =
      if system.destination? path = some location then some (.file content)
      else system.lookup location := by
  have free (target : Location) (leads : system.writable path = .ok target) : target ≠ [] := by
    rintro rfl
    have kept : system.destination? path = some [] := by rw [destination?, leads]; rfl
    exact (destination?_eq_some_iff.mp kept).2.1 rfl
  unfold put write destination?
  cases leads : system.writable path with
  | error failure => simp [bind, Except.bind, Except.toOption]
  | ok target =>
    simp [bind, Except.bind, Except.toOption, lookup_store system (free target leads), eq_comm]

/-- An attempt to write leaves the directories as they are. -/
theorem put_sameDirectories (system : FileSystem) (path : Path) (content : Bytes) :
    (system.put path content).SameDirectories system where
  current := by
    unfold put write
    cases system.writable path <;> rfl
  directory location := by
    rw [lookup_put]
    split
    next leads => simp [(destination?_eq_some_iff.mp leads).2.1]
    next => rfl

/-- The file system after attempts to write, one after the other. -/
def putAll (system : FileSystem) (writes : List (Path × Bytes)) : FileSystem :=
  writes.foldl (fun before write => before.put write.1 write.2) system

/-- Attempts to write leave the directories as they are. -/
theorem putAll_sameDirectories (system : FileSystem) (writes : List (Path × Bytes)) :
    (system.putAll writes).SameDirectories system := by
  induction writes generalizing system with
  | nil => exact .refl system
  | cons write rest inductionHypothesis =>
    exact (inductionHypothesis _).trans (system.put_sameDirectories write.1 write.2)

/-- What is written last to a location, told from where the paths lead at the start. -/
def lastWritten? (system : FileSystem) (location : Location) (writes : List (Path × Bytes)) :
    Option Bytes :=
  ((writes.filter fun write => system.destination? write.1 = some location).getLast?).map Prod.snd

/-- What is written last is written by the later writes, if any of them leads to the location. -/
theorem lastWritten?_append (system : FileSystem) (location : Location)
    (writes more : List (Path × Bytes)) :
    system.lastWritten? location (writes ++ more) =
      (system.lastWritten? location more).or (system.lastWritten? location writes) := by
  rw [lastWritten?, List.filter_append, List.getLast?_append, Option.map_or]
  rfl

/-- One write is the last one where its path leads. -/
theorem lastWritten?_singleton (system : FileSystem) (location : Location)
    (write : Path × Bytes) :
    system.lastWritten? location [write] =
      if system.destination? write.1 = some location then some write.2 else none := by
  unfold lastWritten?
  by_cases leads : system.destination? write.1 = some location <;> simp [leads]

/-- Where there are the same directories, the same is written last. -/
theorem SameDirectories.lastWritten? {first second : FileSystem}
    (same : first.SameDirectories second) (location : Location) (writes : List (Path × Bytes)) :
    first.lastWritten? location writes = second.lastWritten? location writes := by
  unfold FileSystem.lastWritten?
  simp only [same.destination?]

/-- What a location holds after attempts to write: what was written last to it, if anything was.

    Induct on the writes. The later ones lead to the same places after the first as before it. -/
theorem lookup_putAll (system : FileSystem) (writes : List (Path × Bytes))
    (location : Location) :
    (system.putAll writes).lookup location =
      ((system.lastWritten? location writes).map .file).or (system.lookup location) := by
  induction writes generalizing system with
  | nil => rfl
  | cons write rest inductionHypothesis =>
    change ((system.put write.1 write.2).putAll rest).lookup location = _
    rw [inductionHypothesis, lookup_put,
      (system.put_sameDirectories write.1 write.2).lastWritten? location rest,
      ← List.singleton_append, lastWritten?_append, lastWritten?_singleton, Option.map_or,
      Option.or_assoc]
    congr 1
    split <;> rfl

/-- Reading after attempts to write gives what was written last to the file, or else what it held. -/
theorem read_putAll {system : FileSystem} {path : Path} {held : Bytes} {location : Location}
    (leads : system.destination? path = some location)
    (holds : system.lookup location = some (.file held)) (writes : List (Path × Bytes)) :
    (system.putAll writes).read path = .ok ((system.lastWritten? location writes).getD held) := by
  refine read_eq_ok_iff.mpr ⟨location, ?_, ?_⟩
  · rw [(system.putAll_sameDirectories writes).destination?, leads]
  · rw [lookup_putAll, holds]
    cases system.lastWritten? location writes <;> rfl

end FlashMarkup.FileSystem
