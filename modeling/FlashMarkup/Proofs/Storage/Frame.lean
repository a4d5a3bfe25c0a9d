import FlashMarkup.Proofs.Storage.FileSystem

/-!
# What writing leaves alone

A file that is written or added to is the only thing that changes. So what is read elsewhere stays
the same whatever is written to one place, however often, and a path can be written to as long as it
leads to a file.
-/

namespace FlashMarkup.FileSystem

/-- Two file systems agree outside a location, if there is one: they have the same directories, and
    every other location holds the same. -/
structure AgreeOutside (exempt : Option Location) (first second : FileSystem) : Prop where
  directories : first.SameDirectories second
  elsewhere : ∀ location, location ∉ exempt → first.lookup location = second.lookup location

namespace AgreeOutside

variable {exempt : Option Location} {first second third : FileSystem}

/-- A file system agrees with itself. -/
theorem refl (exempt : Option Location) (system : FileSystem) : AgreeOutside exempt system system :=
  ⟨.refl system, fun _ _ => rfl⟩

/-- What agrees with the same agrees. -/
theorem trans (former : AgreeOutside exempt first second)
    (latter : AgreeOutside exempt second third) : AgreeOutside exempt first third :=
  ⟨former.directories.trans latter.directories, fun location outside =>
    (former.elsewhere location outside).trans (latter.elsewhere location outside)⟩

/-- What agrees outside no location or one agrees outside the same one. -/
theorem mono {larger : Option Location} (agree : AgreeOutside exempt first second)
    (within : ∀ location ∈ exempt, location ∈ larger) : AgreeOutside larger first second :=
  ⟨agree.directories, fun location outside =>
    agree.elsewhere location (mt (within location) outside)⟩

/-- What is read under a path that does not lead to the location is the same. -/
theorem read_iff (agree : AgreeOutside exempt first second) {path : Path}
    (apart : ∀ location ∈ exempt, second.destination? path ≠ some location) {content : Bytes} :
    first.read path = .ok content ↔ second.read path = .ok content := by
  rw [read_eq_ok_iff, read_eq_ok_iff, agree.directories.destination?]
  refine exists_congr fun location => and_congr_right fun leads => ?_
  have outside : location ∉ exempt := fun member => apart location member leads
  rw [agree.elsewhere location outside]

end AgreeOutside

/-- The same write keeps two file systems in agreement. -/
theorem AgreeOutside.put {exempt : Option Location} {first second : FileSystem}
    (agree : AgreeOutside exempt first second) (path : Path) (content : Bytes) :
    AgreeOutside exempt (first.put path content) (second.put path content) where
  directories := (first.put_sameDirectories path content).trans
    (agree.directories.trans (second.put_sameDirectories path content).symm)
  elsewhere location outside := by
    rw [lookup_put, lookup_put, agree.directories.destination?, agree.elsewhere location outside]

/-- A text is read if it is the text of the bytes that are read. -/
theorem readText_eq_ok_iff {system : FileSystem} {path : Path} {source : Text} :
    system.readText path = .ok source ↔
      ∃ content, system.read path = .ok content ∧ content.decode? = some source := by
  unfold readText
  rw [Result.bind_eq_ok_iff]
  refine exists_congr fun content => and_congr_right fun _ => ?_
  cases content.decode? <;> simp

/-- The text that is read under a path that does not lead to the location is the same. -/
theorem AgreeOutside.readText_iff {exempt : Option Location} {first second : FileSystem}
    (agree : AgreeOutside exempt first second) {path : Path}
    (apart : ∀ location ∈ exempt, second.destination? path ≠ some location) {source : Text} :
    first.readText path = .ok source ↔ second.readText path = .ok source := by
  simp only [readText_eq_ok_iff, agree.read_iff apart]

/-- An attempt to write changes nothing but the file that its path leads to. -/
theorem put_agreeOutside (system : FileSystem) (path : Path) (content : Bytes) :
    AgreeOutside (system.destination? path) (system.put path content) system where
  directories := system.put_sameDirectories path content
  elsewhere location outside := by
    rw [lookup_put, if_neg (mt Option.mem_def.mpr outside)]

/-- Adding to a file is writing to it what it held and what is added. -/
theorem exists_append_eq_write (system : FileSystem) (path : Path) (content : Bytes) :
    ∃ whole, system.append path content = system.write path whole := by
  unfold append write
  cases system.writable path with
  | error failure => exact ⟨[], rfl⟩
  | ok location =>
    cases held : system.lookup location with
    | none => exact ⟨content, by simp only [bind, Except.bind, held]⟩
    | some entry =>
      cases entry with
      | file old => exact ⟨old ++ content, by simp only [bind, Except.bind, held]⟩
      | directory => exact ⟨content, by simp only [bind, Except.bind, held]⟩

/-- Whatever is added to a file, nothing else changes. -/
theorem append_agreeOutside {system after : FileSystem} {path : Path} {content : Bytes}
    (added : system.append path content = .ok after) :
    AgreeOutside (system.destination? path) after system := by
  obtain ⟨whole, same⟩ := system.exists_append_eq_write path content
  have put : system.put path whole = after := by rw [FileSystem.put, ← same, added]
  exact put ▸ system.put_agreeOutside path whole

/-- A write is taken exactly if its path leads to a file, and it gives that file its content. -/
theorem write_eq_ok_iff {system after : FileSystem} {path : Path} {content : Bytes} :
    system.write path content = .ok after ↔
      (system.destination? path).isSome ∧ system.put path content = after := by
  unfold put write destination?
  cases system.writable path <;> simp [bind, Except.bind, Except.toOption]

/-- Whether writes are taken, one after the other. -/
def Takes (system : FileSystem) : List (Path × Bytes) → Prop
  | [] => True
  | write :: rest => ∃ after, system.write write.1 write.2 = .ok after ∧ after.Takes rest

/-- Writes are taken exactly if each path leads to a file from the start. -/
theorem takes_iff (system : FileSystem) (writes : List (Path × Bytes)) :
    system.Takes writes ↔ ∀ write ∈ writes, (system.destination? write.1).isSome := by
  induction writes generalizing system with
  | nil => simp [Takes]
  | cons write rest inductionHypothesis =>
    have same := system.put_sameDirectories write.1 write.2
    simp only [Takes, write_eq_ok_iff, and_assoc, exists_and_left, exists_eq_left',
      inductionHypothesis, same.destination?, List.forall_mem_cons]

/-- Of several writes to different files, each file that is led to holds what was written to it. -/
theorem read_putAll_of_mem {system : FileSystem} {writes : List (Path × Bytes)}
    (apart : writes.Pairwise fun first second => ¬system.SameFile first.1 second.1)
    {write : Path × Bytes} (member : write ∈ writes) {location : Location}
    (leads : system.destination? write.1 = some location) :
    (system.putAll writes).read write.1 = .ok write.2 := by
  obtain ⟨earlier, later, rfl⟩ := List.append_of_mem member
  have behind : ∀ other ∈ later, ¬system.SameFile write.1 other.1 :=
    (List.pairwise_cons.mp (List.pairwise_append.mp apart).2.1).1
  have untouched : system.lastWritten? location later = none := by
    have nothing :
        later.filter (fun other => system.destination? other.1 = some location) = [] := by
      rw [List.filter_eq_nil_iff]
      intro other isLater
      rw [decide_eq_true_iff]
      exact fun same => behind other isLater ⟨location, leads, same⟩
    rw [lastWritten?, nothing]
    rfl
  have written : system.lastWritten? location (earlier ++ write :: later) = some write.2 := by
    rw [lastWritten?_append, ← List.singleton_append, lastWritten?_append, untouched,
      lastWritten?_singleton, if_pos leads]
    rfl
  refine read_eq_ok_iff.mpr ⟨location, ?_, ?_⟩
  · rw [(system.putAll_sameDirectories _).destination?, leads]
  · rw [lookup_putAll, written]
    rfl

end FlashMarkup.FileSystem
