import FlashMarkup.Proofs.Compile.Outcome

/-!
# Artifacts kept on a shelf

A shelf takes every write and gives the first artifact that was stored under a path, so it is a file
system in which a file is never written twice. A history of calls that compile files onto one shelf
is followed here call by call. As long as every path is always given the same content, the shelf
gives what was written last, and each call finds on it what it has produced. A call that gives a path
another content than the path was given first does not.
-/

namespace FlashMarkup

/-- What was written last to a path. -/
def lastWritten? (writes : List (Path × Text)) (path : Path) : Option Text :=
  (writes.reverse.find? fun write => write.1.same path).map Prod.snd

/-- Whether no path is given two contents. -/
def Settled (writes : List (Path × Text)) : Prop :=
  ∀ first ∈ writes, ∀ second ∈ writes, first.1.parts = second.1.parts → first.2 = second.2

namespace Settled

variable {writes more : List (Path × Text)} {path : Path} {content : Text}

/-- Fewer writes are settled as well. -/
theorem of_append (settled : Settled (writes ++ more)) : Settled writes :=
  fun first member second memberToo =>
    settled first (List.mem_append_left _ member) second (List.mem_append_left _ memberToo)

/-- With one more write they are settled if that one gives its path what it was given before. -/
theorem concat_iff : Settled (writes ++ [(path, content)]) ↔
    Settled writes ∧ ∀ write ∈ writes, write.1.parts = path.parts → write.2 = content := by
  constructor
  · intro settled
    refine ⟨settled.of_append, fun write member same => ?_⟩
    exact settled write (List.mem_append_left _ member) (path, content) (by simp) same
  · rintro ⟨settled, agree⟩ first member second memberToo same
    rw [List.mem_append, List.mem_singleton] at member memberToo
    obtain member | rfl := member <;> obtain memberToo | rfl := memberToo
    · exact settled first member second memberToo same
    · exact agree first member same
    · exact (agree second memberToo same.symm).symm
    · rfl

end Settled

namespace Shelf

variable {shelf : Shelf} {path other : Path} {content : Text}

/-- A shelf next to a file system as a depot: the sources are in the file system, and every write is
    taken. -/
def depot (system : FileSystem) : Depot Shelf where
  read _ := system.read
  write shelf path content := (.ok (), shelf.add path content)

/-- Compiling onto a shelf is compiling in its depot. -/
theorem workspace_eq (system : FileSystem) :
    Shelf.workspace system = (Shelf.depot system).workspace := rfl

/-- What is found on a shelf was stored there under the path. -/
theorem mem_of_get? (found : shelf.get? path = some content) :
    ∃ artifact ∈ shelf.artifacts, artifact.1.parts = path.parts ∧ artifact.2 = content := by
  obtain ⟨artifact, search, rfl⟩ := Option.map_eq_some_iff.mp found
  exact ⟨artifact, List.mem_of_find?_eq_some search,
    by simpa [Path.same] using List.find?_some search, rfl⟩

/-- Nothing is found on a shelf under a path under which nothing was stored. -/
theorem get?_eq_none_iff :
    shelf.get? path = none ↔ ∀ artifact ∈ shelf.artifacts, artifact.1.parts ≠ path.parts := by
  simp [get?, Path.same]

/-- As long as no path is given two contents, what is found is what was stored last. -/
theorem get?_eq_lastWritten? (settled : Settled shelf.artifacts) (path : Path) :
    shelf.get? path = lastWritten? shelf.artifacts path := by
  -- Read backwards, the artifacts are a shelf on which the last one is found.
  change shelf.get? path = get? ⟨shelf.artifacts.reverse⟩ path
  cases first : shelf.get? path with
  | none =>
    refine (get?_eq_none_iff.mpr fun artifact member => ?_).symm
    exact get?_eq_none_iff.mp first artifact (List.mem_reverse.mp member)
  | some content =>
    obtain ⟨artifact, member, same, rfl⟩ := mem_of_get? first
    cases last : get? ⟨shelf.artifacts.reverse⟩ path with
    | none =>
      exact absurd same (get?_eq_none_iff.mp last artifact (List.mem_reverse.mpr member))
    | some content =>
      obtain ⟨other, memberToo, sameToo, rfl⟩ := mem_of_get? last
      exact congrArg some
        (settled artifact member other (List.mem_reverse.mp memberToo) (same.trans sameToo.symm))

/-- One more artifact is found only if nothing was found under its path before. -/
theorem get?_add (shelf : Shelf) (path other : Path) (content : Text) :
    (shelf.add path content).get? other =
      (shelf.get? other).or (if path.parts = other.parts then some content else none) := by
  unfold get? add
  rw [List.find?_append, Option.map_or]
  by_cases same : path.parts = other.parts <;> simp [Path.same, same]

/-- What is found under the path of an artifact stays there when another one is stored. -/
theorem get?_add_add (shelf : Shelf) (path other : Path) (content later : Text) :
    ((shelf.add path content).add other later).get? path = (shelf.add path content).get? path := by
  rw [get?_add _ other, get?_add, if_pos rfl]
  cases shelf.get? path <;> rfl

/-- An artifact that is stored is found if its path has been given this content only. -/
theorem settled_add_iff : Settled (shelf.add path content).artifacts ↔
    Settled shelf.artifacts ∧ (shelf.add path content).get? path = some content := by
  rw [get?_add, if_pos rfl]
  refine Settled.concat_iff.trans (and_congr_right fun settled => ?_)
  cases found : shelf.get? path with
  | none =>
    have absent := get?_eq_none_iff.mp found
    exact iff_of_true (fun artifact member same => absurd same (absent artifact member)) rfl
  | some earlier =>
    obtain ⟨artifact, member, same, rfl⟩ := mem_of_get? found
    constructor
    · intro agree
      exact congrArg some (agree artifact member same)
    · rintro ⟨rfl⟩ write memberToo sameToo
      exact settled write memberToo artifact member (sameToo.trans same.symm)

end Shelf

/-- A call that compiles a file: the files as the call finds them, and what it is given. -/
structure Call where
  files : FileSystem
  options : CompileOptions
  input : Path
  output : Option Path

namespace Call

variable (call : Call) (shelf : Shelf)

/-- The report of a call onto a shelf, and the shelf that it leaves. -/
def run : Report × Shelf :=
  ((Shelf.workspace call.files).compileFile call.options call.input call.output).run shelf

/-- The writes that a call attempts. -/
def writes : List (Path × Text) :=
  ((Shelf.depot call.files).attempts call.options call.input call.output .empty).map
    fun attempt => (attempt.path, attempt.content)

/-- Whether the input of a call compiles to a result. -/
def Produces (result : Compiled) : Prop :=
  ∃ source, call.files.readText call.input = .ok source ∧
    compile call.options source = .ok result

/-- Whether a call onto a shelf that reports two paths leaves there what it has produced. -/
def Finds : Prop :=
  ∀ html record, (call.run shelf).1.html = some html → (call.run shelf).1.record = some record →
    ∃ result, call.Produces result ∧
      (call.run shelf).2.get? html = some result.html ∧
      (call.run shelf).2.get? record = some (result.json call.options)

/-- What a call does on any shelf: nothing, or it puts the page and the record there. -/
theorem run_cases :
    (call.writes = [] ∧
      ∃ errors, ∀ shelf, call.run shelf = (.failed call.input errors, shelf)) ∨
    ∃ result, call.Produces result ∧
      let paths := artifactPaths call.input call.output
      call.writes = [(paths.1, result.html), (paths.2, result.json call.options)] ∧
      ∀ shelf, call.run shelf = (⟨call.input, some paths.1, some paths.2, []⟩,
        (shelf.add paths.1 result.html).add paths.2 (result.json call.options)) := by
  unfold writes run Depot.attempts Depot.after
  simp only [Shelf.workspace_eq, Depot.run_compileFile, Depot.readText_watched]
  have text (shelf : Shelf) : (Shelf.depot call.files).readText shelf call.input =
      call.files.readText call.input := rfl
  simp only [text]
  by_cases collides : Depot.Collides call.input call.output
  · simp only [if_pos collides]
    exact .inl ⟨rfl, _, fun _ => rfl⟩
  · simp only [if_neg collides]
    cases read : call.files.readText call.input with
    | error failure => exact .inl ⟨rfl, _, fun _ => rfl⟩
    | ok source =>
      simp only [Depot.run_compileText]
      cases compiled : compile call.options source with
      | error problem => exact .inl ⟨rfl, _, fun _ => rfl⟩
      | ok result => exact .inr ⟨result, ⟨source, read, compiled⟩, rfl, fun _ => rfl⟩

/-- A call has at most one result. -/
theorem Produces.unique {call : Call} {first second : Compiled} (produces : call.Produces first)
    (producesToo : call.Produces second) : first = second := by
  obtain ⟨source, read, compiled⟩ := produces
  obtain ⟨other, readToo, compiledToo⟩ := producesToo
  obtain rfl : source = other := Except.ok.inj (read.symm.trans readToo)
  exact Except.ok.inj (compiled.symm.trans compiledToo)

/-- A call puts its writes on the shelf. -/
theorem artifacts_run : (call.run shelf).2.artifacts = shelf.artifacts ++ call.writes := by
  obtain ⟨none, errors, runs⟩ | ⟨result, -, both, runs⟩ := call.run_cases
  · rw [none, runs, List.append_nil]
  · rw [both, runs]
    simp [Shelf.add]

/-- One call leaves no path with two contents exactly if none was there before, and the call finds
    what it has produced. -/
theorem settled_run_iff : Settled (call.run shelf).2.artifacts ↔
    Settled shelf.artifacts ∧ call.Finds shelf := by
  obtain ⟨-, errors, runs⟩ | ⟨result, produces, -, runs⟩ := call.run_cases
  · have finds : call.Finds shelf := by
      intro html record reported
      rw [runs] at reported
      cases reported
    rw [runs, and_iff_left finds]
  · have finds : call.Finds shelf ↔
        (shelf.add (artifactPaths call.input call.output).1 result.html).get?
            (artifactPaths call.input call.output).1 = some result.html ∧
          ((shelf.add (artifactPaths call.input call.output).1 result.html).add
            (artifactPaths call.input call.output).2 (result.json call.options)).get?
              (artifactPaths call.input call.output).2 = some (result.json call.options) := by
      rw [← Shelf.get?_add_add shelf]
      unfold Finds
      rw [runs]
      constructor
      · intro finds
        obtain ⟨other, producesToo, page, json⟩ := finds _ _ rfl rfl
        obtain rfl := produces.unique producesToo
        exact ⟨page, json⟩
      · rintro ⟨page, json⟩ _ _ ⟨⟩ ⟨⟩
        exact ⟨result, produces, page, json⟩
    rw [runs, Shelf.settled_add_iff, Shelf.settled_add_iff, finds, and_assoc]

end Call

/-- The shelf after a history of calls that starts with an empty one. -/
def Shelf.afterCalls (calls : List Call) : Shelf :=
  calls.foldl (fun shelf call => (call.run shelf).2) .empty

/-- The shelf after one more call. -/
theorem Shelf.afterCalls_concat (calls : List Call) (call : Call) :
    afterCalls (calls ++ [call]) = (call.run (afterCalls calls)).2 :=
  List.foldl_concat _ _ _ _

/-- The artifacts on the shelf are all writes of the history. -/
theorem Shelf.artifacts_afterCalls (calls : List Call) :
    (afterCalls calls).artifacts = calls.flatMap Call.writes := by
  induction calls using List.reverseRecOn with
  | nil => rfl
  | append_singleton earlier call ih =>
    rw [afterCalls_concat, Call.artifacts_run, ih]
    simp

/-- What is expected of the shelf at each moment of a history: the call that has just been made finds
    what it has produced, and every path gives what was written last. -/
structure Shelf.KeepsUp (calls : List Call) : Prop where
  found : ∀ earlier call later, calls = earlier ++ call :: later → call.Finds (afterCalls earlier)
  latest : ∀ earlier later, calls = earlier ++ later → ∀ path,
    (afterCalls earlier).get? path = lastWritten? (earlier.flatMap Call.writes) path

/-- The shelf is settled after a history exactly if every call of it has found what it produced. -/
theorem Shelf.settled_afterCalls_iff (calls : List Call) :
    Settled (afterCalls calls).artifacts ↔
      ∀ earlier call later, calls = earlier ++ call :: later → call.Finds (afterCalls earlier) := by
  induction calls using List.reverseRecOn with
  | nil => exact iff_of_true nofun (by simp)
  | append_singleton before last ih =>
    rw [afterCalls_concat, Call.settled_run_iff, ih]
    constructor
    · rintro ⟨found, foundLast⟩ earlier call later split
      obtain rfl | ⟨later, other, rfl⟩ := List.eq_nil_or_concat later
      · obtain ⟨rfl, rfl⟩ := List.append_inj' split rfl |>.imp_right List.singleton_inj.mp
        exact foundLast
      · rw [List.concat_eq_append, ← List.cons_append, ← List.append_assoc] at split
        exact found earlier call later (List.append_inj' split rfl).1
    · intro found
      refine ⟨fun earlier call later split => ?_, found before last [] rfl⟩
      exact found earlier call (later ++ [last]) (by rw [split, List.append_assoc, List.cons_append])

/-- A shelf keeps up with a history exactly if no path is given two contents in it. What it gives
    at any time is what was written first. -/
theorem Shelf.keepsUp_iff (calls : List Call) :
    (KeepsUp calls ↔ Settled (calls.flatMap Call.writes)) ∧
      ∀ path, (afterCalls calls).get? path =
        ((calls.flatMap Call.writes).find? fun write => write.1.same path).map Prod.snd := by
  rw [← artifacts_afterCalls]
  refine ⟨?_, fun _ => rfl⟩
  constructor
  · intro keepsUp
    exact (settled_afterCalls_iff calls).mpr keepsUp.found
  · intro settled
    refine ⟨(settled_afterCalls_iff calls).mp settled, ?_⟩
    rintro earlier later rfl path
    rw [artifacts_afterCalls, List.flatMap_append, ← artifacts_afterCalls] at settled
    rw [get?_eq_lastWritten? settled.of_append, artifacts_afterCalls]

/-- A stored record starts with a brace, in either layout. -/
theorem Record.head?_toJson (options : Options) (record : Record) :
    (record.toJson options).head? = some '\x7b' := by
  obtain ⟨field, rest, fields⟩ : ∃ field rest, record.toData = .record (field :: rest) := by
    cases record <;> exact ⟨_, _, rfl⟩
  unfold toJson
  rw [fields]
  split <;> rfl

/-- A script that is compiled to the current directory, under whose path both artifacts are
    stored. -/
def Call.intoDirectory : Call where
  files := ⟨[([Text.toBytes "m.flashml"],
    .file (Text.toBytes "@velocista@@titulo@Hi@/titulo@@/velocista@\n"))], []⟩
  options := {}
  input := .ofText "m.flashml"
  output := some (.ofText ".")

/-- Both artifacts of the script are reported, and the page is found where the record should be. -/
theorem Shelf.keepsUp_fails :
    (Call.intoDirectory.run .empty).1 =
        ⟨.ofText "m.flashml", some (.ofText "."), some (.ofText "."), []⟩ ∧
      ((Call.intoDirectory.run .empty).2.get? (.ofText ".")).bind List.head? = some '<' ∧
      ¬Call.intoDirectory.Finds .empty ∧ ¬KeepsUp [Call.intoDirectory] := by
  have reported : (Call.intoDirectory.run .empty).1 =
      ⟨.ofText "m.flashml", some (.ofText "."), some (.ofText "."), []⟩ := by decide +kernel
  have page : ((Call.intoDirectory.run .empty).2.get? (.ofText ".")).bind List.head? =
      some '<' := by decide +kernel
  have fails : ¬Call.intoDirectory.Finds .empty := by
    intro finds
    obtain ⟨result, -, -, json⟩ := finds _ _ (congrArg Report.html reported)
      (congrArg Report.record reported)
    rw [json, Option.bind_some, Compiled.json, Record.head?_toJson] at page
    revert page
    decide
  exact ⟨reported, page, fails, fun keepsUp => fails (keepsUp.found [] _ [] rfl)⟩

end FlashMarkup
