import FlashMarkup.Proofs.Compile.Outcome
import FlashMarkup.Proofs.Storage.FileSystem

/-!
# What compiling does to the file it reads

An artifact is refused if its path has the same parts as the path of the input, before anything is
read or written. Paths with different parts can lead to one file all the same: a dot at the start
is a part, and so are names that are left again. Such an artifact is written over the input. So the
input keeps its bytes exactly if none is, or if what is written there last is what it held before.
-/

namespace FlashMarkup

namespace FileSystem

variable (options : CompileOptions) (input : Path) (output : Option Path) (system : FileSystem)

/-- The writes that compiling a file attempts. -/
def artifactWrites : List (Path × Bytes) :=
  (depot.attempts options input output system).map
    fun attempt => (attempt.path, attempt.content.toBytes)

/-- Compiling a file attempts its writes and does nothing else. -/
theorem run_compileFile_eq_putAll :
    ((workspace.compileFile options input output).run system).2 =
      system.putAll (artifactWrites options input output system) := by
  have stored (before : FileSystem) (path : Path) (content : Text) :
      (depot.write before path content).2 = before.put path content.toBytes := by
    unfold depot put
    dsimp only
    cases before.write path content.toBytes <;> rfl
  rw [workspace_eq]
  change depot.after options input output system = _
  rw [Depot.after_eq_foldl, artifactWrites, putAll, List.foldl_map]
  simp only [stored]

/-- Compiling a file attempts no write, or both: then the paths are not refused, the text of the
    file compiles, and its page is written before its record. -/
theorem artifactWrites_cases :
    (artifactWrites options input output system = [] ∧
      ∀ source result, ¬Depot.Collides input output → system.readText input = .ok source →
        compile options source ≠ .ok result) ∨
    ∃ source result, ¬Depot.Collides input output ∧ system.readText input = .ok source ∧
      compile options source = .ok result ∧
      artifactWrites options input output system =
        [((artifactPaths input output).1, result.html.toBytes),
          ((artifactPaths input output).2, (result.json options).toBytes)] := by
  have readText : depot.readText system input = system.readText input := rfl
  have runs := depot.run_cases options input output system
  rw [readText] at runs
  unfold artifactWrites
  obtain ⟨collides, -, tried⟩ | ⟨failure, -, read, -, tried⟩ |
    ⟨source, problem, -, read, failed, -, tried⟩ |
    ⟨source, result, apart, read, compiled, first, second, -, tried⟩ := runs
  · rw [tried]
    exact .inl ⟨rfl, fun _ _ apart => absurd collides apart⟩
  · rw [tried, read]
    exact .inl ⟨rfl, nofun⟩
  · rw [tried, read]
    refine .inl ⟨rfl, ?_⟩
    rintro _ result - ⟨⟩ compiled
    rw [failed] at compiled
    cases compiled
  · rw [tried]
    exact .inr ⟨source, result, apart, read, compiled, rfl⟩

variable {input system}

/-- After two writes a location holds what it held before exactly if the second write, where it
    leads there, or else the first one, writes the same. -/
theorem lastWritten?_pair_eq_held_iff (location : Location) (first second : Path × Bytes)
    (held : Bytes) :
    (system.lastWritten? location [first, second]).getD held = held ↔
      (system.destination? second.1 = some location → second.2 = held) ∧
        (system.destination? first.1 = some location →
          system.destination? second.1 = some location ∨ first.2 = held) := by
  rw [← List.singleton_append, lastWritten?_append, lastWritten?_singleton, lastWritten?_singleton]
  by_cases later : system.destination? second.1 = some location
  · simp [later]
  · by_cases earlier : system.destination? first.1 = some location
    · simp [later, earlier]
    · simp [later, earlier]

/-- A file that is compiled keeps its bytes exactly if no artifact is written over it, or the last
    that is written over it has the same bytes. -/
theorem compileFile_keeps_input_iff {held : Bytes} (holds : system.read input = .ok held) :
    ((workspace.compileFile options input output).run system).2.read input = .ok held ↔
      ∀ source result, ¬Depot.Collides input output → system.readText input = .ok source →
        compile options source = .ok result →
          (system.SameFile (artifactPaths input output).2 input →
            (result.json options).toBytes = held) ∧
          (system.SameFile (artifactPaths input output).1 input →
            system.SameFile (artifactPaths input output).2 input ∨ result.html.toBytes = held) := by
  obtain ⟨location, leads, found⟩ := read_eq_ok_iff.mp holds
  rw [run_compileFile_eq_putAll, read_putAll leads found, sameFile_iff leads, sameFile_iff leads,
    Except.ok.injEq]
  obtain ⟨none, fails⟩ | ⟨source, result, apart, read, compiled, both⟩ :=
    artifactWrites_cases options input output system
  · rw [none]
    constructor
    · intro _ source result apart read compiled
      exact absurd compiled (fails source result apart read)
    · intro _
      rfl
  · rw [both, lastWritten?_pair_eq_held_iff]
    constructor
    · intro harmless other results _ readOther compiledOther
      obtain rfl : source = other := Except.ok.inj (read.symm.trans readOther)
      obtain rfl : result = results := Except.ok.inj (compiled.symm.trans compiledOther)
      exact harmless
    · intro harmless
      exact harmless source result apart read compiled

/-- A script in a file whose name an artifact can have. -/
def scriptAsPage : FileSystem :=
  ⟨[([Text.toBytes "m.html"],
    .file (Text.toBytes "@velocista@@titulo@Hi@/titulo@@/velocista@\n"))], []⟩

/-- The script keeps its bytes if it is compiled to another name. -/
theorem compileFile_keeps_input_iff_elsewhere :
    scriptAsPage.read (.ofText "m.html") =
        .ok (Text.toBytes "@velocista@@titulo@Hi@/titulo@@/velocista@\n") ∧
      ((workspace.compileFile {} (.ofText "m.html") (some (.ofText "n"))).run
          scriptAsPage).2.read (.ofText "m.html") =
        .ok (Text.toBytes "@velocista@@titulo@Hi@/titulo@@/velocista@\n") := by
  have holds : scriptAsPage.read (.ofText "m.html") =
      .ok (Text.toBytes "@velocista@@titulo@Hi@/titulo@@/velocista@\n") := rfl
  have leads : scriptAsPage.destination? (.ofText "m.html") = some [Text.toBytes "m.html"] := by
    decide +kernel
  refine ⟨holds, (compileFile_keeps_input_iff {} (some (.ofText "n")) holds).mpr ?_⟩
  intro source result _ _ _
  rw [sameFile_iff leads, sameFile_iff leads]
  constructor
  · intro record
    exact absurd record (by decide +kernel)
  · intro page
    exact absurd page (by decide +kernel)

/-- Compiled to its own name with a dot in front, the script is lost: its file begins with an angle
    bracket afterwards. -/
theorem compileFile_overwrites_input :
    scriptAsPage.read (.ofText "m.html") =
        .ok (Text.toBytes "@velocista@@titulo@Hi@/titulo@@/velocista@\n") ∧
      ((workspace.compileFile {} (.ofText "m.html") (some (.ofText "./m.html"))).run
          scriptAsPage).2.read (.ofText "m.html") ≠
        .ok (Text.toBytes "@velocista@@titulo@Hi@/titulo@@/velocista@\n") := by
  have first : (((workspace.compileFile {} (.ofText "m.html") (some (.ofText "./m.html"))).run
      scriptAsPage).2.read (.ofText "m.html")).toOption.bind List.head? = some 0x3C := by
    decide +kernel
  refine ⟨rfl, ?_⟩
  intro kept
  rw [kept] at first
  revert first
  decide +kernel

end FileSystem

end FlashMarkup
