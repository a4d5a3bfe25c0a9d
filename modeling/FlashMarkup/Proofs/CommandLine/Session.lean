import FlashMarkup.CommandLine.Run
import FlashMarkup.CommandLine.Session
import FlashMarkup.Proofs.Compile.Depot
import FlashMarkup.Proofs.Storage.Frame

/-!
# What commands do to a session

A command is carried out in a session step by step: the settings are read, the log is opened, and
then the command reads its file, prints and complains. What a session prints and complains about
only ever grows. An event that the logger lets through is a line of the log file or, without one,
a complaint; so logging changes no file but the log.
-/

namespace FlashMarkup

/-- The line of the log for an event, in a session whose clock stands still. -/
def Log.Event.line (event : Log.Event) : Text := "0" ++ " " ++ event.toText ++ "\n"

/-- What a logger complains about on an event: nothing if the event is not let through or there is a
    log file. -/
def Logger.shown (logger : Logger) (event : Log.Event) : Text :=
  if logger.file = none ∧ logger.filter.admits event then event.line else []

/-- Where a logger writes in a file system, if it writes to a file. -/
def Logger.place? (logger : Logger) (system : FileSystem) : Option FileSystem.Location :=
  logger.file.bind system.destination?

/-- Whether a path does not lead to the file that a logger writes to. -/
def Logger.Spares (logger : Logger) (system : FileSystem) (path : Path) : Prop :=
  ∀ location ∈ logger.place? system, system.destination? path ≠ some location

/-- Where there are the same directories, a logger writes to the same place. -/
theorem Logger.place?_congr (logger : Logger) {first second : FileSystem}
    (same : first.SameDirectories second) : logger.place? first = logger.place? second := by
  unfold Logger.place?
  exact Option.bind_congr fun file _ => same.destination? file

/-- Where there are the same directories, a logger spares the same paths. -/
theorem Logger.Spares.of_sameDirectories {logger : Logger} {first second : FileSystem} {path : Path}
    (spares : logger.Spares second path) (same : first.SameDirectories second) :
    logger.Spares first path := by
  intro location member
  rw [logger.place?_congr same] at member
  rw [same.destination?]
  exact spares location member

namespace Session

variable (filter : Option Text) (logger : Logger) (session : Session)

/-- The session with more printed. -/
def printing (content : Text) : Session := { session with printed := session.printed ++ content }

/-- The session with one more complaint. -/
def complaining (content : Text) : Session :=
  { session with complaints := session.complaints ++ content }

/-- What grows by one item after the other grows by all of them. -/
theorem foldl_growing {α : Type} (grow : Session → Text → Session)
    (nothing : ∀ session, grow session [] = session)
    (twice : ∀ session first second,
      grow (grow session first) second = grow session (first ++ second))
    (content : α → Text) (items : List α) :
    items.foldl (fun session item => grow session (content item)) session =
      grow session (items.flatMap content) := by
  induction items generalizing session with
  | nil => exact (nothing session).symm
  | cons item rest ih => rw [List.foldl_cons, ih, twice, List.flatMap_cons]

/-- The session after an event. -/
def noted (event : Log.Event) : Session :=
  if logger.filter.admits event then
    match logger.file with
    | some file =>
      match session.files.append file event.line.toBytes with
      | .ok files => { session with files }
      | .error _ => session
    | none => session.complaining event.line
  else session

/-- A change of the files is made, unless there is a failure. -/
theorem run_update (change : FileSystem → Except FileError FileSystem) :
    (update change).run session =
      match change session.files with
      | .ok files => (.ok (), { session with files })
      | .error failure => (.error failure, session) := by
  change (match change session.files with
    | .ok files => do
      set { session with files }
      return .ok ()
    | .error failure => return .error failure : StateM Session (Except FileError Unit)) session = _
  cases change session.files <;> rfl

/-- Logging an event notes it. -/
theorem run_log (event : Log.Event) :
    ((console filter).log logger event).run session = (⟨⟩, noted logger session event) := by
  unfold Console.log noted
  split
  next =>
    cases logger.file with
    | none => rfl
    | some file =>
      have added : ((console filter).addToLog file event.line).run session =
          (⟨⟩, ((update fun files => files.append file event.line.toBytes).run session).2) := rfl
      refine added.trans ?_
      rw [run_update]
      dsimp only
      cases session.files.append file event.line.toBytes <;> rfl
  next => rfl

/-- The session after several events. -/
def notedAll (events : List Log.Event) : Session := events.foldl (noted logger) session

/-- Logging events one after the other notes them all. -/
theorem run_forM_log (events : List Log.Event) :
    (events.forM ((console filter).log logger)).run session =
      (⟨⟩, notedAll logger session events) :=
  Depot.run_forM (fun event session => run_log filter logger session event) events session

/-- An event is a complaint or goes to the log file; nothing is printed. -/
theorem noted_streams (event : Log.Event) :
    (noted logger session event).printed = session.printed ∧
      (noted logger session event).complaints = session.complaints ++ logger.shown event := by
  unfold noted Logger.shown
  cases logger.filter.admits event with
  | false => simp
  | true =>
    cases logger.file with
    | none => simp [complaining]
    | some file => cases added : session.files.append file event.line.toBytes <;> simp [added]

/-- Events are complaints or go to the log file; nothing is printed. -/
theorem notedAll_streams (events : List Log.Event) :
    (notedAll logger session events).printed = session.printed ∧
      (notedAll logger session events).complaints =
        session.complaints ++ events.flatMap logger.shown := by
  unfold notedAll
  induction events generalizing session with
  | nil => simp
  | cons event rest ih =>
    obtain ⟨printed, complaints⟩ := noted_streams logger session event
    obtain ⟨printedLater, complaintsLater⟩ := ih (noted logger session event)
    rw [List.foldl_cons]
    exact ⟨printedLater.trans printed, by rw [complaintsLater, complaints]; simp⟩

/-- Whether the files of a session are those of a file system, whatever its log file holds. -/
def HasFiles (system : FileSystem) : Prop :=
  FileSystem.AgreeOutside (logger.place? system) session.files system

variable {logger session} {system : FileSystem}

/-- After an event the files are the same. -/
theorem HasFiles.noted (has : HasFiles logger session system) (event : Log.Event) :
    HasFiles logger (noted logger session event) system := by
  unfold Session.noted
  split
  next =>
    split
    next file logs =>
      split
      next files added =>
        have place : logger.place? system = session.files.destination? file := by
          rw [Logger.place?, logs, has.directories.destination?]
          rfl
        have step : FileSystem.AgreeOutside (logger.place? system) files session.files :=
          place ▸ FileSystem.append_agreeOutside added
        exact step.trans has
      next => exact has
    next => exact has
  next => exact has

/-- After events the files are the same. -/
theorem HasFiles.notedAll (has : HasFiles logger session system) (events : List Log.Event) :
    HasFiles logger (notedAll logger session events) system := by
  unfold Session.notedAll
  induction events generalizing session with
  | nil => exact has
  | cons event rest ih => exact ih (has.noted event)

/-- After a write the files are those after the write. -/
theorem HasFiles.put (has : HasFiles logger session system) (path : Path) (content : Bytes) :
    HasFiles logger { session with files := session.files.put path content }
      (system.put path content) := by
  unfold HasFiles
  rw [logger.place?_congr (system.put_sameDirectories path content)]
  exact FileSystem.AgreeOutside.put has path content

variable (logger session)

/-- Reading a text leaves the session as it is. -/
theorem run_readText (path : Path) :
    ((console filter).readText path).run session = (session.files.readText path, session) := by
  have read : ((console filter).read path).run session = (session.files.read path, session) := rfl
  unfold Console.readText FileSystem.readText
  rw [StateT.run_bind, read]
  cases session.files.read path with
  | error failure => rfl
  | ok content =>
    dsimp only [bind, Except.bind]
    cases content.decode? <;> rfl

/-- Complaining about items one after the other. -/
theorem run_forM_complain {α : Type} (content : α → Text) (items : List α) :
    (items.forM fun item => (console filter).complain (content item)).run session =
      (⟨⟩, session.complaining (items.flatMap content)) := by
  rw [← foldl_growing session complaining (by simp [complaining]) (by simp [complaining])]
  exact Depot.run_forM (fun _ _ => rfl) items session

/-- Printing items one after the other. -/
theorem run_forM_print {α : Type} (content : α → Text) (items : List α) :
    (items.forM fun item => (console filter).print (content item)).run session =
      (⟨⟩, session.printing (items.flatMap content)) := by
  rw [← foldl_growing session printing (by simp [printing]) (by simp [printing])]
  exact Depot.run_forM (fun _ _ => rfl) items session

/-- A command that goes on with the text of a file. -/
theorem run_withSource (path : Text) (proceed : Text → StateM Session ExitCode) :
    (Program.withSource (console filter) path proceed).run session =
      match session.files.readText (.ofText path) with
      | .ok source => (proceed source).run session
      | .error failure =>
        (.failure,
          session.complaining ("Error reading " ++ path ++ ": " ++ failure.message ++ "\n")) := by
  unfold Program.withSource
  rw [StateT.run_bind, run_readText]
  cases session.files.readText (.ofText path) <;> rfl

/-- A command that fails with problems. -/
theorem run_complainAll (path : Text) (messages : List Text) :
    (Program.complainAll (console filter) path messages).run session =
      (.failure, session.complaining (messages.flatMap (Program.fileLine path))) :=
  congrArg (fun told : PUnit × Session => (ExitCode.failure, told.2))
    (run_forM_complain filter session (Program.fileLine path) messages)

/-- Looking for a file leaves the session as it is. -/
theorem run_ofFile (path : Path) (required : Bool) :
    ((Layer.ofFile (console filter).read path required).run session).2 = session := by
  have found (paths : List Path) :
      ((Layer.find (console filter).read paths).run session).2 = session := by
    induction paths with
    | nil => rfl
    | cons first others ih =>
      have read : ((console filter).read first).run session =
          (session.files.read first, session) := rfl
      rw [Layer.find, StateT.run_bind, read]
      cases session.files.read first with
      | ok content => rfl
      | error failure => exact ih
  exact found (Layer.candidates path)

/-- Reading the settings leaves the session as it is. -/
theorem run_loadSettings (config : Option Text) :
    ((Program.loadSettings (console filter) config).run session).2 = session := by
  have project := run_ofFile filter session Program.projectFile false
  unfold Program.loadSettings
  rw [StateT.run_bind]
  cases config with
  | none => exact project
  | some path =>
    have named := run_ofFile filter session (.ofText path) true
    exact (congrArg (fun between =>
      ((Layer.ofFile (console filter).read (.ofText path) true).run between).2) project).trans named

/-- The filter is chosen without a print and without a change of the files. -/
theorem run_chooseFilter (configured : Text) :
    ∃ chosen complaint, ((console filter).chooseFilter configured).run session =
      (chosen, session.complaining complaint) := by
  unfold Console.chooseFilter
  cases (console filter).filter.bind Log.Filter.ofText? with
  | some chosen => exact ⟨chosen, [], by simp [complaining]; rfl⟩
  | none =>
    have complained := run_forM_complain filter session
      (fun fault : Text × Log.Directive.Fault =>
        "ignoring `" ++ fault.1 ++ "`: " ++ fault.2.message ++ "\n") (Log.Filter.faults configured)
    exact ⟨.ofText configured, _,
      congrArg (fun told : PUnit × Session => (Log.Filter.ofText configured, told.2)) complained⟩

/-- The log is opened by adding nothing to its file. A file that cannot be opened is not used. -/
theorem run_startLog (configured : Text) (file : Option Path) :
    ∃ chosen complaint, ((console filter).startLog configured file).run session =
      match file with
      | none => (⟨chosen, none⟩, session.complaining complaint)
      | some path =>
        match session.files.append path [] with
        | .ok files => (⟨chosen, some path⟩, { session.complaining complaint with files })
        | .error failure =>
          (⟨chosen, none⟩, (session.complaining complaint).complaining
            ("Cannot open log file " ++ path.display ++ ": " ++ failure.message ++ "\n")) := by
  obtain ⟨chosen, complaint, chose⟩ := run_chooseFilter filter session configured
  refine ⟨chosen, complaint, ?_⟩
  unfold Console.startLog
  rw [StateT.run_bind, chose]
  cases file with
  | none => rfl
  | some path =>
    have opens : ((console filter).openLog path).run (session.complaining complaint) = _ :=
      run_update (session.complaining complaint) fun files => files.append path []
    have held : (session.complaining complaint).files = session.files := rfl
    rw [held] at opens
    refine (StateT.run_bind _ _ _).trans ?_
    rw [opens]
    dsimp only
    cases session.files.append path [] <;> rfl

/-- The settings that a session reads before it carries out a command. -/
def settings (config : Option Text) (system : FileSystem) : Except SettingsError Settings :=
  ((Program.loadSettings (console filter) config).run (start system)).1

/-- The logger of a session that starts with some files, and the session once the log is open. -/
def opened (chosen : Settings) (system : FileSystem) : Logger × Session :=
  ((console filter).startLog chosen.filter chosen.logFile).run (start system)

/-- How a command ends in a session that starts with some files, and the session afterwards. -/
def outcome (config : Option Text) (command : Command) (system : FileSystem) :
    ExitCode × Session :=
  (Program.runCommand (console filter) config command).run (start system)

variable {filter} {config : Option Text} {chosen : Settings}

/-- A command is carried out under the settings that are read, once the log is open. -/
theorem outcome_eq (loads : settings filter config system = .ok chosen) (command : Command) :
    outcome filter config command system =
      (Program.perform (console filter) (opened filter chosen system).1 chosen command).run
        (opened filter chosen system).2 := by
  have loaded : (Program.loadSettings (console filter) config).run (start system) =
      (.ok chosen, start system) := Prod.ext loads (run_loadSettings filter (start system) config)
  unfold outcome Program.runCommand
  rw [StateT.run_bind, loaded]
  rfl

variable (filter)

/-- Once the log is open nothing is printed and the files are the same, and the log file is that of
    the settings if there is one. -/
theorem opened_spec (chosen : Settings) (system : FileSystem) :
    (opened filter chosen system).2.printed = [] ∧
      (∀ file ∈ (opened filter chosen system).1.file, file ∈ chosen.logFile) ∧
      HasFiles (opened filter chosen system).1 (opened filter chosen system).2 system := by
  obtain ⟨directives, complaint, run⟩ :=
    run_startLog filter (start system) chosen.filter chosen.logFile
  unfold opened
  rw [run]
  cases chosen.logFile with
  | none => exact ⟨rfl, nofun, .refl _ _⟩
  | some path =>
    dsimp only
    cases added : (start system).files.append path [] with
    | ok files => exact ⟨rfl, fun _ member => member, FileSystem.append_agreeOutside added⟩
    | error failure => exact ⟨rfl, nofun, .refl _ _⟩

/-- The log is where the log file of the settings leads. -/
theorem place?_opened (chosen : Settings) (system : FileSystem) :
    ∀ location ∈ (opened filter chosen system).1.place? system,
      location ∈ chosen.logFile.bind system.destination? := by
  intro location member
  obtain ⟨file, logs, leads⟩ := Option.bind_eq_some_iff.mp member
  exact Option.bind_eq_some_iff.mpr ⟨file, (opened_spec filter chosen system).2.1 file logs, leads⟩

/-- A path that does not lead to the log file of the settings does not lead to the log. -/
theorem spares_of_not_sameFile {path : Path}
    (apart : ∀ log ∈ chosen.logFile, ¬system.SameFile log path) :
    (opened filter chosen system).1.Spares system path := by
  intro location member leads
  obtain ⟨file, configured, logLeads⟩ :=
    Option.bind_eq_some_iff.mp (place?_opened filter chosen system location member)
  exact apart file configured ⟨location, logLeads, leads⟩

end Session

end FlashMarkup
