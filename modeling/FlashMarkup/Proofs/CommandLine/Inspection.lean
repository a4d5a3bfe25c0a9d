import FlashMarkup.Proofs.CommandLine.Compiling
import FlashMarkup.Proofs.Data.JsonLayout
import FlashMarkup.Proofs.Storage.Extension
import FlashMarkup.Proofs.Text.Encoding

/-!
# Inspecting shows what compiling writes

A page and a record are shown through the registry of formats, and they are written by the
compiler. Both take the same way from the document on, so under the same settings a format shows
the bytes of the artifact, but for the end of its last line: a page ends in a line break and a
record does not.
-/

namespace FlashMarkup

/-- A page ends in a line break. -/
theorem Html.endLine_renderPage (options : Html.Options) (document : Document) :
    (renderPage options document).endLine = renderPage options document := by
  have ended : (renderPage options document).getLast? = some '\n' := by
    unfold renderPage
    rw [List.getLast?_append_of_ne_nil]
    · rfl
    · nofun
  rw [Text.endLine, if_pos ended]

/-- A stored record does not end in a line break. -/
theorem Record.endLine_toJson (options : Record.Options) (record : Record) :
    (record.toJson options).endLine = record.toJson options ++ "\n" := by
  rw [Text.endLine, record.getLast?_toJson, if_neg (by decide)]
  rfl

namespace Session

variable {filter config : Option Text} {chosen : Settings} {system : FileSystem} {path : Text}

/-- Showing the document of a file in a format that does not fail. -/
theorem inspectCommand_spec (filter : Option Text) (chosen : Settings) (logger : Logger)
    {session : Session} (format : Text) {source : Text} {document : Document} {content : Text}
    (text : session.files.readText (.ofText path) = .ok source)
    (parsed : parse source = .ok document) (noTokens : format ≠ Program.tokenFormat)
    (shown : (Program.registry chosen).serialize document format = .ok content) :
    let inspected := (Program.inspectCommand (console filter) logger chosen path format).run session
    inspected.1 = .success ∧ inspected.2.printed = session.printed ++ content.endLine := by
  unfold Program.inspectCommand
  rw [run_withSource, text]
  dsimp only
  rw [if_neg noTokens]
  unfold Program.showDocument
  rw [StateT.run_bind, run_forM_log, parsed]
  dsimp only
  rw [shown]
  obtain ⟨printed, -⟩ := notedAll_streams logger session (Journal.ofParse source)
  rw [← printed]
  generalize notedAll logger session _ = heard
  exact ⟨rfl, rfl⟩

/-- The paths of the artifacts of a file do not lead to one file in a tree, if the file is there. -/
theorem artifacts_apart (tree : system.IsTree) {input : Path} {source : Text}
    (text : system.readText input = .ok source) :
    ¬system.SameFile (artifactPaths input none).1 (artifactPaths input none).2 := by
  obtain ⟨content, read, -⟩ := FileSystem.readText_eq_ok_iff.mp text
  obtain ⟨location, leads, -⟩ := FileSystem.read_eq_ok_iff.mp read
  exact tree.not_sameFile_withExtension leads (by decide) (by decide) (by decide)

/-- The paths of a file that is compiled and of its artifacts. -/
def involvedPaths (input : Path) : List Path :=
  [input, (artifactPaths input none).1, (artifactPaths input none).2]

/-- Artifacts that were taken are read where they were written, if the log is another file. -/
theorem HasFiles.read_artifacts {logger : Logger} {session : Session} {options : CompileOptions}
    {input : Path} {source : Text} {result : Compiled} (tree : system.IsTree)
    (text : system.readText input = .ok source)
    (spared : ∀ file ∈ involvedPaths input, logger.Spares system file)
    (taken : system.Takes (result.files options (artifactPaths input none)))
    (has : HasFiles logger session
      (system.putAll (result.files options (artifactPaths input none)))) :
    ∀ write ∈ result.files options (artifactPaths input none),
      session.files.read write.1 = .ok write.2 := by
  intro write member
  have involved : write.1 ∈ involvedPaths input := by
    simp only [Compiled.files, involvedPaths, List.mem_cons, List.not_mem_nil, or_false]
      at member ⊢
    exact .inr (member.imp (congrArg Prod.fst) (congrArg Prod.fst))
  have different : (result.files options (artifactPaths input none)).Pairwise
      fun first second => ¬system.SameFile first.1 second.1 :=
    List.pairwise_pair.mpr (artifacts_apart tree text)
  obtain ⟨location, leads⟩ :=
    Option.isSome_iff_exists.mp ((system.takes_iff _).mp taken write member)
  have held := FileSystem.read_putAll_of_mem different member leads
  have same := system.putAll_sameDirectories (result.files options (artifactPaths input none))
  exact (has.read_iff ((spared _ involved).of_sameDirectories same)).mpr held

/-- When compiling a file succeeds, its artifacts are read where they were written, if the log is
    neither the file nor one of them. -/
theorem compile_writes (tree : system.IsTree) (loads : settings filter config system = .ok chosen)
    (apart : ∀ log ∈ chosen.logFile, ∀ file ∈ involvedPaths (.ofText path),
      ¬system.SameFile log file) {wholeReport : Bool}
    (succeeds : (outcome filter config (.compile path none wholeReport) system).1 = .success) :
    ∃ source result, system.readText (.ofText path) = .ok source ∧
      compile chosen.compileOptions source = .ok result ∧
      ∀ write ∈ result.files chosen.compileOptions (artifactPaths (.ofText path) none),
        (outcome filter config (.compile path none wholeReport) system).2.files.read write.1 =
          .ok write.2 := by
  have spared (file : Path) (involved : file ∈ involvedPaths (.ofText path)) :=
    spares_of_not_sameFile filter fun log configured => apart log configured file involved
  obtain ⟨-, -, has⟩ := opened_spec filter chosen system
  have ran := run_compileCommand filter (opened filter chosen system).1
    (opened filter chosen system).2 chosen path none wholeReport
  rw [outcome_eq loads, Program.perform, ran] at succeeds ⊢
  dsimp only [Option.map_none] at succeeds ⊢
  rw [exitCode_eq_success_iff] at succeeds
  obtain ⟨-, fails⟩ | ⟨source, problem, -, -, failed, run⟩ |
    ⟨source, result, -, text, compiled, success, left⟩ :=
      compiling_cases filter chosen.compileOptions none has (spared _ List.mem_cons_self)
  · rw [fails] at succeeds
    cases succeeds
  · rw [run] at succeeds
    exact absurd (List.isEmpty_iff.mp succeeds) (entries_ne_nil failed)
  · refine ⟨source, result, text, compiled, ?_⟩
    have read := left.read_artifacts tree text spared (success.mp succeeds)
    cases wholeReport <;> exact read

/-- Inspecting shows what compiling writes. If compiling a file succeeds, in a tree and with a log
    that is neither the file nor one of its artifacts, then both artifacts are there afterwards,
    and wherever the file is inspected under the same settings and with the same text, the page
    that is shown has the bytes of the one that was written, and the record has those of the other
    with a line break. -/
theorem inspect_shows_artifacts (tree : system.IsTree)
    (loads : settings filter config system = .ok chosen)
    (apart : ∀ log ∈ chosen.logFile, ∀ file ∈ involvedPaths (.ofText path),
      ¬system.SameFile log file) {wholeReport : Bool}
    (succeeds : (outcome filter config (.compile path none wholeReport) system).1 = .success) :
    let written := (outcome filter config (.compile path none wholeReport) system).2.files
    ∃ page record, written.read (artifactPaths (.ofText path) none).1 = .ok page ∧
      written.read (artifactPaths (.ofText path) none).2 = .ok record ∧
      ∀ later, settings filter config later = .ok chosen →
        (∀ log ∈ chosen.logFile, ¬later.SameFile log (.ofText path)) →
        later.readText (.ofText path) = system.readText (.ofText path) →
          let html := outcome filter config (.inspect path "html") later
          let json := outcome filter config (.inspect path "intermediate-json") later
          html.1 = .success ∧ html.2.printed.toBytes = page ∧
            json.1 = .success ∧ json.2.printed.toBytes = record ++ Text.toBytes "\n" := by
  obtain ⟨source, result, text, compiled, kept⟩ := compile_writes tree loads apart succeeds
  obtain ⟨document, parsed, -, rfl⟩ := compile_eq_ok_iff.mp compiled
  refine ⟨_, _, kept _ List.mem_cons_self, kept _ (List.mem_cons_of_mem _ List.mem_cons_self), ?_⟩
  intro later loadsLater apartLater sameText
  have spared := spares_of_not_sameFile filter apartLater
  obtain ⟨nothing, -, has⟩ := opened_spec filter chosen later
  have read := (has.readText_iff spared).mpr (sameText.trans text)
  have page := inspectCommand_spec filter chosen (opened filter chosen later).1 "html" read parsed
    (by decide) rfl
  have record := inspectCommand_spec filter chosen (opened filter chosen later).1
    "intermediate-json" read parsed (by decide) rfl
  rw [nothing, List.nil_append] at page record
  rw [Html.endLine_renderPage] at page
  rw [Record.endLine_toJson] at record
  rw [outcome_eq loadsLater, outcome_eq loadsLater]
  refine ⟨page.1, congrArg Text.toBytes page.2, record.1, ?_⟩
  exact (congrArg Text.toBytes record.2).trans (Text.toBytes_append _ _)

/-- A directory with a script, and with settings for records in one line. -/
def stagedScript : FileSystem :=
  (((⟨[], [Text.toBytes "d"]⟩ : FileSystem).makeDirectories [] [Text.toBytes "d"]).put
    (.ofText "flashml.toml") (Text.toBytes "[intermediate]\npretty = false\n")).put
      (.ofText "m") (Text.toBytes "@velocista@@titulo@Hi@/titulo@@/velocista@\n")

/-- The script is compiled, and inspecting it shows what was written. -/
theorem inspect_shows_artifacts_staged :
    stagedScript.IsTree ∧
      settings none none stagedScript = .ok ⟨{}, ⟨false⟩, "info", none⟩ ∧
      (outcome none none (.compile "m" none false) stagedScript).1 = .success ∧
      ∃ page record,
        (outcome none none (.compile "m" none false) stagedScript).2.files.read
          (.ofText "m.html") = .ok page ∧
        (outcome none none (.compile "m" none false) stagedScript).2.files.read
          (.ofText "m.json") = .ok record ∧
        (outcome none none (.inspect "m" "html") stagedScript).2.printed.toBytes = page ∧
        (outcome none none (.inspect "m" "intermediate-json") stagedScript).2.printed.toBytes =
          record ++ Text.toBytes "\n" := by
  have tree : stagedScript.IsTree :=
    (((FileSystem.isTree_empty _).makeDirectories rfl _).put _ _).put _ _
  have loads : settings none none stagedScript = .ok ⟨{}, ⟨false⟩, "info", none⟩ := by
    decide +kernel
  have succeeds : (outcome none none (.compile "m" none false) stagedScript).1 = .success := by
    decide +kernel
  have paths : artifactPaths (.ofText "m") none = (.ofText "m.html", .ofText "m.json") := by
    decide +kernel
  obtain ⟨page, record, readPage, readRecord, shows⟩ :=
    inspect_shows_artifacts tree loads nofun succeeds
  rw [paths] at readPage readRecord
  obtain ⟨-, html, -, json⟩ := shows stagedScript loads nofun rfl
  exact ⟨tree, loads, succeeds, page, record, readPage, readRecord, html, json⟩

end Session

end FlashMarkup
