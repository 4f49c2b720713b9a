import PostfixSheet.CommandLine.Run
import PostfixSheet.Proofs.Document.Evaluation
import PostfixSheet.Proofs.Files.Writing

/-! What a run leaves behind. A run stops because its format is refused, because the
input cannot be read, or because the output cannot be opened, and each of these is seen
before there is an effect: nothing is printed and every file is as it was. A run that
does not stop evaluates what the input held when it started, and the result goes to
standard output or to the output file, whatever this held, be it the input itself. -/
namespace PostfixSheet

namespace FileSystem

/-- The path leads to the text, and no other place has changed. -/
def Wrote (files after : FileSystem) (path text : String) : Prop :=
  ∃ place contents, files.openTarget path = .ok place ∧
    after.lookup path = .ok (.file contents) ∧ contents.bytes = text.toUTF8 ∧
    (∀ other, other ≠ place → after.entry? other = files.entry? other) ∧
    after.workingDirectory = files.workingDirectory

theorem wrote_put {files : FileSystem} {place : Place} {path : String}
    (opened : files.openTarget path = .ok place) (text : String) :
    files.Wrote (files.put place (.file (.ofText text))) path text :=
  ⟨place, .ofText text, opened, lookup_put opened, Contents.bytes_ofText text,
    fun _ => entry?_put_of_ne, rfl⟩

end FileSystem

namespace CommandLine

variable {request : Request} {user : Option String} {files : FileSystem}
  {reader : Settings.Reader} {format : Format} {text path : String} {place : Place}
  {outcome : Outcome} {document : Document}

/-- The format that a run comes to, or why it is refused. -/
def chosenFormat (arguments : Arguments) (user : Option String) (files : FileSystem)
    (reader : Settings.Reader) : Except FormatFault Format :=
  effectiveFormat arguments (settingsFormat arguments user files reader).1

def rendering (format : Format) (text : String) : String :=
  (Document.ofText format.delimiter text).evaluate.1.render format

def loaded (request : Request) (format : Format) (text : String) : Document :=
  { Document.ofText format.delimiter text with path := some request.input }

theorem render_loaded (request : Request) (format : Format) (text : String) :
    (loaded request format text).evaluate.1.render format = rendering format text := by
  simp only [rendering, loaded, Document.render, Document.fst_evaluate]

/-- What a run has come to when an evaluated document is left to be written. -/
def beforeWriting (request : Request) (user : Option String) (files : FileSystem)
    (reader : Settings.Reader) (evaluated : Document × Summary) : Outcome where
  files := files
  warnings := (settingsFormat request.arguments user files reader).2
  order := if request.arguments.order then evaluated.1.order else []
  summary := some evaluated.2

/-- What stops a run, seen from the files as they are at the start. -/
inductive Failure.Arises (request : Request) (user : Option String) (files : FileSystem)
    (reader : Settings.Reader) : Failure → Prop where
  | format {fault : FormatFault}
      (refused : chosenFormat request.arguments user files reader = .error fault) :
      Arises request user files reader (.format fault)
  | load {format : Format} {fault : StorageFault}
      (chosen : chosenFormat request.arguments user files reader = .ok format)
      (unread : files.readText Document.sizeLimit request.input = .error fault) :
      Arises request user files reader (.load request.input fault)
  | write {format : Format} {text path : String} {fault : FileFault}
      (chosen : chosenFormat request.arguments user files reader = .ok format)
      (read : files.readText Document.sizeLimit request.input = .ok text)
      (asked : request.arguments.output = some path)
      (unopened : files.openTarget path = .error fault) :
      Arises request user files reader (.write path (.io fault))

/-- Nothing is printed, and every file is as it was. -/
def Outcome.LeavesAlone (outcome : Outcome) (files : FileSystem) : Prop :=
  outcome.stdout = "" ∧ outcome.files = files

/-- A text goes to the output file or, without one, to standard output, and nowhere else. -/
def Outcome.Delivers (outcome : Outcome) (files : FileSystem) (text : String) :
    Option String → Prop
  | none => outcome.stdout = text ∧ outcome.files = files
  | some path => outcome.stdout = "" ∧ files.Wrote outcome.files path text

theorem failure_run_of_refused {fault : FormatFault}
    (refused : chosenFormat request.arguments user files reader = .error fault) :
    (run request user files reader).failure = some (.format fault) ∧
      (run request user files reader).LeavesAlone files := by
  unfold chosenFormat at refused
  simp only [run, refused, Outcome.LeavesAlone, and_self]

theorem failure_run_of_unread {fault : StorageFault}
    (chosen : chosenFormat request.arguments user files reader = .ok format)
    (unread : files.readText Document.sizeLimit request.input = .error fault) :
    (run request user files reader).failure = some (.load request.input fault) ∧
      (run request user files reader).LeavesAlone files := by
  unfold chosenFormat at chosen
  have refused : Document.ofFile files request.input format.delimiter = .error fault := by
    simp only [Document.ofFile, unread]
    rfl
  simp only [run, chosen, refused, Outcome.LeavesAlone, and_self]

/-- Behind the reading of the input, all that is left to do is to write. -/
theorem run_of_read (chosen : chosenFormat request.arguments user files reader = .ok format)
    (read : files.readText Document.sizeLimit request.input = .ok text) :
    run request user files reader =
      emit (beforeWriting request user files reader (loaded request format text).evaluate)
        request.arguments.output (loaded request format text).evaluate.1 format := by
  unfold chosenFormat at chosen
  have opened : Document.ofFile files request.input format.delimiter =
      .ok (loaded request format text) := by
    simp only [Document.ofFile, read]
    rfl
  simp only [run, chosen, opened]
  rfl

theorem emit_of_unopened {fault : FileFault} (clean : outcome.LeavesAlone files)
    (unopened : files.openTarget path = .error fault) :
    (emit outcome (some path) document format).failure = some (.write path (.io fault)) ∧
      (emit outcome (some path) document format).LeavesAlone files := by
  obtain ⟨silent, rfl⟩ := clean
  simp only [emit, Document.writeFile, FileSystem.writeText_eq, unopened, Outcome.LeavesAlone,
    silent, and_self]

theorem emit_of_opened (document : Document) (format : Format)
    (clean : outcome.LeavesAlone files) (well : outcome.failure = none)
    (opened : files.openTarget path = .ok place) :
    (emit outcome (some path) document format).failure = none ∧
      (emit outcome (some path) document format).Delivers files (document.render format)
        (some path) := by
  obtain ⟨silent, rfl⟩ := clean
  simp only [emit, Document.writeFile, FileSystem.writeText_eq, opened, Outcome.Delivers, silent,
    well, true_and]
  exact FileSystem.wrote_put opened _

theorem clean_beforeWriting (request : Request) (user : Option String) (files : FileSystem)
    (reader : Settings.Reader) (evaluated : Document × Summary) :
    (beforeWriting request user files reader evaluated).LeavesAlone files ∧
      (beforeWriting request user files reader evaluated).failure = none :=
  ⟨⟨rfl, rfl⟩, rfl⟩

theorem stops_of_arises {failure : Failure} (arises : failure.Arises request user files reader) :
    (run request user files reader).failure = some failure ∧
      (run request user files reader).LeavesAlone files := by
  cases arises with
  | format refused => exact failure_run_of_refused refused
  | load chosen unread => exact failure_run_of_unread chosen unread
  | write chosen read asked unopened =>
    rw [run_of_read chosen read, asked]
    exact emit_of_unopened (clean_beforeWriting ..).1 unopened

theorem arises_or_delivers (request : Request) (user : Option String) (files : FileSystem)
    (reader : Settings.Reader) :
    (∃ failure : Failure, failure.Arises request user files reader) ∨
      (run request user files reader).failure = none ∧ ∃ format text,
        chosenFormat request.arguments user files reader = .ok format ∧
        files.readText Document.sizeLimit request.input = .ok text ∧
        (run request user files reader).Delivers files (rendering format text)
          request.arguments.output := by
  cases chosen : chosenFormat request.arguments user files reader with
  | error fault => exact .inl ⟨_, .format chosen⟩
  | ok format =>
    cases read : files.readText Document.sizeLimit request.input with
    | error fault => exact .inl ⟨_, .load chosen read⟩
    | ok text =>
      have rendered := render_loaded request format text
      cases asked : request.arguments.output with
      | none =>
        right
        rw [run_of_read chosen read, asked]
        exact ⟨rfl, format, text, rfl, rfl, rendered, rfl⟩
      | some path =>
        cases opened : files.openTarget path with
        | error fault => exact .inl ⟨_, .write chosen read asked opened⟩
        | ok place =>
          right
          obtain ⟨clean, well⟩ :=
            clean_beforeWriting request user files reader (loaded request format text).evaluate
          obtain ⟨succeeds, delivers⟩ :=
            emit_of_opened (loaded request format text).evaluate.1 format clean well opened
          rw [run_of_read chosen read, asked]
          exact ⟨succeeds, format, text, rfl, rfl, rendered ▸ delivers⟩

/-- A run fails exactly for what stops it, and then it has no effect. Otherwise the input
was a file with a text when the run started, and what becomes of this text is written to
the output file, or printed, and this is all that has changed. -/
theorem effects_run (request : Request) (user : Option String) (files : FileSystem)
    (reader : Settings.Reader) :
    let outcome := run request user files reader
    (∀ failure, outcome.failure = some failure ↔ failure.Arises request user files reader) ∧
      (outcome.failure ≠ none → outcome.LeavesAlone files) ∧
      (outcome.failure = none → ∃ format contents text,
        chosenFormat request.arguments user files reader = .ok format ∧
        files.lookup request.input = .ok (.file contents) ∧ contents.bytes = text.toUTF8 ∧
        outcome.Delivers files (rendering format text) request.arguments.output) := by
  intro outcome
  rcases arises_or_delivers request user files reader with
    ⟨found, arises⟩ | ⟨well, format, text, chosen, read, delivers⟩
  · obtain ⟨failed, alone⟩ := stops_of_arises arises
    refine ⟨fun failure => ⟨fun same => ?_, fun other => (stops_of_arises other).1⟩,
      fun _ => alone, fun well => ?_⟩
    · obtain rfl := Option.some.inj (failed.symm.trans same)
      exact arises
    · cases failed.symm.trans well
  · refine ⟨fun failure => ⟨fun failed => ?_, fun other => (stops_of_arises other).1⟩,
      fun failed => absurd well failed, fun _ => ?_⟩
    · cases well.symm.trans failed
    · obtain ⟨contents, found, _, decoded⟩ := FileSystem.readText_eq_ok_iff.mp read
      exact ⟨format, contents, text, chosen, found, Contents.bytes_of_text? decoded, delivers⟩

/-- A file that is written over by its own result, and the same run with a delimiter of
two characters. -/
theorem effects_run_onto_input :
    let files : FileSystem := { entries := fun place =>
      [(["in.csv"], Entry.file (.ofText "A2,1\n3\n"))].lookup place }
    let reader : Settings.Reader := Settings.Requested.parse?
    let onto : Arguments := { output := some "in.csv", noSettings := true }
    let refused : Arguments := { onto with delimiter := some ";;" }
    (∃ format contents text, chosenFormat onto none files reader = .ok format ∧
        files.lookup "in.csv" = .ok (.file contents) ∧ contents.bytes = text.toUTF8 ∧
        (run ⟨"in.csv", onto⟩ none files reader).Delivers files (rendering format text)
          (some "in.csv")) ∧
      (run ⟨"in.csv", refused⟩ none files reader).failure = some (.format (.delimiterText ";;")) ∧
      (run ⟨"in.csv", refused⟩ none files reader).LeavesAlone files := by
  intro files reader onto refused
  have chosen : chosenFormat onto none files reader = .ok {} := by decide +kernel
  have read : files.readText Document.sizeLimit "in.csv" = .ok "A2,1\n3\n" := by decide +kernel
  have opened : files.openTarget "in.csv" = .ok ["in.csv"] := by decide +kernel
  have unread : chosenFormat refused none files reader = .error (.delimiterText ";;") := by
    decide +kernel
  have law := effects_run ⟨"in.csv", onto⟩ none files reader
  have refusal := effects_run ⟨"in.csv", refused⟩ none files reader
  have well : (run ⟨"in.csv", onto⟩ none files reader).failure = none := by
    cases ended : (run ⟨"in.csv", onto⟩ none files reader).failure with
    | none => rfl
    | some failure =>
      cases (law.1 failure).mp ended with
      | format stops => cases chosen.symm.trans stops
      | load _ stops => cases read.symm.trans stops
      | write _ _ asked stops =>
        obtain rfl := Option.some.inj asked
        cases opened.symm.trans stops
  have failed := (refusal.1 _).mpr (.format unread)
  exact ⟨law.2.2 well, failed, refusal.2.1 (by rw [failed]; exact Option.some_ne_none _)⟩

end CommandLine

end PostfixSheet
