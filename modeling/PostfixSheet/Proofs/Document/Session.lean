import PostfixSheet.Proofs.Document.Evaluation

/-! Sessions: a document through any sequence of loads, evaluations, writes and
reads, while the files around it change. Only the last load that went well and
whether an evaluation came after it count: the document is what a fresh document of
the rows loaded then would be, evaluated once or not at all. -/
namespace PostfixSheet

/-- What a document was made from: rows of expressions and, if they came from a
file, its path. -/
structure Load where
  rows : List (List String) := []
  path : Option String := none

namespace Load

def document (load : Load) : Document := { sheet := .ofRows load.rows, path := load.path }

def ofText (delimiter : Char) (text : String) : Load := { rows := Delimited.parse delimiter text }

example (delimiter : Char) (text : String) :
    document {} = {} ∧ (ofText delimiter text).document = .ofText delimiter text :=
  ⟨rfl, rfl⟩

/-- What a document of this load has become, once it was evaluated or before. -/
def reached (load : Load) (evaluated : Bool) : Document :=
  if evaluated then load.document.evaluate.1 else load.document

variable {load : Load} {evaluated : Bool}

@[simp] theorem path_reached : (load.reached evaluated).path = load.path := by
  cases evaluated <;> rfl

/-- One more evaluation counts only if it is the first. -/
theorem evaluate_reached (load : Load) (evaluated : Bool) :
    (load.reached evaluated).evaluate.1 = load.reached true := by
  cases evaluated
  · rfl
  · exact Document.evaluate_evaluate load.document

theorem isEvaluated_reached :
    (load.reached evaluated).isEvaluated = true ↔
      (∃ address, ((load.reached evaluated).sheet.get? address).isSome) ∧ evaluated = true := by
  cases evaluated with
  | false =>
    have fresh : load.document.isEvaluated = false :=
      Document.isEvaluated_of_reset (Sheet.reset_ofRows load.rows)
    simp only [reached, Bool.false_eq_true, if_false, fresh, and_false]
  | true =>
    have kept := Sheet.isSome_get?_recalculate load.document.sheet
    rw [reached, if_pos rfl, Document.isEvaluated_evaluate_iff, Document.fst_evaluate]
    simp only [kept, and_true]

end Load

/-- A document and the files around it. -/
structure Session where
  document : Document
  files : FileSystem

namespace Session

inductive Operation where
  | takeText (delimiter : Char) (text : String)
  | loadFile (path : String) (delimiter : Char)
  | evaluate
  | writeFile (path : String) (format : Format)
  /-- Anything that is only read off the document. -/
  | read
  /-- Others change the files. -/
  | changeFiles (files : FileSystem)

def Operation.isEvaluate : Operation → Bool
  | .evaluate => true
  | _ => false

def perform (session : Session) : Operation → Session
  | .takeText delimiter text => { session with document := .ofText delimiter text }
  | .loadFile path delimiter =>
      { session with document := (session.document.loadFile session.files path delimiter).1 }
  | .evaluate => { session with document := session.document.evaluate.1 }
  | .writeFile path format =>
      match session.document.writeFile session.files path format with
      | .ok files => { session with files }
      | .error _ => session
  | .read => session
  | .changeFiles files => { session with files }

def run (session : Session) (history : List Operation) : Session := history.foldl perform session

def load? (session : Session) : Operation → Option Load
  | .takeText delimiter text => some (.ofText delimiter text)
  | .loadFile path delimiter =>
      match session.files.readText Document.sizeLimit path with
      | .ok text => some { Load.ofText delimiter text with path }
      | .error _ => none
  | _ => none

/-- Nothing is loaded all along. -/
def Loadless (session : Session) : List Operation → Prop
  | [] => True
  | operation :: history =>
      session.load? operation = none ∧ (session.perform operation).Loadless history

/-- The last load, and what came after it. -/
inductive LastLoad (session : Session) (start : Load) (history : List Operation) :
    Load → List Operation → Prop where
  | start (loadless : session.Loadless history) : session.LastLoad start history start history
  | later (before : List Operation) {since : List Operation} {operation : Operation} {load : Load}
      (split : history = before ++ operation :: since)
      (loads : (session.run before).load? operation = some load)
      (loadless : ((session.run before).perform operation).Loadless since) :
      session.LastLoad start history load since

variable {session : Session} {operation : Operation} {history since : List Operation}
  {start load : Load} {evaluated : Bool} {path : String} {delimiter : Char}

theorem run_append (session : Session) (before after : List Operation) :
    session.run (before ++ after) = (session.run before).run after :=
  List.foldl_append

theorem load?_loadFile_eq_none_iff :
    session.load? (.loadFile path delimiter) = none ↔
      ∃ fault, (session.document.loadFile session.files path delimiter).2 = some fault := by
  cases read : session.files.readText Document.sizeLimit path <;>
    simp [load?, Document.loadFile, Document.ofFile, read, bind, Except.bind, pure, Except.pure]

theorem perform_loadFile :
    session.perform (.loadFile path delimiter) = { session with
      document := ((session.load? (.loadFile path delimiter)).map Load.document).getD
        session.document } := by
  cases read : session.files.readText Document.sizeLimit path <;>
    simp only [perform, load?, Document.loadFile, Document.ofFile, read] <;> rfl

theorem perform_loadFile_of_unread (unread : session.load? (.loadFile path delimiter) = none) :
    session.perform (.loadFile path delimiter) = session := by
  rw [perform_loadFile, unread]
  rfl

theorem document_perform_of_load (loads : session.load? operation = some load) :
    (session.perform operation).document = load.document := by
  cases operation with
  | takeText delimiter text =>
    obtain rfl := Option.some.inj loads
    rfl
  | loadFile path delimiter =>
    rw [perform_loadFile, loads]
    rfl
  | evaluate => contradiction
  | writeFile path format => contradiction
  | read => contradiction
  | changeFiles files => contradiction

/-- Without a load, the only step of a document is its first evaluation. -/
theorem document_perform (idle : session.load? operation = none)
    (reached : session.document = load.reached evaluated) :
    (session.perform operation).document = load.reached (evaluated || operation.isEvaluate) := by
  cases operation with
  | takeText delimiter text => contradiction
  | loadFile path delimiter =>
    rw [perform_loadFile_of_unread idle]
    simpa only [Operation.isEvaluate, Bool.or_false] using reached
  | evaluate =>
    rw [Operation.isEvaluate, Bool.or_true, ← load.evaluate_reached evaluated, ← reached]
    rfl
  | writeFile path format =>
    simp only [perform, Operation.isEvaluate, Bool.or_false, ← reached]
    split <;> rfl
  | read => simpa only [perform, Operation.isEvaluate, Bool.or_false] using reached
  | changeFiles files => simpa only [perform, Operation.isEvaluate, Bool.or_false] using reached

theorem document_run (loadless : session.Loadless history)
    (reached : session.document = load.reached evaluated) :
    (session.run history).document =
      load.reached (evaluated || history.any Operation.isEvaluate) := by
  induction history generalizing session evaluated with
  | nil => rwa [List.any_nil, Bool.or_false]
  | cons operation history ih =>
    obtain ⟨idle, loadless⟩ := loadless
    rw [List.any_cons, ← Bool.or_assoc]
    exact ih loadless (document_perform idle reached)

/-- The operation in front is the last load if it loads and nothing after it does. -/
theorem exists_lastLoad (session : Session) (start : Load) (history : List Operation) :
    ∃ load since, session.LastLoad start history load since := by
  induction history generalizing session start with
  | nil => exact ⟨start, [], .start trivial⟩
  | cons operation history ih =>
    obtain ⟨load, since, last⟩ := ih (session.perform operation) start
    cases last with
    | start loadless =>
      cases loads : session.load? operation with
      | none => exact ⟨start, _, .start ⟨loads, loadless⟩⟩
      | some load => exact ⟨load, history, .later [] rfl loads loadless⟩
    | later before split loads loadless =>
      have split := congrArg (operation :: ·) split
      exact ⟨load, since, .later (operation :: before) split loads loadless⟩

theorem document_run_of_lastLoad (opened : session.document = start.document)
    (last : session.LastLoad start history load since) :
    (session.run history).document = load.reached (since.any Operation.isEvaluate) := by
  cases last with
  | start loadless =>
    have fresh : session.document = start.reached false := opened
    simpa only [Bool.false_or] using document_run loadless fresh
  | @later before since operation load split loads loadless =>
    have after : session.run history = ((session.run before).perform operation).run since := by
      rw [split, run_append]
      rfl
    have fresh : ((session.run before).perform operation).document = load.reached false :=
      document_perform_of_load loads
    simpa only [after, Bool.false_or] using document_run loadless fresh

/-- After every history, the document is what a fresh document of the last load
would be, evaluated once or not at all. -/
theorem run_since_last_load (files : FileSystem) (start : Load) (history : List Operation) :
    let opened : Session := ⟨start.document, files⟩
    let now := opened.run history
    (∃ load since, opened.LastLoad start history load since) ∧
      (∀ load since, opened.LastLoad start history load since →
        now.document =
            (if since.any Operation.isEvaluate then load.document.evaluate.1 else load.document) ∧
          now.document.path = load.path ∧
          (now.document.isEvaluated = true ↔
            (∃ address, (now.document.sheet.get? address).isSome) ∧
              since.any Operation.isEvaluate = true)) ∧
      ∀ path delimiter,
        (now.load? (.loadFile path delimiter) = none ↔
          ∃ fault, (now.document.loadFile now.files path delimiter).2 = some fault) ∧
        (now.load? (.loadFile path delimiter) = none →
          now.perform (.loadFile path delimiter) = now) := by
  intro opened now
  refine ⟨opened.exists_lastLoad start history, ?_, ?_⟩
  · intro load since last
    have reached : now.document = load.reached (since.any Operation.isEvaluate) :=
      document_run_of_lastLoad rfl last
    rw [reached]
    exact ⟨rfl, Load.path_reached, Load.isEvaluated_reached⟩
  · exact fun path delimiter => ⟨load?_loadFile_eq_none_iff, perform_loadFile_of_unread⟩

/-- One file is loaded, another one is missing, and two evaluations follow. -/
theorem run_since_last_load_past_missing_file :
    let contents : Place → Option Entry := fun place =>
      if place = ["in.csv"] then some (.file (.ofText "1 2 +,A1")) else none
    let history : List Operation :=
      [.evaluate, .loadFile "in.csv" ',', .loadFile "out.csv" ',', .evaluate, .evaluate]
    let now := Session.run ⟨Load.document {}, ⟨contents, []⟩⟩ history
    now.document = (Load.document ⟨[["1 2 +", "A1"]], some "in.csv"⟩).evaluate.1 ∧
      now.document.path = some "in.csv" ∧ now.document.isEvaluated = true := by
  intro contents history now
  have last : Session.LastLoad ⟨Load.document {}, ⟨contents, []⟩⟩ {} history
      ⟨[["1 2 +", "A1"]], some "in.csv"⟩ [.loadFile "out.csv" ',', .evaluate, .evaluate] :=
    .later [.evaluate] rfl rfl ⟨rfl, rfl, rfl, trivial⟩
  obtain ⟨same, path, evaluated⟩ :=
    (run_since_last_load ⟨contents, []⟩ {} history).2.1 _ _ last
  have once : now.document = (Load.document ⟨[["1 2 +", "A1"]], some "in.csv"⟩).evaluate.1 :=
    same.trans (if_pos rfl)
  refine ⟨once, path, evaluated.mpr ⟨⟨⟨0, 0⟩, ?_⟩, rfl⟩⟩
  rw [once, Document.fst_evaluate, Sheet.isSome_get?_recalculate]
  rfl

end Session

end PostfixSheet
