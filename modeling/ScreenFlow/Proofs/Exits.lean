import ScreenFlow.Proofs.Drawing
import ScreenFlow.Proofs.Explaining
import ScreenFlow.Proofs.Preparation
import ScreenFlow.Proofs.Saving
import ScreenFlow.Proofs.Saying

namespace ScreenFlow.Command

/-! Exit codes of the commands about a form in a file. A compilation maps every failure of reading
and compiling to its code. Failures elsewhere are not taken care of unless the form is refused, and
a run that ends with one has the code of a refusal. -/

open Outcome Session

/-! ## Endings -/

variable {α β : Type} {session between : Session} {policy : Log.Policy}

def endingOf (step : Step α) (session : Session) : Ending :=
  match step.run session with
  | .ok _ _ => .exit 0
  | .error ending _ => ending

theorem run_fst (world : World) (boundary : String) :
    (run world boundary).1 = endingOf (proceed world boundary) (.start world.files) := by
  rw [run, endingOf]
  cases (proceed world boundary).run (.start world.files) <;> rfl

theorem endingOf_of_ok {step : Step α} {result : α}
    (ran : step.run session = .ok result between) : endingOf step session = .exit 0 := by
  rw [endingOf, ran]

theorem endingOf_bind_of_ok {step : Step α} {next : α → Step β} {result : α}
    (ran : step.run session = .ok result between) :
    endingOf (step >>= next) session = endingOf (next result) between := by
  rw [endingOf, endingOf, run_bind_of_ok ran]

theorem endingOf_get_bind (next : Session → Step β) :
    endingOf (get >>= next) session = endingOf (next session) session := rfl

theorem endingOf_orEscape_bind (outcome : Except Fault α) (next : α → Step β) :
    endingOf (orEscape outcome >>= next) session =
      match outcome with
      | .ok result => endingOf (next result) session
      | .error fault => .escaped fault := by
  cases outcome <;> rfl

/-- How a run ends with a fault that is taken care of only if it is a rejection. -/
def endingOfFault : Fault → Ending
  | .rejected _ => .exit 1
  | fault => .escaped fault

theorem endingOf_orComplain_bind (outcome : Except Fault α) (next : α → Step β) :
    endingOf (orComplain outcome >>= next) session =
      match outcome with
      | .ok result => endingOf (next result) session
      | .error fault => endingOfFault fault := by
  cases outcome with
  | ok result => rfl
  | error fault => cases fault <;> rfl

/-- How a run ends whose only failures are those of a step, which are taken care of if they are
rejections. -/
def endingOfStep (step : Except Fault α) : Ending :=
  match step with
  | .ok _ => .exit 0
  | .error fault => endingOfFault fault

theorem endingOf_bind_of_error {step : Step α} {next : α → Step β} {ending : Ending}
    (ran : step.run session = .error ending between) :
    endingOf (step >>= next) session = ending := by
  rw [endingOf, run_bind_of_error ran]

theorem endingOf_bind_of_exit {step : Step α} {next : α → Step β}
    (fine : ∀ result later, endingOf (next result) later = .exit 0) :
    endingOf (step >>= next) session = endingOf step session := by
  cases ran : step.run session with
  | ok result later => rw [endingOf_bind_of_ok ran, fine, endingOf_of_ok ran]
  | error ending later => rw [endingOf_bind_of_error ran, endingOf, ran]

theorem endingOf_say (line : Text) : endingOf (say line) session = endingOfStep line.encode := by
  cases encodable : line.isEncodable with
  | true =>
      rcases exists_run_say encodable with ⟨printed, said⟩
      rcases Text.succeeds_encode_iff.mpr encodable with ⟨content, encoded⟩
      rw [endingOf_of_ok said, encoded]
      rfl
  | false =>
      rw [endingOf, run_say_of_surrogate encodable, Text.encode_of_surrogate encodable]
      rfl

theorem endingOf_forM_say (lines : List Text) :
    endingOf (lines.forM say) session = endingOfStep (lines.mapM Text.encode) := by
  induction lines generalizing session with
  | nil => rfl
  | cons line lines induction =>
      rw [List.mapM_cons]
      cases encodable : line.isEncodable with
      | true =>
          rcases exists_run_say encodable with ⟨printed, said⟩
          rcases Text.succeeds_encode_iff.mpr encodable with ⟨content, encoded⟩
          rw [encoded, ok_bind]
          refine (endingOf_bind_of_ok said).trans (induction.trans ?_)
          cases lines.mapM Text.encode <;> rfl
      | false =>
          rw [Text.encode_of_surrogate encodable]
          exact endingOf_bind_of_error (run_say_of_surrogate encodable)

/-! ## Entries -/

theorem succeeds_line_of_json {entry : Log.Entry} (json : entry.toValue.isJson = true)
    (writable : entry.toValue.isWritable = true)
    (shallow : entry.toValue.levels ≤ Json.maxNesting) : Succeeds (policy.line entry) := by
  rcases (Json.write_succeeds_iff .compact json).mpr ⟨writable, shallow⟩ with ⟨line, worded⟩
  rw [Log.Policy.line, Log.Entry.jsonLine, worded]
  cases policy.json <;> exact ⟨_, rfl⟩

theorem succeeds_rejectionLine (policy : Log.Policy) (path : String) (rejection : Rejection) :
    Succeeds (policy.line (rejectionEntry path rejection)) :=
  succeeds_line_of_json rfl rfl (Nat.le_of_ble_eq_true rfl)

theorem succeeds_failureLine (policy : Log.Policy) (path : String) :
    Succeeds (policy.line (failureEntry path)) :=
  succeeds_line_of_json rfl rfl (Nat.le_of_ble_eq_true rfl)

theorem unrejected_line {entry : Log.Entry} : Unrejected (policy.line entry) := by
  rw [Log.Policy.line]
  split
  · exact unrejected_bind (Json.unrejected_write _ _) fun _ _ => unrejected_ok _
  · exact unrejected_ok _

theorem endingOf_note_bind {entry : Log.Entry} {next : Unit → Step β} {line : Option Text}
    (worded : policy.line entry = .ok line) :
    endingOf (note policy entry >>= next) session = endingOf (next ()) (session.noted entry line) :=
  endingOf_bind_of_ok (run_note_eq_ok.mpr ⟨line, worded, rfl⟩)

theorem endingOf_notes_bind_of_error {items : List α} {entryOf : α → Log.Entry}
    {next : Unit → Step β} {fault : Fault}
    (failed : (items.mapM fun item => policy.line (entryOf item)) = .error fault) :
    endingOf ((items.forM fun item => note policy (entryOf item)) >>= next) session =
      .escaped fault := by
  induction items generalizing session with
  | nil => cases failed
  | cons item items induction =>
      rw [List.forM, bind_assoc]
      rw [List.mapM_cons] at failed
      rcases bind_eq_error.mp failed with failed | ⟨line, worded, failed⟩
      · rw [note, failed]
        rfl
      · rw [endingOf_note_bind worded]
        rcases bind_eq_error.mp failed with failed | ⟨lines, -, failed⟩
        · exact induction failed
        · cases failed

/-! ## Commands about a form -/

/-- A command about the form in a file. -/
inductive Task where
  | generate (output : Option String)
  | analyze
  | diagram (output : Option String) (mode : DiagramMode)

namespace Task

/-- The command with the path of the file. -/
def command (path : String) : Task → Command
  | .generate output => .generate path output
  | .analyze => .analyze path
  | .diagram output mode => .diagram path output mode

def target? : Task → Option String
  | .generate output => output
  | .analyze => none
  | .diagram output _ => output

/-- Write bytes to a file, or print them. -/
def deliver (files : Files) (target? : Option String) (content : List UInt8) : Except Fault Unit :=
  match target? with
  | none => .ok ()
  | some target => (files.write target content).map fun _ => ()

/-- A compiled form in bytes: first the notes about the labels that were cut, then the document. -/
def flowBytes (policy : Log.Policy) (flow : CompiledFlow) : Except Fault (List UInt8) := do
  let _ ← flow.diagnostics.mapM fun diagnostic => policy.line (truncationEntry diagnostic)
  flow.document.encode

/-- The lines about a form, each in bytes. -/
def lineBytes (files : Files) (path : String) : Except Fault (List (List UInt8)) := do
  let report ← Schema.load files path >>= Schema.analyze
  (reportLines report).mapM Text.encode

/-- The drawing of a form in bytes. -/
def drawingBytes (files : Files) (path : String) (mode : DiagramMode) :
    Except Fault (List UInt8) := do
  (← Schema.load files path >>= Schema.diagram mode).encode

/-- What becomes of the command: the passes over the form in their order, up to the first that
fails. -/
def outcome (policy : Log.Policy) (files : Files) (path : String) : Task → Except Fault Unit
  | .generate output => do
      let flow ← Schema.load files path >>= Schema.compile
      deliver files output (← flowBytes policy flow)
  | .analyze => do
      let _ ← lineBytes files path
  | .diagram output mode => do
      deliver files output (← drawingBytes files path mode)

end Task

/-- The documented exit code: 0 for success, 1 for a form that is refused, 2 for any other
failure. -/
def exitCode : Except Fault Unit → Nat
  | .ok _ => 0
  | .error (.rejected _) => 1
  | .error _ => 2

/-- The failures that no command takes care of. -/
inductive Task.Uncaught (policy : Log.Policy) (files : Files) (path : String) : Task → Prop
  | note {output : Option String} {flow : CompiledFlow} {diagnostic : Diagnostic}
      (compiled : Schema.load files path >>= Schema.compile = .ok flow)
      (among : diagnostic ∈ flow.diagnostics)
      (wordless : ¬ Succeeds (policy.line (truncationEntry diagnostic))) :
      Uncaught policy files path (.generate output)
  | document {output : Option String} {flow : CompiledFlow}
      (compiled : Schema.load files path >>= Schema.compile = .ok flow)
      (wordless : ¬ flow.document.Encodable) : Uncaught policy files path (.generate output)
  | file {task : Task} (other : ∀ output, task ≠ .generate output)
      (unread : Escapes (Schema.load files path)) : Uncaught policy files path task
  | component {schema : Schema} {placed : Placed} (loaded : Schema.load files path = .ok schema)
      (member : placed ∈ schema.placed) (unanalyzable : ¬ placed.Analyzable) :
      Uncaught policy files path .analyze
  | line {summary : Report} {line : Text}
      (analyzed : Schema.load files path >>= Schema.analyze = .ok summary)
      (among : line ∈ reportLines summary) (surrogate : line.isEncodable = false) :
      Uncaught policy files path .analyze
  | screen {output : Option String} {mode : DiagramMode} {schema : Schema} {screen : Screen}
      (loaded : Schema.load files path = .ok schema) (member : screen ∈ schema.screens)
      (undrawable : ¬ screen.Drawable mode) : Uncaught policy files path (.diagram output mode)
  | drawing {output : Option String} {mode : DiagramMode} {text : Text}
      (drawn : Schema.load files path >>= Schema.diagram mode = .ok text)
      (surrogate : text.isEncodable = false) : Uncaught policy files path (.diagram output mode)

/-! ## How commands end -/

theorem endingOf_compile_bind_of_error {path : String} {next : CompiledFlow → Step β}
    {fault : Fault} (failed : Schema.load session.files path >>= Schema.compile = .error fault) :
    endingOf (compile policy path >>= next) session = .exit (exitCode (.error fault)) := by
  rw [compile, bind_assoc, endingOf_get_bind, failed]
  cases fault with
  | rejected rejection =>
      rcases succeeds_rejectionLine policy path rejection with ⟨line, worded⟩
      rw [bind_assoc, endingOf_note_bind worded]
      rfl
  | _ =>
      rcases succeeds_failureLine policy path with ⟨line, worded⟩
      simp only []
      rw [bind_assoc, endingOf_note_bind worded]
      rfl

theorem endingOf_compile_bind_of_ok {path : String} {next : CompiledFlow → Step β}
    {flow : CompiledFlow} (made : Schema.load session.files path >>= Schema.compile = .ok flow) :
    endingOf (compile policy path >>= next) session =
      endingOf ((flow.diagnostics.forM fun diagnostic => note policy (truncationEntry diagnostic))
        >>= fun _ => next flow) session := by
  rw [compile, bind_assoc, endingOf_get_bind, made]
  simp only [bind_assoc, pure_bind]

/-- The ending of a run fits what becomes of its command, except for a failure that nothing takes
care of. -/
structure Conforms (ending : Ending) (outcome : Except Fault Unit) (uncaught : Prop) : Prop where
  caught : ¬ uncaught → ending.code = exitCode outcome
  missed : uncaught → ending.code = 1 ∧ exitCode outcome = 2

theorem endingOfFault_of_unrejected {step : Except Fault α} {fault : Fault}
    (failed : step = .error fault) (unrejected : Unrejected step) :
    endingOfFault fault = .escaped fault := by
  cases fault with
  | rejected rejection => exact absurd failed (unrejected rejection)
  | _ => rfl

theorem endingOf_write {target : String} (admits : session.files.Admits target) (text : Text) :
    endingOf (write target text) session = endingOfStep text.encode := by
  cases encoded : text.encode with
  | ok content =>
      rcases Files.succeeds_write_iff.mpr admits with ⟨files, stored⟩
      have ran : (write target text).run session = .ok () { session with files } :=
        run_write_eq_ok.mpr ⟨content, files, encoded, stored, rfl⟩
      exact endingOf_of_ok ran
  | error fault =>
      rcases Files.succeeds_write_iff.mpr admits with ⟨opened, place⟩
      have failed : (session.files.save target text.encode).1 = .error fault := by
        rw [encoded, Files.save_of_wordless place]
      change endingOf (orEscape (session.files.save target text.encode).1) _ = _
      rw [failed]
      exact (endingOfFault_of_unrejected encoded text.unrejected_encode).symm

theorem conforms_endingOfStep (step : Except Fault α) :
    Conforms (endingOfStep step) (step.map fun _ => ()) (Escapes step) := by
  cases step with
  | ok result => exact ⟨fun _ => rfl, fun escaped => absurd escaped (not_escapes_ok result)⟩
  | error fault =>
      cases fault with
      | rejected rejection => exact ⟨fun _ => rfl, fun escaped => by simp [Escapes] at escaped⟩
      | _ => exact ⟨fun caught => absurd ⟨_, rfl, by simp⟩ caught, fun _ => ⟨rfl, rfl⟩⟩

namespace Task

variable {means : Means} {files : Files} {path : String} {task : Task} {output : Option String}
  {mode : DiagramMode}

theorem bind_deliver (place : ∀ target, output = some target → files.Admits target)
    (step : Except Fault (List UInt8)) :
    step >>= deliver files output = step.map fun _ => () := by
  cases step with
  | error fault => rfl
  | ok content =>
      cases output with
      | none => rfl
      | some target =>
          rcases Files.succeeds_write_iff.mpr (place target rfl) with ⟨written, stored⟩
          rw [ok_bind, deliver, stored]
          rfl

theorem escapes_encode_iff {text : Text} : Escapes text.encode ↔ text.isEncodable = false := by
  rw [escapes_iff_of_unrejected text.unrejected_encode, Text.succeeds_encode_iff, Bool.not_eq_true]

theorem escapes_mapM_encode_iff {lines : List Text} :
    Escapes (lines.mapM Text.encode) ↔ ∃ line ∈ lines, line.isEncodable = false := by
  rw [escapes_iff_of_unrejected (unrejected_mapM fun line _ => line.unrejected_encode),
    mapM_succeeds_iff]
  simp [Text.succeeds_encode_iff]

theorem uncaught_analyze_iff {policy : Log.Policy} :
    Uncaught policy files path .analyze ↔ Escapes (lineBytes files path) := by
  rw [lineBytes, escapes_bind, escapes_bind]
  constructor
  · intro uncaught
    cases uncaught with
    | file _ unread => exact .inl (.inl unread)
    | line analyzed among surrogate =>
        exact .inr ⟨_, analyzed, escapes_mapM_encode_iff.mpr ⟨_, among, surrogate⟩⟩
    | component loaded member unanalyzable =>
        refine .inl (.inr ⟨_, loaded, ?_⟩)
        rw [escapes_iff_of_unrejected (Schema.unrejected_analyze _)]
        intro given
        exact unanalyzable ((Schema.analyze_eq_ok_iff.mp given.choose_spec).1 _ member)
  · intro given
    rcases given with (unread | ⟨schema, loaded, failed⟩) | ⟨summary, analyzed, failed⟩
    · exact .file nofun unread
    · rw [escapes_iff_of_unrejected (Schema.unrejected_analyze _)] at failed
      by_contra caught
      refine failed ⟨_, Schema.analyze_eq_ok_iff.mpr ⟨fun placed member => ?_, rfl⟩⟩
      by_contra unanalyzable
      exact caught (.component loaded member unanalyzable)
    · rcases escapes_mapM_encode_iff.mp failed with ⟨line, among, surrogate⟩
      exact .line analyzed among surrogate

theorem uncaught_diagram_iff {policy : Log.Policy} :
    Uncaught policy files path (.diagram output mode) ↔ Escapes (drawingBytes files path mode) := by
  rw [drawingBytes, escapes_bind, escapes_bind]
  constructor
  · intro uncaught
    cases uncaught with
    | file _ unread => exact .inl (.inl unread)
    | drawing drawn surrogate =>
        exact .inr ⟨_, drawn, escapes_encode_iff.mpr surrogate⟩
    | screen loaded member undrawable =>
        refine .inl (.inr ⟨_, loaded, ?_⟩)
        rw [escapes_iff_of_unrejected Schema.unrejected_diagram, Schema.diagram_succeeds_iff]
        exact fun drawable => undrawable (drawable _ member)
  · intro given
    rcases given with (unread | ⟨schema, loaded, failed⟩) | ⟨text, drawn, failed⟩
    · exact .file nofun unread
    · rw [escapes_iff_of_unrejected Schema.unrejected_diagram,
        Schema.diagram_succeeds_iff] at failed
      push Not at failed
      rcases failed with ⟨screen, member, undrawable⟩
      exact .screen loaded member undrawable
    · exact .drawing drawn (escapes_encode_iff.mp failed)

theorem unrejected_flowBytes (policy : Log.Policy) (flow : CompiledFlow) :
    Unrejected (flowBytes policy flow) :=
  unrejected_bind (unrejected_mapM fun _ _ => unrejected_line) fun _ _ =>
    unrejected_bind (Json.unrejected_write _ _) fun text _ => text.unrejected_encode

theorem escapes_flowBytes_iff {policy : Log.Policy} {flow : CompiledFlow}
    (compiled : Schema.load files path >>= Schema.compile = .ok flow) :
    Escapes (flowBytes policy flow) ↔ ¬ ((∀ diagnostic ∈ flow.diagnostics,
      Succeeds (policy.line (truncationEntry diagnostic))) ∧ flow.document.Encodable) := by
  rcases bind_eq_ok.mp compiled with ⟨schema, -, compiled⟩
  rw [escapes_iff_of_unrejected (unrejected_flowBytes policy flow), flowBytes, succeeds_bind_iff,
    ← FlowDocument.succeeds_encode_iff compiled, ← mapM_succeeds_iff, exists_and_right]
  rfl

theorem uncaught_generate_iff {policy : Log.Policy} :
    Uncaught policy files path (.generate output) ↔ ∃ flow,
      Schema.load files path >>= Schema.compile = .ok flow ∧ Escapes (flowBytes policy flow) := by
  constructor
  · intro uncaught
    cases uncaught with
    | note compiled among wordless =>
        refine ⟨_, compiled, (escapes_flowBytes_iff compiled).mpr fun given => ?_⟩
        exact wordless (given.1 _ among)
    | document compiled wordless =>
        exact ⟨_, compiled, (escapes_flowBytes_iff compiled).mpr fun given => wordless given.2⟩
    | file other _ => exact absurd rfl (other output)
  · intro given
    rcases given with ⟨flow, compiled, failed⟩
    rw [escapes_flowBytes_iff compiled] at failed
    by_contra caught
    refine failed ⟨fun diagnostic among => ?_, ?_⟩
    · by_contra wordless
      exact caught (.note compiled among wordless)
    · by_contra wordless
      exact caught (.document compiled wordless)

/-! ### Each command -/

section Conforms

variable {session : Session}

theorem conforms_analyze :
    Conforms (endingOf (perform means (.analyze path)) session)
      (outcome means.policy session.files path .analyze)
      (Uncaught means.policy session.files path .analyze) := by
  have ended : endingOf (perform means (.analyze path)) session =
      endingOfStep (lineBytes session.files path) := by
    rw [perform, endingOf_get_bind, endingOf_orComplain_bind, lineBytes]
    cases Schema.load session.files path >>= Schema.analyze with
    | ok report => exact endingOf_forM_say _
    | error fault => rfl
  have amounts : outcome means.policy session.files path .analyze =
      (lineBytes session.files path).map fun _ => () := by
    rw [outcome]
    cases lineBytes session.files path <;> rfl
  rw [ended, amounts, uncaught_analyze_iff]
  exact conforms_endingOfStep _

theorem endingOf_diagram (place : ∀ target, output = some target → session.files.Admits target) :
    endingOf (perform means (.diagram path output mode)) session =
      endingOfStep (drawingBytes session.files path mode) := by
  rw [perform, endingOf_get_bind, endingOf_orComplain_bind, drawingBytes]
  cases Schema.load session.files path with
  | error fault => rfl
  | ok schema =>
      simp only [ok_bind]
      rw [endingOf_orEscape_bind]
      cases drawn : schema.diagram mode with
      | error fault => exact (endingOfFault_of_unrejected drawn Schema.unrejected_diagram).symm
      | ok text =>
          cases output with
          | none => exact endingOf_say text
          | some target => exact endingOf_write (place target rfl) text

theorem conforms_diagram (place : ∀ target, output = some target → session.files.Admits target) :
    Conforms (endingOf (perform means (.diagram path output mode)) session)
      (outcome means.policy session.files path (.diagram output mode))
      (Uncaught means.policy session.files path (.diagram output mode)) := by
  rw [endingOf_diagram place, outcome, bind_deliver place, uncaught_diagram_iff]
  exact conforms_endingOfStep _

theorem endingOf_generate_of_ok {flow : CompiledFlow}
    (place : ∀ target, output = some target → session.files.Admits target)
    (made : Schema.load session.files path >>= Schema.compile = .ok flow) :
    endingOf (perform means (.generate path output)) session =
      endingOfStep (flowBytes means.policy flow) := by
  rw [perform, endingOf_compile_bind_of_ok made]
  cases noted : flow.diagnostics.mapM fun diagnostic =>
      means.policy.line (truncationEntry diagnostic) with
  | error fault =>
      have unworded : flowBytes means.policy flow = .error fault := by
        rw [flowBytes, noted, error_bind]
      rw [endingOf_notes_bind_of_error noted, unworded]
      exact (endingOfFault_of_unrejected unworded (unrejected_flowBytes _ _)).symm
  | ok lines =>
      rcases exists_run_notes_iff.mpr (mapM_succeeds_iff.mp ⟨lines, noted⟩) with ⟨later, ran⟩
      have noted : flowBytes means.policy flow = flow.document.encode := by
        rw [flowBytes, noted, ok_bind]
      rw [endingOf_bind_of_ok ran, endingOf_orEscape_bind, noted, FlowDocument.encode]
      cases worded : flow.document.toJson with
      | error fault => exact (endingOfFault_of_unrejected worded (Json.unrejected_write _ _)).symm
      | ok text =>
          cases output with
          | none => exact endingOf_say text
          | some target =>
              have same : later.files = session.files := by rw [onlyLogged_of_run_notes ran]
              have admits := place target rfl
              rw [← same] at admits
              refine (endingOf_bind_of_exit fun _ _ => ?_).trans (endingOf_write admits text)
              rw [endingOf_say, Text.encode_ofString]
              rfl

theorem conforms_generate (place : ∀ target, output = some target → session.files.Admits target) :
    Conforms (endingOf (perform means (.generate path output)) session)
      (outcome means.policy session.files path (.generate output))
      (Uncaught means.policy session.files path (.generate output)) := by
  rw [uncaught_generate_iff, outcome]
  cases made : Schema.load session.files path >>= Schema.compile with
  | error fault =>
      rw [perform, endingOf_compile_bind_of_error made, error_bind]
      exact ⟨fun _ => rfl, by simp⟩
  | ok flow =>
      rw [endingOf_generate_of_ok place made, ok_bind, bind_deliver place]
      simp only [Except.ok.injEq, exists_eq_left']
      exact conforms_endingOfStep _

theorem conforms_perform (means : Means) (path : String)
    (place : ∀ target, task.target? = some target → session.files.Admits target) :
    Conforms (endingOf (perform means (task.command path)) session)
      (task.outcome means.policy session.files path)
      (task.Uncaught means.policy session.files path) := by
  cases task with
  | generate output => exact conforms_generate place
  | analyze => exact conforms_analyze
  | diagram output mode => exact conforms_diagram place

end Conforms

end Task

/-! ## Runs -/

/-- A run for a form in a file has the documented exit code, unless it ends with a failure that its
command does not take care of; then it has the code of a form that is refused. -/
theorem code_run_eq_exitCode_iff {world : World} {boundary path : String} {means : Means}
    {task : Task} {session : Session}
    (prepared : (prepare world boundary).run (.start world.files) =
      .ok (means, task.command path) session)
    (place : ∀ target, task.target? = some target → world.files.Admits target) :
    ((run world boundary).1.code = exitCode (task.outcome means.policy world.files path) ↔
        ¬ task.Uncaught means.policy world.files path) ∧
      (task.Uncaught means.policy world.files path →
        (run world boundary).1.code = 1 ∧
          exitCode (task.outcome means.policy world.files path) = 2) := by
  have kept : session.files = world.files := leavesFiles_prepare world boundary _ _ _ prepared
  rw [← kept] at place
  have conforms := task.conforms_perform means path place
  have ended : (run world boundary).1 = endingOf (perform means (task.command path)) session := by
    rw [run_fst, proceed_eq, endingOf_bind_of_ok prepared]
  rw [kept, ← ended] at conforms
  refine ⟨⟨fun same uncaught => ?_, conforms.caught⟩, conforms.missed⟩
  rcases conforms.missed uncaught with ⟨one, two⟩
  rw [one, two] at same
  cases same

example : (run ⟨["generate", "s.json"], [],
    .ofContents [("s.json", Text.Utf8.encode
      "\x7b\"screens\": [\x7b\"id\": \"a\", \"title\": \"\\ud800\"\x7d]\x7d")], "",
    .unreachable ""⟩ "").1 = .escaped .unencodable := by
  decide +kernel

def asked? (world : World) (boundary : String) : Option (Log.Policy × Command) :=
  match (prepare world boundary).run (.start world.files) with
  | .ok (means, command) _ => some (means.policy, command)
  | .error _ _ => none

theorem exists_prepared {world : World} {boundary : String} {policy : Log.Policy}
    {command : Command} (asked : asked? world boundary = some (policy, command)) :
    ∃ means session, means.policy = policy ∧
      (prepare world boundary).run (.start world.files) = .ok (means, command) session := by
  rw [asked?] at asked
  split at asked
  · next means command session ran =>
      rcases Prod.mk.inj (Option.some.inj asked) with ⟨rfl, rfl⟩
      exact ⟨means, session, rfl, ran⟩
  · cases asked

def generating : World :=
  ⟨["generate", "s.json", "-o", "f.json"], [],
    .ofContents [("s.json", Text.Utf8.encode "\x7b\"screens\": [\x7b\"id\": \"a\"\x7d]\x7d")], "",
    .unreachable ""⟩

theorem generating_coded : ∃ means session,
    (prepare generating "").run (.start generating.files) =
      .ok (means, Task.command "s.json" (.generate (some "f.json"))) session ∧
    generating.files.Admits "f.json" ∧ (run generating "").1.code = 0 ∧
      ¬ Task.Uncaught means.policy generating.files "s.json" (.generate (some "f.json")) := by
  have asked : asked? generating "" =
      some (⟨20, false⟩, Task.command "s.json" (.generate (some "f.json"))) := by decide +kernel
  have admits : generating.files.Admits "f.json" := ⟨["f.json"], by decide +kernel, rfl⟩
  have ended : (run generating "").1.code = 0 := by decide +kernel
  have fine : exitCode (Task.outcome ⟨20, false⟩ generating.files "s.json"
      (.generate (some "f.json"))) = 0 := by decide +kernel
  rcases exists_prepared asked with ⟨means, session, policy, prepared⟩
  refine ⟨means, session, prepared, admits, ended, ?_⟩
  refine (code_run_eq_exitCode_iff prepared fun target given => ?_).1.mp ?_
  · rcases Option.some.inj given with rfl
    exact admits
  · rw [ended, policy, fine]

def analyzing : World :=
  ⟨["analyze", "s.yaml"], [], .ofContents [("s.yaml", [0xff])], "", .unreachable ""⟩

theorem analyzing_miscoded : ∃ means session,
    (prepare analyzing "").run (.start analyzing.files) =
      .ok (means, Task.command "s.yaml" .analyze) session ∧
    analyzing.files.read "s.yaml" = .ok [0xff] ∧
    Task.outcome means.policy analyzing.files "s.yaml" .analyze = .error .undecodable ∧
    exitCode (.error .undecodable) = 2 ∧ (run analyzing "").1.code = 1 := by
  have asked : asked? analyzing "" = some (⟨20, false⟩, Task.command "s.yaml" .analyze) := by
    decide +kernel
  have failed : Task.outcome ⟨20, false⟩ analyzing.files "s.yaml" .analyze =
      .error .undecodable := by decide +kernel
  rcases exists_prepared asked with ⟨means, session, policy, prepared⟩
  refine ⟨means, session, prepared, by decide +kernel, ?_, rfl, by decide +kernel⟩
  rw [policy, failed]

end ScreenFlow.Command
