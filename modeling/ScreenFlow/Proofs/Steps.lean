import ScreenFlow.Command.Run
import ScreenFlow.Proofs.Storage

namespace ScreenFlow.Command

/-! What the steps of a run do to its session. A step that goes on is described by its result and by
the session that it leaves. -/

open Outcome

namespace Session

variable {α β : Type} {session later : Session} {result : α}

theorem run_bind_eq_ok {step : Step α} {next : α → Step β} {result : β} :
    (step >>= next).run session = .ok result later ↔
      ∃ middle between, step.run session = .ok middle between ∧
        (next middle).run between = .ok result later := by
  change EStateM.bind step next session = .ok result later ↔ _
  rw [EStateM.bind]
  simp only [EStateM.run]
  cases step session <;> simp

theorem run_bind_of_ok {step : Step α} {next : α → Step β} {between : Session}
    (ran : step.run session = .ok result between) :
    (step >>= next).run session = (next result).run between := by
  change EStateM.bind step next session = _
  rw [EStateM.bind]
  simp only [EStateM.run] at ran ⊢
  rw [ran]

theorem run_get_bind (next : Session → Step α) :
    (get >>= next).run session = (next session).run session := rfl

theorem run_orEscape_eq_ok {outcome : Except Fault α} :
    (orEscape outcome).run session = .ok result later ↔ outcome = .ok result ∧ session = later := by
  cases outcome with
  | ok value =>
      change EStateM.Result.ok value session = .ok result later ↔ _
      simp
  | error fault =>
      change EStateM.Result.error (Ending.escaped fault) session = .ok result later ↔ _
      simp

/-! ## Entries -/

/-- The session after an entry was put into words, as a line if it is one that is written. -/
def noted (session : Session) (entry : Log.Entry) : Option Text → Session
  | some line =>
      { session with log := session.log ++ [line], entries := session.entries ++ [entry] }
  | none => session

theorem run_note_eq_ok {policy : Log.Policy} {entry : Log.Entry} {result : Unit} :
    (note policy entry).run session = .ok result later ↔
      ∃ line, policy.line entry = .ok line ∧ session.noted entry line = later := by
  rw [note, run_bind_eq_ok]
  constructor
  · intro ran
    rcases ran with ⟨line, between, escaped, ran⟩
    rcases run_orEscape_eq_ok.mp escaped with ⟨worded, rfl⟩
    refine ⟨line, worded, ?_⟩
    cases line <;> cases ran <;> rfl
  · intro given
    rcases given with ⟨line, worded, rfl⟩
    refine ⟨line, session, run_orEscape_eq_ok.mpr ⟨worded, rfl⟩, ?_⟩
    cases line <;> rfl

def OnlyLogged (session later : Session) : Prop :=
  later = { session with log := later.log, entries := later.entries }

theorem OnlyLogged.refl (session : Session) : session.OnlyLogged session := rfl

theorem OnlyLogged.trans {between : Session} (first : session.OnlyLogged between)
    (second : between.OnlyLogged later) : session.OnlyLogged later := by
  rw [OnlyLogged, second, first]

theorem onlyLogged_noted (session : Session) (entry : Log.Entry) (line : Option Text) :
    session.OnlyLogged (session.noted entry line) := by
  cases line <;> rfl

section Notes

variable {policy : Log.Policy} {items : List α} {entryOf : α → Log.Entry}

theorem exists_run_notes_iff :
    (∃ later, (items.forM fun item => note policy (entryOf item)).run session = .ok () later) ↔
      ∀ item ∈ items, Succeeds (policy.line (entryOf item)) := by
  induction items generalizing session with
  | nil => exact iff_of_true ⟨session, rfl⟩ (by simp)
  | cons item items induction =>
      rw [List.forall_mem_cons]
      constructor
      · intro given
        rcases given with ⟨later, ran⟩
        rcases run_bind_eq_ok.mp ran with ⟨_, between, first, rest⟩
        rcases run_note_eq_ok.mp first with ⟨line, worded, -⟩
        exact ⟨⟨line, worded⟩, induction.mp ⟨later, rest⟩⟩
      · intro given
        rcases given with ⟨⟨line, worded⟩, others⟩
        rcases induction.mpr others with ⟨later, rest⟩
        exact ⟨later,
          run_bind_eq_ok.mpr ⟨(), _, run_note_eq_ok.mpr ⟨line, worded, rfl⟩, rest⟩⟩

theorem onlyLogged_of_run_notes
    (ran : (items.forM fun item => note policy (entryOf item)).run session = .ok () later) :
    session.OnlyLogged later := by
  induction items generalizing session with
  | nil =>
      cases ran
      exact .refl _
  | cons item items induction =>
      rcases run_bind_eq_ok.mp ran with ⟨_, between, first, rest⟩
      rcases run_note_eq_ok.mp first with ⟨line, -, rfl⟩
      exact (onlyLogged_noted session _ line).trans (induction rest)

end Notes

/-! ## Files -/

theorem run_write_eq_ok {path : String} {text : Text} {result : Unit} :
    (write path text).run session = .ok result later ↔
      ∃ content files, text.encode = .ok content ∧ session.files.write path content = .ok files ∧
        later = { session with files } := by
  have saved : (write path text).run session =
      (orEscape (session.files.save path text.encode).1).run
        { session with files := (session.files.save path text.encode).2 } := rfl
  rw [saved, run_orEscape_eq_ok]
  constructor
  · rintro ⟨done, rfl⟩
    rcases Files.save_eq_ok_iff.mp (Prod.ext done rfl) with ⟨content, encoded, stored⟩
    exact ⟨content, _, encoded, stored, rfl⟩
  · rintro ⟨content, files, encoded, stored, rfl⟩
    rw [Files.save_eq_ok_iff.mpr ⟨content, encoded, stored⟩]
    exact ⟨rfl, rfl⟩

end Session

open Session

variable {session later : Session}

theorem run_compile_eq_ok {policy : Log.Policy} {path : String} {schema : Schema}
    {flow compiled : CompiledFlow} (loaded : Schema.load session.files path = .ok schema)
    (made : schema.compile = .ok flow) :
    (compile policy path).run session = .ok compiled later ↔
      (flow.diagnostics.forM fun diagnostic => note policy (truncationEntry diagnostic)).run
        session = .ok () later ∧ flow = compiled := by
  have both : (Schema.load session.files path >>= Schema.compile) = .ok flow := by
    rw [loaded, ok_bind, made]
  rw [compile, run_get_bind, both, run_bind_eq_ok]
  constructor
  · intro ran
    rcases ran with ⟨_, between, notes, ran⟩
    cases ran
    exact ⟨notes, rfl⟩
  · intro given
    rcases given with ⟨notes, rfl⟩
    exact ⟨(), later, notes, rfl⟩

end ScreenFlow.Command
