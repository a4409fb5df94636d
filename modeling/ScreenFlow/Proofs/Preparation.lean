import ScreenFlow.Proofs.Steps

namespace ScreenFlow.Command

/-! What a run does before it carries out a command. It reads the command line and the settings, but
it writes no file and sends nothing, and so do the steps that make something of a file. -/

open Session

/-- What a run does before it carries out a command: it finds the command and what that needs. -/
def prepare (world : World) (boundary : String) : Step (Means × Command) := do
  let leading ← orMisuse (readLeading world.arguments)
  answerLeading leading.options
  match leading.others with
  | [] => finish .misuse
  | name :: rest => do
      let (_, switches) ← orMisuse (switches.find? fun entry => entry.1 == name)
      let settings ← settingsOf world
      let policy ← policyOf leading settings
      let words ← orMisuse (readWords switches true none rest)
      if words.has "help" then finish (.exit 0)
      let command ← orMisuse (ofWords world.files name words)
      return (⟨policy, settings, world.input, world.reply, boundary⟩, command)

theorem proceed_eq (world : World) (boundary : String) :
    proceed world boundary =
      prepare world boundary >>= fun found => perform found.1 found.2 := by
  simp only [proceed, prepare, bind_assoc]
  refine bind_congr fun leading => bind_congr fun _ => ?_
  cases leading.others with
  | nil => rfl
  | cons name rest =>
      simp only [bind_assoc]
      refine bind_congr fun _ => bind_congr fun _ => bind_congr fun _ => bind_congr fun words => ?_
      split <;> simp only [bind_assoc, pure_bind]

/-! ## Talking -/

namespace Session

variable {α β : Type} {session between later : Session}

/-- What a step leaves, whether it goes on or ends the run. -/
def after (step : Step α) (session : Session) : Session :=
  match step.run session with
  | .ok _ later => later
  | .error _ later => later

theorem after_of_ok {step : Step α} {result : α} (ran : step.run session = .ok result later) :
    after step session = later := by
  rw [after, ran]

theorem after_of_error {step : Step α} {ending : Ending}
    (ran : step.run session = .error ending later) : after step session = later := by
  rw [after, ran]

theorem run_bind_of_error {step : Step α} {next : α → Step β} {ending : Ending}
    (ran : step.run session = .error ending between) :
    (step >>= next).run session = .error ending between := by
  change EStateM.bind step next session = _
  rw [EStateM.bind]
  simp only [EStateM.run] at ran ⊢
  rw [ran]

structure Talked (session later : Session) : Prop where
  files : later.files = session.files
  requests : later.requests = session.requests

theorem Talked.refl (session : Session) : session.Talked session := ⟨rfl, rfl⟩

theorem Talked.trans (first : session.Talked between) (second : between.Talked later) :
    session.Talked later :=
  ⟨second.files.trans first.files, second.requests.trans first.requests⟩

end Session

/-- The step neither writes a file nor sends anything, whether it goes on or ends the run. -/
def OnlyTalks {α : Type} (step : Step α) : Prop :=
  ∀ session : Session, session.Talked (after step session)

def LeavesFiles {α : Type} (step : Step α) : Prop :=
  ∀ session result later, step.run session = .ok result later → later.files = session.files

section OnlyTalks

variable {α β : Type}

theorem leavesFiles_of_onlyTalks {step : Step α} (talks : OnlyTalks step) : LeavesFiles step := by
  intro session result later ran
  have talked := talks session
  rw [after_of_ok ran] at talked
  exact talked.files

theorem onlyTalks_pure (result : α) : OnlyTalks (pure result : Step α) := fun _ => ⟨rfl, rfl⟩

theorem onlyTalks_finish (ending : Ending) : OnlyTalks (finish ending : Step α) :=
  fun _ => ⟨rfl, rfl⟩

theorem onlyTalks_get : OnlyTalks (get : Step Session) := fun _ => ⟨rfl, rfl⟩

theorem onlyTalks_bind {step : Step α} {next : α → Step β} (first : OnlyTalks step)
    (second : ∀ middle, OnlyTalks (next middle)) : OnlyTalks (step >>= next) := by
  intro session
  have talked := first session
  cases ran : step.run session with
  | ok middle between =>
      rw [after_of_ok ran] at talked
      rw [after, run_bind_of_ok ran, ← after]
      exact talked.trans (second middle between)
  | error ending between =>
      rw [after_of_error ran] at talked
      rw [after_of_error (run_bind_of_error ran)]
      exact talked

theorem onlyTalks_orEscape (outcome : Except Fault α) : OnlyTalks (orEscape outcome) := by
  cases outcome with
  | ok result => exact onlyTalks_pure result
  | error fault => exact onlyTalks_finish _

theorem onlyTalks_orMisuse (found : Option α) : OnlyTalks (orMisuse found) := by
  cases found with
  | none => exact onlyTalks_finish _
  | some result => exact onlyTalks_pure result

theorem onlyTalks_print (text : String) : OnlyTalks (print text) := fun _ => ⟨rfl, rfl⟩

theorem onlyTalks_tell (line : Text) : OnlyTalks (tell line) :=
  onlyTalks_bind (onlyTalks_orEscape _) fun _ => onlyTalks_print _

theorem onlyTalks_warn (line : String) : OnlyTalks (warn line) := fun _ => ⟨rfl, rfl⟩

theorem onlyTalks_note (policy : Log.Policy) (entry : Log.Entry) :
    OnlyTalks (note policy entry) := by
  refine onlyTalks_bind (onlyTalks_orEscape _) fun line => ?_
  cases line with
  | none => exact onlyTalks_pure ()
  | some line => exact fun _ => ⟨rfl, rfl⟩

theorem onlyTalks_forM {step : α → Step Unit} (items : List α)
    (each : ∀ item, OnlyTalks (step item)) : OnlyTalks (items.forM step) := by
  induction items with
  | nil => exact onlyTalks_pure ()
  | cons item items induction => exact onlyTalks_bind (each item) fun _ => induction

/-! ### Preparing -/

theorem onlyTalks_answerLeading (options : List Given) : OnlyTalks (answerLeading options) := by
  induction options with
  | nil => exact onlyTalks_pure ()
  | cons given options induction =>
      rw [answerLeading]
      split
      · exact onlyTalks_bind (onlyTalks_tell _) fun _ => onlyTalks_finish _
      · split
        · exact onlyTalks_finish _
        · exact induction

theorem onlyTalks_settingsOf (world : World) : OnlyTalks (settingsOf world) := by
  have file : OnlyTalks (readSettingsFile world) := by
    rw [readSettingsFile]
    split
    · exact onlyTalks_bind (onlyTalks_orEscape _) fun _ =>
        onlyTalks_bind (onlyTalks_orEscape _) fun text =>
          onlyTalks_bind (onlyTalks_forM _ onlyTalks_warn) fun _ => onlyTalks_pure _
    · exact onlyTalks_pure _
  rw [settingsOf]
  refine onlyTalks_bind file fun text =>
    onlyTalks_bind (onlyTalks_orEscape _) fun gathered => ?_
  cases gathered with
  | ok settings => exact onlyTalks_pure _
  | error names => exact onlyTalks_finish _

theorem onlyTalks_policyOf (leading : Words) (settings : Settings) :
    OnlyTalks (policyOf leading settings) := by
  rw [policyOf]
  split
  · exact onlyTalks_bind (onlyTalks_orEscape _) fun _ => onlyTalks_pure _
  · exact onlyTalks_bind (onlyTalks_pure _) fun _ => onlyTalks_pure _

theorem onlyTalks_prepare (world : World) (boundary : String) :
    OnlyTalks (prepare world boundary) := by
  refine onlyTalks_bind (onlyTalks_orMisuse _) fun leading =>
    onlyTalks_bind (onlyTalks_answerLeading _) fun _ => ?_
  split
  · exact onlyTalks_finish _
  · refine onlyTalks_bind (onlyTalks_orMisuse _) fun found =>
      onlyTalks_bind (onlyTalks_settingsOf world) fun settings =>
        onlyTalks_bind (onlyTalks_policyOf leading settings) fun policy =>
          onlyTalks_bind (onlyTalks_orMisuse _) fun words => ?_
    split
    · exact onlyTalks_bind (onlyTalks_finish _) fun _ =>
        onlyTalks_bind (onlyTalks_orMisuse _) fun _ => onlyTalks_pure _
    · exact onlyTalks_bind (onlyTalks_orMisuse _) fun _ => onlyTalks_pure _

theorem leavesFiles_prepare (world : World) (boundary : String) :
    LeavesFiles (prepare world boundary) :=
  leavesFiles_of_onlyTalks (onlyTalks_prepare world boundary)

/-! ### Compiling -/

theorem onlyTalks_compile (policy : Log.Policy) (path : String) :
    OnlyTalks (compile policy path) := by
  refine onlyTalks_bind onlyTalks_get fun session => ?_
  split
  · exact onlyTalks_bind (onlyTalks_forM _ fun _ => onlyTalks_note _ _) fun _ => onlyTalks_pure _
  · exact onlyTalks_bind (onlyTalks_note _ _) fun _ =>
      onlyTalks_bind (onlyTalks_warn _) fun _ => onlyTalks_finish _
  · exact onlyTalks_bind (onlyTalks_note _ _) fun _ =>
      onlyTalks_bind (onlyTalks_warn _) fun _ => onlyTalks_finish _

theorem onlyTalks_assetOf (policy : Log.Policy) (path : String) :
    OnlyTalks (assetOf policy path) := by
  refine onlyTalks_bind onlyTalks_get fun session =>
    onlyTalks_bind (onlyTalks_orEscape _) fun content =>
      onlyTalks_bind (onlyTalks_orEscape _) fun held => ?_
  split
  · exact onlyTalks_pure _
  · exact onlyTalks_bind (onlyTalks_compile policy path) fun _ => onlyTalks_pure _

theorem onlyTalks_sayJson (value : Value) : OnlyTalks (sayJson value) :=
  onlyTalks_bind (onlyTalks_orEscape _) fun _ => onlyTalks_tell _

end OnlyTalks

end ScreenFlow.Command
