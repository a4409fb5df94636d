import ScreenFlow.Proofs.Replies
import ScreenFlow.Proofs.Writing

namespace ScreenFlow.Platform

/-! What a client does over a whole run: which requests it sends, what it logs about them, and which
operations fail. After the line is closed nothing is sent any more. -/

open ScreenFlow.Outcome

/-! ## Runs -/

/-- A use of a client: an operation with what would become of its request, or the closing of the
line. -/
inductive Turn where
  | ask (operation : Operation) (reply : Http.Reply)
  | close
  deriving DecidableEq, Repr

namespace Client

def next (client : Client) : Turn → Client
  | .ask .. => client
  | .close => client.close

/-- What a turn comes to. Closing the line sends and logs nothing. -/
def outcome (client : Client) : Turn → Outcome
  | .ask operation reply => client.perform operation reply
  | .close => ⟨.ok .null, none, []⟩

/-- What the turns of a run come to, one after another. -/
def run (client : Client) : List Turn → List Outcome
  | [] => []
  | turn :: turns => client.outcome turn :: (client.next turn).run turns

def after (client : Client) (turns : List Turn) : Client := turns.foldl next client

theorem length_run (client : Client) (turns : List Turn) :
    (client.run turns).length = turns.length := by
  induction turns generalizing client with
  | nil => rfl
  | cons turn turns induction => rw [run, List.length_cons, List.length_cons, induction]

theorem getElem?_run (client : Client) (turns : List Turn) (position : Nat) :
    (client.run turns)[position]? =
      turns[position]?.map (client.after (turns.take position)).outcome := by
  induction turns generalizing client position with
  | nil => simp [run]
  | cons turn turns induction =>
      cases position with
      | zero => rfl
      | succ position => exact induction (client.next turn) position

theorem after_eq (client : Client) (turns : List Turn) :
    client.after turns = { client with closed := client.closed || turns.contains .close } := by
  induction turns generalizing client with
  | nil => simp [after]
  | cons turn turns induction =>
      rw [after, List.foldl_cons, ← after, induction]
      cases turn with
      | ask operation reply => rfl
      | close => simp [next, close]

theorem outcome_of_run {client : Client} {turns : List Turn} {position : Nat} {turn : Turn}
    {outcome : Outcome} (found : turns[position]? = some turn)
    (given : (client.run turns)[position]? = some outcome) :
    outcome = (client.after (turns.take position)).outcome turn := by
  rw [getElem?_run, found] at given
  exact (Option.some.inj given).symm

end Client

/-! ## Requests of operations -/

namespace Operation

def method : Operation → Http.Method
  | .createFlow .. => .post
  | .listFlows => .get
  | .getFlow _ => .get
  | .previewFlow _ => .get
  | .uploadFlow .. => .post
  | .deleteFlow _ => .delete

/-- The path of an operation's request. Flows are made and listed at their account. -/
def path (settings : Settings) : Operation → String
  | .createFlow .. => settings.accountId.getD "" ++ "/flows"
  | .listFlows => settings.accountId.getD "" ++ "/flows"
  | .getFlow id => id
  | .previewFlow id => id
  | .uploadFlow id _ => id ++ "/assets"
  | .deleteFlow id => id

def NeedsAccount : Operation → Prop
  | .createFlow .. => True
  | .listFlows => True
  | _ => False

/-- The categories of a new flow are texts, if any are given. -/
def Listed : Operation → Prop
  | .createFlow _ categories =>
      categories = .null ∨ ∃ texts : List Text, categories = .list (texts.map .text)
  | _ => True

end Operation

theorem succeeds_write_texts (texts : List Text) :
    Succeeds (Json.write .compact (.list (texts.map .text))) := by
  have plain : Value.areJson (texts.map .text) = true ∧
      Value.areWritable (texts.map .text) = true ∧ Value.levelsOfAll (texts.map .text) = 0 := by
    induction texts with
    | nil => exact ⟨rfl, rfl, rfl⟩
    | cons text texts induction =>
        simpa [Value.areJson, Value.isJson, Value.areWritable, Value.isWritable,
          Value.levelsOfAll, Value.levels] using induction
  have json : Value.isJson (.list (texts.map .text)) = true := by
    rw [Value.isJson]
    exact plain.1
  refine (Json.write_succeeds_iff .compact json).mpr ⟨plain.2.1, ?_⟩
  rw [Value.levels, plain.2.2]
  decide

theorem succeeds_categoriesText {name categories : Value}
    (listed : (Operation.createFlow name categories).Listed) :
    Succeeds (categoriesText categories) := by
  have texts : ∃ texts : List Text,
      (if categories.isGiven then categories else .list [.text otherCategory]) =
        .list (texts.map .text) := by
    rcases listed with rfl | ⟨texts, rfl⟩
    · exact ⟨[otherCategory], rfl⟩
    · split
      · exact ⟨texts, rfl⟩
      · exact ⟨[otherCategory], rfl⟩
  rcases texts with ⟨texts, same⟩
  rw [categoriesText, same]
  exact succeeds_write_texts texts

namespace Operation

variable {settings : Settings} {operation : Operation} {call : Call}

theorem getD_of_account {id : String} (found : settings.account = .ok id) :
    settings.accountId.getD "" = id := by
  rw [Settings.account] at found
  split at found
  · next other given =>
      rcases Except.ok.inj found with rfl
      rw [(Option.filter_eq_some_iff.mp given).1]
      rfl
  · cases found

theorem method_and_path (asked : operation.call settings = .ok call) :
    call.method = operation.method ∧ call.path = operation.path settings := by
  cases operation with
  | createFlow name categories =>
      rcases bind_eq_ok.mp asked with ⟨text, -, asked⟩
      rcases bind_eq_ok.mp asked with ⟨account, found, asked⟩
      rw [← pure_eq_ok.mp asked, path, getD_of_account found]
      exact ⟨rfl, rfl⟩
  | listFlows =>
      rcases bind_eq_ok.mp asked with ⟨account, found, asked⟩
      rw [← pure_eq_ok.mp asked, path, getD_of_account found]
      exact ⟨rfl, rfl⟩
  | uploadFlow id asset =>
      rcases bind_eq_ok.mp asked with ⟨content, -, asked⟩
      rw [← pure_eq_ok.mp asked]
      exact ⟨rfl, rfl⟩
  | _ =>
      rw [← Except.ok.inj asked]
      exact ⟨rfl, rfl⟩

theorem account_of_unconfigured (unconfigured : settings.accountId.getD "" = "") :
    ∃ refusal, settings.account = .error (.refused refusal) ∧ refusal.status = none := by
  have absent : settings.accountId.filter (fun id => id != "") = none := by
    cases given : settings.accountId with
    | none => rfl
    | some id =>
        rw [given] at unconfigured
        simp [show id = "" from unconfigured]
  rw [Settings.account, absent]
  exact ⟨_, rfl, rfl⟩

theorem call_of_unconfigured (unconfigured : settings.accountId.getD "" = "")
    (needy : operation.NeedsAccount) (listed : operation.Listed) :
    ∃ refusal, operation.call settings = .error (.refused refusal) ∧ refusal.status = none := by
  rcases account_of_unconfigured unconfigured with ⟨refusal, refused, status⟩
  refine ⟨refusal, ?_, status⟩
  cases operation with
  | createFlow name categories =>
      rcases succeeds_categoriesText listed with ⟨text, worded⟩
      rw [call, worded, refused]
      rfl
  | listFlows =>
      rw [call, refused]
      rfl
  | _ => exact needy.elim

end Operation

/-! ## Accounts of operations -/

/-- What an entry tells: its event, and a method, a path and a status if it has them. -/
structure Mark where
  event : Value
  method : Option Value
  path : Option Value
  status : Option Value
  deriving DecidableEq

def markOf (entry : Log.Entry) : Mark where
  event := entry.event
  method := Ordered.find? ("method" : Text) entry.fields
  path := Ordered.find? ("path" : Text) entry.fields
  status := Ordered.find? ("status" : Text) entry.fields

namespace Operation

def mark (settings : Settings) (operation : Operation) (event : String) (status : Option Nat) :
    Mark where
  event := .text event
  method := some (.text operation.method.word)
  path := some (.text (operation.path settings))
  status := status.map fun status => .int status

def answeredMarks (settings : Settings) (operation : Operation) (status : Nat) : List Mark :=
  operation.mark settings "flow_platform_request" status ::
    if 400 ≤ status then [operation.mark settings "flow_platform_error" status] else []

end Operation

/-- What an operation on a line, open or closed, may come to with a reply. -/
structure Accounted (settings : Settings) (closed : Bool) (operation : Operation)
    (reply : Http.Reply) (outcome : Outcome) : Prop where
  method : ∀ request, outcome.request = some request → request.method = operation.method
  unsent : outcome.request = none → outcome.log = [] ∧ ¬ outcome.Returns
  unconfigured : settings.accountId.getD "" = "" → operation.NeedsAccount →
    outcome.request = none ∧ outcome.RefusedWith none
  closed : closed = true → outcome.request = none
  answered : ∀ response, reply = .answered response → outcome.request ≠ none →
    outcome.log.map markOf = operation.answeredMarks settings response.status
  unreachable : ∀ reason, reply = .unreachable reason → outcome.request ≠ none →
    outcome.log.map markOf = [operation.mark settings "flow_platform_unreachable" none] ∧
      outcome.RefusedWith none
  broken : reply = .broken → outcome.request ≠ none → outcome.log = [] ∧ ¬ outcome.Returns

/-- A response that reports an error of which the log says nothing: its status does not count as an
error, or its content is nested too deep for a message to be looked for. -/
def Unreported (response : Http.Response) : Prop :=
  400 ≤ response.status ∧ (600 ≤ response.status ∨ Unfathomable response)

/-! ## What operations come to -/

section Operations

variable {client : Client} {operation : Operation} {reply : Http.Reply} {request : Http.Request}
  {response : Http.Response} {call : Call}

theorem markOf_entry (asked : operation.call client.settings = .ok call) (level : Log.Level)
    (event : String) (fields : List (Text × Value)) :
    markOf (Client.entry call level event fields) =
      { operation.mark client.settings event none with
        status := Ordered.find? ("status" : Text) fields } := by
  rcases Operation.method_and_path asked with ⟨method, path⟩
  rw [Operation.mark, ← method, ← path]
  rfl

theorem marks_of_answered (schemed : client.base.Schemed)
    (sent : (client.perform operation (.answered response)).request = some request) :
    (Unreported response → (client.perform operation (.answered response)).log.map markOf =
        [operation.mark client.settings "flow_platform_request" response.status]) ∧
      (¬ Unreported response → (client.perform operation (.answered response)).log.map markOf =
        operation.answeredMarks client.settings response.status) := by
  rcases Client.perform_of_sent schemed sent with ⟨call, asked, -, performed⟩
  have ways := concluded call response
  rw [performed]
  generalize Client.conclude call (.answered response) = ending at ways
  have told (event : String) (level : Log.Level) (others : List (Text × Value)) :
      markOf (Client.entry call level event (("status", .int response.status) :: others)) =
        operation.mark client.settings event response.status := by
    rw [markOf_entry asked]
    rfl
  cases ways with
  | taken harmless =>
      refine ⟨fun _ => by simp [told], fun reported => ?_⟩
      have fine : ¬ 400 ≤ response.status := fun error =>
        reported ⟨error, .inl (harmless.resolve_left (by omega))⟩
      simp [told, Operation.answeredMarks, fine]
  | lost harmful deep =>
      refine ⟨fun _ => by simp [told], fun reported => ?_⟩
      rw [Harmless, not_or, Nat.not_lt] at harmful
      exact absurd ⟨harmful.1, .inr deep⟩ reported
  | refused message payload harmful shallow =>
      rw [Harmless, not_or, Nat.not_lt] at harmful
      refine ⟨fun unreported => ?_, fun _ => by simp [told, Operation.answeredMarks, harmful.1]⟩
      exact (unreported.2.elim harmful.2 shallow).elim

theorem request_eq_none_of_closed (closed : client.closed = true) :
    (client.perform operation reply).request = none := by
  rcases client.perform_cases operation reply with
    ⟨failure, silent⟩ | ⟨call, request, -, made, -⟩
  · rw [silent]
    rfl
  · rcases Client.request_eq_ok.mp made with ⟨address, body, -, -, -, opened, -⟩
    rw [closed] at opened
    cases opened

theorem accounted_iff (schemed : client.base.Schemed) (listed : operation.Listed) :
    Accounted client.settings client.closed operation reply (client.perform operation reply) ↔
      ∀ response, reply = .answered response → (client.perform operation reply).request ≠ none →
        ¬ Unreported response := by
  constructor
  · rintro accounted response rfl sent unreported
    rcases Option.ne_none_iff_exists'.mp sent with ⟨request, given⟩
    have told := accounted.answered response rfl sent
    rw [(marks_of_answered schemed given).1 unreported, Operation.answeredMarks,
      if_pos unreported.1] at told
    simp at told
  · intro reported
    refine {
      method := ?_
      unsent := ?_
      unconfigured := ?_
      closed := request_eq_none_of_closed
      answered := ?_
      unreachable := ?_
      broken := ?_ }
    · intro request sent
      rcases Client.perform_of_sent schemed sent with ⟨call, asked, made, -⟩
      rcases Client.request_eq_ok.mp made with ⟨address, body, -, -, -, -, rfl⟩
      exact (Operation.method_and_path asked).1
    · intro unsent
      rcases Client.perform_of_unsent unsent with ⟨failure, silent⟩
      rw [silent]
      exact ⟨rfl, by simp [Outcome.Returns, Outcome.silent]⟩
    · intro unconfigured needy
      rcases Operation.call_of_unconfigured unconfigured needy listed with ⟨refusal, asked, status⟩
      rw [Client.perform, asked]
      exact ⟨rfl, refusal, rfl, status⟩
    · rintro response rfl sent
      rcases Option.ne_none_iff_exists'.mp sent with ⟨request, given⟩
      exact (marks_of_answered schemed given).2 (reported response rfl sent)
    · rintro reason rfl sent
      rcases Option.ne_none_iff_exists'.mp sent with ⟨request, given⟩
      rcases Client.perform_of_sent schemed given with ⟨call, asked, -, performed⟩
      rw [performed]
      refine ⟨?_, _, rfl, rfl⟩
      simp only [Client.conclude, List.map_cons, markOf_entry asked]
      rfl
    · rintro rfl sent
      rcases Option.ne_none_iff_exists'.mp sent with ⟨request, given⟩
      rcases Client.perform_of_sent schemed given with ⟨call, -, -, performed⟩
      rw [performed]
      exact ⟨rfl, by simp [Outcome.Returns, Client.conclude]⟩

end Operations

/-! ## Accounts of runs -/

/-- What a turn on a line, open or closed, may come to. Closing the line succeeds and is silent. -/
def Turn.Accounted (settings : Settings) (closed : Bool) : Turn → Outcome → Prop
  | .ask operation reply, outcome => Platform.Accounted settings closed operation reply outcome
  | .close, outcome => outcome.request = none ∧ outcome.log = [] ∧ outcome.Returns

/-- The turn is an operation that was sent and answered with an error of which the log says
nothing. -/
def Turn.Unreported : Turn → Outcome → Prop
  | .ask _ (.answered response), outcome =>
      outcome.request ≠ none ∧ Platform.Unreported response
  | _, _ => False

theorem Turn.exists_of_unreported {turn : Turn} {outcome : Outcome}
    (unreported : turn.Unreported outcome) :
    ∃ operation response, turn = .ask operation (.answered response) := by
  cases turn with
  | close => exact unreported.elim
  | ask operation reply =>
      cases reply with
      | answered response => exact ⟨operation, response, rfl⟩
      | unreachable reason => exact unreported.elim
      | broken => exact unreported.elim

/-- Every turn of a run is accounted for. The line is closed once it was closed before. -/
structure RunAccounted (settings : Settings) (turns : List Turn) (outcomes : List Outcome) :
    Prop where
  length : outcomes.length = turns.length
  each : ∀ (position : Nat) (turn : Turn) (outcome : Outcome), turns[position]? = some turn →
    outcomes[position]? = some outcome →
    turn.Accounted settings ((turns.take position).contains .close) outcome

theorem Turn.accounted_iff (client : Client) (schemed : client.base.Schemed) {turn : Turn}
    (listed : ∀ operation reply, turn = .ask operation reply → operation.Listed) :
    turn.Accounted client.settings client.closed (client.outcome turn) ↔
      ¬ turn.Unreported (client.outcome turn) := by
  cases turn with
  | close => exact iff_of_true ⟨rfl, rfl, _, rfl⟩ not_false
  | ask operation reply =>
      refine (Platform.accounted_iff schemed (listed operation reply rfl)).trans ?_
      cases reply with
      | answered response =>
          constructor
          · exact fun reported unreported => reported response rfl unreported.1 unreported.2
          · intro reported other same sent unreported
            rcases Http.Reply.answered.inj same with rfl
            exact reported ⟨sent, unreported⟩
      | _ => exact iff_of_true (by simp) not_false

section Runs

variable {client : Client} {turns : List Turn} {position : Nat} {turn : Turn} {outcome : Outcome}

/-- A turn of a run is one of the client as it was made, but that its line may have been closed. -/
theorem accounted_of_run (schemed : client.base.Schemed) (opened : client.closed = false)
    (listed : ∀ operation reply, Turn.ask operation reply ∈ turns → operation.Listed)
    (found : turns[position]? = some turn)
    (given : (client.run turns)[position]? = some outcome) :
    turn.Accounted client.settings ((turns.take position).contains .close) outcome ↔
      ¬ turn.Unreported outcome := by
  rw [Client.outcome_of_run found given, Client.after_eq, opened, Bool.false_or]
  refine Turn.accounted_iff { client with closed := (turns.take position).contains .close }
    schemed fun operation reply same => ?_
  exact listed operation reply (same ▸ List.mem_of_getElem? found)

theorem marks_of_unreported {operation : Operation} {response : Http.Response}
    (schemed : client.base.Schemed)
    (found : turns[position]? = some (.ask operation (.answered response)))
    (given : (client.run turns)[position]? = some outcome)
    (unreported : Turn.Unreported (.ask operation (.answered response)) outcome) :
    outcome.log.map markOf =
      [operation.mark client.settings "flow_platform_request" response.status] := by
  rcases unreported with ⟨sent, unreported⟩
  rcases Option.ne_none_iff_exists'.mp sent with ⟨request, sent⟩
  let between := client.after (turns.take position)
  have reached : between.base.Schemed := by
    rw [show between = _ from client.after_eq _]
    exact schemed
  have own : between.settings = client.settings := by rw [show between = _ from client.after_eq _]
  rw [Client.outcome_of_run found given] at sent ⊢
  rw [← own]
  exact (marks_of_answered reached sent).1 unreported

/-- A client of a platform at an HTTP address accounts for every turn of every run but for those
whose error is not reported; the log tells only that these were answered. -/
theorem runAccounted_iff {settings : Settings} {boundary : String}
    (addressed : settings.Addressed)
    (made : Client.ofSettings settings boundary = .ok client)
    (listed : ∀ operation reply, Turn.ask operation reply ∈ turns → operation.Listed) :
    (RunAccounted settings turns (client.run turns) ↔
        ∀ (position : Nat) (turn : Turn) (outcome : Outcome), turns[position]? = some turn →
          (client.run turns)[position]? = some outcome → ¬ turn.Unreported outcome) ∧
      ∀ (position : Nat) (turn : Turn) (outcome : Outcome), turns[position]? = some turn →
        (client.run turns)[position]? = some outcome →
        turn.Accounted settings ((turns.take position).contains .close) outcome ∨
          ∃ operation response, turn = .ask operation (.answered response) ∧
            turn.Unreported outcome ∧ outcome.log.map markOf =
              [operation.mark settings "flow_platform_request" response.status] := by
  have schemed := Client.schemed_of_ofSettings addressed made
  rcases Client.ofSettings_eq_ok made with ⟨address, -, -, whole⟩
  have own : client.settings = settings := by rw [whole]
  have opened : client.closed = false := by rw [whole]
  rw [← own]
  have each (position : Nat) (turn : Turn) (outcome : Outcome)
      (found : turns[position]? = some turn)
      (given : (client.run turns)[position]? = some outcome) :=
    accounted_of_run schemed opened listed found given
  refine ⟨⟨fun accounted position turn outcome found given => ?_, fun reported => ?_⟩,
    fun position turn outcome found given => ?_⟩
  · exact (each position turn outcome found given).mp
      (accounted.each position turn outcome found given)
  · refine ⟨client.length_run turns, fun position turn outcome found given => ?_⟩
    exact (each position turn outcome found given).mpr
      (reported position turn outcome found given)
  · by_cases unreported : turn.Unreported outcome
    · rcases Turn.exists_of_unreported unreported with ⟨operation, response, rfl⟩
      exact .inr ⟨operation, response, rfl, unreported,
        marks_of_unreported schemed found given unreported⟩
    · exact .inl ((each position turn outcome found given).mpr unreported)

end Runs

/-- A run without an account in which a flow is not found, the platform is not reached, and the
line is closed too early. -/
def mixedRun : List Turn := [
  .ask .listFlows .broken,
  .ask (.deleteFlow "1") (.answered ⟨404, []⟩),
  .ask (.deleteFlow "1") (.unreachable "gone"),
  .close,
  .ask (.deleteFlow "1") (.answered ⟨200, []⟩)]

theorem mixedRun_accounted : (∀ operation reply, Turn.ask operation reply ∈ mixedRun →
    operation.Listed) ∧ RunAccounted .standard mixedRun (standardClient.run mixedRun) := by
  have listed : ∀ operation reply, Turn.ask operation reply ∈ mixedRun → operation.Listed := by
    intro operation reply member
    simp only [mixedRun, List.mem_cons, Turn.ask.injEq, reduceCtorEq, List.not_mem_nil, or_false,
      false_or] at member
    rcases member with ⟨rfl, -⟩ | ⟨rfl, -⟩ | ⟨rfl, -⟩ | ⟨rfl, -⟩ <;> trivial
  have fathomable : ¬ Unfathomable ⟨404, []⟩ := by
    rw [Unfathomable]
    decide +kernel
  refine ⟨listed, (runAccounted_iff addressed_standard ofSettings_standard listed).1.mpr ?_⟩
  intro position turn outcome found _ unreported
  have member := List.mem_of_getElem? found
  simp only [mixedRun, List.mem_cons, List.not_mem_nil, or_false] at member
  rcases member with rfl | rfl | rfl | rfl | rfl
  · exact unreported
  · exact unreported.2.2.elim (by decide) fathomable
  · exact unreported
  · exact unreported
  · exact absurd unreported.2.1 (by decide)

def bottomless : Http.Response :=
  ⟨500, Text.Utf8.encode (String.ofList (List.replicate (Json.maxNesting + 1) '[' ++ []))⟩

theorem bottomless_unaccounted : Client.ofSettings .standard "" = .ok standardClient ∧
    (standardClient.perform (.deleteFlow "1") (.answered bottomless)).log.map markOf =
      [(Operation.deleteFlow "1").mark .standard "flow_platform_request" (some 500)] ∧
    ¬ RunAccounted .standard [.ask (.deleteFlow "1") (.answered bottomless)]
      (standardClient.run [.ask (.deleteFlow "1") (.answered bottomless)]) := by
  have deep : Unfathomable bottomless := by
    simp only [Unfathomable, bottomless]
    exact Json.readBytes_of_brackets []
  have error : bottomless.status = 500 := rfl
  have performed : (standardClient.perform (.deleteFlow "1") .broken).request.isSome = true := by
    decide +kernel
  rw [standardClient.request_perform _ .broken (.answered bottomless)] at performed
  rcases Option.isSome_iff_exists.mp performed with ⟨request, sent⟩
  have schemed := Client.schemed_of_ofSettings addressed_standard ofSettings_standard
  have told := (marks_of_answered schemed sent).1 ⟨by omega, .inr deep⟩
  refine ⟨ofSettings_standard, told, fun accounted => ?_⟩
  have both := (accounted.each 0 _ _ rfl rfl).answered bottomless rfl (by
    rw [Client.outcome, sent]
    simp)
  rw [Client.outcome, told, Operation.answeredMarks, if_pos (by omega)] at both
  simp at both

end ScreenFlow.Platform
