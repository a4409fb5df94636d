import ScreenFlow.Proofs.Addressing
import ScreenFlow.Proofs.Encoding
import ScreenFlow.Proofs.RoundTrip

namespace ScreenFlow

/-! What an operation comes to. An operation that is sent is concluded by the reply alone. A
response that tells no success is a refusal with its status only if the status counts as an error
and the content is not nested too deep; any other one is taken for a result. -/

open ScreenFlow.Outcome

/-! ## Contents nested too deep -/

namespace Json

theorem readValue_of_brackets (levels fuel : Nat) (rest : List Point) :
    readValue levels (2 * levels + 1 + fuel) (List.replicate (levels + 1) (.char '[') ++ rest) =
      .error (.nesting, .char '[' :: rest) := by
  induction levels with
  | zero =>
      rw [show 2 * 0 + 1 + fuel = fuel + 1 by omega, List.replicate_one, List.singleton_append,
        readValue]
  | succ levels induction =>
      have opened : skipSpace (List.replicate (levels + 1) (.char '[') ++ rest) =
          List.replicate (levels + 1) (.char '[') ++ rest := skipSpace_cons _ (by decide)
      have begins : skipSpace (List.replicate (levels + 1) (.char '[') ++ rest) = .char '[' :: _ :=
        opened
      rw [show 2 * (levels + 1) + 1 + fuel = 2 * levels + 1 + fuel + 1 + 1 by omega,
        List.replicate_succ, List.cons_append, readValue_filled_list begins (by decide), opened,
        readItems, induction]
      rfl

theorem readBytes_of_brackets (rest : List Char) :
    readBytes (Text.Utf8.encode (String.ofList (List.replicate (maxNesting + 1) '[' ++ rest))) =
      .error .tooDeep := by
  have begins : (String.ofList (List.replicate (maxNesting + 1) '[' ++ rest)).toList =
      '[' :: '[' :: _ := String.toList_ofList
  have points :
      (Text.ofString (String.ofList (List.replicate (maxNesting + 1) '[' ++ rest))).toList =
      List.replicate (maxNesting + 1) (.char '[') ++ rest.map .char := by
    rw [Text.toList_ofString, String.toList_ofList, List.map_append, List.map_replicate]
  have opened : skipSpace (List.replicate (maxNesting + 1) (.char '[') ++ rest.map .char) =
      List.replicate (maxNesting + 1) (.char '[') ++ rest.map .char := skipSpace_cons _ (by decide)
  have fuel : 2 * (List.replicate (maxNesting + 1) (Point.char '[') ++
      rest.map Point.char).length + 2 =
      2 * maxNesting + 1 + (2 * rest.length + 3) := by
    rw [List.length_append, List.length_replicate, List.length_map]
    omega
  have whole : readAll (List.replicate (maxNesting + 1) (.char '[') ++ rest.map .char) =
      .error (.nesting, .char '[' :: rest.map .char) := by
    rw [readAll, if_neg (by simp [List.replicate_succ]), opened, fuel, readValue_of_brackets]
    rfl
  rw [readBytes_encode begins (by decide) (by decide) (by decide) (by decide), read, points, whole]
  rfl

end Json

namespace Platform

/-! ## Operations that are sent -/

namespace Client

variable {client : Client} {operation : Operation} {reply : Http.Reply} {call : Call}
  {request : Http.Request}

theorem perform_cases (client : Client) (operation : Operation) (reply : Http.Reply) :
    (∃ failure, client.perform operation reply = .silent failure) ∨
      ∃ call request, operation.call client.settings = .ok call ∧
        client.request call = .ok request ∧
        client.perform operation reply =
          ⟨(receive call request.address reply).1, some request,
            (receive call request.address reply).2⟩ := by
  rw [perform]
  cases asked : operation.call client.settings with
  | error failure => exact .inl ⟨failure, rfl⟩
  | ok call =>
      cases made : client.request call with
      | error fault => exact .inl ⟨.failed fault, by simp only [made]⟩
      | ok request => exact .inr ⟨call, request, rfl, made, by simp only [made]⟩

theorem receive_of_scheme {address : String} (scheme : Address.beginsWithScheme address = true)
    (call : Call) (reply : Http.Reply) : receive call address reply = conclude call reply := by
  cases reply with
  | answered response => rw [receive, if_pos scheme]
  | _ => rfl

theorem perform_of_sent (schemed : client.base.Schemed)
    (sent : (client.perform operation reply).request = some request) :
    ∃ call, operation.call client.settings = .ok call ∧ client.request call = .ok request ∧
      client.perform operation reply =
        ⟨(conclude call reply).1, some request, (conclude call reply).2⟩ := by
  rcases client.perform_cases operation reply with
    ⟨failure, silent⟩ | ⟨call, other, asked, made, performed⟩
  · rw [silent] at sent
    cases sent
  · rw [performed] at sent
    rcases Option.some.inj sent with rfl
    rw [receive_of_scheme (beginsWithScheme_of_request schemed made)] at performed
    exact ⟨call, asked, made, performed⟩

theorem request_perform (client : Client) (operation : Operation) (reply other : Http.Reply) :
    (client.perform operation reply).request = (client.perform operation other).request := by
  rw [perform, perform]
  cases operation.call client.settings with
  | error failure => rfl
  | ok call =>
      dsimp only
      cases client.request call <;> rfl

theorem perform_of_unsent (unsent : (client.perform operation reply).request = none) :
    ∃ failure, client.perform operation reply = .silent failure := by
  rcases client.perform_cases operation reply with silent | ⟨call, request, -, -, performed⟩
  · exact silent
  · rw [performed] at unsent
    cases unsent

end Client

/-! ## Responses -/

namespace Outcome

def RefusedWith (outcome : Outcome) (status : Option Nat) : Prop :=
  ∃ refusal, outcome.result = .error (.refused refusal) ∧ refusal.status = status

/-- The operation gives a value to its caller. -/
def Returns (outcome : Outcome) : Prop := ∃ value, outcome.result = .ok value

end Outcome

def Successful (response : Http.Response) : Prop := 200 ≤ response.status ∧ response.status < 300

/-- A response whose status does not count as an error. -/
def Harmless (response : Http.Response) : Prop := response.status < 400 ∨ 600 ≤ response.status

def Unfathomable (response : Http.Response) : Prop :=
  Json.readBytes response.body = .error .tooDeep

/-- A response that tells no success and is no refusal with its status: its status does not count
as an error, or its content is nested too deep for a message to be looked for. -/
inductive Missed (response : Http.Response) : Prop
  | status (unsuccessful : ¬ Successful response) (harmless : Harmless response)
  | content (harmful : ¬ Harmless response) (deep : Unfathomable response)

/-- Unless a response tells of success, the operation is refused with its status, and its caller
gets no value. -/
def Honors (outcome : Outcome) (response : Http.Response) : Prop :=
  ¬ Successful response → outcome.RefusedWith (some response.status) ∧ ¬ outcome.Returns

theorem isError_eq_false_iff {response : Http.Response} :
    Http.isError response.status = false ↔ Harmless response := by
  rw [Http.isError, Bool.and_eq_false_iff, decide_eq_false_iff_not, decide_eq_false_iff_not,
    Nat.not_le, Nat.not_lt]
  rfl

theorem isError_iff {response : Http.Response} :
    Http.isError response.status = true ↔ ¬ Harmless response := by
  rw [← isError_eq_false_iff, Bool.not_eq_false]

theorem errorMessage_of_unfathomable {response : Http.Response} (deep : Unfathomable response) :
    errorMessage response = .error .tooDeep := by
  rw [errorMessage, deep]

theorem exists_errorMessage {response : Http.Response} (shallow : ¬ Unfathomable response) :
    ∃ message payload, errorMessage response = .ok (message, payload) := by
  rw [errorMessage]
  split
  · next deep => exact absurd deep shallow
  · exact ⟨_, _, rfl⟩
  · split <;> exact ⟨_, _, rfl⟩
  · exact ⟨_, _, rfl⟩

theorem content_eq_ok_iff {response : Http.Response} :
    (∃ value, content response = .ok value) ↔
      response.body = [] ∨ Succeeds (Json.readBytes response.body) := by
  rw [content]
  cases body : response.body with
  | nil => simp
  | cons byte bytes => cases Json.readBytes (byte :: bytes) <;> simp [Except.mapError, Succeeds]

theorem content_ne_refused {response : Http.Response} (refusal : Refusal) :
    content response ≠ .error (.refused refusal) := by
  rw [content]
  split
  · simp
  · cases Json.readBytes response.body <;> simp [Except.mapError]

inductive Concluded (call : Call) (response : Http.Response) :
    Except Failure Value × List Log.Entry → Prop
  | taken (harmless : Harmless response) :
      Concluded call response (content response,
        [Client.entry call .info "flow_platform_request" [("status", .int response.status)]])
  | lost (harmful : ¬ Harmless response) (deep : Unfathomable response) :
      Concluded call response (.error (.failed .tooDeep),
        [Client.entry call .info "flow_platform_request" [("status", .int response.status)]])
  | refused (message payload : Value) (harmful : ¬ Harmless response)
      (shallow : ¬ Unfathomable response) :
      Concluded call response (.error (.refused ⟨message, some response.status, payload⟩),
        [Client.entry call .info "flow_platform_request" [("status", .int response.status)],
          Client.entry call .warning "flow_platform_error"
            [("status", .int response.status), ("message", message)]])

theorem concluded (call : Call) (response : Http.Response) :
    Concluded call response (Client.conclude call (.answered response)) := by
  rw [Client.conclude]
  by_cases harmless : Harmless response
  · rw [isError_eq_false_iff.mpr harmless]
    exact .taken harmless
  · rw [isError_iff.mpr harmless]
    by_cases deep : Unfathomable response
    · rw [errorMessage_of_unfathomable deep]
      exact .lost harmless deep
    · rcases exists_errorMessage deep with ⟨message, payload, found⟩
      rw [found]
      exact .refused message payload harmless deep

/-! ## Which responses are refusals -/

section Responses

variable {settings : Settings} {boundary : String} {client : Client} {operation : Operation}
  {response : Http.Response} {request : Http.Request}

theorem harmless_of_successful (successful : Successful response) : Harmless response :=
  .inl (Nat.lt_trans successful.2 (by decide))

theorem refusedWith_iff (schemed : client.base.Schemed)
    (sent : (client.perform operation (.answered response)).request = some request) :
    (client.perform operation (.answered response)).RefusedWith (some response.status) ↔
      ¬ Harmless response ∧ ¬ Unfathomable response := by
  rcases Client.perform_of_sent schemed sent with ⟨call, -, -, performed⟩
  have ways := concluded call response
  rw [performed, Outcome.RefusedWith]
  generalize Client.conclude call (.answered response) = ending at ways
  cases ways with
  | taken harmless =>
      exact iff_of_false (fun given => content_ne_refused _ given.choose_spec.1)
        fun given => given.1 harmless
  | lost harmful deep => exact iff_of_false (by simp) fun given => given.2 deep
  | refused message payload harmful shallow =>
      exact iff_of_true ⟨_, rfl, rfl⟩ ⟨harmful, shallow⟩

/-- A caller gets a value for a status that does not count as an error, with no content or a content
that is JSON. -/
theorem returns_iff (schemed : client.base.Schemed)
    (sent : (client.perform operation (.answered response)).request = some request) :
    (client.perform operation (.answered response)).Returns ↔
      Harmless response ∧ (response.body = [] ∨ Succeeds (Json.readBytes response.body)) := by
  rcases Client.perform_of_sent schemed sent with ⟨call, -, -, performed⟩
  have ways := concluded call response
  rw [performed, Outcome.Returns, ← content_eq_ok_iff]
  generalize Client.conclude call (.answered response) = ending at ways
  cases ways with
  | taken harmless => exact (and_iff_right harmless).symm
  | lost harmful deep => exact iff_of_false (by simp) fun given => harmful given.1
  | refused message payload harmful shallow =>
      exact iff_of_false (by simp) fun given => harmful given.1

/-- A client of a platform at an HTTP address honors every response but those that are missed. Its
caller gets a value exactly for a status that does not count as an error, with no content or a
content that is JSON. -/
theorem honors_iff_not_missed (addressed : settings.Addressed)
    (made : Client.ofSettings settings boundary = .ok client)
    (sent : (client.perform operation (.answered response)).request = some request) :
    (Honors (client.perform operation (.answered response)) response ↔ ¬ Missed response) ∧
      ((client.perform operation (.answered response)).Returns ↔
        Harmless response ∧ (response.body = [] ∨ Succeeds (Json.readBytes response.body))) := by
  have schemed := Client.schemed_of_ofSettings addressed made
  refine ⟨?_, returns_iff schemed sent⟩
  rw [Honors, refusedWith_iff schemed sent, returns_iff schemed sent]
  constructor
  · intro honored missed
    cases missed with
    | status unsuccessful harmless => exact (honored unsuccessful).1.1 harmless
    | content harmful deep =>
        exact (honored fun successful => harmful (harmless_of_successful successful)).1.2 deep
  · intro unmissed unsuccessful
    have harmful : ¬ Harmless response := fun harmless => unmissed (.status unsuccessful harmless)
    exact ⟨⟨harmful, fun deep => unmissed (.content harmful deep)⟩, fun given => harmful given.1⟩

end Responses

def standardClient : Client :=
  ⟨.standard, ⟨"https".toList, [], "graph.facebook.com".toList, none, "/v21.0/".toList, none, none⟩,
    "", false⟩

theorem ofSettings_standard : Client.ofSettings .standard "" = .ok standardClient := by
  decide +kernel

theorem addressed_standard : Settings.standard.Addressed :=
  ⟨⟨"https".toList, [], "graph.facebook.com".toList, none, [], none, none⟩, by decide +kernel,
    rfl, .inr rfl⟩

def absent : Http.Response :=
  ⟨404, Text.Utf8.encode "\x7b\"error\": \x7b\"message\": \"No such flow\"\x7d\x7d"⟩

theorem absent_honored : ∃ request,
    (standardClient.perform (.previewFlow "1") (.answered absent)).request = some request ∧
      ¬ Successful absent ∧
      Honors (standardClient.perform (.previewFlow "1") (.answered absent)) absent := by
  have harmful : ¬ Harmless absent := by simp [Harmless, absent]
  have shallow : ¬ Unfathomable absent := by
    rw [Unfathomable]
    decide +kernel
  have unsuccessful : ¬ Successful absent := fun successful =>
    harmful (harmless_of_successful successful)
  have unmissed : ¬ Missed absent := by
    rintro (⟨_, harmless⟩ | ⟨_, deep⟩)
    · exact harmful harmless
    · exact shallow deep
  have performed : (standardClient.perform (.previewFlow "1")
      (.answered absent)).request.isSome = true := by decide +kernel
  rcases Option.isSome_iff_exists.mp performed with ⟨request, sent⟩
  exact ⟨request, sent, unsuccessful,
    (honors_iff_not_missed addressed_standard ofSettings_standard sent).1.mpr unmissed⟩

def moved : Http.Response := ⟨302, []⟩

theorem moved_dishonored : Client.ofSettings .standard "" = .ok standardClient ∧ ∃ request,
    (standardClient.perform (.deleteFlow "1") (.answered moved)).request = some request ∧
      ¬ Successful moved ∧
      (standardClient.perform (.deleteFlow "1") (.answered moved)).result = .ok (.map []) ∧
      ¬ Honors (standardClient.perform (.deleteFlow "1") (.answered moved)) moved := by
  have performed : (standardClient.perform (.deleteFlow "1")
      (.answered moved)).request.isSome = true := by decide +kernel
  rcases Option.isSome_iff_exists.mp performed with ⟨request, sent⟩
  have taken : (standardClient.perform (.deleteFlow "1") (.answered moved)).result =
      .ok (.map []) := by decide +kernel
  have unsuccessful : ¬ Successful moved := by simp [Successful, moved]
  exact ⟨ofSettings_standard, request, sent, unsuccessful, taken,
    fun honors => (honors unsuccessful).2 ⟨_, taken⟩⟩

end Platform

end ScreenFlow
