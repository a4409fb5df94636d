import ScreenFlow.Proofs.Accounting

namespace ScreenFlow.Platform

/-! Errors that are answered. Whatever the content of such a response, the operation is refused with
the status, with a message and with the content as far as it is JSON, and the last thing in the log
is a warning that says the same. Three kinds of responses spoil this: a status beyond those that
count as errors, a content nested too deep, and JSON with a number of too many digits, which is
taken for a plain text. -/

open ScreenFlow.Outcome

/-! ## Messages -/

/-- A test for contents that are JSON. What is read as a value passes it and what is malformed does
not; contents that are given up for a limit of the reader may pass it or not. -/
structure Judges (json : List UInt8 → Prop) : Prop where
  read : ∀ body, Succeeds (Json.readBytes body) → json body
  malformed : ∀ body fault, Json.readBytes body = .error fault → fault ≠ .tooDeep →
    fault ≠ .badValue → ¬ json body

/-- The content is an object with an error that has a message. -/
def Tells (content message : Value) : Prop :=
  ∃ entries error, content = .map entries ∧
    Value.lookup? "error" entries = some (.map error) ∧
    Value.lookup? "message" error = some message

/-- The message and the content of the refusal that a response calls for. -/
inductive Explains (json : List UInt8 → Prop) (response : Http.Response) : Value → Value → Prop
  | told {message content} (read : Json.readBytes response.body = .ok content)
      (tells : Tells content message) : Explains json response message content
  | phrase {content} (read : Json.readBytes response.body = .ok content)
      (silent : ∀ message, ¬ Tells content message) :
      Explains json response (.text (Http.reason response.status)) content
  | text (plain : ¬ json response.body)
      (filled : Text.Utf8.decodeLossy response.body ≠ "") :
      Explains json response (.text (Text.Utf8.decodeLossy response.body)) .null
  | blank (plain : ¬ json response.body)
      (empty : Text.Utf8.decodeLossy response.body = "") :
      Explains json response (.text (Http.reason response.status)) .null

section Messages

variable {json : List UInt8 → Prop} {response : Http.Response} {message content : Value}

theorem errorMessage_of_tells (read : Json.readBytes response.body = .ok content)
    (tells : Tells content message) : errorMessage response = .ok (message, content) := by
  rcases tells with ⟨entries, error, rfl, found, told⟩
  simp only [errorMessage, read, found, told, Option.getD_some]

theorem errorMessage_of_silent (read : Json.readBytes response.body = .ok content)
    (silent : ∀ message, ¬ Tells content message) :
    errorMessage response = .ok (.text (Http.reason response.status), content) := by
  rw [errorMessage, read]
  cases content with
  | map entries =>
      dsimp only
      split
      · next error found =>
          cases told : Value.lookup? "message" error with
          | none => rfl
          | some message => exact absurd ⟨entries, error, rfl, found, told⟩ (silent message)
      · rfl
  | _ => rfl

theorem errorMessage_of_unread {fault : Fault}
    (unread : Json.readBytes response.body = .error fault) (shallow : fault ≠ .tooDeep) :
    errorMessage response =
      .ok (if Text.Utf8.decodeLossy response.body = "" then .text (Http.reason response.status)
        else .text (Text.Utf8.decodeLossy response.body), .null) := by
  rw [errorMessage, unread]
  cases fault with
  | tooDeep => exact absurd rfl shallow
  | _ => simp only [String.isEmpty_iff]

theorem exists_explains (judges : Judges json) (shallow : ¬ Unfathomable response)
    (short : Json.readBytes response.body = .error .badValue → ¬ json response.body) :
    ∃ message payload, Explains json response message payload ∧
      errorMessage response = .ok (message, payload) := by
  cases read : Json.readBytes response.body with
  | ok content =>
      by_cases tells : ∃ message, Tells content message
      · rcases tells with ⟨message, tells⟩
        exact ⟨message, content, .told read tells, errorMessage_of_tells read tells⟩
      · have silent := not_exists.mp tells
        exact ⟨_, content, .phrase read silent, errorMessage_of_silent read silent⟩
  | error fault =>
      have deep : fault ≠ .tooDeep := fun same => shallow (by rw [Unfathomable, read, same])
      have plain : ¬ json response.body := by
        by_cases long : fault = .badValue
        · exact short (long ▸ read)
        · exact judges.malformed _ fault read deep long
      have found := errorMessage_of_unread read deep
      by_cases empty : Text.Utf8.decodeLossy response.body = ""
      · rw [if_pos empty] at found
        exact ⟨_, _, .blank plain empty, found⟩
      · rw [if_neg empty] at found
        exact ⟨_, _, .text plain empty, found⟩

theorem Explains.read_or_plain {payload : Value}
    (explains : Explains json response message payload) :
    (∃ content, Json.readBytes response.body = .ok content) ∨ ¬ json response.body := by
  cases explains with
  | told read _ => exact .inl ⟨_, read⟩
  | phrase read _ => exact .inl ⟨_, read⟩
  | text plain _ => exact .inr plain
  | blank plain _ => exact .inr plain

end Messages

/-! ## Refusals -/

structure Warns (entry : Log.Entry) (status : Nat) (message : Value) : Prop where
  level : entry.level = .warning
  event : entry.event = .text "flow_platform_error"
  status : Ordered.find? ("status" : Text) entry.fields = some (.int status)
  message : Ordered.find? ("message" : Text) entry.fields = some message

/-- An error is reported: the operation is refused as the response calls for, and the log ends with
a warning about it. -/
def Reported (json : List UInt8 → Prop) (outcome : Outcome) (response : Http.Response) : Prop :=
  ∃ message payload, Explains json response message payload ∧
    outcome.result = .error (.refused ⟨message, some response.status, payload⟩) ∧
    ∃ entry, outcome.log.getLast? = some entry ∧ Warns entry response.status message

inductive Spoiled (json : List UInt8 → Prop) (response : Http.Response) : Prop
  | status (beyond : 600 ≤ response.status)
  | nesting (deep : Unfathomable response)
  | number (long : Json.readBytes response.body = .error .badValue) (given : json response.body)

section Refusals

variable {json : List UInt8 → Prop} {settings : Settings} {boundary : String} {client : Client}
  {operation : Operation} {response : Http.Response} {request : Http.Request}

theorem not_harmless_iff (error : 400 ≤ response.status) :
    ¬ Harmless response ↔ response.status < 600 := by
  rw [Harmless]
  omega

theorem reported_of_sent (schemed : client.base.Schemed) (judges : Judges json)
    (error : 400 ≤ response.status)
    (sent : (client.perform operation (.answered response)).request = some request) :
    Reported json (client.perform operation (.answered response)) response ↔
      ¬ Spoiled json response := by
  constructor
  · rintro ⟨message, payload, explains, refused, -⟩ spoiled
    have heard := (refusedWith_iff schemed sent).mp ⟨_, refused, rfl⟩
    cases spoiled with
    | status beyond => exact absurd ((not_harmless_iff error).mp heard.1) (by omega)
    | nesting deep => exact heard.2 deep
    | number long given =>
        rcases explains.read_or_plain with ⟨content, read⟩ | plain
        · rw [long] at read
          cases read
        · exact plain given
  · intro unspoiled
    have harmful : ¬ Harmless response := (not_harmless_iff error).mpr
      (Nat.lt_of_not_le fun beyond => unspoiled (.status beyond))
    rcases exists_explains judges (fun deep => unspoiled (.nesting deep))
      (fun long given => unspoiled (.number long given)) with ⟨message, payload, explains, found⟩
    rcases Client.perform_of_sent schemed sent with ⟨call, -, -, performed⟩
    have concludes : Client.conclude call (.answered response) =
        (.error (.refused ⟨message, some response.status, payload⟩),
          [Client.entry call .info "flow_platform_request" [("status", .int response.status)],
            Client.entry call .warning "flow_platform_error"
              [("status", .int response.status), ("message", message)]]) := by
      rw [Client.conclude, isError_iff.mpr harmful, if_pos rfl, found]
    rw [performed, concludes]
    exact ⟨message, payload, explains, rfl, _, rfl, rfl, rfl, rfl, rfl⟩

theorem exists_silent (unsent : (client.perform operation (.answered response)).request = none) :
    ∃ failure, ∀ reply, client.perform operation reply = .silent failure := by
  cases asked : operation.call client.settings with
  | error failure => exact ⟨failure, fun reply => by rw [Client.perform, asked]⟩
  | ok call =>
      cases made : client.request call with
      | error fault =>
          exact ⟨.failed fault, fun reply => by simp only [Client.perform, asked, made]⟩
      | ok request =>
          simp only [Client.perform, asked, made] at unsent
          cases unsent

/-- A client of a platform at an HTTP address reports every error that is answered but those that
are spoiled. An operation that is not sent fails the same way whatever would be answered. -/
theorem reported_iff_not_spoiled (addressed : settings.Addressed)
    (made : Client.ofSettings settings boundary = .ok client) (judges : Judges json)
    (error : 400 ≤ response.status) :
    (∀ request, (client.perform operation (.answered response)).request = some request →
        (Reported json (client.perform operation (.answered response)) response ↔
          ¬ Spoiled json response)) ∧
      ((client.perform operation (.answered response)).request = none →
        ∃ failure, ∀ reply, client.perform operation reply = .silent failure) :=
  ⟨fun _ sent =>
    reported_of_sent (Client.schemed_of_ofSettings addressed made) judges error sent, exists_silent⟩

end Refusals

theorem judges_readable : Judges fun body => Succeeds (Json.readBytes body) where
  read _ := id
  malformed body fault failed _ _ := by
    rintro ⟨value, read⟩
    rw [failed] at read
    cases read

def mute : Http.Response :=
  ⟨418, Text.Utf8.encode "\x7b\"error\": \x7b\"message\": null\x7d\x7d"⟩

theorem exists_request (reply : Http.Reply) : ∃ request,
    (standardClient.perform (.previewFlow "1") reply).request = some request := by
  have performed : (standardClient.perform (.previewFlow "1") .broken).request.isSome = true := by
    decide +kernel
  rw [standardClient.request_perform _ .broken reply] at performed
  exact Option.isSome_iff_exists.mp performed

theorem mute_reported : ∃ request,
    (standardClient.perform (.previewFlow "1") (.answered mute)).request = some request ∧
      400 ≤ mute.status ∧ Reported (fun body => Succeeds (Json.readBytes body))
        (standardClient.perform (.previewFlow "1") (.answered mute)) mute := by
  have error : 400 ≤ mute.status := by decide
  rcases exists_request (.answered mute) with ⟨request, sent⟩
  have read : (Json.readBytes mute.body).toOption.isSome = true := by decide +kernel
  have unspoiled : ¬ Spoiled (fun body => Succeeds (Json.readBytes body)) mute := by
    rintro (beyond | deep | ⟨long, given⟩)
    · exact absurd beyond (by decide)
    · rw [deep] at read
      cases read
    · rw [long] at read
      cases read
  exact ⟨request, sent, error, ((reported_iff_not_spoiled addressed_standard ofSettings_standard
    judges_readable error).1 request sent).mpr unspoiled⟩

def outlandish : Http.Response :=
  ⟨600, Text.Utf8.encode "\x7b\"error\": \x7b\"message\": \"m\"\x7d\x7d"⟩

theorem errors_not_reported : Client.ofSettings .standard "" = .ok standardClient ∧
    (400 ≤ outlandish.status ∧
      Succeeds (standardClient.perform (.previewFlow "1") (.answered outlandish)).result ∧
      ¬ Reported (fun body => Succeeds (Json.readBytes body))
        (standardClient.perform (.previewFlow "1") (.answered outlandish)) outlandish) ∧
    (400 ≤ bottomless.status ∧
      (standardClient.perform (.previewFlow "1") (.answered bottomless)).result =
        .error (.failed .tooDeep) ∧
      ¬ Reported (fun body => Succeeds (Json.readBytes body))
        (standardClient.perform (.previewFlow "1") (.answered bottomless)) bottomless) := by
  have schemed := Client.schemed_of_ofSettings addressed_standard ofSettings_standard
  rcases exists_request (.answered outlandish) with ⟨_, taken⟩
  rcases exists_request (.answered bottomless) with ⟨_, lost⟩
  have result : (standardClient.perform (.previewFlow "1")
      (.answered outlandish)).result.toOption.isSome = true := by decide +kernel
  have deep : Unfathomable bottomless := by
    simp only [Unfathomable, bottomless]
    exact Json.readBytes_of_brackets []
  have status : bottomless.status = 500 := rfl
  have error : 400 ≤ bottomless.status := by omega
  refine ⟨ofSettings_standard, ⟨by decide, ?_, fun reported => ?_⟩, error, ?_, fun reported => ?_⟩
  · cases outcome : (standardClient.perform (.previewFlow "1") (.answered outlandish)).result with
    | ok value => exact ⟨value, rfl⟩
    | error failure =>
        rw [outcome] at result
        cases result
  · exact (reported_of_sent schemed judges_readable (by decide) taken).mp reported
      (.status (by decide))
  · rcases Client.perform_of_sent schemed lost with ⟨call, -, -, performed⟩
    have harmful : ¬ Harmless bottomless := (not_harmless_iff error).mpr (by omega)
    rw [performed, Client.conclude, isError_iff.mpr harmful, errorMessage_of_unfathomable deep]
    rfl
  · exact (reported_of_sent schemed judges_readable error lost).mp reported (.nesting deep)

end ScreenFlow.Platform
