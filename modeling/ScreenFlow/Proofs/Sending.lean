import ScreenFlow.Proofs.Addressing
import ScreenFlow.Proofs.Exits
import ScreenFlow.Proofs.Replies
import ScreenFlow.Proofs.Upload

namespace ScreenFlow

/-! What an upload of a file sends. A file that holds a flow document is sent as it is, and for any
other file the document compiled from it; without either nothing is sent and the run fails. So it is
unless the file keeps what it holds from being told, a label that was cut cannot be noted, or the
address becomes too long. -/

open Outcome

namespace Platform

/-! ## Bodies -/

def sentLines (lines : List String) : List UInt8 :=
  lines.flatMap fun line => Text.Utf8.encode (line ++ "\r\n")

def uploadHead (boundary : String) : List UInt8 := sentLines [
  s!"--{boundary}", "Content-Disposition: form-data; name=\"name\"", "", "flow.json",
  s!"--{boundary}", "Content-Disposition: form-data; name=\"asset_type\"", "", "FLOW_JSON",
  s!"--{boundary}", "Content-Disposition: form-data; name=\"file\"; filename=\"flow.json\"",
  "Content-Type: application/json", ""]

def uploadTail (boundary : String) : List UInt8 := sentLines ["", s!"--{boundary}--"]

structure Posts (boundary : String) (content : List UInt8) (request : Http.Request) : Prop where
  method : request.method = .post
  body : request.body = uploadHead boundary ++ content ++ uploadTail boundary

theorem Posts.unique {boundary : String} {content other : List UInt8} {request : Http.Request}
    (posts : Posts boundary content request) (same : Posts boundary other request) :
    content = other := by
  have whole := posts.body.symm.trans same.body
  exact List.append_cancel_left (List.append_cancel_right whole)

theorem encode_append (front back : String) :
    Text.Utf8.encode (front ++ back) = Text.Utf8.encode front ++ Text.Utf8.encode back := by
  simp [Text.Utf8.encode, Text.Utf8.encodeChars]

theorem bytes_upload (boundary : String) (content : List UInt8) :
    Http.Body.uploaded boundary [("name", assetName), ("asset_type", assetType)] "file" assetName
      content = uploadHead boundary ++ content ++ uploadTail boundary := by
  have ends : Http.Body.lineEnd = Text.Utf8.encode "\r\n" := by decide
  have named : Http.Body.disposition "name" = "Content-Disposition: form-data; name=\"name\"" := by
    decide
  have typed : Http.Body.disposition "asset_type" =
      "Content-Disposition: form-data; name=\"asset_type\"" := by decide
  have filed : toString (Http.Body.disposition "file") ++ toString "; filename=\"" ++
      toString assetName ++ toString "\"" =
        "Content-Disposition: form-data; name=\"file\"; filename=\"flow.json\"" := by decide
  have empty : Text.Utf8.encode "" = [] := rfl
  simp only [Http.Body.uploaded, Http.Body.part, uploadHead, uploadTail, sentLines, ends, named,
    typed, filed, encode_append, List.flatMap_cons, List.flatMap_nil, List.append_assoc,
    List.nil_append, List.append_nil, empty]
  rfl

end Platform

namespace Command

open Session

/-! ## What is to be sent -/

/-- The bytes hold a flow document: an object with a version and a list of screens, each of which is
an object with a layout. -/
def HoldsDocument (content : List UInt8) : Prop :=
  ∃ entries screens, Json.readBytes content = .ok (.map entries) ∧
    (∃ version, Value.lookup? "version" entries = some version) ∧
    Value.lookup? "screens" entries = some (.list screens) ∧
    ∀ screen ∈ screens, ∃ fields layout, screen = .map fields ∧
      Value.lookup? "layout" fields = some layout

/-- The bytes that are to be sent for a file: its own if it holds a flow document, and otherwise
those of the document compiled from it. -/
inductive Due (files : Files) (path : String) (content : List UInt8) : List UInt8 → Prop
  | file (held : HoldsDocument content) : Due files path content content
  | document {flow : CompiledFlow} {bytes : List UInt8} (other : ¬ HoldsDocument content)
      (made : Schema.load files path >>= Schema.compile = .ok flow)
      (encoded : flow.document.encode = .ok bytes) : Due files path content bytes

section Recognition

variable {content : List UInt8}

theorem hasLayout_iff {screen : Value} : isFlowDocument.hasLayout screen = true ↔
    ∃ fields layout, screen = .map fields ∧ Value.lookup? "layout" fields = some layout := by
  cases screen with
  | map fields => simp [isFlowDocument.hasLayout, Option.isSome_iff_exists]
  | _ => simp [isFlowDocument.hasLayout]

theorem isFlowDocument_iff {value : Value} : isFlowDocument value = true ↔
    ∃ entries screens, value = .map entries ∧
      (∃ version, Value.lookup? "version" entries = some version) ∧
      Value.lookup? "screens" entries = some (.list screens) ∧
      ∀ screen ∈ screens, ∃ fields layout, screen = .map fields ∧
        Value.lookup? "layout" fields = some layout := by
  cases value with
  | map entries =>
      rw [isFlowDocument, Bool.and_eq_true, Option.isSome_iff_exists]
      constructor
      · intro given
        rcases given with ⟨versioned, listed⟩
        split at listed
        · next screens found =>
            refine ⟨entries, screens, rfl, versioned, found, fun screen member => ?_⟩
            exact hasLayout_iff.mp (List.all_eq_true.mp listed screen member)
        · cases listed
      · rintro ⟨_, screens, same, versioned, found, layouts⟩
        rcases Value.map.inj same with rfl
        rw [found]
        refine ⟨versioned, List.all_eq_true.mpr fun screen member => ?_⟩
        exact hasLayout_iff.mpr (layouts screen member)
  | _ => simp [isFlowDocument]

theorem holdsFlowDocument_eq_true_iff :
    holdsFlowDocument content = .ok true ↔ HoldsDocument content := by
  rw [holdsFlowDocument, HoldsDocument]
  cases read : Json.readBytes content with
  | error fault => cases fault <;> simp
  | ok value => simpa using isFlowDocument_iff

theorem fault_of_readBytes {fault : Fault} (failed : Json.readBytes content = .error fault) :
    fault = .undecodable ∨ fault = .malformedJson ∨ fault = .badValue ∨ fault = .tooDeep := by
  rw [Json.readBytes] at failed
  rcases bind_eq_error.mp failed with undecoded | ⟨text, -, unread⟩
  · exact .inl (orFault_eq_error.mp undecoded).2.symm
  · cases read : Json.read text with
    | ok value =>
        rw [read] at unread
        cases unread
    | error error =>
        rw [read] at unread
        rcases Except.error.inj unread with rfl
        rw [Json.ReadError.fault]
        split <;> simp

theorem not_holdsDocument (unrecognized : holdsFlowDocument content = .ok false) :
    ¬ HoldsDocument content := by
  rw [← holdsFlowDocument_eq_true_iff, unrecognized]
  simp

/-- What a file holds cannot be told exactly if it has a number with too many digits or is nested
too deep. -/
theorem holdsFlowDocument_eq_error_iff {fault : Fault} :
    holdsFlowDocument content = .error fault ↔
      Json.readBytes content = .error fault ∧ (fault = .badValue ∨ fault = .tooDeep) := by
  rw [holdsFlowDocument]
  cases read : Json.readBytes content with
  | ok value => simp
  | error other =>
      rw [Except.error.injEq]
      rcases fault_of_readBytes read with rfl | rfl | rfl | rfl
      · exact iff_of_false (by simp) (by rintro ⟨rfl, other⟩; simp at other)
      · exact iff_of_false (by simp) (by rintro ⟨rfl, other⟩; simp at other)
      · simp +contextual [eq_comm]
      · simp +contextual [eq_comm]

end Recognition

/-! ## Asking the platform -/

def report (policy : Log.Policy) (outcome : Platform.Outcome) : Step Unit := do
  outcome.log.forM (note policy)
  match outcome.result with
  | .ok value => sayJson value
  | .error (.failed fault) => finish (.escaped fault)
  | .error (.refused refusal) =>
      complain ("Error: " ++ refusal.message.display)
      if !refusal.payload.isNull then sayJson refusal.payload
      finish (.exit 1)

theorem onlyTalks_report (policy : Log.Policy) (outcome : Platform.Outcome) :
    OnlyTalks (report policy outcome) := by
  refine onlyTalks_bind (onlyTalks_forM _ fun entry => onlyTalks_note policy entry) fun _ => ?_
  split
  · exact onlyTalks_sayJson _
  · exact onlyTalks_finish _
  · refine onlyTalks_bind (onlyTalks_warn _) fun _ => ?_
    split
    · exact onlyTalks_bind (onlyTalks_sayJson _) fun _ => onlyTalks_finish _
    · exact onlyTalks_bind (onlyTalks_pure _) fun _ => onlyTalks_finish _

section Asking

variable {policy : Log.Policy} {settings : Settings} {boundary : String} {reply : Http.Reply}
  {client : Platform.Client} {operation : Platform.Operation} {session : Session}

theorem run_ask (connected : Platform.Client.ofSettings settings boundary = .ok client) :
    (ask policy settings boundary reply operation).run session =
      (report policy (client.perform operation reply)).run { session with
        requests := session.requests ++ (client.perform operation reply).request.toList } := by
  rw [ask, connected]
  rfl

theorem requests_after_ask (connected : Platform.Client.ofSettings settings boundary = .ok client) :
    (after (ask policy settings boundary reply operation) session).requests =
      session.requests ++ (client.perform operation reply).request.toList := by
  rw [after, run_ask connected, ← after]
  exact (onlyTalks_report policy _ _).requests

theorem endingOf_ask_of_silent {fault : Fault}
    (connected : Platform.Client.ofSettings settings boundary = .ok client)
    (silent : client.perform operation reply = .silent (.failed fault)) :
    endingOf (ask policy settings boundary reply operation) session = .escaped fault := by
  rw [endingOf, run_ask connected, silent]
  rfl

end Asking

/-! ## Uploading -/

section Uploading

variable {means : Means} {session : Session} {path id : String} {content bytes : List UInt8}
  {client : Platform.Client} {asset : Platform.Asset} {fault : Fault}

/-- A flow without signs that mean something in an address. -/
def Plain (id : String) : Prop := ∀ character ∈ id.toList, Percent.isUnreserved character = true

theorem plain_assets (plain : Plain id) : Address.Plain s!"{id}/assets".toList := by
  have whole : s!"{id}/assets".toList = id.toList ++ "/assets".toList := by simp [toString]
  rw [whole]
  constructor
  · intro character member
    rcases List.mem_append.mp member with inside | fixed
    · rw [Address.inSteps, plain character inside, Bool.true_or]
    · have safe : "/assets".toList.all Address.inSteps = true := by decide
      exact List.all_eq_true.mp safe character fixed
  · intro slashes
    cases letters : id.toList with
    | nil =>
        rw [letters] at slashes
        revert slashes
        decide
    | cons first others =>
        rw [letters] at slashes
        have slash : '/' = first := (List.cons_prefix_cons.mp slashes).1
        have unreserved := plain first (by simp [letters])
        rw [← slash] at unreserved
        revert unreserved
        decide

theorem perform_upload (worded : asset.content = .ok bytes) (reply : Http.Reply)
    (schemed : client.base.Schemed) (reachable : client.Reachable) (plain : Plain id) :
    (client.Reaches s!"{id}/assets" →
      ∃ request, (client.perform (.uploadFlow id asset) reply).request = some request ∧
        Platform.Posts client.boundary bytes request) ∧
    (¬ client.Reaches s!"{id}/assets" →
      ∃ fault, client.perform (.uploadFlow id asset) reply = .silent (.failed fault)) := by
  have asked : (Platform.Operation.uploadFlow id asset).call client.settings =
      .ok ⟨.post, s!"{id}/assets", [], .upload [("name", Platform.assetName),
        ("asset_type", Platform.assetType)] "file" Platform.assetName bytes⟩ := by
    rw [Platform.Operation.call, worded]
    rfl
  have made := @Platform.Client.succeeds_request_iff client .post s!"{id}/assets"
    (.upload [("name", Platform.assetName), ("asset_type", Platform.assetType)] "file"
      Platform.assetName bytes) schemed reachable (plain_assets plain) ⟨_, rfl⟩
  rw [Platform.Client.perform, asked, ← made]
  dsimp only
  constructor
  · rintro ⟨request, given⟩
    rcases Platform.Client.request_eq_ok.mp given with ⟨address, body, -, -, made, -, same⟩
    rw [given]
    refine ⟨request, rfl, ?_, ?_⟩
    · rw [same]
    · rw [same, ← Platform.bytes_upload]
      exact (Except.ok.inj made).symm
  · intro failed
    cases given : client.request _ with
    | ok request => exact absurd ⟨request, given⟩ failed
    | error fault => exact ⟨fault, rfl⟩

/-! ### What becomes of a file -/

theorem stop_of_endingOf {α β : Type} {step : Step α} {next : α → Step β} (talks : OnlyTalks step)
    (failed : endingOf step session ≠ .exit 0) :
    endingOf (step >>= next) session = endingOf step session ∧
      (after (step >>= next) session).requests = session.requests := by
  cases ran : step.run session with
  | ok result between => exact absurd (endingOf_of_ok ran) failed
  | error ending between =>
      have stopped := @run_bind_of_error α β session between step next ending ran
      have talked := talks session
      rw [after_of_error ran] at talked
      refine ⟨?_, ?_⟩
      · rw [endingOf, endingOf, ran, stopped]
      · rw [after_of_error stopped]
        exact talked.requests

theorem endingOf_assetOf (there : session.files.read path = .ok content) :
    endingOf (assetOf means.policy path) session =
      match holdsFlowDocument content with
      | .error fault => .escaped fault
      | .ok true => .exit 0
      | .ok false => endingOf (compile means.policy path >>= fun flow =>
          pure (Platform.Asset.document flow.document.toValue)) session := by
  rw [assetOf, endingOf_get_bind, there, endingOf_orEscape_bind]
  dsimp only
  rw [endingOf_orEscape_bind]
  cases holdsFlowDocument content with
  | error fault => rfl
  | ok held => cases held <;> rfl

/-- Why nothing can be sent although something is due: what the file holds cannot be told for a
number with too many digits or too deep a nesting, the note about a label that was cut cannot be put
into words, or the address of the flow becomes too long. -/
inductive Obstructed (policy : Log.Policy) (client : Platform.Client) (files : Files)
    (path id : String) (content : List UInt8) : Prop
  | untold (fault : Fault) (unread : Json.readBytes content = .error fault)
      (limits : fault = .badValue ∨ fault = .tooDeep)
  | unnoted {flow : CompiledFlow} {diagnostic : Diagnostic} (other : ¬ HoldsDocument content)
      (made : Schema.load files path >>= Schema.compile = .ok flow)
      (among : diagnostic ∈ flow.diagnostics)
      (wordless : ¬ Succeeds (policy.line (truncationEntry diagnostic)))
  | unreached (far : ¬ client.Reaches s!"{id}/assets")

inductive Uploaded (means : Means) (client : Platform.Client) (files : Files) (path id : String)
    (content : List UInt8) : List Http.Request → Nat → Prop
  | posted {bytes : List UInt8} {request : Http.Request} (code : Nat)
      (due : Due files path content bytes)
      (free : ¬ Obstructed means.policy client files path id content)
      (posts : Platform.Posts means.boundary bytes request) :
      Uploaded means client files path id content [request] code
  | nothing {code : Nat} (undue : ∀ bytes, ¬ Due files path content bytes) (failed : code ≠ 0) :
      Uploaded means client files path id content [] code
  | obstructed (obstructed : Obstructed means.policy client files path id content) :
      Uploaded means client files path id content [] 1

/-- The client is made from settings with an HTTP address, and what is at its base can be asked
for. -/
structure Configured (means : Means) (client : Platform.Client) : Prop where
  addressed : means.settings.Addressed
  made : Platform.Client.ofSettings means.settings means.boundary = .ok client
  reachable : client.Reachable

theorem Configured.boundary (configured : Configured means client) :
    client.boundary = means.boundary := by
  rcases Platform.Client.ofSettings_eq_ok configured.made with ⟨_, -, -, whole⟩
  rw [whole]

theorem upload_of_endingOf (id : String) (fresh : session.requests = [])
    (failed : endingOf (assetOf means.policy path) session ≠ .exit 0) :
    (after (perform means (.upload id path)) session).requests = [] ∧
      endingOf (perform means (.upload id path)) session =
        endingOf (assetOf means.policy path) session := by
  have stopped := @stop_of_endingOf session _ _ (assetOf means.policy path)
    (fun asset => ask means.policy means.settings means.boundary means.reply (.uploadFlow id asset))
    (onlyTalks_assetOf means.policy path) failed
  exact ⟨stopped.2.trans fresh, stopped.1⟩

theorem upload_of_asset {between : Session} (id : String) (fresh : session.requests = [])
    (connected : Platform.Client.ofSettings means.settings means.boundary = .ok client)
    (ran : (assetOf means.policy path).run session = .ok asset between) :
    (after (perform means (.upload id path)) session).requests =
        (client.perform (.uploadFlow id asset) means.reply).request.toList ∧
      endingOf (perform means (.upload id path)) session = endingOf (ask means.policy
        means.settings means.boundary means.reply (.uploadFlow id asset)) between := by
  have quiet := onlyTalks_assetOf means.policy path session
  rw [after_of_ok ran] at quiet
  have goes : (perform means (.upload id path)).run session =
      (ask means.policy means.settings means.boundary means.reply (.uploadFlow id asset)).run
        between := run_bind_of_ok ran
  constructor
  · rw [after, goes, ← after, requests_after_ask connected, quiet.requests, fresh,
      List.nil_append]
  · rw [endingOf, endingOf, goes]

section Outcomes

variable (configured : Configured means client) (plain : Plain id) (fresh : session.requests = [])
  (there : session.files.read path = .ok content)

include fresh there

theorem uploaded_of_untold {fault : Fault} (untold : holdsFlowDocument content = .error fault) :
    Uploaded means client session.files path id content
      (after (perform means (.upload id path)) session).requests
      (endingOf (perform means (.upload id path)) session).code := by
  have ended : endingOf (assetOf means.policy path) session = .escaped fault := by
    rw [endingOf_assetOf there, untold]
  have stopped : endingOf (assetOf means.policy path) session ≠ .exit 0 := by simp [ended]
  rcases holdsFlowDocument_eq_error_iff.mp untold with ⟨unread, limits⟩
  rcases upload_of_endingOf id fresh stopped with ⟨sent, same⟩
  rw [sent, same, ended]
  exact .obstructed (.untold fault unread limits)

theorem uploaded_of_uncompiled {fault : Fault}
    (unrecognized : holdsFlowDocument content = .ok false)
    (failed : Schema.load session.files path >>= Schema.compile = .error fault) :
    Uploaded means client session.files path id content
      (after (perform means (.upload id path)) session).requests
      (endingOf (perform means (.upload id path)) session).code := by
  have ended : endingOf (assetOf means.policy path) session = .exit (exitCode (.error fault)) := by
    rw [endingOf_assetOf there, unrecognized]
    exact endingOf_compile_bind_of_error failed
  have nonzero : exitCode (.error fault) ≠ 0 := by cases fault <;> simp [exitCode]
  have stopped : endingOf (assetOf means.policy path) session ≠ .exit 0 := by
    simpa [ended] using nonzero
  rcases upload_of_endingOf id fresh stopped with ⟨sent, same⟩
  rw [sent, same, ended]
  refine .nothing (fun bytes due => ?_) nonzero
  cases due with
  | file held => exact not_holdsDocument unrecognized held
  | document _ made _ =>
      rw [failed] at made
      cases made

theorem uploaded_of_unnoted {flow : CompiledFlow} {fault : Fault}
    (unrecognized : holdsFlowDocument content = .ok false)
    (made : Schema.load session.files path >>= Schema.compile = .ok flow)
    (failed : (flow.diagnostics.mapM fun diagnostic =>
      means.policy.line (truncationEntry diagnostic)) = .error fault) :
    Uploaded means client session.files path id content
      (after (perform means (.upload id path)) session).requests
      (endingOf (perform means (.upload id path)) session).code := by
  have other := not_holdsDocument unrecognized
  have ended : endingOf (assetOf means.policy path) session = .escaped fault := by
    rw [endingOf_assetOf there, unrecognized]
    exact (endingOf_compile_bind_of_ok made).trans (endingOf_notes_bind_of_error failed)
  have stopped : endingOf (assetOf means.policy path) session ≠ .exit 0 := by simp [ended]
  rcases upload_of_endingOf id fresh stopped with ⟨sent, same⟩
  rcases mapM_eq_error_iff.mp failed with ⟨before, diagnostic, after, split, -, wordless⟩
  have among : diagnostic ∈ flow.diagnostics := by simp [split]
  have unworded : ¬ Succeeds (means.policy.line (truncationEntry diagnostic)) := by
    simp [wordless, Succeeds]
  rw [sent, same, ended]
  exact .obstructed (.unnoted other made among unworded)

omit there

include configured plain

theorem uploaded_of_asset {between : Session}
    (ran : (assetOf means.policy path).run session = .ok asset between)
    (worded : asset.content = .ok bytes) (due : Due session.files path content bytes)
    (free : client.Reaches s!"{id}/assets" →
      ¬ Obstructed means.policy client session.files path id content) :
    Uploaded means client session.files path id content
      (after (perform means (.upload id path)) session).requests
      (endingOf (perform means (.upload id path)) session).code := by
  rcases upload_of_asset id fresh configured.made ran with ⟨sent, ended⟩
  have schemed := Platform.Client.schemed_of_ofSettings configured.addressed configured.made
  have performed := perform_upload worded means.reply schemed configured.reachable plain
  by_cases reaches : client.Reaches s!"{id}/assets"
  · rcases performed.1 reaches with ⟨request, made, posts⟩
    rw [sent, made]
    exact .posted _ due (free reaches) (configured.boundary ▸ posts)
  · rcases performed.2 reaches with ⟨fault, silent⟩
    rw [sent, ended, endingOf_ask_of_silent configured.made silent, silent]
    exact .obstructed (.unreached reaches)

include there

theorem uploaded_of_document {flow : CompiledFlow} {between : Session}
    (unrecognized : holdsFlowDocument content = .ok false)
    (made : Schema.load session.files path >>= Schema.compile = .ok flow)
    (ran : (compile means.policy path).run session = .ok flow between)
    (noted : ∀ diagnostic ∈ flow.diagnostics,
      Succeeds (means.policy.line (truncationEntry diagnostic))) :
    Uploaded means client session.files path id content
      (after (perform means (.upload id path)) session).requests
      (endingOf (perform means (.upload id path)) session).code := by
  have other := not_holdsDocument unrecognized
  have found := (run_assetOf_eq_ok there).mpr (.inr ⟨unrecognized, flow, ran, rfl⟩)
  cases encoded : flow.document.encode with
  | ok bytes =>
      have given : (Platform.Asset.document flow.document.toValue).content = .ok bytes := encoded
      refine uploaded_of_asset configured plain fresh found given (.document other made encoded) ?_
      intro reaches obstructed
      cases obstructed with
      | untold fault unread limits =>
          rw [holdsFlowDocument_eq_error_iff.mpr ⟨unread, limits⟩] at unrecognized
          cases unrecognized
      | unnoted _ made' among wordless =>
          rw [made] at made'
          rcases Except.ok.inj made' with rfl
          exact wordless (noted _ among)
      | unreached far => exact far reaches
  | error fault =>
      have given : (Platform.Asset.document flow.document.toValue).content = .error fault := encoded
      have silent : client.perform (.uploadFlow id (.document flow.document.toValue))
          means.reply = .silent (.failed fault) := by
        rw [Platform.Client.perform, Platform.Operation.call, given]
        rfl
      rcases upload_of_asset id fresh configured.made found with ⟨sent, ended⟩
      rw [sent, ended, endingOf_ask_of_silent configured.made silent, silent]
      refine .nothing (fun bytes due => ?_) Nat.one_ne_zero
      cases due with
      | file held => exact other held
      | document _ made' encoded' =>
          rw [made] at made'
          rcases Except.ok.inj made' with rfl
          rw [encoded] at encoded'
          cases encoded'

theorem uploaded : Uploaded means client session.files path id content
    (after (perform means (.upload id path)) session).requests
    (endingOf (perform means (.upload id path)) session).code := by
  cases held : holdsFlowDocument content with
  | error fault => exact uploaded_of_untold fresh there held
  | ok recognized =>
      cases recognized with
      | true =>
          have document := holdsFlowDocument_eq_true_iff.mp held
          have found : (assetOf means.policy path).run session = .ok (.bytes content) session :=
            (run_assetOf_eq_ok there).mpr (.inl ⟨held, rfl, rfl⟩)
          refine uploaded_of_asset configured plain fresh found rfl (.file document) ?_
          intro reaches obstructed
          cases obstructed with
          | untold fault unread _ =>
              rcases document with ⟨_, _, read, -⟩
              rw [unread] at read
              cases read
          | unnoted other _ _ _ => exact other document
          | unreached far => exact far reaches
      | false =>
          cases made : Schema.load session.files path >>= Schema.compile with
          | error fault => exact uploaded_of_uncompiled fresh there held made
          | ok flow =>
              cases noted : flow.diagnostics.mapM fun diagnostic =>
                  means.policy.line (truncationEntry diagnostic) with
              | error fault =>
                  exact uploaded_of_unnoted fresh there held made noted
              | ok lines =>
                  have each := mapM_succeeds_iff.mp ⟨lines, noted⟩
                  rcases bind_eq_ok.mp made with ⟨schema, loaded, compiled⟩
                  rcases exists_run_notes_iff.mpr each with ⟨between, notes⟩
                  exact uploaded_of_document configured plain fresh there held made
                    ((run_compile_eq_ok loaded compiled).mpr ⟨notes, rfl⟩) each

end Outcomes

end Uploading

/-! ## Runs -/

/-- A run sends what is due, once, and otherwise it sends nothing and fails. The bytes of the file
are sent exactly if it holds a flow document. -/
structure Upholds (boundary : String) (files : Files) (path : String) (content : List UInt8)
    (sent : List Http.Request) (code : Nat) : Prop where
  once : sent.length ≤ 1
  own : (∃ request ∈ sent, Platform.Posts boundary content request) ↔ HoldsDocument content
  all : ∀ bytes, Due files path content bytes →
    ∃ request, sent = [request] ∧ Platform.Posts boundary bytes request
  nothing : (∀ bytes, ¬ Due files path content bytes) → sent = [] ∧ code ≠ 0

/-- Something is due, and it cannot be sent. -/
def Withheld (policy : Log.Policy) (client : Platform.Client) (files : Files) (path id : String)
    (content : List UInt8) : Prop :=
  (∃ bytes, Due files path content bytes) ∧ Obstructed policy client files path id content

section Runs

variable {means : Means} {client : Platform.Client} {files : Files} {path id : String}
  {content : List UInt8}

theorem exists_due {flow : CompiledFlow} (other : ¬ HoldsDocument content)
    (made : Schema.load files path >>= Schema.compile = .ok flow)
    (encoded : Succeeds flow.document.encode) : ∃ bytes, Due files path content bytes := by
  rcases encoded with ⟨bytes, encoded⟩
  exact ⟨bytes, .document other made encoded⟩

theorem Due.unique {bytes others : List UInt8} (due : Due files path content bytes)
    (same : Due files path content others) : bytes = others := by
  cases due with
  | file held =>
      cases same with
      | file _ => rfl
      | document other _ _ => exact absurd held other
  | document other made encoded =>
      cases same with
      | file held => exact absurd held other
      | document _ made' encoded' =>
          rw [made] at made'
          rcases Except.ok.inj made' with rfl
          rw [encoded] at encoded'
          exact Except.ok.inj encoded'

theorem Due.eq_iff {bytes : List UInt8} (due : Due files path content bytes) :
    bytes = content ↔ HoldsDocument content := by
  cases due with
  | file held => exact iff_of_true rfl held
  | document other _ encoded =>
      refine iff_of_false ?_ other
      rintro rfl
      rcases Text.bind_encode_eq_ok_iff.mp encoded with ⟨text, worded, rfl⟩
      exact other (holdsFlowDocument_eq_true_iff.mp (holdsFlowDocument_of_toJson worded))

theorem upholds_of_undue {boundary : String} {code : Nat}
    (undue : ∀ bytes, ¬ Due files path content bytes) (failed : code ≠ 0) :
    Upholds boundary files path content [] code where
  once := Nat.zero_le 1
  own := iff_of_false (by simp) fun held => undue content (.file held)
  all := fun bytes due => absurd due (undue bytes)
  nothing := fun _ => ⟨rfl, failed⟩

theorem upholds_of_posted {boundary : String} {bytes : List UInt8} {request : Http.Request}
    (due : Due files path content bytes) (posts : Platform.Posts boundary bytes request)
    (code : Nat) : Upholds boundary files path content [request] code where
  once := Nat.le_refl 1
  own := by
    rw [← due.eq_iff]
    constructor
    · rintro ⟨other, member, same⟩
      rcases List.mem_singleton.mp member with rfl
      exact posts.unique same
    · rintro rfl
      exact ⟨request, List.mem_singleton_self request, posts⟩
  all := fun bytes other => ⟨request, rfl, due.unique other ▸ posts⟩
  nothing := fun undue => absurd due (undue bytes)

theorem upholds_iff_of_uploaded {sent : List Http.Request} {code : Nat}
    (uploaded : Uploaded means client files path id content sent code) :
    (Upholds means.boundary files path content sent code ↔
        ¬ Withheld means.policy client files path id content) ∧
      (Withheld means.policy client files path id content → sent = [] ∧ code = 1) := by
  cases uploaded with
  | posted code due free posts =>
      exact ⟨iff_of_true (upholds_of_posted due posts code) fun withheld => free withheld.2,
        fun withheld => absurd withheld.2 free⟩
  | nothing undue failed =>
      have spared : ¬ Withheld means.policy client files path id content := by
        rintro ⟨⟨bytes, due⟩, -⟩
        exact undue bytes due
      exact ⟨iff_of_true (upholds_of_undue undue failed) spared,
        fun withheld => absurd withheld spared⟩
  | obstructed obstructed =>
      refine ⟨⟨fun upholds withheld => ?_, fun unwithheld => ?_⟩, fun _ => ⟨rfl, rfl⟩⟩
      · rcases withheld.1 with ⟨bytes, due⟩
        rcases upholds.all bytes due with ⟨request, sent, -⟩
        cases sent
      · exact upholds_of_undue (fun bytes due => unwithheld ⟨⟨bytes, due⟩, obstructed⟩)
          Nat.one_ne_zero

theorem run_snd (world : World) (boundary : String) :
    (run world boundary).2 = after (proceed world boundary) (.start world.files) := by
  rw [run, after]
  cases (proceed world boundary).run (.start world.files) <;> rfl

theorem uploaded_of_run {world : World} {boundary : String} {session : Session}
    (prepared : (prepare world boundary).run (.start world.files) =
      .ok (means, .upload id path) session)
    (there : world.files.read path = .ok content) (configured : Configured means client)
    (plain : Plain id) :
    Uploaded means client world.files path id content (run world boundary).2.requests
      (run world boundary).1.code := by
  have talked := onlyTalks_prepare world boundary (.start world.files)
  rw [after_of_ok prepared] at talked
  have kept : session.files = world.files := talked.files
  rw [← kept] at there ⊢
  have sent : (run world boundary).2 = after (perform means (.upload id path)) session := by
    rw [run_snd, proceed_eq, after, run_bind_of_ok prepared, ← after]
  have ended : (run world boundary).1 = endingOf (perform means (.upload id path)) session := by
    rw [run_fst, proceed_eq, endingOf_bind_of_ok prepared]
  rw [sent, ended]
  exact uploaded configured plain talked.requests there

/-- A run that uploads a file to a flow sends what is due, once and as it is, and fails without
sending anything if nothing is due; unless what is due is withheld, when it fails as well. -/
theorem upholds_run_iff {world : World} {boundary : String} {session : Session}
    (prepared : (prepare world boundary).run (.start world.files) =
      .ok (means, .upload id path) session)
    (there : world.files.read path = .ok content) (configured : Configured means client)
    (plain : Plain id) :
    (Upholds means.boundary world.files path content (run world boundary).2.requests
        (run world boundary).1.code ↔
      ¬ Withheld means.policy client world.files path id content) ∧
    (Withheld means.policy client world.files path id content →
      (run world boundary).2.requests = [] ∧ (run world boundary).1.code = 1) :=
  upholds_iff_of_uploaded (uploaded_of_run prepared there configured plain)

end Runs

def seen? {α : Type} (view : Means × Command → α) (world : World) (boundary : String) : Option α :=
  match (prepare world boundary).run (.start world.files) with
  | .ok found _ => some (view found)
  | .error _ _ => none

theorem exists_of_seen? {α : Type} {view : Means × Command → α} {world : World}
    {boundary : String} {sight : α} (seen : seen? view world boundary = some sight) :
    ∃ means command session, view (means, command) = sight ∧
      (prepare world boundary).run (.start world.files) = .ok (means, command) session := by
  rw [seen?] at seen
  split at seen
  · next found session ran => exact ⟨found.1, found.2, session, Option.some.inj seen, ran⟩
  · cases seen

def essentials (found : Means × Command) : Log.Policy × Settings × String × Command :=
  (found.1.policy, found.1.settings, found.1.boundary, found.2)

theorem reachable_standard : Platform.standardClient.Reachable := by
  rw [Platform.Client.Reachable]
  decide +kernel

theorem reaches_standard : Platform.standardClient.Reaches "42/assets" :=
  ⟨by decide +kernel, by decide +kernel, by decide +kernel⟩

theorem plain_42 : Plain "42" := by
  have unreserved : "42".toList.all Percent.isUnreserved = true := by decide
  exact List.all_eq_true.mp unreserved

theorem configured_standard {means : Means} (settings : means.settings = .standard)
    (boundary : means.boundary = "") : Configured means Platform.standardClient := by
  refine ⟨?_, ?_, reachable_standard⟩
  · rw [settings]
    exact Platform.addressed_standard
  · rw [settings, boundary]
    exact Platform.ofSettings_standard

def formFile : List UInt8 :=
  Text.Utf8.encode "\x7b\"screens\": [\x7b\"id\": \"a\"\x7d]\x7d"

def posting : World :=
  ⟨["upload", "42", "s.json"], [], .ofContents [("s.json", formFile)], "", .unreachable ""⟩

theorem posting_upheld : ∃ means session,
    (prepare posting "").run (.start posting.files) =
        .ok (means, .upload "42" "s.json") session ∧
      posting.files.read "s.json" = .ok formFile ∧ Configured means Platform.standardClient ∧
      Plain "42" ∧ (∃ bytes, Due posting.files "s.json" formFile bytes) ∧
      Upholds means.boundary posting.files "s.json" formFile (run posting "").2.requests
        (run posting "").1.code := by
  have seen : seen? essentials posting "" =
      some (⟨20, false⟩, .standard, "", .upload "42" "s.json") := by decide +kernel
  have there : posting.files.read "s.json" = .ok formFile := by decide +kernel
  have readable : Succeeds (Json.readBytes formFile) := by decide +kernel
  have unrecognized : holdsFlowDocument formFile = .ok false := by decide +kernel
  have compiled : (Schema.load posting.files "s.json" >>= Schema.compile).toOption.any
      (fun flow => flow.diagnostics.isEmpty && decide (Succeeds flow.document.encode)) = true := by
    decide +kernel
  rcases exists_of_seen? seen with ⟨means, command, session, same, prepared⟩
  simp only [essentials, Prod.mk.injEq] at same
  rcases same with ⟨policy, settings, boundary, rfl⟩
  rcases exists_of_any compiled with ⟨flow, made, fine⟩
  rw [Bool.and_eq_true, List.isEmpty_iff, decide_eq_true_eq] at fine
  rcases fine with ⟨unnoted, encoded⟩
  have other := not_holdsDocument unrecognized
  have due := exists_due other made encoded
  have configured := configured_standard settings boundary
  refine ⟨means, session, prepared, there, configured, plain_42, due, ?_⟩
  refine (upholds_run_iff prepared there configured plain_42).1.mpr fun withheld => ?_
  rcases withheld.2 with ⟨fault, unread, -⟩ | ⟨-, made', among, -⟩ | ⟨far⟩
  · rcases readable with ⟨value, read⟩
    rw [read] at unread
    cases unread
  · rw [made] at made'
    rcases Except.ok.inj made' with rfl
    rw [unnoted] at among
    cases among
  · exact far reaches_standard

def knottedFile : List UInt8 :=
  Text.Utf8.encode ("screens:\n- id: a\n  components:\n  - type: input\n    name: n\n" ++
    "    label: &l [a,a,a,a,a,a,a,a,a,a,a,a,a,a,a,a,a,a,a,a,*l]")

def knotted : World :=
  ⟨["upload", "42", "s.yaml"], [("FORMFLOW_LOG_JSON", "true")],
    .ofContents [("s.yaml", knottedFile)], "", .unreachable ""⟩

def jsonClient : Platform.Client :=
  { Platform.standardClient with settings := { Settings.standard with logJson := true } }

theorem knotted_withheld : ∃ means session,
    (prepare knotted "").run (.start knotted.files) =
        .ok (means, .upload "42" "s.yaml") session ∧
      knotted.files.read "s.yaml" = .ok knottedFile ∧ Configured means jsonClient ∧ Plain "42" ∧
      (∃ bytes, Due knotted.files "s.yaml" knottedFile bytes) ∧
      (run knotted "").2.requests = [] ∧ (run knotted "").1.code = 1 := by
  have seen : seen? essentials knotted "" =
      some (⟨20, true⟩, jsonClient.settings, "", .upload "42" "s.yaml") := by decide +kernel
  have there : knotted.files.read "s.yaml" = .ok knottedFile := by decide +kernel
  have unrecognized : holdsFlowDocument knottedFile = .ok false := by decide +kernel
  have compiled : (Schema.load knotted.files "s.yaml" >>= Schema.compile).toOption.any
      (fun flow => decide (Succeeds flow.document.encode) && flow.diagnostics.any fun diagnostic =>
        decide (¬ Succeeds (Log.Policy.line ⟨20, true⟩ (truncationEntry diagnostic)))) = true := by
    decide +kernel
  have connected : Platform.Client.ofSettings jsonClient.settings "" = .ok jsonClient := by
    decide +kernel
  have reachable : jsonClient.Reachable := by
    rw [Platform.Client.Reachable]
    decide +kernel
  rcases exists_of_seen? seen with ⟨means, command, session, same, prepared⟩
  simp only [essentials, Prod.mk.injEq] at same
  rcases same with ⟨policy, settings, boundary, rfl⟩
  rcases exists_of_any compiled with ⟨flow, made, fine⟩
  rw [Bool.and_eq_true, decide_eq_true_eq, List.any_eq_true] at fine
  rcases fine with ⟨encoded, diagnostic, among, unworded⟩
  have other := not_holdsDocument unrecognized
  have due := exists_due other made encoded
  have configured : Configured means jsonClient := by
    refine ⟨?_, ?_, reachable⟩
    · rw [settings]
      exact Platform.addressed_standard
    · rw [settings, boundary]
      exact connected
  have wordless : ¬ Succeeds (means.policy.line (truncationEntry diagnostic)) := by
    rw [policy]
    exact of_decide_eq_true unworded
  have uploaded := uploaded_of_run prepared there configured plain_42
  have result := (upholds_iff_of_uploaded uploaded).2 ⟨due, .unnoted other made among wordless⟩
  exact ⟨means, session, prepared, there, configured, plain_42, due, result.1, result.2⟩

end Command

end ScreenFlow
