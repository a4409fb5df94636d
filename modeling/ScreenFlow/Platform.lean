import ScreenFlow.Http.Address
import ScreenFlow.Http.Message
import ScreenFlow.Json.Bytes
import ScreenFlow.Settings

namespace ScreenFlow

/-! The platform that keeps flows. A client turns each operation into at most one request; what
comes back decides its result and what is logged. -/

namespace Platform

inductive Asset where
  | document (value : Value)
  | bytes (content : List UInt8)
  deriving DecidableEq, Repr

inductive Operation where
  | createFlow (name categories : Value)
  | listFlows
  | getFlow (id : String)
  | previewFlow (id : String)
  | uploadFlow (id : String) (asset : Asset)
  | deleteFlow (id : String)
  deriving DecidableEq, Repr

/-- A refusal: why, the status of the response, and its JSON content, null for none. -/
structure Refusal where
  message : Value
  status : Option Nat
  payload : Value
  deriving DecidableEq, Repr

inductive Failure where
  | refused (refusal : Refusal)
  | failed (fault : Fault)
  deriving DecidableEq, Repr

def flowFields : String :=
  "id,name,categories,preview,status,validation_errors,json_version,data_api_version," ++
    "data_channel_uri,whatsapp_business_account,application"

def otherCategory : String := "OTHER"

def assetName : String := "flow.json"

def assetType : String := "FLOW_JSON"

def loggerName : String := "formflow.client"

structure Call where
  method : Http.Method
  path : String
  query : List (String × String)
  body : Http.Body
  deriving DecidableEq, Repr

namespace Asset

def content : Asset → Except Fault (List UInt8)
  | .document value => do (← Json.write .readable value).encode
  | .bytes content => .ok content

end Asset

end Platform

namespace Settings

open Platform

/-- The account that owns the flows. There is none unless it is set to a text that is not empty. -/
def account (settings : Settings) : Except Failure String :=
  match settings.accountId.filter fun id => id != "" with
  | some id => .ok id
  | none =>
      .error (.refused
        ⟨.text "FORMFLOW_BUSINESS_ACCOUNT_ID is not configured", none, .null⟩)

def authorization (settings : Settings) : Option String :=
  (settings.accessToken.filter fun token => token != "").map fun token => s!"Bearer {token}"

end Settings

namespace Platform

def categoriesText (categories : Value) : Except Fault Text :=
  Json.write .compact
    (if categories.isGiven then categories else .list [.text otherCategory])

def formText : Value → Text
  | .null => ""
  | .bool flag => if flag then "true" else "false"
  | value => value.display

def formEntries (name : String) : Value → List (String × Text)
  | .list items => items.map fun item => (name, formText item)
  | value => [(name, formText value)]

namespace Operation

def call (settings : Settings) : Operation → Except Failure Call
  | .createFlow name categories => do
      let categories ← (categoriesText categories).mapError .failed
      let account ← settings.account
      return ⟨.post, s!"{account}/flows", [],
        .form (formEntries "name" name ++ [("categories", categories)])⟩
  | .listFlows => do
      let account ← settings.account
      return ⟨.get, s!"{account}/flows", [], .empty⟩
  | .getFlow id => .ok ⟨.get, id, [("fields", flowFields)], .empty⟩
  | .previewFlow id => .ok ⟨.get, id, [("fields", "preview")], .empty⟩
  | .uploadFlow id asset => do
      let content ← asset.content.mapError .failed
      return ⟨.post, s!"{id}/assets", [],
        .upload [("name", assetName), ("asset_type", assetType)] "file" assetName content⟩
  | .deleteFlow id => .ok ⟨.delete, id, [], .empty⟩

end Operation

/-! ## Responses -/

/-- The message of a response that reports an error, and its JSON content. A message within the
content comes before the phrase of the status; what is no JSON is a message as a whole. -/
def errorMessage (response : Http.Response) : Except Fault (Value × Value) :=
  let phrase := Value.text (Http.reason response.status)
  match Json.readBytes response.body with
  | .error .tooDeep => .error .tooDeep
  | .error _ =>
      let text := Text.Utf8.decodeLossy response.body
      .ok (if text.isEmpty then phrase else .text text, .null)
  | .ok (.map entries) =>
      match Value.lookup? "error" entries with
      | some (.map error) => .ok ((Value.lookup? "message" error).getD phrase, .map entries)
      | _ => .ok (phrase, .map entries)
  | .ok payload => .ok (phrase, payload)

def content (response : Http.Response) : Except Failure Value :=
  if response.body.isEmpty then .ok (.map [])
  else (Json.readBytes response.body).mapError .failed

/-! ## Clients -/

/-- A client of the platform. Its boundary separates the parts of what it uploads. -/
structure Client where
  settings : Settings
  base : Address
  boundary : String
  closed : Bool
  deriving DecidableEq, Repr

/-- What an operation came to, the request it sent, and the entries it logged. -/
structure Outcome where
  result : Except Failure Value
  request : Option Http.Request
  log : List Log.Entry
  deriving DecidableEq

namespace Outcome

def silent (failure : Failure) : Outcome := ⟨.error failure, none, []⟩

end Outcome

namespace Client

def ofSettings (settings : Settings) (boundary : String) : Except Fault Client := do
  if settings.authorization.any fun token => token.toList.any fun character =>
      0x80 ≤ character.toNat then
    .error .unencodable
  else
    let base ← (← Address.read settings.apiRoot).asBase
    return ⟨settings, base, boundary, false⟩

def close (client : Client) : Client := { client with closed := true }

/-- The request of a call, unless the line is closed. The host has to be ASCII, which the zone of one
may fail to be. -/
def request (client : Client) (call : Call) : Except Fault Http.Request := do
  let address ← client.base.join call.path
  let address ← if call.query.isEmpty then pure address else address.withQuery call.query
  if !address.host.all Text.Punycode.isBasic then .error .unencodable
  else
    let body ← call.body.bytes client.boundary
    if client.closed then .error .closed
    else return {
      method := call.method
      address := address.text
      authorization := address.authorization.or client.settings.authorization
      contentType := call.body.contentType client.boundary
      body }

def entry (call : Call) (level : Log.Level) (event : String) (fields : List (Text × Value)) :
    Log.Entry where
  logger := loggerName
  level := level
  event := .text event
  fields := ("method", .text call.method.word) :: ("path", .text call.path) :: fields

def conclude (call : Call) : Http.Reply → Except Failure Value × List Log.Entry
  | .broken => (.error (.failed .broken), [])
  | .unreachable reason =>
      (.error (.refused ⟨.text s!"Request to {call.path} failed: {reason}", none, .null⟩),
        [entry call .error "flow_platform_unreachable" [("error", .text reason)]])
  | .answered response =>
      let status : Text × Value := ("status", Value.int response.status)
      let answered := entry call .info "flow_platform_request" [status]
      if Http.isError response.status then
        match errorMessage response with
        | .error fault => (.error (.failed fault), [answered])
        | .ok (message, payload) =>
            (.error (.refused ⟨message, some response.status, payload⟩),
              [answered, entry call .warning "flow_platform_error" [status, ("message", message)]])
      else (content response, [answered])

/-- What a reply makes of a call that was sent to an address. A response cannot be taken from an
address without a scheme. -/
def receive (call : Call) (address : String) (reply : Http.Reply) :
    Except Failure Value × List Log.Entry :=
  match reply with
  | .answered response =>
      if Address.beginsWithScheme address then conclude call (.answered response)
      else (.error (.failed .badValue), [])
  | reply => conclude call reply

def perform (client : Client) (operation : Operation) (reply : Http.Reply) : Outcome :=
  match operation.call client.settings with
  | .error failure => .silent failure
  | .ok call =>
      match client.request call with
      | .error fault => .silent (.failed fault)
      | .ok request =>
          let (result, log) := receive call request.address reply
          ⟨result, some request, log⟩

end Client

end Platform

end ScreenFlow
