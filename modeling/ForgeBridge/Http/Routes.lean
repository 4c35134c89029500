import ForgeBridge.Http.Message
import ForgeBridge.Service.Registry
import ForgeBridge.Url.Percent

/-!
What the server answers. Webhooks come in and chat texts are expanded under the id of a service; what
is wrong with a request is told before the service is looked for, except in what its own decoder has
to say.
-/

namespace ForgeBridge.Http

/-- The places that can be asked for. -/
inductive Route where
  | health
  /-- Where the webhooks of a service come in; its id is percent encoded. -/
  | hook (id : String)
  | expand (id : String)
deriving DecidableEq

namespace Route

/-- The place a path leads to. -/
def ofPath? (path : List Char) : Option Route :=
  match (Text.splitAt '/' path).map String.ofList with
  | ["", "health"] => some .health
  | ["", "services", "hooks", id] => if id = "" then none else some (.hook id)
  | ["", "services", "expand", id] => if id = "" then none else some (.expand id)
  | _ => none

/-- The methods a place can be asked with. -/
def methods : Route → List String
  | .health => ["GET", "HEAD"]
  | .hook _ | .expand _ => ["POST"]

end Route

/-- Why a request is refused before it reaches a service. -/
inductive Refusal where
  | badServiceId
  | tooLarge
  | notJson
  | badJson (error : Json.Error)
deriving DecidableEq

namespace Refusal

def status : Refusal → Nat
  | .badServiceId => 400
  | .tooLarge => 413
  | .notJson => 415
  | .badJson error => if error.cause.isMismatch then 422 else 400

def message : Refusal → String
  | .badServiceId => "Invalid URL: Invalid UTF-8 in \x60service_id\x60"
  | .tooLarge => "Failed to buffer the request body: length limit exceeded"
  | .notJson => "Expected request with \x60Content-Type: application/json\x60"
  | .badJson error =>
    (if error.cause.isMismatch then "Failed to deserialize the JSON body into the target type: "
      else "Failed to parse the request body as JSON: ") ++ error.messageWithPath

def response (r : Refusal) : Response := .text r.status r.message

end Refusal

/-- The id of a service in a path. -/
def serviceIdOf (encoded : String) : Except Refusal String :=
  match Text.ofBytes? (Url.percentDecode (Text.bytes encoded)) with
  | some id => .ok id
  | none => .error .badServiceId

/-- The body of a request, if it is not too large. -/
def bodyOf (r : Request) : Except Refusal (List UInt8) :=
  if r.isTooLarge then .error .tooLarge else .ok r.body

/-- A text that was seen in a room. -/
structure Sighting where
  room : String
  text : String
deriving DecidableEq

def Sighting.shape : Shape :=
  .record "ExpandRequest" (.cons "room_id" .required .text (.cons "text" .required .text .nil))

/-- The text in the body of a request. What follows it in the body does not count. -/
def sightingOf (r : Request) : Except Refusal Sighting :=
  if r.isJson then
    match bodyOf r with
    | .error e => .error e
    | .ok body =>
      match Json.readFront Sighting.shape body with
      | .error e => .error (.badJson e)
      | .ok (room, text, ()) => .ok ⟨room, text⟩
  else .error .notJson

/-! ## Answers -/

/-- The services that run, and what they need: ways to deliver messages and to look issues up. -/
structure Server where
  registry : Registry
  deliver : String → Message → Outcome
  lookup : Tracker.Lookup

/-- What comes of a request: the answer, the deliveries that were attempted and the references that
were looked up. -/
structure Handling where
  response : Response
  attempts : List (String × Message)
  lookups : List Reference
deriving DecidableEq

/-- A handling that is no more than an answer. -/
def Handling.ofResponse (r : Response) : Handling := ⟨r, [], []⟩

/-- The name and the version under which the server presents itself. -/
def serverName : String := "waddle-bridge-server"
def serverVersion : String := "0.1.0"

/-- How the server is. -/
def healthText (s : Server) : List UInt8 :=
  Json.object [("status", Json.text "healthy"), ("service", Json.text serverName),
    ("version", Json.text serverVersion), ("services", Json.number s.registry.size)]

/-- The webhook in a request. -/
def webhookOf (r : Request) (body : List UInt8) : Webhook.Request where
  event := r.headerText? "x-github-event"
  signature := r.headerText? "x-hub-signature"
  signature256 := r.headerText? "x-hub-signature-256"
  body := body

/-- How many rooms heard of an event, and how many should have. -/
def countsText (r : Routing.Report) : List UInt8 :=
  Json.object [("delivered", Json.number r.delivered.length), ("failed", Json.number r.failed.length)]

/-- Takes a webhook in for a service. -/
def receive (s : Server) (id : String) (w : Webhook.Request) : Logged Handling :=
  match s.registry.get? id with
  | none => do
    .tell ⟨.hookRoute, .debug, "Webhook for unknown service", [("service_id", .text id)]⟩
    return .ofResponse (.empty 404)
  | some service => do
    match ← service.handleWebhook s.deliver w with
    | .ok pass => return ⟨.json 200 (countsText pass.report), pass.attempts, []⟩
    | .error e =>
      .tell ⟨.hookRoute, .warn, "Rejected webhook",
        [("service_id", .text id), ("status", .number e.status), ("error", .text e.message)]⟩
      return .ofResponse (.text e.status e.message)

/-- Shows a text to a service. -/
def consider (s : Server) (id : String) (text : Sighting) : Logged Handling := do
  match ← s.registry.expand s.lookup id text.room text.text with
  | .ok ⟨some message, lookups⟩ => return ⟨.json 200 message.json, [], lookups⟩
  | .ok ⟨none, lookups⟩ => return ⟨.empty 204, [], lookups⟩
  | .error (.serviceNotFound _) => return .ofResponse (.empty 404)
  | .error e => return .ofResponse (.text 500 e.message)

/-- Handles what is asked of a place. -/
def handle (s : Server) (r : Request) : Route → Logged Handling
  | .health => return .ofResponse (.json 200 (healthText s))
  | .hook encoded =>
    match serviceIdOf encoded, bodyOf r with
    | .error e, _ | .ok _, .error e => return .ofResponse e.response
    | .ok id, .ok body => receive s id (webhookOf r body)
  | .expand encoded =>
    match serviceIdOf encoded, sightingOf r with
    | .error e, _ | .ok _, .error e => return .ofResponse e.response
    | .ok id, .ok text => consider s id text

/-- Answers a request. What is refused before it is looked at at all is left out: a target of more than 65,534 bytes
(414), and more than a hundred headers or headers that are too long (431). -/
def answer (s : Server) (r : Request) : Logged Handling :=
  match targetPath? r.target, Text.ofBytes? r.method with
  | some path, some method =>
    if r.isWellFormed then
      match Route.ofPath? path with
      | none => return .ofResponse (.empty 404)
      | some route =>
        if method ∈ route.methods then do
          let h ← handle s r route
          return if method = "HEAD" then { h with response := h.response.withoutBody } else h
        else return .ofResponse (.notAllowed route.methods)
    else return .ofResponse (.empty 400)
  | _, _ => return .ofResponse (.empty 400)

end ForgeBridge.Http
