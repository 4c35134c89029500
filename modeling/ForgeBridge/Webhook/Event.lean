import ForgeBridge.Message
import ForgeBridge.Webhook.Payload
import ForgeBridge.Webhook.Signature

/-!
Events: what a webhook request amounts to once its signature is checked and its payload is read.
-/

namespace ForgeBridge.Webhook

/-- An event, ready to be sent to the rooms that want it. -/
structure Event where
  eventType : String
  repository : String
  message : Message
deriving DecidableEq

namespace Event

/-- The event of a payload. -/
def ofPayload (kind : Kind) (p : Payload) : Event :=
  ⟨kind.eventType, p.repository, .notice p.notice⟩

/-- The event of a request whose signature does not matter. -/
def ofUnsigned (r : Request) : Except DecodeError Event :=
  match r.event.filter (· ≠ "") with
  | none => .error .missingEvent
  | some name =>
    match Kind.ofName? name with
    | none => .error (.unsupportedEvent name)
    | some kind =>
      match Payload.ofJson kind r.body with
      | .error e => .error (.malformedPayload e)
      | .ok p => .ok (ofPayload kind p)

/-- The event of a request. With a secret that is not empty, the signature is checked before all
else. -/
def ofRequest (r : Request) (secret : Option String) : Except DecodeError Event :=
  match secret.filter (· ≠ "") with
  | none => ofUnsigned r
  | some secret =>
    match r.verify secret with
    | .error e => .error e
    | .ok () => ofUnsigned r

end Event

end ForgeBridge.Webhook
