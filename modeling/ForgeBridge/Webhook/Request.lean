import ForgeBridge.Json.Failure

/-!
What a code forge sends when something happens in a repository, and how that can fail to be
understood.
-/

namespace ForgeBridge.Webhook

/-- The name of an event, the two signatures and the payload of one webhook delivery. -/
structure Request where
  event : Option String
  signature : Option String
  signature256 : Option String
  body : List UInt8

/-- Why a request gives no event. -/
inductive DecodeError where
  | missingSignature
  | badSignature
  | missingEvent
  | unsupportedEvent (name : String)
  | malformedPayload (error : Json.Error)
deriving DecidableEq

namespace DecodeError

/-- The status of the answer to the sender. -/
def status : DecodeError → Nat
  | .missingSignature | .badSignature => 403
  | .missingEvent | .unsupportedEvent _ | .malformedPayload _ => 400

/-- The words for the sender. -/
def message : DecodeError → String
  | .missingSignature => "Missing webhook signature"
  | .badSignature => "Webhook signature mismatch"
  | .missingEvent => "Missing X-GitHub-Event header"
  | .unsupportedEvent name => "Unsupported event type: " ++ name
  | .malformedPayload error => "Malformed webhook payload: " ++ error.message

/-- The words with the status. -/
def display (e : DecodeError) : String :=
  e.message ++ " (status " ++ toString e.status ++ ")"

end DecodeError

end ForgeBridge.Webhook
