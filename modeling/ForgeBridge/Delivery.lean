import ForgeBridge.Net.Request

/-!
Delivery of a message to one room, and how it can fail.
-/

namespace ForgeBridge

inductive DeliveryError where
  | request (failure : Net.Failure)
  /-- The homeserver refused. -/
  | status (code : Nat) (body : String)
  | invalidRoom (room : String)
  | other (message : String)
deriving DecidableEq

def DeliveryError.message : DeliveryError → String
  | .request failure => failure.message
  | .status code body => "homeserver returned " ++ toString code ++ ": " ++ body
  | .invalidRoom room => "invalid room id: " ++ room
  | .other message => message

/-- What came of a delivery. -/
abbrev Outcome := Except DeliveryError Unit

end ForgeBridge
