import ForgeBridge.Delivery
import ForgeBridge.Log
import ForgeBridge.Message

/-!
The account on a homeserver through which messages reach their rooms. A message is put under an
address of its own: the room and the number of the transaction are each one segment of its path.
-/

namespace ForgeBridge

structure Homeserver where
  url : Url
  token : String
deriving DecidableEq

namespace Homeserver

/-- The account that a token opens on the homeserver at an address. -/
def ofText (address token : String) : Except Url.Error Homeserver :=
  (Url.parse address).map (⟨·, token⟩)

/-- The segments that lead to a message in a room, below the address of the homeserver. -/
def segments (room transaction : String) : List String :=
  ["_matrix", "client", "r0", "rooms", room, "send", "m.room.message", transaction]

/-- The address under which a message is put. An address that nothing can be added to leads to no
room. -/
def sendUrl (h : Homeserver) (room transaction : String) : Except DeliveryError Url :=
  match h.url.path with
  | .flat _ => .error (.invalidRoom room)
  | .segments base =>
    let kind := Url.kindOf h.url.scheme
    let path := (segments room transaction).foldl (fun path s => Url.Path.extend kind path s.toList)
      (Url.Path.popIfEmpty base)
    .ok { h.url with path := .segments path }

/-- The request that puts a message. -/
def request (h : Homeserver) (room transaction : String) (m : Message) :
    Except DeliveryError Net.Request :=
  match h.sendUrl room transaction with
  | .error e => .error e
  | .ok url =>
    if url.isWeb && Net.isAddress url && Net.isHeaderValue h.token then
      .ok {
        method := "PUT"
        url := url
        headers := [Net.authorization h.token, ("content-type", "application/json"),
          ("accept", "*/*"), ("user-agent", Net.userAgent)]
        body := m.json }
    else .error (.request .unbuilt)

/-- What an answer says about the delivery. -/
def outcome : Net.Answer → Outcome
  | .failed f => .error (.request f)
  | .status code body => if Net.isSuccess code then .ok () else .error (.status code body)

/-- What is logged of a delivery that went well. -/
def delivered (room transaction : String) : Log.Event :=
  ⟨.transport, .debug, "Delivered message to room",
    [("room_id", .text room), ("txn_id", .text transaction)]⟩

/-- Delivers a message, given what comes of requests. -/
def deliver (h : Homeserver) (send : Net.Request → Net.Answer) (room transaction : String)
    (m : Message) : Logged Outcome :=
  match h.request room transaction m with
  | .error e => return .error e
  | .ok r =>
    match outcome (send r) with
    | .error e => return .error e
    | .ok () => do
      .tell (delivered room transaction)
      return .ok ()

end Homeserver

end ForgeBridge
