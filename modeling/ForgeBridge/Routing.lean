import ForgeBridge.Delivery
import ForgeBridge.Log
import ForgeBridge.Subscriptions
import ForgeBridge.Webhook.Event

/-!
Sending an event to the rooms that want it. The deliveries of a pass run side by side and end in any
order; each ends on its own account, and the report lists them in the order of the rooms.
-/

namespace ForgeBridge.Routing

open Webhook (Event)

/-- What came of a pass: the rooms that the message reached, and those it did not with the
reasons. -/
structure Report where
  delivered : List String
  failed : List (String × DeliveryError)
deriving DecidableEq

/-- The number of rooms a delivery was attempted for. -/
def Report.attempted (r : Report) : Nat := r.delivered.length + r.failed.length

/-- A pass under way: the rooms that the message goes to, and what is known of them. -/
structure Pass where
  message : Message
  rooms : List String
  outcomes : List (String × Outcome)

namespace Pass

/-- A pass of which all deliveries are under way. -/
def start (table : Subscriptions) (e : Event) : Pass := ⟨e.message, table.roomsFor e.eventType, []⟩

/-- The deliveries that are attempted. -/
def attempts (p : Pass) : List (String × Message) := p.rooms.map (·, p.message)

/-- What is known of a room. -/
def outcome? (p : Pass) (room : String) : Option Outcome := p.outcomes.lookup room

/-- One delivery ends. The first end of a delivery counts. -/
def complete (p : Pass) (room : String) (o : Outcome) : Pass :=
  if room ∈ p.rooms ∧ p.outcome? room = none then
    { p with outcomes := (room, o) :: p.outcomes }
  else p

/-- Deliveries end one after the other. -/
def completeAll (p : Pass) (ends : List (String × Outcome)) : Pass :=
  ends.foldl (fun p e => p.complete e.1 e.2) p

/-- Whether all deliveries have ended. -/
def isDone (p : Pass) : Bool := p.rooms.all fun room => (p.outcome? room).isSome

/-- The report of the deliveries that have ended. -/
def report (p : Pass) : Report where
  delivered := p.rooms.filter fun room =>
    match p.outcome? room with
    | some (.ok ()) => true
    | _ => false
  failed := p.rooms.filterMap fun room =>
    match p.outcome? room with
    | some (.error e) => some (room, e)
    | _ => none

end Pass

/-! ## What is logged -/

def sending (e : Event) (room : String) : Log.Event :=
  ⟨.router, .info, "Sending notification to room",
    [("event_type", .text e.eventType), ("repo", .text e.repository), ("room_id", .text room)]⟩

def notSent (room : String) (e : DeliveryError) : Log.Event :=
  ⟨.router, .warn, "Failed to send notification to room",
    [("error", .text e.message), ("room_id", .text room)]⟩

/-- What a pass logs: each delivery as it starts, and each failure once all have ended. -/
def log (e : Event) (p : Pass) : List Log.Event :=
  p.rooms.map (sending e) ++ p.report.failed.map fun (room, error) => notSent room error

/-- Routes an event, given what comes of each delivery: a pass that is done. -/
def route (deliver : String → Message → Outcome) (table : Subscriptions) (e : Event) :
    Logged Pass :=
  let p := Pass.start table e
  let p := p.completeAll (p.rooms.map fun room => (room, deliver room e.message))
  ⟨p, log e p⟩

end ForgeBridge.Routing
