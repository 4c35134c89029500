import ForgeBridge.Service.Basic

/-!
A service in use: any number of webhook calls are under way at the same time, their steps come in any
order, and in between the table of rooms is replaced and looked at. A call decodes its request, then takes
the table as it stands, and then starts and ends the delivery to each room on its own.
-/

namespace ForgeBridge.Service

/-- How far a webhook call is. -/
inductive Stage where
  /-- The request has come, and is still to be decoded. -/
  | arrived (request : Webhook.Request)
  /-- The request was decoded, and the table is still to be taken. -/
  | decoded (event : Webhook.Event)
  /-- The deliveries of a pass are under way. Those to `begun` have been started. -/
  | routing (pass : Routing.Pass) (begun : List String)
  | answered (result : Except Webhook.DecodeError Routing.Pass)

/-- A step of a webhook call. -/
inductive Move where
  /-- The request is decoded. -/
  | decoded
  /-- The table is taken as it stands. -/
  | taken
  /-- The delivery to a room starts. -/
  | begun (room : String)
  /-- The delivery to a room ends. -/
  | ended (room : String) (outcome : Outcome)

namespace Stage

/-- The stage of a pass: it is over when all its deliveries are. -/
def ofPass (p : Routing.Pass) (begun : List String) : Stage :=
  if p.isDone then .answered (.ok p) else .routing p begun

/-- What becomes of a call of a service, and the delivery that is attempted by it. A step that does not
fit the stage of the call changes nothing. -/
def step (s : Service) (stage : Stage) (m : Move) : Stage × Option (String × Message) :=
  match stage, m with
  | .arrived request, .decoded =>
    match Webhook.Event.ofRequest request s.webhookSecret with
    | .error e => (.answered (.error e), none)
    | .ok event => (.decoded event, none)
  | .decoded event, .taken => (ofPass (.start s.subscriptions event) [], none)
  | .routing pass begun, .begun room =>
    if room ∈ pass.rooms ∧ room ∉ begun then
      (.routing pass (room :: begun), some (room, pass.message))
    else (.routing pass begun, none)
  | .routing pass begun, .ended room outcome =>
    if room ∈ begun then (ofPass (pass.complete room outcome) begun, none)
    else (.routing pass begun, none)
  | stage, _ => (stage, none)

end Stage

/-- A service and its calls, numbered in the order in which they came. -/
structure Live where
  service : Service
  calls : List Stage

/-- What can happen. -/
inductive Happening where
  /-- A new call comes. -/
  | called (request : Webhook.Request)
  /-- A call does a step. -/
  | moved (call : Nat) (move : Move)
  | replaced (table : Subscriptions)
  /-- Someone takes a snapshot of the table. -/
  | copied
  /-- Someone asks for the known rooms. -/
  | listed

/-- What can be seen of a happening from outside. -/
inductive Sight where
  /-- A delivery is attempted for a call. -/
  | attempt (call : Nat) (room : String) (message : Message)
  | snapshot (table : Subscriptions)
  | rooms (ids : List String)
deriving DecidableEq

namespace Live

def ofService (s : Service) : Live := ⟨s, []⟩

/-- The stage of a call. -/
def stage? (l : Live) (call : Nat) : Option Stage := l.calls[call]?

/-- What becomes of a service, and what can be seen of it. -/
def step (l : Live) : Happening → Live × Option Sight
  | .called request => ({ l with calls := l.calls ++ [.arrived request] }, none)
  | .moved call m =>
    match l.stage? call with
    | none => (l, none)
    | some stage =>
      let (stage, attempt) := stage.step l.service m
      ({ l with calls := l.calls.set call stage },
        attempt.map fun (room, message) => .attempt call room message)
  | .replaced table => ({ l with service := (l.service.replaceSubscriptions table).value }, none)
  | .copied => (l, some (.snapshot l.service.subscriptions))
  | .listed => (l, some (.rooms l.service.roomIds))

/-- A service after a happening. -/
def next (l : Live) (h : Happening) : Live := (l.step h).1

/-- What can be seen of a happening. -/
def sight? (l : Live) (h : Happening) : Option Sight := (l.step h).2

/-- A service after one thing happened after the other. -/
def run (l : Live) (hs : List Happening) : Live := hs.foldl next l

end Live

end ForgeBridge.Service
