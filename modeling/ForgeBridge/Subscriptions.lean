import ForgeBridge.Keyed
import ForgeBridge.Shape

/-!
Which rooms want to hear about which types of events. A room may be known and want nothing.
-/

namespace ForgeBridge

/-- For each known room, the types of events it wants. -/
structure Subscriptions where
  rooms : Keyed Names
deriving DecidableEq

namespace Subscriptions

def empty : Subscriptions := ⟨.empty⟩

/-- The types of events a room wants, when it is known. -/
def eventTypes (t : Subscriptions) (room : String) : Option Names := t.rooms.get? room

/-- Whether a room wants events of a type. -/
def isSubscribed (t : Subscriptions) (room event : String) : Bool :=
  (t.eventTypes room).any (·.contains event)

/-- The known rooms. -/
def roomIds (t : Subscriptions) : List String := t.rooms.keys

/-- The rooms that want events of a type. -/
def roomsFor (t : Subscriptions) (event : String) : List String :=
  (t.rooms.entries.filter fun e => e.2.contains event).map (·.1)

/-- The number of known rooms. -/
def size (t : Subscriptions) : Nat := t.rooms.size

/-- A room wants exactly these types from now on. -/
def setRoom (t : Subscriptions) (room : String) (events : List String) : Subscriptions :=
  ⟨t.rooms.insert room (.ofList events)⟩

/-- A room is known no longer. -/
def removeRoom (t : Subscriptions) (room : String) : Subscriptions := ⟨t.rooms.erase room⟩

/-- A room, known or new, wants one type more. -/
def subscribe (t : Subscriptions) (room event : String) : Subscriptions :=
  ⟨t.rooms.insert room (((t.rooms.get? room).getD .empty).insert event ())⟩

/-- A known room wants one type less; it stays known. -/
def unsubscribe (t : Subscriptions) (room event : String) : Subscriptions :=
  match t.rooms.get? room with
  | none => t
  | some events => ⟨t.rooms.insert room (events.erase event)⟩

/-- A later entry for a room takes the place of an earlier one. -/
def ofList (entries : List (String × List String)) : Subscriptions :=
  entries.foldl (fun t e => t.setRoom e.1 e.2) empty

/-- As text, a table holds a list of types under each room. -/
def shape : Shape := .table (.list .text)

def ofShape (entries : shape.Val) : Subscriptions := ofList entries

end Subscriptions

end ForgeBridge
