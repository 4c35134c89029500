import ForgeBridge.Service.Registry

/-!
A registry in use: any number of calls are under way at the same time, and their steps come in any order.
The live services are held in shards, each with a lock of its own. A registration holds the lock of its id
from the moment when it finds the id free until its service is made and taken in, or cannot be made; whoever
needs that shard waits. The ids, and their number, are found by going through the shards one after the other.
-/

namespace ForgeBridge.Registry

/-- How the ids are spread over the shards. -/
structure Sharding where
  count : Nat
  shardOf : String → Nat
  shardOf_lt : ∀ id, shardOf id < count

/-- A service, and the call in which it was made: each call makes one of its own. -/
structure Instance where
  service : Service
  maker : Nat
deriving DecidableEq

/-- What can be asked of a registry. -/
inductive Operation where
  | register (c : ServiceConfig)
  | deregister (id : String)
  | get (id : String)
  | serviceIds
  | size

/-- What is answered to an operation. -/
inductive Answer where
  | registered (c : ServiceConfig) (result : Except BridgeError Instance)
  | deregistered (id : String) (removed : Option Instance)
  | got (id : String) (found : Option Instance)
  | listed (ids : List String)
  | counted (n : Nat)

/-- How far a call is. -/
inductive Stage where
  | asked (op : Operation)
  /-- The service is being made, and the shard of its id is locked. -/
  | making (c : ServiceConfig) (factory : Factory)
  /-- The shards are gone through from this one on. A count needs no more than how many ids were seen. -/
  | visiting (counts : Bool) (shard : Nat) (seen : List String)
  | answered (a : Answer)

/-- Whether a call holds the lock of a shard. -/
def Stage.holds (sharding : Sharding) (shard : Nat) : Stage → Bool
  | .making c _ => sharding.shardOf c.id = shard
  | _ => false

/-- A registry and its calls, numbered in the order in which they came. How a service of a type is made may
differ from call to call. -/
structure Shared where
  sharding : Sharding
  factories : Keyed (Nat → Factory)
  services : Keyed Instance
  calls : List Stage

/-- What can happen. -/
inductive Happening where
  /-- A new call comes. -/
  | called (op : Operation)
  /-- A call does its next step. -/
  | moved (call : Nat)

namespace Shared

/-- A registry without services and calls. -/
def start (sharding : Sharding) (factories : Keyed (Nat → Factory)) : Shared :=
  ⟨sharding, factories, .empty, []⟩

def stage? (s : Shared) (call : Nat) : Option Stage := s.calls[call]?

/-- Whether a shard is locked. -/
def isHeld (s : Shared) (shard : Nat) : Bool := s.calls.any (·.holds s.sharding shard)

/-- Whether the shard of an id is locked. -/
def isBusy (s : Shared) (id : String) : Bool := s.isHeld (s.sharding.shardOf id)

/-- The ids in a shard. -/
def idsIn (s : Shared) (shard : Nat) : List String :=
  s.services.keys.filter fun id => s.sharding.shardOf id = shard

/-- A call has got to a stage. -/
def advance (s : Shared) (call : Nat) (stage : Stage) : Shared :=
  { s with calls := s.calls.set call stage }

/-- A call is answered. -/
def finish (s : Shared) (call : Nat) (a : Answer) : Shared × Option Answer :=
  (s.advance call (.answered a), some a)

/-- The first step of a registration: it is refused, or its service is to be made. -/
def enter (s : Shared) (call : Nat) (c : ServiceConfig) : Shared × Option Answer :=
  match s.factories.get? c.type with
  | none => s.finish call (.registered c (.error (.unknownServiceType c.type)))
  | some factory =>
    if s.isBusy c.id then (s, none)
    else
      match s.services.get? c.id with
      | some _ => s.finish call (.registered c (.error (.duplicateService c.id)))
      | none => (s.advance call (.making c (factory call)), none)

/-- The second step of a registration: its service is made and taken in, or cannot be made. -/
def make (s : Shared) (call : Nat) (c : ServiceConfig) (factory : Factory) :
    Logged (Shared × Option Answer) := do
  match ← factory c with
  | .error e => return s.finish call (.registered c (.error e))
  | .ok service =>
    .tell ⟨.service, .info, "Registered service",
      [("service_id", .text c.id), ("service_type", .text c.type),
        ("rooms", .number service.roomIds.length)]⟩
    let taken := { s with services := s.services.insert c.id ⟨service, call⟩ }
    return taken.finish call (.registered c (.ok ⟨service, call⟩))

/-- A service is taken out. -/
def remove (s : Shared) (call : Nat) (id : String) : Logged (Shared × Option Answer) :=
  if s.isBusy id then return (s, none)
  else
    match s.services.get? id with
    | none => return s.finish call (.deregistered id none)
    | some removed => do
      .tell ⟨.service, .info, "Deregistered service", [("service_id", .text id)]⟩
      let left := { s with services := s.services.erase id }
      return left.finish call (.deregistered id (some removed))

/-- A service is looked up. -/
def look (s : Shared) (call : Nat) (id : String) : Shared × Option Answer :=
  if s.isBusy id then (s, none) else s.finish call (.got id (s.services.get? id))

/-- The ids in a shard are seen. Behind the last one all have been. -/
def visit (s : Shared) (call : Nat) (counts : Bool) (shard : Nat) (seen : List String) :
    Shared × Option Answer :=
  if shard < s.sharding.count then
    if s.isHeld shard then (s, none)
    else (s.advance call (.visiting counts (shard + 1) (seen ++ s.idsIn shard)), none)
  else s.finish call (if counts then .counted seen.length else .listed seen)

/-- The next step of a call, and the answer that it gets by it. A call that waits for a lock or is over does
nothing. -/
def move (s : Shared) (call : Nat) : Logged (Shared × Option Answer) :=
  match s.stage? call with
  | some (.asked (.register c)) => return s.enter call c
  | some (.asked (.deregister id)) => s.remove call id
  | some (.asked (.get id)) => return s.look call id
  | some (.asked .serviceIds) => return (s.advance call (.visiting false 0 []), none)
  | some (.asked .size) => return (s.advance call (.visiting true 0 []), none)
  | some (.making c factory) => s.make call c factory
  | some (.visiting counts shard seen) => return s.visit call counts shard seen
  | some (.answered _) => return (s, none)
  | none => return (s, none)

/-- What becomes of a registry, and the answer that a call gets by it. -/
def step (s : Shared) : Happening → Logged (Shared × Option Answer)
  | .called op => return ({ s with calls := s.calls ++ [.asked op] }, none)
  | .moved call => s.move call

/-- A registry after a happening. -/
def next (s : Shared) (h : Happening) : Shared := (s.step h).value.1

/-- The answer that is given in a happening. -/
def answer? (s : Shared) (h : Happening) : Option Answer := (s.step h).value.2

/-- A registry after one thing happened after the other. -/
def run (s : Shared) (hs : List Happening) : Shared := hs.foldl next s

/-- The answers that are given one after the other. -/
def answers (s : Shared) : List Happening → List Answer
  | [] => []
  | h :: hs => (s.answer? h).toList ++ (s.next h).answers hs

end Shared

end ForgeBridge.Registry
