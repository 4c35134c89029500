import ForgeBridge.Tracker.Client

/-!
A client in use: any number of fetches are under way at the same time, their requests are answered,
fail or are given up in any order, and time passes in between. A fetch looks into the cache and asks
the breaker one after the other, so that something else may happen between the two.
-/

namespace ForgeBridge.Tracker

/-- How far a fetch is. -/
inductive Phase where
  /-- The cache could not answer, and the breaker is still to be asked. -/
  | missed
  /-- The head of the answer is still to come. -/
  | waiting
  /-- A success was announced, and its body is still to come. -/
  | reading
deriving DecidableEq

/-- A fetch that is under way. -/
structure Flight where
  reference : Reference
  phase : Phase
deriving DecidableEq

/-- A client, the time, and the fetches that are under way by their numbers. -/
structure Session where
  client : Client
  now : Nat
  flights : List (Nat × Flight)
deriving DecidableEq

/-- What can happen. -/
inductive Happening where
  /-- A fetch starts under a new number and looks into the cache. -/
  | looked (id : Nat) (reference : Reference)
  /-- A fetch that the cache could not answer asks the breaker. -/
  | asked (id : Nat)
  /-- A fetch starts under a new number, and nothing comes between its first two steps. -/
  | fetch (id : Nat) (reference : Reference)
  /-- A request fails before the head of an answer. -/
  | broken (id : Nat) (failure : Net.Failure)
  | head (id status : Nat)
  /-- A body arrives, or breaks off. -/
  | body (id : Nat) (content : Option (List UInt8))
  /-- A fetch is given up. -/
  | cancelled (id : Nat)
  | passed (nanoseconds : Nat)
deriving DecidableEq

namespace Session

def ofClient (c : Client) : Session := ⟨c, 0, []⟩

def flight? (s : Session) (id : Nat) : Option Flight := s.flights.lookup id

/-- A session in which a fetch is over. -/
def land (s : Session) (id : Nat) : Session :=
  { s with flights := s.flights.filter (·.1 ≠ id) }

/-- A session in which a fetch has got to a phase. -/
def advance (s : Session) (id : Nat) (f : Flight) : Session :=
  { s with flights := (id, f) :: (s.land id).flights }

/-- The first step of a fetch: it is answered from the cache, or under way. -/
def look (s : Session) (id : Nat) (reference : Reference) :
    Logged (Session × Option (Nat × Resolution)) := do
  let (client, answer) ← s.client.look s.now reference
  let s := { s with client := client }
  match answer with
  | some resolution => return (s, some (id, resolution))
  | none => return (s.advance id ⟨reference, .missed⟩, none)

/-- The second step of a fetch: it is refused, or its request is on the way. -/
def ask (s : Session) (id : Nat) (reference : Reference) :
    Logged (Session × Option (Nat × Resolution)) := do
  let (client, started) ← s.client.ask s.now reference
  let s := { s with client := client }
  match started with
  | .answered resolution => return (s.land id, some (id, resolution))
  | .sent _ => return (s.advance id ⟨reference, .waiting⟩, none)

/-- What becomes of a session, and the answer that a fetch gets by it. A happening that does not fit
the phase of its fetch changes nothing. -/
def step (s : Session) : Happening → Logged (Session × Option (Nat × Resolution))
  | .passed nanoseconds => return ({ s with now := s.now + nanoseconds }, none)
  | .cancelled id => return (s.land id, none)
  | .looked id reference =>
    if (s.flight? id).isSome then return (s, none) else s.look id reference
  | .asked id =>
    match s.flight? id with
    | some ⟨reference, .missed⟩ => s.ask id reference
    | _ => return (s, none)
  | .fetch id reference =>
    if (s.flight? id).isSome then return (s, none)
    else do
      let (s, answer) ← s.look id reference
      match answer with
      | some answer => return (s, some answer)
      | none => s.ask id reference
  | .broken id failure =>
    match s.flight? id with
    | some ⟨_, .waiting⟩ => do
      let (client, resolution) ← s.client.failWith s.now (.request failure)
      return ({ s.land id with client := client }, some (id, resolution))
    | _ => return (s, none)
  | .head id status =>
    match s.flight? id with
    | some ⟨reference, .waiting⟩ => do
      let (client, answer) ← s.client.takeHead s.now status
      let s := { s with client := client }
      match answer with
      | some resolution => return (s.land id, some (id, resolution))
      | none => return (s.advance id ⟨reference, .reading⟩, none)
    | _ => return (s, none)
  | .body id content =>
    match s.flight? id with
    | some ⟨reference, .reading⟩ =>
      let (client, resolution) := s.client.takeBody s.now reference content
      return ({ s.land id with client := client }, some (id, resolution))
    | _ => return (s, none)

/-- A session after a happening. -/
def next (s : Session) (h : Happening) : Session := (s.step h).value.1

/-- The answer that is given by a happening, with the number of its fetch. -/
def answer? (s : Session) (h : Happening) : Option (Nat × Resolution) := (s.step h).value.2

/-- A session after one thing happened after the other. -/
def run (s : Session) (hs : List Happening) : Session := hs.foldl next s

end Session

end ForgeBridge.Tracker
