/-!
A circuit breaker: after too many failures in a row no request goes out for a while. Then one trial
request may go, and what comes of it decides; a trial that never reports makes room for another one
after the same while. Times are in nanoseconds of a clock that never goes back.
-/

namespace ForgeBridge.Tracker

structure Breaker where
  /-- The failures since the last success. -/
  failures : Nat
  /-- When the breaker opened, or when a failure last kept it open. -/
  openedAt : Option Nat
  /-- When the trial request went out. -/
  trialAt : Option Nat
deriving DecidableEq

namespace Breaker

/-- How many failures in a row open the breaker. -/
def threshold : Nat := 5

/-- How long the breaker stays open, and how long a trial may take: 60 seconds. -/
def cooldown : Nat := 60 * 1000000000

def closed : Breaker := ⟨0, none, none⟩

/-- Whether a time has come that is more than the cooldown after another. -/
def isPast (now since : Nat) : Bool := cooldown < now - since

/-- Whether a request may go out now. -/
def allows (b : Breaker) (now : Nat) : Bool :=
  match b.openedAt with
  | none => true
  | some openedAt => isPast now openedAt && b.trialAt.all (isPast now)

/-- A request goes out, if it may. While the breaker is open, it is the trial. -/
def grant (b : Breaker) (now : Nat) : Bool × Breaker :=
  if b.allows now then (true, if b.openedAt.isSome then { b with trialAt := some now } else b)
  else (false, b)

/-- A request succeeded. -/
def succeed (_ : Breaker) : Breaker := closed

/-- A request failed. -/
def fail (b : Breaker) (now : Nat) : Breaker :=
  let failures := b.failures + 1
  ⟨failures, if threshold ≤ failures then some now else b.openedAt, none⟩

/-- Whether one more failure opens the breaker. -/
def isAboutToOpen (b : Breaker) : Bool := threshold ≤ b.failures + 1 && b.openedAt.isNone

end Breaker

end ForgeBridge.Tracker
