import ForgeBridge.Log
import ForgeBridge.Net.Request
import ForgeBridge.Reference

/-!
What an issue tracker says about a reference, and what is made of it: whatever is no issue with a
title is logged and dropped.
-/

namespace ForgeBridge.Tracker

/-- What is shown of an issue or a pull request. -/
structure Summary where
  url : String
  title : String
deriving DecidableEq

/-- Why a lookup could not be completed. -/
inductive Error where
  | request (failure : Net.Failure)
  | unauthorized
  | rateLimited
  | status (code : Nat)
  | malformed (reason : String)
  | circuitOpen
deriving DecidableEq

def Error.message : Error → String
  | .request failure => failure.message
  | .unauthorized => "GitHub API rejected credentials"
  | .rateLimited => "GitHub API rate limit exceeded"
  | .status code => "GitHub API returned " ++ toString code
  | .malformed reason => "malformed GitHub API response: " ++ reason
  | .circuitOpen => "circuit breaker open"

inductive Resolution where
  | resolved (summary : Summary)
  /-- The tracker answered, but there is no such item. -/
  | absent
  | failed (error : Error)
deriving DecidableEq

/-- Something that knows issues. -/
abbrev Lookup := Reference → Resolution

/-- Asks for an issue, and keeps account of it. -/
def Lookup.ask (lookup : Lookup) (r : Reference) : Resolution × List Reference := (lookup r, [r])

/-- A reference in the fields of a log event. -/
def fields (r : Reference) : List (String × Log.Value) :=
  [("owner", .text r.owner), ("repo", .text r.repo), ("number", .number r.number.toNat)]

/-- The summary of a resolution, if it has one. -/
def Resolution.summary? (r : Reference) : Resolution → Logged (Option Summary)
  | .resolved summary => return some summary
  | .absent => do
    .tell ⟨.resolver, .debug, "Referenced issue does not exist", fields r⟩
    return none
  | .failed e => do
    .tell ⟨.resolver, .warn, "Failed to fetch issue", ("error", .text e.message) :: fields r⟩
    return none

end ForgeBridge.Tracker
