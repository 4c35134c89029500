import ForgeBridge.Message
import ForgeBridge.Tracker.Resolution

/-!
Expansion of a reference in a chat text: a notice with the address and the title of the first issue
the text refers to. When the issue is not found, nothing is said.
-/

namespace ForgeBridge.Expansion

/-- The notice about an issue. -/
def noticeOf (s : Tracker.Summary) : Message := .notice (s.url ++ " : " ++ s.title)

/-- What a text expands to, with the references that were looked up. -/
structure Result where
  message : Option Message
  lookups : List Reference
deriving DecidableEq

/-- Looks a reference up. -/
def resolve (lookup : Tracker.Lookup) (r : Reference) :
    Logged (Option Tracker.Summary × List Reference) := do
  let (resolution, asked) := lookup.ask r
  let summary ← resolution.summary? r
  return (summary, asked)

/-- Expands the first reference of a text. -/
def expand (lookup : Tracker.Lookup) (text : String) : Logged Result :=
  match Reference.findFirst text with
  | none => return ⟨none, []⟩
  | some r => do
    .tell ⟨.expansion, .debug, "Expanding issue reference", [("reference", .text r.display)]⟩
    let (summary, asked) ← resolve lookup r
    return ⟨summary.map noticeOf, asked⟩

/-- A kind of text that a service wants to see. -/
structure Pattern where
  text : String
  isIn : String → Bool

/-- Texts that mention an issue. -/
def issueReferences : Pattern := ⟨Reference.pattern, Reference.mentionedIn⟩

end ForgeBridge.Expansion
