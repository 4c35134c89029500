import ForgeBridge.Net.Uri

/-!
The target of a request: most often a path with a query, but also a whole URL, the name of a server
alone, or an asterisk.
-/

namespace ForgeBridge.Http

open Net.Uri

/-- The path that a target asks for; none where the target cannot be understood. -/
def targetPath? (target : List UInt8) : Option (List Char) := do
  let cs := (← Text.ofBytes? target).toList
  match cs with
  | [] => none
  | '/' :: _ => pathOf? cs
  | ['*'] => some cs
  | _ =>
    match scheme? cs with
    | none =>
      let (_, rest) ← serverOf? cs
      if rest.isEmpty then some [] else none
    | some (scheme, rest) => pathBehind? scheme rest

end ForgeBridge.Http
