import ForgeBridge.Net.Uri

/-!
Requests to other servers, and how they can fail before an answer comes.
-/

namespace ForgeBridge.Net

/-- A request as it is sent. -/
structure Request where
  method : String
  /-- The URL that it is made from. A user in it goes out as a header of its own. -/
  url : Url
  headers : List (String × String)
  body : List UInt8
deriving DecidableEq

/-- The name the bridge gives itself in requests. -/
def userAgent : String := "waddle-github-bridge/0.1.0"

/-- A request that got no answer. -/
structure Failure where
  /-- Whether the time limit ran out. -/
  timedOut : Bool
  /-- The words for what went wrong. -/
  reason : String
deriving DecidableEq

/-- What is told of a request that could not even be built. -/
def Failure.unbuilt : Failure := ⟨false, "builder error"⟩

def Failure.message (f : Failure) : String := "request failed: " ++ f.reason

/-- Whether text can be the value of a header: it holds no controls but the tab. -/
def isHeaderValue (s : String) : Bool := s.toList.all fun c => c = '\t' || ' ' ≤ c && c ≠ '\x7f'

/-- The header that shows a token. -/
def authorization (token : String) : String × String := ("authorization", "Bearer " ++ token)

/-- The URL of a request: one that can be reached through the web. -/
def webUrl? (text : String) : Option Url :=
  match Url.parse text with
  | .ok u => if u.isWeb then some u else none
  | .error _ => none

/-- Whether percent encoded bytes are a text. -/
def isEncodedText (s : String) : Bool := (Text.ofBytes? (Url.percentDecode (Text.bytes s))).isSome

/-- A URL without its user. A name that is no text stays, and so does a password that is none if it
stands alone. -/
def withoutUser (u : Url) : Url :=
  if isEncodedText u.username && (u.username ≠ "" || u.password.any isEncodedText) then
    { u with username := "", password := none }
  else u

/-- Whether a request for a URL can be built: without its user it must be an address. -/
def isAddress (u : Url) : Bool := Uri.isAddress (withoutUser u).display

/-- What comes of a request: the status and the text of the answer, or no answer. -/
inductive Answer where
  | failed (failure : Failure)
  | status (code : Nat) (body : String)
deriving DecidableEq

/-- Whether a status says that all is well. -/
def isSuccess (status : Nat) : Bool := 200 ≤ status && status < 300

end ForgeBridge.Net
