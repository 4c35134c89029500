import ForgeBridge.Json.Reader
import ForgeBridge.Tracker.Breaker
import ForgeBridge.Tracker.Cache

/-!
A client of an issue tracker. A fetch is answered from the cache, or refused while the breaker is
open, or sends a request. The head of the answer is reported to the breaker: success, and that there
is no such issue, are good; everything else is a failure. What the body holds concerns the cache
alone.
-/

namespace ForgeBridge.Tracker

structure Client where
  apiBase : String
  token : Option String
  cache : Cache
  breaker : Breaker
deriving DecidableEq

namespace Client

/-- The public tracker. -/
def publicApi : String := "https://api.github.com"

/-- A text without the slashes at its end. -/
def trimSlashes (s : String) : String := .ofList ((s.toList.reverse.dropWhile (· = '/')).reverse)

/-- A client that has not fetched anything yet. An empty token is none. -/
def new (apiBase : String) (token : Option String) : Logged Client :=
  let token := token.filter (· ≠ "")
  ⟨⟨trimSlashes apiBase, token, .empty, .closed⟩,
    [⟨.client, .debug,
      if token.isSome then "GitHub client initialized with token authentication"
      else "GitHub client initialized without token (60 req/hr limit)", []⟩]⟩

def isAuthenticated (c : Client) : Bool := c.token.isSome

/-- The name of an issue in the cache. -/
def key (r : Reference) : String := r.owner ++ "/" ++ r.repo ++ "/" ++ toString r.number.toNat

/-- The address of an issue. -/
def urlText (c : Client) (r : Reference) : String :=
  c.apiBase ++ "/repos/" ++ r.owner ++ "/" ++ r.repo ++ "/issues/" ++ toString r.number.toNat

/-- The request for an issue; none if it cannot be built. -/
def request? (c : Client) (r : Reference) : Option Net.Request := do
  let url ← Net.webUrl? (c.urlText r)
  if !Net.isAddress url || c.token.any (!Net.isHeaderValue ·) then none
  return {
    method := "GET"
    url := url
    headers := (c.token.map Net.authorization).toList ++
      [("accept", "application/vnd.github.v3+json"), ("user-agent", Net.userAgent)]
    body := [] }

/-- How a fetch starts. -/
inductive Start where
  /-- It is over. -/
  | answered (resolution : Resolution)
  /-- Its request is on the way. -/
  | sent (request : Net.Request)
deriving DecidableEq

/-- Reports a failure to the breaker. -/
def reportFailure (c : Client) (now : Nat) : Logged Client :=
  ⟨{ c with breaker := c.breaker.fail now },
    if c.breaker.isAboutToOpen then
      [⟨.client, .warn, "GitHub API circuit breaker opened",
        [("threshold", .number Breaker.threshold), ("cooldown_secs", .number 60)]⟩]
    else []⟩

/-- Reports a success to the breaker. -/
def reportSuccess (c : Client) : Client := { c with breaker := c.breaker.succeed }

/-- A fetch fails, and the breaker hears of it. -/
def failWith (c : Client) (now : Nat) (e : Error) : Logged (Client × Resolution) := do
  let c ← c.reportFailure now
  return (c, .failed e)

/-- Looks into the cache for a fetch. -/
def look (c : Client) (now : Nat) (r : Reference) : Logged (Client × Option Resolution) :=
  match c.cache.serve now (key r) with
  | (some summary, cache) => do
    .tell ⟨.client, .debug, "GitHub issue cache hit", [("issue", .text (key r))]⟩
    return ({ c with cache := cache }, some (.resolved summary))
  -- an entry that is too old is gone, whatever the breaker says
  | (none, cache) => return ({ c with cache := cache }, none)

/-- Asks the breaker for a fetch that the cache could not answer. -/
def ask (c : Client) (now : Nat) (r : Reference) : Logged (Client × Start) :=
  match c.breaker.grant now with
  | (false, _) => do
    .tell ⟨.client, .debug, "GitHub circuit breaker open, skipping issue fetch", []⟩
    return (c, .answered (.failed .circuitOpen))
  | (true, breaker) =>
    let c := { c with breaker := breaker }
    match c.request? r with
    | some request => return (c, .sent request)
    | none => do
      let (c, resolution) ← c.failWith now (.request .unbuilt)
      return (c, .answered resolution)

/-- The error of a status that is neither success nor says that there is no such issue. -/
def errorOf (status : Nat) : Error :=
  if status = 401 then .unauthorized
  else if status = 403 ∨ status = 429 then .rateLimited
  else .status status

/-- The head of the last answer to a request arrives. After a success the body is still to come. -/
def takeHead (c : Client) (now status : Nat) : Logged (Client × Option Resolution) :=
  if Net.isSuccess status then return (c.reportSuccess, none)
  else if status = 404 ∨ status = 410 then return (c.reportSuccess, some .absent)
  else do
    let (c, resolution) ← c.failWith now (errorOf status)
    return (c, some resolution)

/-- What is read of an issue. -/
def issueShape : Shape :=
  .record "IssueInfo" (.cons "html_url" .required .text (.cons "title" .required .text .nil))

/-- The summary that a body holds. -/
def summaryOf (body : List UInt8) : Except Json.Error Summary :=
  (Json.read issueShape body).map fun (url, title, ()) => ⟨url, title⟩

/-- The body of a successful answer has arrived, or is none when it broke off. -/
def takeBody (c : Client) (now : Nat) (r : Reference) (body : Option (List UInt8)) :
    Client × Resolution :=
  let malformed := (c, Resolution.failed (.malformed "error decoding response body"))
  match body with
  | none => malformed
  | some body =>
    match summaryOf body with
    | .error _ => malformed
    | .ok summary => ({ c with cache := c.cache.store now (key r) summary }, .resolved summary)

end Client

end ForgeBridge.Tracker
