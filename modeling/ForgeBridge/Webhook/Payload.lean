import ForgeBridge.Json.Reader
import ForgeBridge.Text.Pieces
import ForgeBridge.Webhook.Request

/-!
The payloads of the supported events: what is read of them, and the notices that tell of them.
-/

namespace ForgeBridge.Webhook

/-- The supported events. -/
inductive Kind where
  | push
  | issue
  | issueComment
  | pullRequest
  | reviewComment
  | ping
deriving DecidableEq

namespace Kind

/-- The event that a request names. -/
def ofName? : String → Option Kind
  | "push" => some .push
  | "issues" => some .issue
  | "issue_comment" => some .issueComment
  | "pull_request" => some .pullRequest
  | "pull_request_review_comment" => some .reviewComment
  | "ping" => some .ping
  | _ => none

/-- The type under which rooms subscribe to an event. -/
def eventType : Kind → String
  | .push => "push"
  | .issue => "issue"
  | .issueComment => "issue_comment"
  | .pullRequest => "pull_request"
  | .reviewComment => "pull_request_review_comment"
  | .ping => "ping"

end Kind

/-- An issue or a pull request, as payloads tell of it. -/
structure Item where
  number : UInt64
  title : String
  url : String
deriving DecidableEq

/-- What a payload tells. -/
inductive Payload where
  | push (ref compare : String) (commits : Nat) (pusher : Option String)
      (sender repository : String)
  | issue (action : String) (issue : Item) (sender repository : String)
  | issueComment (issue : Item) (commentUrl sender repository : String)
  | pullRequest (action : String) (pull : Item) (state : String) (sender repository : String)
  | reviewComment (pull : Item) (commentUrl sender repository : String)
  | ping (zen : String) (repository : Option String)
deriving DecidableEq

/-! ## Shapes -/

/-- A record of one text. -/
def oneText (name member : String) : Shape := .record name (.cons member .required .text .nil)

def repositoryShape : Shape := oneText "Repository" "full_name"

def userShape : Shape := oneText "User" "login"

def commentShape : Shape := oneText "Comment" "html_url"

def issueShape : Shape :=
  .record "Issue"
    (.cons "number" .required .natural
    (.cons "title" .required .text
    (.cons "html_url" .required .text .nil)))

def pullRequestShape : Shape :=
  .record "PullRequest"
    (.cons "number" .required .natural
    (.cons "title" .required .text
    (.cons "state" .required .text
    (.cons "html_url" .required .text .nil))))

/-- The sender and the repository, which most payloads end with. -/
def origin : Members :=
  .cons "sender" .required userShape (.cons "repository" .required repositoryShape .nil)

def pushShape : Shape :=
  .record "PushEvent"
    (.cons "ref" .required .text
    (.cons "compare" .defaulted .text
    (.cons "commits" .defaulted .tally
    (.cons "pusher" .nullable (oneText "Pusher" "name")
    origin))))

def issuesShape : Shape :=
  .record "IssuesEvent" (.cons "action" .required .text (.cons "issue" .required issueShape origin))

def issueCommentShape : Shape :=
  .record "IssueCommentEvent"
    (.cons "issue" .required issueShape (.cons "comment" .required commentShape origin))

def pullRequestEventShape : Shape :=
  .record "PullRequestEvent"
    (.cons "action" .required .text (.cons "pull_request" .required pullRequestShape origin))

def reviewCommentShape : Shape :=
  .record "ReviewCommentEvent"
    (.cons "pull_request" .required pullRequestShape (.cons "comment" .required commentShape origin))

def pingShape : Shape :=
  .record "PingEvent"
    (.cons "zen" .defaulted .text (.cons "repository" .nullable repositoryShape .nil))

/-- The shape of an event's payload. -/
def Kind.shape : Kind → Shape
  | .push => pushShape
  | .issue => issuesShape
  | .issueComment => issueCommentShape
  | .pullRequest => pullRequestEventShape
  | .reviewComment => reviewCommentShape
  | .ping => pingShape

namespace Payload

/-- The payload that a value of the event's shape is. -/
def ofShape : (kind : Kind) → kind.shape.Val → Payload
  | .push, (ref, compare, commits, pusher, (sender, ()), (repository, ()), ()) =>
    .push ref (compare.getD "") (commits.getD 0) (pusher.map (·.1)) sender repository
  | .issue, (action, (number, title, url, ()), (sender, ()), (repository, ()), ()) =>
    .issue action ⟨number, title, url⟩ sender repository
  | .issueComment, ((number, title, url, ()), (comment, ()), (sender, ()), (repository, ()), ()) =>
    .issueComment ⟨number, title, url⟩ comment sender repository
  | .pullRequest,
      (action, (number, title, state, url, ()), (sender, ()), (repository, ()), ()) =>
    .pullRequest action ⟨number, title, url⟩ state sender repository
  | .reviewComment,
      ((number, title, _, url, ()), (comment, ()), (sender, ()), (repository, ()), ()) =>
    .reviewComment ⟨number, title, url⟩ comment sender repository
  | .ping, (zen, repository, ()) => .ping (zen.getD "") (repository.map (·.1))

/-- Reads the payload of an event. -/
def ofJson (kind : Kind) (text : List UInt8) : Except Json.Error Payload :=
  (Json.read kind.shape text).map (ofShape kind)

/-- The full name of the repository. -/
def repository : Payload → String
  | .push _ _ _ _ _ repository => repository
  | .issue _ _ _ repository => repository
  | .issueComment _ _ _ repository => repository
  | .pullRequest _ _ _ _ repository => repository
  | .reviewComment _ _ _ repository => repository
  | .ping _ repository => repository.getD ""

/-- The branch that a ref names. -/
def branch (ref : String) : String := Text.dropLabel "refs/heads/" ref

/-- What happened, in words. -/
def story : Payload → String
  | .push ref compare commits pusher sender _ =>
    pusher.getD sender ++ " pushed " ++ toString commits ++
      (if commits = 1 then " commit" else " commits") ++ " to " ++ branch ref ++ ": " ++ compare
  | .issue action item sender _ =>
    sender ++ " " ++ action ++ " issue #" ++ toString item.number ++ ": " ++ item.title ++
      " - " ++ item.url
  | .issueComment item commentUrl sender _ =>
    sender ++ " commented on issue #" ++ toString item.number ++ ": " ++ item.title ++
      " - " ++ commentUrl
  | .pullRequest action pull state sender _ =>
    sender ++ " " ++ action ++ " pull request #" ++ toString pull.number ++ ": " ++ pull.title ++
      " [" ++ state ++ "] - " ++ pull.url
  | .reviewComment pull commentUrl sender _ =>
    sender ++ " commented on pull request #" ++ toString pull.number ++ ": " ++ pull.title ++
      " - " ++ commentUrl
  | .ping zen _ => "webhook configured: " ++ zen

/-- The text of the notice that tells of a payload. -/
def notice (p : Payload) : String := "[" ++ p.repository ++ "] " ++ p.story

end Payload

end ForgeBridge.Webhook
