import ForgeBridge.Proofs.JsonWriting
import ForgeBridge.Proofs.SignedRequests

/-!
# Notices of events

What the payload of an event holds, and what is told of it (`Tells`): the members that are named may stand in any
order and among others, and some of them may be left out. Every such payload is decoded, and the notice tells what
it holds (`Event.ofRequest_of_tells`).
-/

namespace ForgeBridge.Webhook

open Json

/-! ## Payloads -/

/-- An object with one text of a name. -/
def IsNamed (member x : String) : List UInt8 → Prop := IsRecord [(member, Given (IsText x))]

def IsUser (login : String) : List UInt8 → Prop := IsNamed "login" login

def IsPusher (name : String) : List UInt8 → Prop := IsNamed "name" name

def IsRepository (fullName : String) : List UInt8 → Prop := IsNamed "full_name" fullName

def IsComment (url : String) : List UInt8 → Prop := IsNamed "html_url" url

def IsIssue (issue : Item) : List UInt8 → Prop :=
  IsRecord [("number", Given (IsNatural issue.number.toNat)), ("title", Given (IsText issue.title)),
    ("html_url", Given (IsText issue.url))]

def IsPullRequest (pull : Item) (state : String) : List UInt8 → Prop :=
  IsRecord [("number", Given (IsNatural pull.number.toNat)), ("title", Given (IsText pull.title)),
    ("state", Given (IsText state)), ("html_url", Given (IsText pull.url))]

/-- The branch of a ref: what is behind the mark of branches, or else the ref. -/
def IsBranch (ref branch : String) : Prop :=
  ref = "refs/heads/" ++ branch ∨ ¬"refs/heads/".toList <+: ref.toList ∧ branch = ref

theorem branch_of_isBranch {ref branch : String} (h : IsBranch ref branch) : Payload.branch ref = branch := by
  rcases h with rfl | ⟨hnot, rfl⟩
  · exact Text.dropLabel_append _ _
  · exact if_neg (by simpa using hnot)

/-- The payload `text` of the event that a request names, and the event that is told of. -/
inductive Tells : (name : String) → (text : List UInt8) → Event → Prop
  | push {ref branch sender repository : String} {compare pusher : Option String} {commits : Option Nat}
      {text : List UInt8} (hbranch : IsBranch ref branch)
      (h : IsRecord [("ref", Given (IsText ref)), ("compare", Optionally IsText compare),
        ("commits", Optionally IsTally commits), ("pusher", OrNull IsPusher pusher),
        ("sender", Given (IsUser sender)), ("repository", Given (IsRepository repository))] text) :
      Tells "push" text ⟨"push", repository, "m.notice",
        "[" ++ repository ++ "] " ++ (pusher.getD sender ++ " pushed " ++ toString (commits.getD 0) ++
          (if commits.getD 0 = 1 then " commit" else " commits") ++ " to " ++ branch ++ ": " ++ compare.getD "")⟩
  | issue {action sender repository : String} {issue : Item} {text : List UInt8}
      (h : IsRecord [("action", Given (IsText action)), ("issue", Given (IsIssue issue)),
        ("sender", Given (IsUser sender)), ("repository", Given (IsRepository repository))] text) :
      Tells "issues" text ⟨"issue", repository, "m.notice",
        "[" ++ repository ++ "] " ++ (sender ++ " " ++ action ++ " issue #" ++ toString issue.number.toNat ++ ": " ++
          issue.title ++ " - " ++ issue.url)⟩
  | issueComment {comment sender repository : String} {issue : Item} {text : List UInt8}
      (h : IsRecord [("issue", Given (IsIssue issue)), ("comment", Given (IsComment comment)),
        ("sender", Given (IsUser sender)), ("repository", Given (IsRepository repository))] text) :
      Tells "issue_comment" text ⟨"issue_comment", repository, "m.notice",
        "[" ++ repository ++ "] " ++ (sender ++ " commented on issue #" ++ toString issue.number.toNat ++ ": " ++
          issue.title ++ " - " ++ comment)⟩
  | pullRequest {action state sender repository : String} {pull : Item} {text : List UInt8}
      (h : IsRecord [("action", Given (IsText action)), ("pull_request", Given (IsPullRequest pull state)),
        ("sender", Given (IsUser sender)), ("repository", Given (IsRepository repository))] text) :
      Tells "pull_request" text ⟨"pull_request", repository, "m.notice",
        "[" ++ repository ++ "] " ++ (sender ++ " " ++ action ++ " pull request #" ++ toString pull.number.toNat ++
          ": " ++ pull.title ++ " [" ++ state ++ "] - " ++ pull.url)⟩
  | reviewComment {state comment sender repository : String} {pull : Item} {text : List UInt8}
      (h : IsRecord [("pull_request", Given (IsPullRequest pull state)), ("comment", Given (IsComment comment)),
        ("sender", Given (IsUser sender)), ("repository", Given (IsRepository repository))] text) :
      Tells "pull_request_review_comment" text ⟨"pull_request_review_comment", repository, "m.notice",
        "[" ++ repository ++ "] " ++ (sender ++ " commented on pull request #" ++ toString pull.number.toNat ++ ": " ++
          pull.title ++ " - " ++ comment)⟩
  | ping {zen repository : Option String} {text : List UInt8}
      (h : IsRecord [("zen", Optionally IsText zen), ("repository", OrNull IsRepository repository)] text) :
      Tells "ping" text ⟨"ping", repository.getD "", "m.notice",
        "[" ++ repository.getD "" ++ "] " ++ ("webhook configured: " ++ zen.getD "")⟩

/-! ## Decoding -/

namespace Event

/-- A payload of the shape of its event is decoded to what its value tells. -/
theorem ofRequest_of_fits {name : String} {kind : Kind} {x : kind.shape.Val} {text w w' : List UInt8}
    (hname : name ≠ "") (hkind : Kind.ofName? name = some kind) (h : Fits kind.shape x text) (hw : Blank w)
    (hw' : Blank w') (signature signature256 : Option String) :
    ofRequest ⟨some name, signature, signature256, w ++ (text ++ w')⟩ none =
      .ok (ofPayload kind (.ofShape kind x)) := by
  have hfilter : (some name).filter (· ≠ "") = some name := by simpa using hname
  have hpayload : Payload.ofJson kind (w ++ (text ++ w')) = .ok (.ofShape kind x) := by
    rw [Payload.ofJson, read_eq_ok h hw hw']
    rfl
  simp only [ofRequest, ofUnsigned, Option.filter_none, hfilter, hkind, hpayload]

/-- The payload of an event, with white space around it, is decoded to the event that is told of. -/
theorem ofRequest_of_tells {name : String} {text w w' : List UInt8} {e : Event} (h : Tells name text e)
    (hw : Blank w) (hw' : Blank w') (signature signature256 : Option String) :
    ofRequest ⟨some name, signature, signature256, w ++ (text ++ w')⟩ none = .ok e := by
  cases h with
  | @push ref branch sender repository compare pusher commits text hbranch h =>
    have hfits : Fits Kind.push.shape
        (ref, compare, commits, pusher.map (·, ()), (sender, ()), (repository, ()), ()) text := by
      cases pusher <;> exact h
    rw [ofRequest_of_fits (by decide) rfl hfits hw hw', ← branch_of_isBranch hbranch]
    cases pusher <;> rfl
  | @issue action sender repository issue text h =>
    have hfits : Fits Kind.issue.shape
        (action, (issue.number, issue.title, issue.url, ()), (sender, ()), (repository, ()), ()) text := h
    exact ofRequest_of_fits (by decide) rfl hfits hw hw' signature signature256
  | @issueComment comment sender repository issue text h =>
    have hfits : Fits Kind.issueComment.shape
        ((issue.number, issue.title, issue.url, ()), (comment, ()), (sender, ()), (repository, ()), ()) text := h
    exact ofRequest_of_fits (by decide) rfl hfits hw hw' signature signature256
  | @pullRequest action state sender repository pull text h =>
    have hfits : Fits Kind.pullRequest.shape
        (action, (pull.number, pull.title, state, pull.url, ()), (sender, ()), (repository, ()), ()) text := h
    exact ofRequest_of_fits (by decide) rfl hfits hw hw' signature signature256
  | @reviewComment state comment sender repository pull text h =>
    have hfits : Fits Kind.reviewComment.shape
        ((pull.number, pull.title, state, pull.url, ()), (comment, ()), (sender, ()), (repository, ()), ())
        text := h
    exact ofRequest_of_fits (by decide) rfl hfits hw hw' signature signature256
  | @ping zen repository text h =>
    have hfits : Fits Kind.ping.shape (zen, repository.map (·, ()), ()) text := by
      cases repository <;> exact h
    rw [ofRequest_of_fits (by decide) rfl hfits hw hw']
    cases repository <;> rfl

/-- The payload of a push, with other members around those that are named, null for one of them, a value spelled
with an escape, and two commits of different kinds. -/
def pushText : List UInt8 :=
  Json.object [("before", nullText), ("repository", Json.object [("id", [0x37]), ("full_name", Json.text "o/r")]),
    ("pusher", nullText), ("commits", Text.bytes "[\x7b\x7d, 7]"), ("ref", Json.text "refs/heads/main"),
    ("sender", Json.object [("login", Text.bytes "\"\\u00e9\"")])]

theorem isJson_seven : IsJson [0x37] := by
  have hseven : IsNumber ([0x37] ++ ([] ++ [])) := .positive (by decide +kernel) .absent .absent
  exact .scalar (.number hseven)

theorem isTally_pushText : IsTally 2 (Text.bytes "[\x7b\x7d, 7]") := by
  have hempty : IsJson [0x7B, 0x7D] :=
    .bracket .object [] (List.forall_mem_nil _) (List.forall_mem_nil _) (.empty blank_nil)
  have htext : Text.bytes "[\x7b\x7d, 7]" = [0x5B, 0x7B, 0x7D, 0x2C, 0x20, 0x37, 0x5D] := by decide +kernel
  refine ⟨[[0x7B, 0x7D], [0x37]], ?_, ?_, rfl⟩
  · rw [htext]
    have hspace : Blank [0x20] := by decide +kernel
    exact .items blank_nil (.item blank_nil hspace (.close blank_nil))
  · rw [List.forall_mem_cons, List.forall_mem_singleton]
    exact ⟨hempty, isJson_seven⟩

theorem tells_pushText : Tells "push" pushText ⟨"push", "o/r", "m.notice", "[o/r] é pushed 2 commits to main: "⟩ := by
  have hlogin : IsText "é" (Text.bytes "\"\\u00e9\"") := by
    have htext : Text.bytes "\"\\u00e9\"" = [0x22, 0x5C, 0x75, 0x30, 0x30, 0x65, 0x39, 0x22] := by decide +kernel
    have hbytes : Text.bytes "é" = utf8 0xE9 ++ [] := by decide +kernel
    have hdigits : IsHex4 [0x30, 0x30, 0x65, 0x39] 0xE9 :=
      ⟨_, _, _, _, 0, 0, 14, 9, rfl, by decide, by decide, by decide, by decide, by decide⟩
    refine ⟨[0x5C, 0x75, 0x30, 0x30, 0x65, 0x39], ?_, htext⟩
    rw [hbytes]
    exact .unicode hdigits (by decide) (by decide) .nil
  have hbody : "[o/r] é pushed 2 commits to main: " = "[" ++ "o/r" ++ "] " ++ (Option.getD none "é" ++ " pushed " ++
      toString (Option.getD (some 2) 0) ++ (if Option.getD (some 2) 0 = 1 then " commit" else " commits") ++ " to " ++
        "main" ++ ": " ++ Option.getD none "") := by decide +kernel
  rw [hbody]
  refine .push (.inl (by decide +kernel)) ⟨_, isObject_object _, ⟨some (Json.text "refs/heads/main"), by simp, _, rfl,
    isText_text _⟩, ⟨none, by simp, rfl⟩, ⟨some (Text.bytes "[\x7b\x7d, 7]"), by simp, _, rfl, isTally_pushText⟩,
    ⟨some nullText, by simp, .inr rfl⟩, ⟨some _, by simp; rfl, _, rfl, ?_⟩, ⟨some _, by simp; rfl, _, rfl, ?_⟩, ?_⟩
  · exact ⟨_, isObject_object _, ⟨some _, by simp, _, rfl, hlogin⟩, by simp [Holds]⟩
  · refine ⟨_, isObject_object _, ⟨some (Json.text "o/r"), by simp, _, rfl, isText_text _⟩, ?_⟩
    simpa [Holds] using isJson_seven
  · simpa [Holds] using IsJson.scalar .null

/-- That payload, with white space around it, under a signature that does not matter. -/
theorem ofRequest_of_tells_push :
    ofRequest ⟨some "push", none, some "sha256=00", [0x20] ++ (pushText ++ [0x0A])⟩ none =
      .ok ⟨"push", "o/r", "m.notice", "[o/r] é pushed 2 commits to main: "⟩ :=
  ofRequest_of_tells tells_pushText (by decide +kernel) (by decide +kernel) none (some "sha256=00")

end Event

end ForgeBridge.Webhook
