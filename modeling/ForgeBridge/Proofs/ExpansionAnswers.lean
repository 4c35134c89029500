import ForgeBridge.Http.Routes
import ForgeBridge.Proofs.ExpansionFilter
import ForgeBridge.Proofs.JsonWriting
import ForgeBridge.Proofs.ReferenceTexts

/-!
# Answers to texts

A text that is shown to a live service is answered for its first reference alone (`answer_expand`): with a notice if
the lookup of that reference resolves it, and else with 204. A request with too large a body is refused before
anything is looked up (`answer_expand_large`).
-/

namespace ForgeBridge.Http

open Json

/-! ## Requests that show a text -/

/-- A request that can be understood, and asks with POST for the place where texts are shown to a service, with the
text of a room in its body. -/
structure Request.IsShown (r : Request) (id room text : String) : Prop where
  wellFormed : r.isWellFormed
  method : Text.ofBytes? r.method = some "POST"
  place : ∃ path encoded, targetPath? r.target = some path ∧ Route.ofPath? path = some (.expand encoded) ∧
    serviceIdOf encoded = .ok id
  json : r.isJson
  body : ∃ w w' object, Blank w ∧ Blank w' ∧ r.body = w ++ (object ++ w') ∧
    IsRecord [("room_id", Given (IsText room)), ("text", Given (IsText text))] object

section
variable {r : Request} {id room text : String}

theorem sightingOf_of_isShown (h : r.IsShown id room text) (hfits : r.isTooLarge = false) :
    sightingOf r = .ok ⟨room, text⟩ := by
  obtain ⟨w, w', object, hw, hw', hbody, hobject⟩ := h.body
  have hvalue : Fits Sighting.shape (room, text, ()) object := hobject
  simp only [sightingOf, h.json, if_true, bodyOf, hfits, Bool.false_eq_true, if_false, hbody,
    readFront_eq_ok hvalue hw hw'.ends]

/-- Such a request is refused if its body is too large. Else its text is shown to its service, and nothing is done to
the answer. -/
theorem answer_of_isShown (s : Server) (h : r.IsShown id room text) :
    (answer s r).value =
      if r.isTooLarge then .ofResponse Refusal.tooLarge.response else (consider s id ⟨room, text⟩).value := by
  obtain ⟨path, encoded, hpath, hroute, hid⟩ := h.place
  have hpost : "POST" ∈ (Route.expand encoded).methods := .head _
  cases hlarge : r.isTooLarge with
  | true =>
    have hrefused : sightingOf r = .error .tooLarge := by simp [sightingOf, h.json, bodyOf, hlarge]
    simp [answer, hpath, h.method, h.wellFormed, hroute, hpost, handle, hid, hrefused]
  | false =>
    have hread := sightingOf_of_isShown h hlarge
    simp [answer, hpath, h.method, h.wellFormed, hroute, hpost, handle, hid, hread]

end

/-! ## What is done with a text -/

section
variable {s : Server} {id text : String} {first : Reference} (room : String)

theorem value_expand (hlive : (s.registry.get? id).isSome = true) :
    (s.registry.expand s.lookup id room text).value = .ok (Expansion.expand s.lookup text).value := by
  obtain ⟨service, hservice⟩ := Option.isSome_iff_exists.1 hlive
  have hasks : service.expansions.any (·.isIn text) = Expansion.issueReferences.isIn text := Bool.or_false _
  simp only [Registry.expand, hservice, hasks]
  cases hin : Expansion.issueReferences.isIn text with
  | true => rfl
  | false =>
    rw [Expansion.expand_of_findAll (Expansion.findAll_of_not_isIn hin)]
    rfl

/-- A text without references is answered with nothing. -/
theorem consider_none (hlive : (s.registry.get? id).isSome = true) (h : Reference.findAll text = []) :
    (consider s id ⟨room, text⟩).value = ⟨.empty 204, [], []⟩ := by
  simp [consider, value_expand room hlive, Expansion.expand_of_findAll h]

theorem value_expand_first (lookup : Tracker.Lookup) (h : (Reference.findAll text).head? = some first) :
    (Expansion.expand lookup text).value =
      ⟨((lookup first).summary? first).value.map Expansion.noticeOf, [first]⟩ := by
  rw [Expansion.expand, Reference.findFirst, h]
  rfl

/-- The first reference of a text is looked up, and if it is resolved a notice tells of it. -/
theorem consider_resolved (hlive : (s.registry.get? id).isSome = true)
    (h : (Reference.findAll text).head? = some first) {summary : Tracker.Summary}
    (hs : s.lookup first = .resolved summary) :
    (consider s id ⟨room, text⟩).value =
      ⟨.json 200 (Message.notice (summary.url ++ " : " ++ summary.title)).json, [], [first]⟩ := by
  simp [consider, value_expand room hlive, value_expand_first s.lookup h, hs, Tracker.Resolution.summary?,
    Expansion.noticeOf]

/-- If it is not resolved, nothing is told. -/
theorem consider_unresolved (hlive : (s.registry.get? id).isSome = true)
    (h : (Reference.findAll text).head? = some first) (hs : ∀ summary, s.lookup first ≠ .resolved summary) :
    (consider s id ⟨room, text⟩).value = ⟨.empty 204, [], [first]⟩ := by
  have hnone : ((s.lookup first).summary? first).value = none := by
    cases hl : s.lookup first with
    | resolved summary => exact absurd hl (hs summary)
    | absent | failed => rfl
  simp [consider, value_expand room hlive, value_expand_first s.lookup h, hnone]

end

/-! ## The answer to a text -/

/-- Whether a body is too large is a matter of its length. -/
theorem isTooLarge_iff (r : Request) : r.isTooLarge = true ↔ 2 * 1024 * 1024 < r.body.length := decide_eq_true_iff

/-- A text that is shown to a live service is looked up for its first reference, if it has one, and for nothing else.
It is answered with 200 and a message, which is read again from its JSON text, if that reference is resolved, and in
all other cases with 204. So two texts with the same first reference have the same answer, wherever they were seen.
All this is so if the body has at most two mebibytes. -/
theorem answer_expand (s : Server) (r : Request) (id room text : String) (h : r.IsShown id room text)
    (hlive : (s.registry.get? id).isSome = true) (hsize : r.body.length ≤ 2 * 1024 * 1024) :
    (answer s r).value.attempts = [] ∧
    (Reference.findAll text = [] →
      (answer s r).value.lookups = [] ∧ (answer s r).value.response = ⟨204, none, none, []⟩) ∧
    (∀ first others, Reference.findAll text = first :: others →
      (answer s r).value.lookups = [first] ∧
      (∀ summary, s.lookup first = .resolved summary →
        ∃ body, (answer s r).value.response = ⟨200, some "application/json", none, body⟩ ∧
          Message.ofJson body = .ok ⟨"m.notice", summary.url ++ " : " ++ summary.title⟩) ∧
      ((∀ summary, s.lookup first ≠ .resolved summary) →
        (answer s r).value.response = ⟨204, none, none, []⟩)) ∧
    ∀ (r' : Request) (room' text' : String), r'.IsShown id room' text' → r'.body.length ≤ 2 * 1024 * 1024 →
      (Reference.findAll text').head? = (Reference.findAll text).head? → (answer s r').value = (answer s r).value := by
  have hanswer : ∀ (r : Request) (room text : String), r.IsShown id room text → r.body.length ≤ 2 * 1024 * 1024 →
      (answer s r).value = (consider s id ⟨room, text⟩).value := by
    intro r room text h hsize
    rw [answer_of_isShown s h, if_neg (mt (isTooLarge_iff r).1 (Nat.not_lt.2 hsize))]
  rw [hanswer r room text h hsize]
  cases hall : Reference.findAll text with
  | nil =>
    rw [consider_none room hlive hall]
    refine ⟨rfl, fun _ => ⟨rfl, rfl⟩, nofun, fun r' room' text' h' hsize' hsame => ?_⟩
    rw [hanswer r' room' text' h' hsize', consider_none room' hlive (List.head?_eq_none_iff.1 hsame)]
  | cons first others =>
    have hfirst : (Reference.findAll text).head? = some first := by rw [hall]; rfl
    by_cases hs : ∃ summary, s.lookup first = .resolved summary
    · obtain ⟨summary, hs⟩ := hs
      rw [consider_resolved room hlive hfirst hs]
      refine ⟨rfl, nofun, ?_, fun r' room' text' h' hsize' hsame => ?_⟩
      · rintro first others ⟨⟩
        refine ⟨rfl, fun summary' hs' => ⟨_, rfl, ?_⟩, fun hnot => absurd hs (hnot summary)⟩
        cases hs.symm.trans hs'
        exact Message.ofJson_json _
      · rw [hanswer r' room' text' h' hsize', consider_resolved room' hlive hsame hs]
    · have hnot : ∀ summary, s.lookup first ≠ .resolved summary := fun summary hsummary => hs ⟨summary, hsummary⟩
      rw [consider_unresolved room hlive hfirst hnot]
      refine ⟨rfl, nofun, ?_, fun r' room' text' h' hsize' hsame => ?_⟩
      · rintro first others ⟨⟩
        exact ⟨rfl, fun summary hsummary => absurd hsummary (hnot summary), fun _ => rfl⟩
      · rw [hanswer r' room' text' h' hsize', consider_unresolved room' hlive hsame hnot]

/-- A server with one live service, whose tracker knows one issue. -/
def issueServer : Server where
  registry := Registry.oneLive
  deliver _ _ := .ok ()
  lookup r := if r = ⟨"a", "b", 1⟩ then .resolved ⟨"https://h/1", "Crash"⟩ else .absent

/-- A text of a room is shown to that service. -/
def expandRequest (room text : String) : Request where
  method := Text.bytes "POST"
  target := Text.bytes "/services/expand/gh"
  headers := [(Text.bytes "Content-Type", Text.bytes "application/json")]
  body := Json.object [("room_id", Json.text room), ("text", Json.text text)]

theorem isShown_expandRequest (room text : String) : (expandRequest room text).IsShown "gh" room text where
  wellFormed := by
    have hempty : (expandRequest "" "").isWellFormed = true := by decide +kernel
    exact hempty
  method := Text.ofBytes?_bytes "POST"
  place := by
    have hplace : targetPath? (Text.bytes "/services/expand/gh") = some "/services/expand/gh".toList ∧
        Route.ofPath? "/services/expand/gh".toList = some (.expand "gh") ∧ serviceIdOf "gh" = .ok "gh" := by
      decide +kernel
    exact ⟨_, _, hplace⟩
  json := by
    have hempty : (expandRequest "" "").isJson = true := by decide +kernel
    exact hempty
  body := by
    refine ⟨[], [], _, blank_nil, blank_nil, (List.append_nil _).symm, _, isObject_object _,
      ⟨some (Json.text room), by simp, _, rfl, isText_text room⟩,
      ⟨some (Json.text text), by simp, _, rfl, isText_text text⟩, ?_⟩
    simp [Holds]

/-- The first reference is that behind a number that is too big, and it does not matter what stands behind it. -/
theorem answer_expand_crash :
    let answered := (answer issueServer (expandRequest "!a" "c/d#99999999999999999999 a/b#1 e/f#2")).value
    answered.lookups = [⟨"a", "b", 1⟩] ∧
      (∃ body, answered.response = ⟨200, some "application/json", none, body⟩ ∧
        Message.ofJson body = .ok ⟨"m.notice", "https://h/1 : Crash"⟩) ∧
      (answer issueServer (expandRequest "!z" "a/b#1")).value = answered := by
  have hfound : Reference.findAll "c/d#99999999999999999999 a/b#1 e/f#2" = [⟨"a", "b", 1⟩, ⟨"e", "f", 2⟩] := by
    decide +kernel
  have halone : Reference.findAll "a/b#1" = [⟨"a", "b", 1⟩] := by decide +kernel
  obtain ⟨-, -, hfirst, hsame⟩ := answer_expand issueServer
    (expandRequest "!a" "c/d#99999999999999999999 a/b#1 e/f#2") "gh" "!a" _ (isShown_expandRequest _ _)
    (by decide +kernel) (by decide +kernel)
  obtain ⟨hlookups, hresolved, -⟩ := hfirst _ _ hfound
  have hother := hsame _ "!z" "a/b#1" (isShown_expandRequest _ _) (by decide +kernel) (by rw [hfound, halone]; rfl)
  have htext : "https://h/1" ++ " : " ++ "Crash" = "https://h/1 : Crash" := by decide +kernel
  exact ⟨hlookups, htext ▸ hresolved ⟨"https://h/1", "Crash"⟩ (by decide +kernel), hother⟩

/-! ## Bodies that are too large -/

theorem length_le_body (room text : String) : text.toList.length ≤ (expandRequest room text).body.length := by
  have htext := length_le_text text
  simp only [expandRequest, Json.object, Json.members, List.length_append, List.length_cons]
  omega

/-- A text with a reference in front. -/
def referring (rest : String) : String := "a/b#1" ++ (" " ++ rest)

theorem head?_findAll_referring (rest : String) :
    (Reference.findAll (referring rest)).head? = some ⟨"a", "b", 1⟩ := by
  have hproper : (⟨"a", "b", 1⟩ : Reference).IsProper := by decide +kernel
  have hdisplay : (⟨"a", "b", 1⟩ : Reference).display = "a/b#1" := by decide +kernel
  have hnone : Reference.findAll "" = [] := by decide +kernel
  have hblank : ∀ c ∈ (" " ++ rest).toList.head?, c.isDigit = false := by
    rw [String.toList_append]
    rintro c ⟨⟩
    rfl
  have hapart : Reference.IsApart "".toList := nofun
  have hfound := Reference.findAll_append hproper hapart hblank
  rw [hdisplay, hnone, String.empty_append] at hfound
  rw [referring, hfound]
  rfl

/-- A text with a reference in front of two mebibytes. -/
def largeText : String := referring (.ofList (List.replicate (2 * 1024 * 1024) 'x'))

theorem isTooLarge_referring {rest : String} (h : 2 * 1024 * 1024 ≤ rest.toList.length) (room : String) :
    (expandRequest room (referring rest)).isTooLarge = true := by
  have hbody := length_le_body room (referring rest)
  rw [referring, String.toList_append, String.toList_append, List.length_append, List.length_append] at hbody
  have hblank : " ".toList.length = 1 := rfl
  rw [isTooLarge_iff]
  rw [referring]
  omega

/-- That text is shown to a live service, and its first reference could be resolved. But nothing is looked up, and the
answer is 413. -/
theorem answer_expand_large :
    (expandRequest "!a" largeText).IsShown "gh" "!a" largeText ∧ (issueServer.registry.get? "gh").isSome = true ∧
      (Reference.findAll largeText).head? = some ⟨"a", "b", 1⟩ ∧
      issueServer.lookup ⟨"a", "b", 1⟩ = .resolved ⟨"https://h/1", "Crash"⟩ ∧
      (answer issueServer (expandRequest "!a" largeText)).value.lookups = [] ∧
      (answer issueServer (expandRequest "!a" largeText)).value.response.status = 413 := by
  have hshown := isShown_expandRequest "!a" largeText
  have hlarge : (expandRequest "!a" largeText).isTooLarge = true := by
    refine isTooLarge_referring ?_ "!a"
    rw [String.toList_ofList, List.length_replicate]
  rw [answer_of_isShown issueServer hshown, if_pos hlarge]
  exact ⟨hshown, by decide +kernel, head?_findAll_referring _, by decide +kernel, rfl, rfl⟩

end ForgeBridge.Http
