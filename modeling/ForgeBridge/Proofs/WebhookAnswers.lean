import ForgeBridge.Http.Routes
import ForgeBridge.Proofs.Passes
import ForgeBridge.Proofs.SignedRequests

/-!
# Answers to webhooks

A webhook request ends in one of three ways (`answer_hook`): 404 where its service is not known, the status
and the words of the decoder where it cannot be decoded, and else 200 with the numbers of rooms that wanted
the event and got it or not. Only then are there deliveries: the message of the event, once to each room that
wants it.
-/

namespace ForgeBridge.Http

open Webhook (Event DecodeError)

/-! ## Requests that reach the webhooks of a service -/

/-- A request that can be understood, and asks with POST for the place where the webhooks of a service come
in. -/
structure Request.IsHook (r : Request) (id : String) : Prop where
  wellFormed : r.isWellFormed
  method : Text.ofBytes? r.method = some "POST"
  place : ∃ path encoded, targetPath? r.target = some path ∧ Route.ofPath? path = some (.hook encoded) ∧
    serviceIdOf encoded = .ok id

/-- Such a request is taken in for its service if its body is not too large, and nothing is done to the
answer. -/
theorem answer_of_isHook (s : Server) {r : Request} {id : String} (h : r.IsHook id) :
    (answer s r).value =
      if r.isTooLarge then .ofResponse Refusal.tooLarge.response
      else (receive s id (webhookOf r r.body)).value := by
  obtain ⟨path, encoded, hpath, hroute, hid⟩ := h.place
  have hpost : "POST" ∈ (Route.hook encoded).methods := .head _
  cases hlarge : r.isTooLarge <;>
    simp [answer, hpath, h.method, h.wellFormed, hroute, hpost, handle, hid, bodyOf, hlarge]

/-! ## What is done with a webhook -/

theorem receive_unknown {s : Server} {id : String} (w : Webhook.Request) (h : s.registry.get? id = none) :
    (receive s id w).value = .ofResponse (.empty 404) := by
  unfold receive
  rw [h]
  rfl

theorem receive_rejected {s : Server} {id : String} {service : Service} {w : Webhook.Request} {e : DecodeError}
    (h : s.registry.get? id = some service) (he : Event.ofRequest w service.webhookSecret = .error e) :
    (receive s id w).value = .ofResponse (.text e.status e.message) := by
  simp only [receive, h, Service.handleWebhook, he, Logged.value_bind, Logged.value_pure]

theorem receive_routed {s : Server} {id : String} {service : Service} {w : Webhook.Request} {event : Event}
    (h : s.registry.get? id = some service) (he : Event.ofRequest w service.webhookSecret = .ok event) :
    (receive s id w).value =
      ⟨.json 200 (countsText (Routing.route s.deliver service.subscriptions event).value.report),
        (Routing.route s.deliver service.subscriptions event).value.attempts, []⟩ := by
  simp only [receive, h, Service.handleWebhook, he, Logged.value_bind, Logged.value_pure]

/-! ## The answer to a webhook -/

/-- The numbers of rooms as a JSON text. -/
theorem countsText_eq (r : Routing.Report) :
    countsText r = Text.bytes ("\x7b\"delivered\":" ++ toString r.delivered.length ++ ",\"failed\":" ++
      toString r.failed.length ++ "\x7d") := by
  have hdelivered : Ascii.openBrace :: (Json.text "delivered" ++ [Ascii.colon]) =
      Text.bytes "\x7b\"delivered\":" := by decide +kernel
  have hfailed : Ascii.comma :: (Json.text "failed" ++ [Ascii.colon]) = Text.bytes ",\"failed\":" := by
    decide +kernel
  have hclose : [Ascii.closeBrace] = Text.bytes "\x7d" := by decide +kernel
  simp only [Text.bytes_append, ← hdelivered, ← hfailed, ← hclose]
  simp [countsText, Json.object, Json.members, Json.number]

/-- A webhook that is not too large is answered with 404 if it is for an unknown service. One that cannot
be decoded from its headers and its body is answered with the status of its error, 400 or 403, and the words of
the error. Any other is answered with the numbers of rooms that wanted its event and got it, and that wanted it
and did not; each of them was attempted once with the message of the event. Otherwise nothing is attempted. -/
theorem answer_hook (s : Server) (r : Request) (id : String) (h : r.IsHook id) (hfits : r.isTooLarge = false) :
    let webhook : Webhook.Request := ⟨r.headerText? "x-github-event", r.headerText? "x-hub-signature",
      r.headerText? "x-hub-signature-256", r.body⟩
    (s.registry.get? id = none → (answer s r).value = ⟨⟨404, none, none, []⟩, [], []⟩) ∧
    ∀ service, s.registry.get? id = some service →
      (∀ e, Event.ofRequest webhook service.webhookSecret = .error e →
        (e.status = 400 ∨ e.status = 403) ∧
        (answer s r).value =
          ⟨⟨e.status, some "text/plain; charset=utf-8", none, Text.bytes e.message⟩, [], []⟩) ∧
      ∀ event, Event.ofRequest webhook service.webhookSecret = .ok event →
        ∃ rooms : Finset String,
          (∀ room, room ∈ rooms ↔ service.subscriptions.isSubscribed room event.eventType) ∧
          (answer s r).value.response = ⟨200, some "application/json", none, Text.bytes (
            "\x7b\"delivered\":" ++ toString (rooms.filter fun room => s.deliver room event.message = .ok ()).card ++
            ",\"failed\":" ++ toString (rooms.filter fun room => s.deliver room event.message ≠ .ok ()).card ++
            "\x7d")⟩ ∧
          ∀ room message, (answer s r).value.attempts.count (room, message) =
            if room ∈ rooms ∧ message = event.message then 1 else 0 := by
  intro webhook
  have hwebhook : webhookOf r r.body = webhook := rfl
  rw [answer_of_isHook s h, hfits, if_neg Bool.false_ne_true, hwebhook]
  refine ⟨receive_unknown _, fun service hservice => ⟨fun e he => ?_, fun event hevent => ?_⟩⟩
  · exact ⟨Event.status_of_ofRequest he, receive_rejected hservice he⟩
  · have hrooms : ∀ room, room ∈ (service.subscriptions.roomsFor event.eventType).toFinset ↔
        service.subscriptions.isSubscribed room event.eventType := by
      intro room
      rw [List.mem_toFinset, Subscriptions.mem_roomsFor]
    refine ⟨_, hrooms, ?_, fun room message => ?_⟩
    · rw [receive_routed hservice hevent, countsText_eq, Routing.length_delivered, Routing.length_failed]
      rfl
    · rw [receive_routed hservice hevent, Routing.count_attempts,
        if_congr (and_congr_left' (hrooms room)) rfl rfl]

/-- A service with a secret. Two of its rooms want pings. -/
def pingService : Service where
  id := "gh"
  userId := "@gh:h"
  webhookSecret := some "s3cret"
  subscriptions := .ofList [("!a", ["ping"]), ("!b", ["ping"]), ("!c", ["push"])]

/-- A server that runs it, and that cannot reach one of the rooms. -/
def pingServer : Server where
  registry := ⟨.empty, .ofList [("gh", pingService)]⟩
  deliver room _ := if room = "!b" then .error (.other "down") else .ok ()
  lookup _ := .absent

/-- A ping to that service. -/
def pingRequest (signatures : List (String × List UInt8)) : Request where
  method := Text.bytes "POST"
  target := Text.bytes "/services/hooks/gh"
  headers := ("X-GitHub-Event", Text.bytes "ping") :: signatures |>.map fun h => (Text.bytes h.1, h.2)
  body := Event.pingBody

/-- The digits of the signature of that ping. -/
def pingDigits (digest : List UInt8 → List UInt8) : List UInt8 :=
  Text.Hex.encode (Digest.hmac digest (Text.bytes "s3cret") Event.pingBody)

theorem isHook_pingRequest {signatures : List (String × List UInt8)}
    (h : (pingRequest signatures).isWellFormed) : (pingRequest signatures).IsHook "gh" where
  wellFormed := h
  method := Text.ofBytes?_bytes "POST"
  place := by
    have hplace : targetPath? (Text.bytes "/services/hooks/gh") = some "/services/hooks/gh".toList ∧
        Route.ofPath? "/services/hooks/gh".toList = some (.hook "gh") ∧ serviceIdOf "gh" = .ok "gh" := by
      decide +kernel
    exact ⟨_, _, hplace⟩

theorem fits_pingRequest (signatures : List (String × List UInt8)) :
    (pingRequest signatures).isTooLarge = false := by
  change decide (Request.bodyLimit < Event.pingBody.length) = false
  decide +kernel

/-- The ping to a server without services, the ping without a signature, and the signed one, which one of two rooms
does not hear of. -/
theorem answer_hook_ping :
    let unsigned := pingRequest []
    let signed := pingRequest [("X-Hub-Signature-256", pingDigits Digest.sha256)]
    (unsigned.IsHook "gh" ∧ signed.IsHook "gh") ∧
      (answer { pingServer with registry := .empty } unsigned).value = ⟨⟨404, none, none, []⟩, [], []⟩ ∧
      (answer pingServer unsigned).value = ⟨⟨403, some "text/plain; charset=utf-8", none,
        Text.bytes "Missing webhook signature"⟩, [], []⟩ ∧
      (answer pingServer signed).value.response = ⟨200, some "application/json", none,
        Text.bytes "\x7b\"delivered\":1,\"failed\":1\x7d"⟩ ∧
      ∀ room message, (answer pingServer signed).value.attempts.count (room, message) =
        if (room = "!a" ∨ room = "!b") ∧ message = ⟨"m.notice", "[] webhook configured: z"⟩ then 1 else 0 := by
  intro unsigned signed
  have hservice : pingServer.registry.get? "gh" = some pingService := rfl
  have hunsigned : unsigned.IsHook "gh" := isHook_pingRequest (by decide +kernel)
  have hsigned : signed.IsHook "gh" := isHook_pingRequest (by decide +kernel)
  refine ⟨⟨hunsigned, hsigned⟩, (answer_hook _ _ _ hunsigned (fits_pingRequest _)).1 rfl, ?_, ?_⟩
  · have hanswer := (answer_hook pingServer _ _ hunsigned (fits_pingRequest _)).2 _ hservice
    exact (hanswer.1 .missingSignature (by decide +kernel)).2
  · have hanswer := (answer_hook pingServer _ _ hsigned (fits_pingRequest _)).2 _ hservice
    obtain ⟨rooms, hrooms, hresponse, hcount⟩ :=
      hanswer.2 ⟨"ping", "", ⟨"m.notice", "[] webhook configured: z"⟩⟩ (by decide +kernel)
    have hpings : pingService.subscriptions.roomsFor "ping" = ["!a", "!b"] := by decide +kernel
    have hmem : ∀ room, room ∈ rooms ↔ room = "!a" ∨ room = "!b" := by
      intro room
      rw [hrooms, ← Subscriptions.mem_roomsFor, hpings, List.mem_pair]
    obtain rfl : rooms = {"!a", "!b"} := by
      ext room
      rw [hmem, Finset.mem_insert, Finset.mem_singleton]
    refine ⟨hresponse.trans (by decide +kernel), fun room message => ?_⟩
    rw [hcount, if_congr (and_congr_left' (hmem room)) rfl rfl]

end ForgeBridge.Http
