import ForgeBridge.Proofs.WebhookAnswers

/-!
# Headers with signatures

A request may have a header for a SHA-256 signature and one for a SHA-1 signature. The first decides alone
when it can be read as text. A value that cannot, which may well come in, counts as no signature, and then
the second one decides. So the SHA-1 signature makes no difference to what comes of a request if and only if
the SHA-256 signature can be read (`signature256_decides_iff`).
-/

namespace ForgeBridge.Http

open Webhook (Event)

/-! ## Headers by name -/

namespace Request

/-- Whether a header has a name. -/
def isNamed (name : String) (h : List UInt8 × List UInt8) : Bool := h.1.map lowerByte = Text.bytes name

theorem header?_eq (r : Request) (name : String) :
    r.header? name = (r.headers.find? (isNamed name)).map fun h => trim h.2 := rfl

/-- Requests that differ in nothing but in their headers of one name. -/
structure SameBut (name : String) (r r' : Request) : Prop where
  method : r'.method = r.method
  target : r'.target = r.target
  body : r'.body = r.body
  headers : r'.headers.filter (!isNamed name ·) = r.headers.filter (!isNamed name ·)

theorem isNamed_ne {name other : String} {h : List UInt8 × List UInt8} (hne : other ≠ name)
    (hother : isNamed other h) : isNamed name h = false := by
  simp only [isNamed, decide_eq_true_eq, decide_eq_false_iff_not] at hother ⊢
  intro hname
  exact hne (Text.bytes_inj.1 (hother.symm.trans hname))

/-- Headers of one name do not matter to the look-up of another. -/
theorem find?_filter_isNamed {name other : String} (hne : other ≠ name)
    (headers : List (List UInt8 × List UInt8)) :
    (headers.filter (!isNamed name ·)).find? (isNamed other) = headers.find? (isNamed other) := by
  rw [List.find?_filter]
  congr 1
  funext h
  cases hother : isNamed other h with
  | false => simp
  | true => simp [isNamed_ne hne hother]

namespace SameBut

variable {name other : String} {r r' : Request}

theorem header? (h : SameBut name r r') (hne : other ≠ name) : r'.header? other = r.header? other := by
  rw [header?_eq, header?_eq, ← find?_filter_isNamed hne, h.headers, find?_filter_isNamed hne]

theorem headerText? (h : SameBut name r r') (hne : other ≠ name) :
    r'.headerText? other = r.headerText? other := by
  unfold Request.headerText?
  rw [h.header? hne]

theorem isHook {id : String} (h : SameBut name r r') (hr : r.IsHook id) (hr' : r'.isWellFormed) :
    r'.IsHook id where
  wellFormed := hr'
  method := h.method ▸ hr.method
  place := h.target ▸ hr.place

theorem isTooLarge (h : SameBut name r r') : r'.isTooLarge = r.isTooLarge := by
  unfold Request.isTooLarge
  rw [h.body]

end SameBut

/-- A request with one header of a name, or with none. -/
def withHeader (r : Request) (name : String) (value : Option (List UInt8)) : Request :=
  { r with headers := value.toList.map (Text.bytes name, ·) ++ r.headers.filter (!isNamed name ·) }

section
variable {r : Request} {name : String} {value : Option (List UInt8)}
  (hname : (Text.bytes name).map lowerByte = Text.bytes name)
include hname

/-- Names in small letters are the names of headers as well. -/
theorem isNamed_bytes (v : List UInt8) : isNamed name (Text.bytes name, v) := decide_eq_true hname

theorem sameBut_withHeader : r.SameBut name (r.withHeader name value) where
  method := rfl
  target := rfl
  body := rfl
  headers := by
    have hnew : (value.toList.map (Text.bytes name, ·)).filter (!isNamed name ·) = [] := by
      simp [List.filter_eq_nil_iff, isNamed_bytes hname]
    rw [withHeader, List.filter_append, hnew, List.nil_append, List.filter_filter]
    simp

theorem header?_withHeader : (r.withHeader name value).header? name = value.map trim := by
  rw [header?_eq, withHeader]
  cases value with
  | none =>
    have hnone : (r.headers.filter (!isNamed name ·)).find? (isNamed name) = none := by simp
    rw [Option.toList_none, List.map_nil, List.nil_append, hnone]
    rfl
  | some v =>
    rw [Option.toList_some, List.map_singleton, List.singleton_append,
      List.find?_cons_of_pos (isNamed_bytes hname v)]
    rfl

end

theorem isWellFormed_withHeader {r : Request} {name : String} {value : Option (List UInt8)}
    (hr : r.isWellFormed) (hname : isToken (Text.bytes name)) (hvalue : ∀ v ∈ value, v.all isValueByte) :
    (r.withHeader name value).isWellFormed := by
  simp only [isWellFormed, Bool.and_eq_true, List.all_eq_true] at hr ⊢
  refine ⟨hr.1, fun h hmem => ?_⟩
  rcases List.mem_append.1 hmem with hnew | hold
  · obtain ⟨v, hv, rfl⟩ := List.mem_map.1 hnew
    exact ⟨hname, List.all_eq_true.1 (hvalue v (Option.mem_toList.1 hv))⟩
  · exact hr.2 h (List.mem_of_mem_filter hold)

/-! ## Headers as text -/

/-- The value of a header as text. -/
def textOf? (value : List UInt8) : Option String :=
  if value.all isVisible then Text.ofBytes? value else none

theorem headerText?_eq (r : Request) (name : String) :
    r.headerText? name = (r.header? name).bind textOf? := rfl

/-- The values that are texts are those of which all bytes can be seen. -/
theorem exists_textOf?_iff {value : List UInt8} :
    (∃ s, textOf? value = some s) ↔ value.all isVisible := by
  have hlt : ∀ b, isVisible b → b < 0x80 := by decide +kernel
  constructor
  · rintro ⟨s, hs⟩
    unfold textOf? at hs
    split at hs
    · assumption
    · cases hs
  · intro h
    obtain ⟨s, rfl⟩ := Text.exists_bytes_eq fun b hb => hlt b (List.all_eq_true.1 h b hb)
    exact ⟨s, by rw [textOf?, if_pos h, Text.ofBytes?_bytes]⟩

theorem trim_of_no_blank {value : List UInt8} (h : ∀ b ∈ value, isBlank b = false) :
    trim value = value := by
  have hdrop : ∀ bs : List UInt8, (∀ b ∈ bs, isBlank b = false) → bs.dropWhile isBlank = bs := by
    intro bs hbs
    cases bs with
    | nil => rfl
    | cons b bs => exact List.dropWhile_cons_of_neg (by simp [hbs b (.head _)])
  rw [trim, hdrop value h, hdrop _ fun b hb => h b (List.mem_reverse.1 hb), List.reverse_reverse]

/-- Digits can be sent as the value of a header, and are read as they are. -/
theorem digits_admitted (bs : List UInt8) :
    (Text.Hex.encode bs).all isValueByte ∧ ∃ s, textOf? (trim (Text.Hex.encode bs)) = some s ∧
      Text.Hex.Spells s bs := by
  have hdigit : ∀ n < 16, isValueByte (Text.Hex.digit n) ∧ isVisible (Text.Hex.digit n) ∧
      isBlank (Text.Hex.digit n) = false ∧ lowerByte (Text.Hex.digit n) = Text.Hex.digit n := by decide
  have hbyte : ∀ b ∈ Text.Hex.encode bs,
      isValueByte b ∧ isVisible b ∧ isBlank b = false ∧ lowerByte b = b := by
    intro b hb
    obtain ⟨n, hn, rfl⟩ := Text.Hex.exists_digit_of_mem hb
    exact hdigit n hn
  have hvisible : (Text.Hex.encode bs).all isVisible := List.all_eq_true.2 fun b hb => (hbyte b hb).2.1
  refine ⟨List.all_eq_true.2 fun b hb => (hbyte b hb).1, ?_⟩
  rw [trim_of_no_blank fun b hb => (hbyte b hb).2.2.1]
  obtain ⟨s, hs⟩ := exists_textOf?_iff.2 hvisible
  refine ⟨s, hs, ?_⟩
  rw [textOf?, if_pos hvisible, Text.ofBytes?_eq_some] at hs
  rw [Text.Hex.Spells, ← hs]
  exact (List.map_congr_left fun b hb => (hbyte b hb).2.2.2).trans (List.map_id _)

end Request

/-! ## When a request is refused -/

/-- What comes of requests of which the webhooks amount to the same, whatever the secret. -/
theorem answer_congr (s : Server) {r r' : Request} {id : String} (hr : r.IsHook id) (hr' : r'.IsHook id)
    (hlarge : r'.isTooLarge = r.isTooLarge)
    (h : ∀ secret,
      Event.ofRequest (webhookOf r' r'.body) secret = Event.ofRequest (webhookOf r r.body) secret) :
    (answer s r').value = (answer s r).value := by
  rw [answer_of_isHook s hr', answer_of_isHook s hr, hlarge]
  simp only [receive, Service.handleWebhook, h]

/-- Requests that differ in the SHA-1 signature have webhooks that do. -/
theorem webhookOf_sameBut {r r' : Request} (h : r.SameBut "x-hub-signature" r') :
    webhookOf r' r'.body =
      { webhookOf r r.body with signature := (r'.header? "x-hub-signature").bind Request.textOf? } := by
  simp only [webhookOf, h.body, h.headerText? (show "x-github-event" ≠ "x-hub-signature" by decide),
    h.headerText? (show "x-hub-signature-256" ≠ "x-hub-signature" by decide), Request.headerText?_eq r']

/-- The SHA-1 signature of a request can be replaced, or left out. -/
theorem withHeader_signature {r : Request} (hr : r.isWellFormed) (value : Option (List UInt8))
    (hvalue : ∀ v ∈ value, v.all Request.isValueByte) :
    r.SameBut "x-hub-signature" (r.withHeader "x-hub-signature" value) ∧
      (r.withHeader "x-hub-signature" value).isWellFormed ∧
      (r.withHeader "x-hub-signature" value).header? "x-hub-signature" = value.map Request.trim := by
  have hname : (Text.bytes "x-hub-signature").map Request.lowerByte = Text.bytes "x-hub-signature" := by
    decide +kernel
  have htoken : Request.isToken (Text.bytes "x-hub-signature") := by decide +kernel
  exact ⟨Request.sameBut_withHeader hname, Request.isWellFormed_withHeader hr htoken hvalue,
    Request.header?_withHeader hname⟩

section
variable {s : Server} {r : Request} {id secret : String} {service : Service}
  (hr : r.IsHook id) (hfits : r.isTooLarge = false) (hservice : s.registry.get? id = some service)
  (hsecret : service.webhookSecret = some secret) (hne : secret ≠ "")
include hr hfits hservice hsecret hne

/-- A request is refused with 403 exactly when it is not signed. -/
theorem forbidden_iff :
    (answer s r).value.response.status = 403 ↔ ¬(webhookOf r r.body).Signed secret := by
  rw [answer_of_isHook s hr, hfits, if_neg Bool.false_ne_true]
  constructor
  · intro h hsigned
    have hevent := Event.ofRequest_of_signed hne hsigned
    rw [← hsecret] at hevent
    cases hu : Event.ofUnsigned (webhookOf r r.body) with
    | ok event =>
      rw [receive_routed hservice (hevent.trans hu)] at h
      cases h
    | error e =>
      rw [receive_rejected hservice (hevent.trans hu)] at h
      have hstatus : e.status = 403 := h
      rw [Event.status_of_ofUnsigned hu] at hstatus
      cases hstatus
  · intro h
    obtain ⟨e, he, hstatus⟩ := Event.ofRequest_of_not_signed hne h
    rw [receive_rejected hservice (hsecret ▸ he)]
    exact hstatus

theorem forbidden_withHeader_iff {value : Option (List UInt8)}
    (hvalue : ∀ v ∈ value, v.all Request.isValueByte) :
    (answer s (r.withHeader "x-hub-signature" value)).value.response.status = 403 ↔
      ¬Webhook.Request.Signed
        { webhookOf r r.body with signature := (value.map Request.trim).bind Request.textOf? } secret := by
  obtain ⟨hsame, hwf, hheader⟩ := withHeader_signature hr.wellFormed value hvalue
  rw [forbidden_iff (hsame.isHook hr hwf) (hsame.isTooLarge.trans hfits) hservice hsecret hne,
    webhookOf_sameBut hsame, hheader]

/-- Where the SHA-256 signature cannot be read, there is a SHA-1 signature with which a request is not
refused, and without any it is. -/
theorem forbidden_of_unread (hunread : r.headerText? "x-hub-signature-256" = none) :
    (answer s (r.withHeader "x-hub-signature" none)).value.response.status = 403 ∧
      ∃ value, value.all Request.isValueByte ∧
        (answer s (r.withHeader "x-hub-signature" (some value))).value.response.status ≠ 403 := by
  constructor
  · refine (forbidden_withHeader_iff hr hfits hservice hsecret hne (by simp)).2 ?_
    simp [Webhook.Request.Signed, webhookOf, hunread]
  · obtain ⟨hadmitted, digits, hdigits, hspells⟩ :=
      Request.digits_admitted (Digest.hmac Digest.sha1 (Text.bytes secret) r.body)
    -- the digits of the SHA-1 digest, with no label
    refine ⟨_, hadmitted, fun h => ?_⟩
    refine (forbidden_withHeader_iff hr hfits hservice hsecret hne (by simpa using hadmitted)).1 h ?_
    rw [Option.map_some, Option.bind_some, hdigits]
    simp only [Webhook.Request.Signed, webhookOf, hunread]
    exact ⟨digits, hspells, .inl rfl⟩

end

/-! ## What the SHA-1 signature matters for -/

/-- Under a secret, the SHA-1 signature makes no difference to what comes of a request with a SHA-256
signature if and only if that can be read, unless the request is too large for anything to be read. -/
theorem signature256_decides_iff (s : Server) (r : Request) (id : String) (service : Service)
    (secret : String) (value : List UInt8) (hr : r.IsHook id) (hservice : s.registry.get? id = some service)
    (hsecret : service.webhookSecret = some secret) (hne : secret ≠ "")
    (hvalue : r.header? "x-hub-signature-256" = some value) :
    (∀ r', r.SameBut "x-hub-signature" r' → r'.isWellFormed → (answer s r').value = (answer s r).value) ↔
      r.isTooLarge ∨ value.all Request.isVisible := by
  have htext : r.headerText? "x-hub-signature-256" = Request.textOf? value := by
    rw [Request.headerText?_eq, hvalue, Option.bind_some]
  rw [← Request.exists_textOf?_iff, ← htext]
  constructor
  · intro h
    by_contra hnot
    rw [not_or, Bool.not_eq_true, not_exists] at hnot
    -- the answer to the request would be that to two others, of which one is refused and one is not
    obtain ⟨hbare, v, hv, hsigned⟩ := forbidden_of_unread hr hnot.1 hservice hsecret hne
      (Option.eq_none_iff_forall_not_mem.2 hnot.2)
    obtain ⟨hsame, hwf, -⟩ := withHeader_signature hr.wellFormed none (by simp)
    rw [h _ hsame hwf] at hbare
    obtain ⟨hsame, hwf, -⟩ := withHeader_signature hr.wellFormed (some v) (by simpa using hv)
    rw [h _ hsame hwf] at hsigned
    exact hsigned hbare
  · rintro (hlarge | ⟨t, ht⟩) r' hsame hr'
    · rw [answer_of_isHook s (hsame.isHook hr hr'), answer_of_isHook s hr, hsame.isTooLarge, if_pos hlarge,
        if_pos hlarge]
    · refine answer_congr s hr (hsame.isHook hr hr') hsame.isTooLarge fun secret => ?_
      rw [webhookOf_sameBut hsame]
      exact Event.ofRequest_withSignature ht _ secret

/-- Behind a SHA-256 signature that can be read, a right SHA-1 signature is not looked at; behind one that
cannot, it matters. -/
theorem signature256_decides_ping :
    let readable := pingRequest [("X-Hub-Signature-256", Text.bytes "sha256=00"),
      ("X-Hub-Signature", pingDigits Digest.sha1)]
    let unsigned := pingRequest [("X-Hub-Signature-256", Text.bytes "sha256=00")]
    let unreadable := pingRequest [("X-Hub-Signature-256", [0xFF])]
    (readable.IsHook "gh" ∧ readable.header? "x-hub-signature-256" = some (Text.bytes "sha256=00")) ∧
      (unreadable.IsHook "gh" ∧ unreadable.header? "x-hub-signature-256" = some [0xFF]) ∧
      (answer pingServer unsigned).value = (answer pingServer readable).value ∧
      ∃ r', unreadable.SameBut "x-hub-signature" r' ∧ r'.isWellFormed ∧
        (answer pingServer r').value ≠ (answer pingServer unreadable).value := by
  intro readable unsigned unreadable
  have hservice : pingServer.registry.get? "gh" = some pingService := rfl
  have hreadable : readable.IsHook "gh" := isHook_pingRequest (by decide +kernel)
  have hunreadable : unreadable.IsHook "gh" := isHook_pingRequest (by decide +kernel)
  have hvalue : readable.header? "x-hub-signature-256" = some (Text.bytes "sha256=00") := by decide +kernel
  have hvalue' : unreadable.header? "x-hub-signature-256" = some [0xFF] := by decide +kernel
  have hsame : readable.SameBut "x-hub-signature" unsigned := ⟨rfl, rfl, rfl, by decide +kernel⟩
  refine ⟨⟨hreadable, hvalue⟩, ⟨hunreadable, hvalue'⟩, ?_, ?_⟩
  · have hiff := signature256_decides_iff pingServer readable "gh" pingService "s3cret" _ hreadable hservice rfl
      (by decide) hvalue
    exact hiff.2 (.inr (by decide +kernel)) unsigned hsame (by decide +kernel)
  · have hiff := signature256_decides_iff pingServer unreadable "gh" pingService "s3cret" _ hunreadable hservice
      rfl (by decide) hvalue'
    by_contra hnot
    refine absurd (hiff.1 fun r' hsame hr' => ?_) (by decide +kernel)
    exact not_not.1 fun hne => hnot ⟨r', hsame, hr', hne⟩

/-- Two requests with the same SHA-256 signature, which cannot be read: with a right SHA-1 signature a ping
goes to the rooms, with a wrong one it is refused. -/
theorem signature256_unreadable :
    let genuine := pingRequest [("X-Hub-Signature-256", [0xFF]), ("X-Hub-Signature", pingDigits Digest.sha1)]
    let forged := pingRequest [("X-Hub-Signature-256", [0xFF]), ("X-Hub-Signature", Text.bytes "sha1=00")]
    (pingServer.registry.get? "gh").bind (·.webhookSecret) = some "s3cret" ∧
      (genuine.IsHook "gh" ∧ forged.IsHook "gh" ∧ genuine.SameBut "x-hub-signature" forged) ∧
      genuine.header? "x-hub-signature-256" = some [0xFF] ∧
      (answer pingServer genuine).value =
        ⟨⟨200, some "application/json", none, Text.bytes "\x7b\"delivered\":1,\"failed\":1\x7d"⟩,
          ["!a", "!b"].map (·, ⟨"m.notice", "[] webhook configured: z"⟩), []⟩ ∧
      (answer pingServer forged).value =
        ⟨⟨403, some "text/plain; charset=utf-8", none, Text.bytes "Webhook signature mismatch"⟩, [], []⟩ := by
  intro genuine forged
  have hgenuine : genuine.IsHook "gh" := isHook_pingRequest (by decide +kernel)
  have hforged : forged.IsHook "gh" := isHook_pingRequest (by decide +kernel)
  have hsame : genuine.SameBut "x-hub-signature" forged := ⟨rfl, rfl, rfl, by decide +kernel⟩
  refine ⟨rfl, ⟨hgenuine, hforged, hsame⟩, ?_, ?_, ?_⟩ <;> decide +kernel

end ForgeBridge.Http
