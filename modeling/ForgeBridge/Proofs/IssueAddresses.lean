import ForgeBridge.Proofs.CacheOrder

/-!
# Addresses of issues

Two issues share a key in the cache if and only if they share an address, whatever their names are
(`key_eq_iff`). The names in a reference of a text stand for themselves in an address, behind the path of the server
(`url_of_mem_findAll`). So different references have different addresses, which differ from each other at the end of
the path alone. The request for an issue can be built unless its address is too long.
-/

namespace ForgeBridge

namespace Tracker

open Url

/-- The last slash of a text cuts it in one way. -/
theorem eq_of_append_last_slash {a a' t t' : List Char} (ht : '/' ∉ t) (ht' : '/' ∉ t')
    (h : a ++ '/' :: t = a' ++ '/' :: t') : a = a' ∧ t = t' := by
  have hreverse := congrArg List.reverse h
  simp only [List.reverse_append, List.reverse_cons, List.append_assoc, List.singleton_append] at hreverse
  obtain ⟨hts, has⟩ := eq_of_append_slash (by simpa using ht) (by simpa using ht') hreverse
  exact ⟨List.reverse_inj.1 has, List.reverse_inj.1 hts⟩

namespace Client

theorem webUrl?_of_request? {c : Client} {r : Reference} {q : Net.Request} (h : c.request? r = some q) :
    Net.webUrl? (c.urlText r) = some q.url := by
  rw [request?] at h
  cases hu : Net.webUrl? (c.urlText r) with
  | none => simp [hu] at h
  | some u =>
    simp only [hu, Option.bind_eq_bind, Option.bind_some] at h
    split at h
    · cases h
    · cases h
      rfl

/-- Two issues share a key if and only if they share an address. -/
theorem key_eq_iff (c : Client) (r r' : Reference) : key r = key r' ↔ c.urlText r = c.urlText r' := by
  -- both are cut at the slash in front of the number, and at those around the names
  have hkey (r : Reference) : (key r).toList =
      (r.owner.toList ++ '/' :: r.repo.toList) ++ '/' :: Nat.toDigits 10 r.number.toNat := by
    rw [toList_key, List.append_assoc, List.cons_append]
  have hurl (r : Reference) : (c.urlText r).toList =
      ((c.apiBase ++ "/repos/").toList ++ (r.owner.toList ++ '/' :: r.repo.toList) ++ "/issues".toList) ++
        '/' :: Nat.toDigits 10 r.number.toNat := by
    simp [urlText]
  have hcut {a a' : List Char} : a ++ '/' :: Nat.toDigits 10 r.number.toNat =
      a' ++ '/' :: Nat.toDigits 10 r'.number.toNat ↔
        a = a' ∧ Nat.toDigits 10 r.number.toNat = Nat.toDigits 10 r'.number.toNat := by
    refine ⟨eq_of_append_last_slash (slash_notMem_toDigits _) (slash_notMem_toDigits _), ?_⟩
    rintro ⟨ha, hd⟩
    rw [ha, hd]
  rw [← String.toList_inj, ← String.toList_inj, hkey, hkey, hurl, hurl, hcut, hcut, List.append_left_inj,
    List.append_right_inj]

/-- No slash is in a proper name. -/
theorem isPlain_of_isProper {r : Reference} (hr : r.IsProper) : r.IsPlain :=
  ⟨fun hmem => ne_of_isNameChar (hr.1.2 _ hmem) rfl rfl, fun hmem => ne_of_isNameChar (hr.2.2 _ hmem) rfl rfl⟩

/-- What a request for an issue names, behind the path of the server. -/
theorem target_issue {server : Url} (hq : server.query = none) (path : List (List Char)) (r : Reference) :
    { server with path := .segments (path ++ issueSegments r) }.target =
      (Path.segments path).display ++ ("/repos" ++ issuePath r) := by
  simp only [Url.target, hq, display_append, display_issueSegments, String.append_empty]

/-- A reference of a text has a key of its own. -/
theorem key_ne_of_mem_findAll {text : String} {r r' : Reference} (hr' : r' ∈ Reference.findAll text) (hne : r ≠ r') :
    key r ≠ key r' := fun hkey =>
  hne (eq_of_key (isPlain_of_isProper (Reference.isProper_of_mem_findAll hr')) hkey)

end Client

namespace Session

theorem mem_of_lastUnder {results : List Stored} {key : String} {x : Stored} (h : lastUnder results key = some x) :
    x ∈ results ∧ Client.key x.reference = key :=
  ⟨List.mem_reverse.1 (List.mem_of_find?_eq_some h), by simpa using List.find?_some h⟩

/-- What is served from the cache was stored for an issue with the same address. -/
theorem stored_of_answer (base : String) (token : Option String) {hs : List Happening} {h : Happening} {id : Nat}
    {r : Reference} {summary : Summary} (hlooks : ((start base token).run hs).looks h = some (id, r))
    (hanswer : ((start base token).run hs).answer? h = some (id, .resolved summary)) :
    ∃ x ∈ (start base token).stored hs, x.summary = summary ∧ Client.key x.reference = Client.key r := by
  cases source_of_answer hanswer with
  | cache r' summary' looks hit answer =>
    cases hlooks.symm.trans looks
    cases answer
    obtain ⟨e, he, rfl, -⟩ := Cache.serve_hit hit
    obtain ⟨x, hx, rfl⟩ := lastUnder_of_entry base token he
    obtain ⟨hmem, hkey⟩ := mem_of_lastUnder hx
    exact ⟨x, hmem, rfl, hkey⟩
  | breaker r' e asks answer => cases answer
  | request out =>
    -- a fetch that looks has only just started
    have hnone : ((start base token).run hs).flight? id = none := by
      cases h with
      | looked i r' | fetch i r' =>
        rw [looks] at hlooks
        split at hlooks
        · cases hlooks
        · rename_i hnot
          cases hlooks
          simpa using hnot
      | _ => cases hlooks
    simp [isOut, hnone] at out

/-- What goes out for an issue at any time is its request. -/
theorem request?_of_sends (base : String) (token : Option String) {hs : List Happening} {h : Happening} {id : Nat}
    {r : Reference} {q : Net.Request} (ha : ((start base token).run hs).asks h = some (id, r))
    (hsends : ((start base token).run hs).sends h = some q) : (start base token).client.request? r = some q := by
  have hout : (((start base token).run hs).sends h).isSome = true := by rw [hsends]; rfl
  obtain ⟨hallows, hbuilt⟩ := (sends_isSome_iff ha).1 hout
  obtain ⟨q', hq'⟩ := Option.isSome_iff_exists.1 hbuilt
  obtain rfl : q' = q := Option.some.inj ((asks_sent ha hallows hq').2.1.symm.trans hsends)
  rw [← request?_run (start base token) hs, hq']

/-- All requests for references of texts go to one server, and name the issue behind the front of a path. -/
theorem url_of_mem_findAll (base : String) (token : Option String) {u : Url} (hu : Net.webUrl? base = some u)
    (hquery : u.query = none) (hfragment : u.fragment = none) :
    ∃ (server : Url) (path : List (List Char)), server.query = none ∧ (EndsWell base → server = u) ∧
      ∀ (text : String), ∀ r ∈ Reference.findAll text, ∀ q, (start base token).client.request? r = some q →
        q.url = { server with path := .segments (path ++ Client.issueSegments r) } := by
  obtain ⟨server, path, hq, hserver, hall⟩ := exists_server hu hquery hfragment
  refine ⟨server, path, hq, hserver, fun text r hr q hreq => ?_⟩
  have hproper := Reference.isProper_of_mem_findAll hr
  have hurl : Net.webUrl? (Client.trimSlashes base ++ ("/repos" ++ Client.issuePath r)) = some q.url :=
    Client.urlText_eq (start base token).client r ▸ Client.webUrl?_of_request? hreq
  exact hall _ _ (Client.isPath_issuePath r) (Client.endsWell_issuePath _ r) (List.cons_ne_nil _ _)
    (Client.isNameChar_issueSegments hproper) (Client.behind_issuePath hproper) _ hurl

/-- Two issues share a key if and only if they share an address, so that what is served from the cache was stored for
the address that would have been asked. What is sent for an issue is always the same request. If the client is given
a web address without a query and a fragment, all its requests for references of texts go to one server, which is
that of the address unless a blank ends it, and behind the path of the server they name the issue and nothing else.
So no two references of texts share a key or what their requests name. If the host of the server is plain and the
token can be sent, the request for an issue can be built unless the address of the issue is too long. -/
theorem request_of_mem_findAll (base : String) (token : Option String) :
    (∀ r r' : Reference, Client.key r = Client.key r' ↔
      (start base token).client.urlText r = (start base token).client.urlText r') ∧
    (∀ (hs : List Happening) (h : Happening) (id : Nat) (r : Reference) (summary : Summary),
      ((start base token).run hs).looks h = some (id, r) →
      ((start base token).run hs).answer? h = some (id, .resolved summary) →
      ∃ x ∈ (start base token).stored hs, x.summary = summary ∧
        (start base token).client.urlText x.reference = (start base token).client.urlText r ∧
        (start base token).client.request? x.reference = (start base token).client.request? r) ∧
    (∀ (hs : List Happening) (h : Happening) (id : Nat) (r : Reference) (q : Net.Request),
      ((start base token).run hs).asks h = some (id, r) → ((start base token).run hs).sends h = some q →
      (start base token).client.request? r = some q) ∧
    (∀ (text text' : String), ∀ r ∈ Reference.findAll text, ∀ r' ∈ Reference.findAll text', r ≠ r' →
      Client.key r ≠ Client.key r') ∧
    ∀ u, Net.webUrl? base = some u → u.query = none → u.fragment = none →
      (EndsWell base → u.HasPlainHost → (∀ t ∈ token, Net.isHeaderValue t = true) → ∀ r,
        (Net.webUrl? ((start base token).client.urlText r)).isSome = true ∧
          (((start base token).client.request? r).isSome = true ↔ ¬(start base token).client.IsTooLong r)) ∧
      ∃ (server : Url) (path : List (List Char)), (EndsWell base → server = u) ∧
        ∀ (text : String), ∀ r ∈ Reference.findAll text, ∀ q, (start base token).client.request? r = some q →
          q.url = { server with path := .segments (path ++ Client.issueSegments r) } ∧ q.url.query = none ∧
          q.url.target = (Path.segments path).display ++ "/repos/" ++ r.owner ++ "/" ++ r.repo ++ "/issues/" ++
            toString r.number.toNat ∧
          ∀ (text' : String), ∀ r' ∈ Reference.findAll text', r ≠ r' →
            ∀ q', (start base token).client.request? r' = some q' → q.url.target ≠ q'.url.target := by
  let c := (start base token).client
  have hkeys := c.key_eq_iff
  refine ⟨hkeys, ?_, fun hs h id r q ha hsends => request?_of_sends base token ha hsends,
    fun text text' r hr r' hr' hne => Client.key_ne_of_mem_findAll hr' hne, ?_⟩
  · intro hs h id r summary hlooks hanswer
    obtain ⟨x, hx, hsummary, hkey⟩ := stored_of_answer base token hlooks hanswer
    have hurl := (hkeys _ _).1 hkey
    exact ⟨x, hx, hsummary, hurl, by rw [Client.request?, Client.request?, hurl]⟩
  · intro u hu hquery hfragment
    refine ⟨fun he hplain ht r => Client.request?_isSome_iff ⟨⟨u, hu, hplain⟩, he⟩ ht r, ?_⟩
    obtain ⟨server, path, hq, hserver, hall⟩ := url_of_mem_findAll base token hu hquery hfragment
    refine ⟨server, path, hserver, fun text r hr q hreq => ?_⟩
    rw [hall text r hr q hreq, Client.target_issue hq]
    refine ⟨rfl, hq, ?_, fun text' r' hr' hne q' hreq' heq => ?_⟩
    · rw [← String.toList_inj]
      simp [Client.issuePath]
    · -- what is named alike has one address, and so one key
      refine Client.key_ne_of_mem_findAll hr' hne ((hkeys _ _).2 ?_)
      rw [hall text' r' hr' q' hreq', Client.target_issue hq, ← String.toList_inj, String.toList_append,
        String.toList_append (s := (Path.segments path).display), List.append_right_inj, String.toList_inj] at heq
      rw [Client.urlText_eq, Client.urlText_eq, heq]

/-- Two issues of one text, at a server with a path and a slash behind it. -/
theorem request_of_mem_findAll_path :
    let c := (start "http://h/api/" none).client
    Reference.findAll "see a_b/c-d#7, x/y#8" = [⟨"a_b", "c-d", 7⟩, ⟨"x", "y", 8⟩] ∧
      ∃ q q', c.request? ⟨"a_b", "c-d", 7⟩ = some q ∧ c.request? ⟨"x", "y", 8⟩ = some q' ∧
        q.url.host = some (.domain "h") ∧ q'.url.host = q.url.host ∧ q.url.target ≠ q'.url.target ∧
        ∃ path, q.url.target = path ++ "/repos/a_b/c-d/issues/7" := by
  intro c
  have htext : Reference.findAll "see a_b/c-d#7, x/y#8" = [⟨"a_b", "c-d", 7⟩, ⟨"x", "y", 8⟩] := by decide +kernel
  have hbase : Net.webUrl? "http://h/api/" =
      some ⟨"http", "", none, some (.domain "h"), none, .segments [['a', 'p', 'i'], []], none, none⟩ := by decide +kernel
  have hend : EndsWell "http://h/api/" := by
    have hlast : "http://h/api/".toList.getLast? = some '/' := by decide +kernel
    rw [EndsWell, hlast]
    rintro c ⟨⟩
    decide
  obtain ⟨-, -, -, -, haddress⟩ := request_of_mem_findAll "http://h/api/" none
  obtain ⟨hbuilt, server, path, hserver, hall⟩ := haddress _ hbase rfl rfl
  obtain rfl := hserver hend
  have hplain : (⟨"http", "", none, some (.domain "h"), none, .segments [['a', 'p', 'i'], []], none, none⟩ :
      Url).HasPlainHost := by decide +kernel
  have hshort : ¬c.IsTooLong ⟨"a_b", "c-d", 7⟩ ∧ ¬c.IsTooLong ⟨"x", "y", 8⟩ := by decide +kernel
  have hbuilt := hbuilt hend hplain (by rintro t ⟨⟩)
  obtain ⟨q, hq⟩ := Option.isSome_iff_exists.1 ((hbuilt ⟨"a_b", "c-d", 7⟩).2.2 hshort.1)
  obtain ⟨q', hq'⟩ := Option.isSome_iff_exists.1 ((hbuilt ⟨"x", "y", 8⟩).2.2 hshort.2)
  have hfirst : ⟨"a_b", "c-d", 7⟩ ∈ Reference.findAll "see a_b/c-d#7, x/y#8" := by simp [htext]
  have hsecond : ⟨"x", "y", 8⟩ ∈ Reference.findAll "see a_b/c-d#7, x/y#8" := by simp [htext]
  obtain ⟨hurl, -, htarget, hne⟩ := hall _ _ hfirst q hq
  obtain ⟨hurl', -⟩ := hall _ _ hsecond q' hq'
  refine ⟨htext, q, q', hq, hq', by rw [hurl], by rw [hurl, hurl'], ?_, (Path.segments path).display, ?_⟩
  · exact hne _ _ hsecond (by decide) q' hq'
  · rw [htarget]
    simp only [String.append_assoc]
    rfl

end Session

end Tracker

end ForgeBridge
