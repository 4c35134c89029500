import ForgeBridge.Proofs.RequestAddresses
import ForgeBridge.Proofs.SessionHistory

/-!
# When a request goes out

Whether a fetch that the cache cannot answer is let through depends on the reports and requests before it and on
the time, and on nothing else. A fetch that is let through sends its request, unless the address of the issue is too
long for a request: then it has failed, and this is reported (`sends_iff_mayPass`). From the failure that opens the
breaker to the next success, each request goes out more than a minute after the one before it, so that
many take many minutes (`requests_apart`): this holds of the calls of a breaker and of the runs of a
client.
-/

namespace ForgeBridge.Tracker

open Url

namespace Session

theorem answersWell_iff (status : Nat) :
    answersWell status = true ↔ 200 ≤ status ∧ status < 300 ∨ status = 404 ∨ status = 410 := by
  simp [answersWell, Net.isSuccess, or_assoc]

/-! ## Who may send -/

/-- The breaker of a run sums up the history of the run. -/
theorem sumsUp_history (base : String) (token : Option String) (hs : List Happening) :
    ((start base token).run hs).client.breaker.SumsUp ((start base token).history hs) := by
  have hsum := Breaker.sumsUp_run Breaker.sumsUp_closed ((start base token).history hs)
  have hpassed : Breaker.closed.passed ((start base token).history hs) = (start base token).history hs :=
    passed_history (start base token) hs
  rw [hpassed] at hsum
  rw [run_breaker]
  exact hsum

/-- A fetch that the cache cannot answer is let through just when the history says it may be, and is refused
otherwise. If it is let through, its request goes out, unless the address of the issue is too long: then nothing is
sent, and the fetch has failed. Nothing else is let through. What is in the history besides are the final heads, the
broken requests, and those that are too long: nothing is reported by a cache hit, a refusal or a request that is given
up. -/
theorem sends_iff_mayPass (base : String) (token : Option String) (hb : IsServer base)
    (ht : ∀ t ∈ token, Net.isHeaderValue t = true) (hs : List Happening) :
    let client := (start base token).client
    let history := (start base token).history hs
    let s := (start base token).run hs
    (∀ h id r, s.asks h = some (id, r) →
      (Net.webUrl? (client.urlText r)).isSome = true ∧
      ((s.sends h).isSome = true ↔ history.MayPass s.now ∧ ¬client.IsTooLong r) ∧
      (history.MayPass s.now → client.IsTooLong r →
        s.sends h = none ∧ s.answer? h = some (id, .failed (.request .unbuilt))) ∧
      (¬history.MayPass s.now → s.sends h = none ∧ s.answer? h = some (id, .failed .circuitOpen))) ∧
    (∀ h, s.admits h = true ↔ (∃ id r, s.asks h = some (id, r)) ∧ history.MayPass s.now) ∧
    ∀ h e, s.report? h = some e ↔
      (∃ id status, h = .head id status ∧ s.waits id = true ∧
        e = if 200 ≤ status ∧ status < 300 ∨ status = 404 ∨ status = 410 then .success else .failure) ∨
      (∃ id failure, h = .broken id failure ∧ s.waits id = true ∧ e = .failure) ∨
      ∃ id r, s.asks h = some (id, r) ∧ history.MayPass s.now ∧ client.IsTooLong r ∧ e = .failure := by
  intro client history s
  have hallows : s.client.breaker.allows s.now = true ↔ history.MayPass s.now :=
    Breaker.allows_iff (sumsUp_history base token hs) s.now
  have hbuilt (r : Reference) : (s.client.request? r).isSome = true ↔ ¬client.IsTooLong r := by
    rw [request?_run]
    exact (Client.request?_isSome_iff hb ht r).2
  have hunbuilt (r : Reference) : s.client.request? r = none ↔ client.IsTooLong r := by
    rw [← not_iff_not, ← hbuilt, Option.isSome_iff_ne_none]
  refine ⟨fun h id r ha => ?_, fun h => ?_, fun h e => ?_⟩
  · refine ⟨(Client.request?_isSome_iff hb ht r).1, ?_, fun hmay hlong => ?_, fun hnot => ?_⟩
    · rw [sends_isSome_iff ha, hallows, hbuilt]
    · exact (asks_unbuilt ha (hallows.2 hmay) ((hunbuilt r).2 hlong)).2
    · have hrefused : s.client.breaker.allows s.now = false := by
        rw [← hallows] at hnot
        simpa using hnot
      exact (asks_refused ha hrefused).2
  · cases ha : s.asks h with
    | none => simp [admits, ha]
    | some asked =>
      obtain ⟨id, r⟩ := asked
      rw [admits_of_asks ha, hallows]
      exact (and_iff_right ⟨id, r, rfl⟩).symm
  · rw [report?_eq_some]
    simp only [answersWell_iff, hallows, hunbuilt]

def issue (n : Nat) : Reference := ⟨"o", "r", .ofNat n⟩

/-- Five requests fail one after the other. -/
def outage : List Happening := (List.range 5).flatMap fun n => [.fetch n (issue n), .head n 500]

/-- More than a minute after an outage the trial goes out, but it is given up. -/
def abandoned : List Happening :=
  outage ++ [.passed (60 * second + 1), .fetch 5 (issue 5), .cancelled 5, .passed (60 * second)]

/-- A minute after a trial that was given up the next fetch is refused, and a moment later it is
not. -/
theorem sends_iff_mayPass_abandoned :
    let s := (start "http://h" none).run abandoned
    let later := (start "http://h" none).run (abandoned ++ [.passed 1])
    IsServer "http://h" ∧ s.asks (.fetch 6 (issue 6)) = some (6, issue 6) ∧
      s.answer? (.fetch 6 (issue 6)) = some (6, .failed .circuitOpen) ∧
      (later.sends (.fetch 6 (issue 6))).isSome = true := by
  intro s later
  have hserver : IsServer "http://h" := by decide +kernel
  have hask : s.asks (.fetch 6 (issue 6)) = some (6, issue 6) := by decide +kernel
  have hask' : later.asks (.fetch 6 (issue 6)) = some (6, issue 6) := by decide +kernel
  have hshort : ¬(start "http://h" none).client.IsTooLong (issue 6) := by decide +kernel
  obtain ⟨hfetch, -⟩ := sends_iff_mayPass _ none hserver nofun abandoned
  obtain ⟨hfetch', -⟩ := sends_iff_mayPass _ none hserver nofun (abandoned ++ [.passed 1])
  obtain ⟨-, -, -, hrefused⟩ := hfetch _ _ _ hask
  obtain ⟨-, hsends, -, -⟩ := hfetch' _ _ _ hask'
  refine ⟨hserver, hask, (hrefused (by decide +kernel)).2, hsends.2 ⟨by decide +kernel, hshort⟩⟩

/-- An issue of an owner with a very long name. -/
def remote : Reference := ⟨.ofList (List.replicate 65534 'x'), "r", 1⟩

theorem isTooLong_remote : (start "http://h" none).client.IsTooLong remote := by
  have howner : remote.owner.toList = List.replicate 65534 'x' := String.toList_ofList
  have hproper : remote.IsProper := by
    have hrepo : Reference.IsName "r".toList := by decide
    refine ⟨⟨?_, fun c hc => ?_⟩, hrepo⟩
    · rw [howner]
      exact List.cons_ne_nil _ _
    · rw [howner] at hc
      rw [List.eq_of_mem_replicate hc]
      rfl
  have hsize : remote.owner.utf8ByteSize = 65534 := by
    rw [Text.utf8ByteSize_of_ascii, howner, List.length_replicate]
    intro c hc
    rw [howner] at hc
    rw [List.eq_of_mem_replicate hc]
    decide
  have hserver : IsServer "http://h" := by decide +kernel
  have hurl : Net.webUrl? "http://h" =
      some ⟨"http", "", none, some (.domain "h"), none, .segments [[]], none, none⟩ := by decide +kernel
  obtain ⟨size, hlong⟩ := Client.exists_size hurl rfl rfl
  have htoken : ∀ t ∈ (none : Option String), Net.isHeaderValue t = true := nofun
  obtain ⟨hsome, -⟩ := Client.request?_isSome_iff hserver htoken remote
  obtain ⟨u, hu⟩ := Option.isSome_iff_exists.1 hsome
  refine ⟨u, hu, ?_⟩
  rw [Client.urlText_eq] at hu
  have hslash : "/".utf8ByteSize = 1 := rfl
  rw [hlong remote hproper u hu, Client.issuePath]
  simp only [String.utf8ByteSize_append, hsize, hslash]
  omega

/-- The fetch of such an issue may pass, but it sends nothing, and it is not refused either. -/
theorem mayPass_remote :
    let s := start "http://h" none
    IsServer "http://h" ∧ s.asks (.fetch 0 remote) = some (0, remote) ∧ (s.history []).MayPass s.now ∧
      s.sends (.fetch 0 remote) = none ∧ s.answer? (.fetch 0 remote) = some (0, .failed (.request .unbuilt)) := by
  intro s
  have hserver : IsServer "http://h" := by decide +kernel
  have hask : s.asks (.fetch 0 remote) = some (0, remote) := rfl
  have hmay : (s.history []).MayPass s.now := by decide
  have htoken : ∀ t ∈ (none : Option String), Net.isHeaderValue t = true := nofun
  have hnone : s.client.request? remote = none := by
    obtain ⟨-, hbuilt⟩ := Client.request?_isSome_iff hserver htoken remote
    rw [← Option.not_isSome_iff_eq_none]
    exact fun hsome => hbuilt.1 hsome isTooLong_remote
  have hallows : s.client.breaker.allows s.now = true := by decide
  exact ⟨hserver, hask, hmay, (asks_unbuilt hask hallows hnone).2⟩

/-! ## The requests of an open period -/

/-- From the moment when the breaker is open to the next success, each request goes out more than a
minute after the one before it: `n` of them take more than `n - 1` minutes. So it is for the calls of a
breaker, and so for the runs of a client. -/
theorem requests_apart :
    (∀ before during : History, (before ++ during).Ordered →
      (Breaker.closed.run before).isOpen = true → (∀ c ∈ during, c.event ≠ .success) →
      Apart (60 * second) ((Breaker.closed.run before).passed during).requestTimes) ∧
    ∀ base token (before during : List Happening),
      let s := (start base token).run before
      s.client.breaker.isOpen = true → (∀ c ∈ s.history during, c.event ≠ .success) →
      Apart (60 * second) (s.history during).requestTimes := by
  constructor
  · intro before during hord hopen hno
    have hrem := (Breaker.sumsUp_run Breaker.sumsUp_closed before).remembers hopen
    have hduring : during.Ordered := (List.pairwise_append.1 hord).2.1
    have hall := Breaker.passed_apart hrem hduring (fun c _ => Nat.zero_le c.time) hno
    exact apart_of_pairwise (List.pairwise_cons.1 hall).2
  · intro base token before during s hopen hno
    have hrem := (sumsUp_history base token before).remembers hopen
    have hall := Breaker.passed_apart hrem (ordered_history s during) (fun c _ => Nat.zero_le c.time) hno
    rw [passed_history] at hall
    exact apart_of_pairwise (List.pairwise_cons.1 hall).2

/-- The calls of an open period: a trial, a failure of another request, and one trial more. -/
def trials : History :=
  [⟨61 * second, .request⟩, ⟨62 * second, .failure⟩, ⟨100 * second, .request⟩,
    ⟨123 * second, .request⟩]

/-- A trial is given up, and the next one goes out a minute later. -/
def retried : List Happening :=
  [.passed (61 * second), .fetch 5 (issue 5), .cancelled 5, .passed (61 * second), .fetch 6 (issue 6)]

theorem requests_apart_trials :
    (∃ before, (Breaker.closed.run before).isOpen = true ∧
      ((Breaker.closed.run before).passed trials).requestTimes = [61 * second, 123 * second] ∧
      Apart (60 * second) [61 * second, 123 * second]) ∧
    ∃ before, ((start "http://h" none).run before).client.breaker.isOpen = true ∧
      (((start "http://h" none).run before).history retried).requestTimes =
        [61 * second, 122 * second] ∧
      Apart (60 * second) [61 * second, 122 * second] := by
  constructor
  · have hopen : (Breaker.closed.run (List.replicate 5 ⟨0, .failure⟩)).isOpen = true := by decide
    have htimes : ((Breaker.closed.run (List.replicate 5 ⟨0, .failure⟩)).passed trials).requestTimes =
        [61 * second, 123 * second] := by decide
    refine ⟨_, hopen, htimes, ?_⟩
    rw [← htimes]
    exact requests_apart.1 _ _ (by decide) hopen (by decide)
  · have hopen : ((start "http://h" none).run outage).client.breaker.isOpen = true := by
      decide +kernel
    have htimes : (((start "http://h" none).run outage).history retried).requestTimes =
        [61 * second, 122 * second] := by decide +kernel
    refine ⟨outage, hopen, htimes, ?_⟩
    rw [← htimes]
    exact requests_apart.2 _ _ _ _ hopen (by decide +kernel)

end Session

end ForgeBridge.Tracker
