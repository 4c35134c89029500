import ForgeBridge.Proofs.Admission
import Mathlib.Data.List.Induction

/-!
# Fetches one after the other

A client that fetches one issue after the other counts its failures (`Counted`), but for one kind: a
body that cannot be read comes behind the head of a success, and so it is counted as a success. Five
fetches in a row that were tried and failed leave the breaker open if and only if none of them
failed for its body (`failures_of_serveAll`). A fetch is tried if its request was sent or could not be
built: the breaker hears of both.
-/

namespace ForgeBridge.Tracker

/-- How a server replies to a request. -/
inductive Reply where
  /-- No head comes: the connection is lost, or the time runs out. -/
  | lost (wait : Nat) (failure : Net.Failure)
  /-- A head comes, and behind the head of a success the body, which may break off or never end. -/
  | answered (wait status pause : Nat) (content : Option (List UInt8))

/-- A fetch that starts after a while, and the reply to its request if it sends one. -/
structure Errand where
  pause : Nat
  reference : Reference
  reply : Reply

/-- What came of an errand. -/
structure Outcome where
  /-- Whether a request went out. -/
  sent : Bool
  resolution : Option Resolution
  endedAt : Nat
deriving DecidableEq

/-- What happens by a reply. -/
def Reply.happenings : Reply → List Happening
  | .lost wait failure => [.passed wait, .broken 0 failure]
  | .answered wait status pause content =>
    [.passed wait, .head 0 status] ++
      if Net.isSuccess status then [.passed pause, .body 0 content] else []

namespace Session

/-! ## Errands -/

/-- The answers that are given in a run. -/
def answers (s : Session) : List Happening → List (Nat × Resolution)
  | [] => []
  | h :: hs => (s.answer? h).toList ++ (s.next h).answers hs

/-- A session at the time when an errand starts. -/
def before (s : Session) (e : Errand) : Session := s.next (.passed e.pause)

/-- Whether an errand sends a request. -/
def sendsFor (s : Session) (e : Errand) : Bool := ((s.before e).sends (.fetch 0 e.reference)).isSome

/-- Whether the cache cannot answer an errand. -/
def misses (s : Session) (e : Errand) : Bool := ((s.before e).asks (.fetch 0 e.reference)).isSome

/-- All that happens in an errand. The server replies if there is a request. -/
def course (s : Session) (e : Errand) : List Happening :=
  [.passed e.pause, .fetch 0 e.reference] ++ if s.sendsFor e then e.reply.happenings else []

def serve (s : Session) (e : Errand) : Session := s.run (s.course e)

def outcome (s : Session) (e : Errand) : Outcome :=
  ⟨s.sendsFor e, (s.answers (s.course e)).head?.map (·.2), (s.serve e).now⟩

/-- A session after one errand after the other. -/
def serveAll (s : Session) (es : List Errand) : Session := es.foldl serve s

def outcomes (s : Session) : List Errand → List Outcome
  | [] => []
  | e :: es => s.outcome e :: (s.serve e).outcomes es

theorem serveAll_concat (s : Session) (es : List Errand) (e : Errand) :
    s.serveAll (es ++ [e]) = (s.serveAll es).serve e := by
  simp [serveAll]

theorem outcomes_concat (s : Session) (es : List Errand) (e : Errand) :
    s.outcomes (es ++ [e]) = s.outcomes es ++ [(s.serveAll es).outcome e] := by
  induction es generalizing s with
  | nil => rfl
  | cons e' es ih => simp only [List.cons_append, outcomes, ih, serveAll, List.foldl_cons]

end Session

/-! ## What counts -/

namespace Outcome

/-- A fetch that failed. -/
def Fails (o : Outcome) : Prop := ∃ e, o.resolution = some (.failed e)

/-- A fetch that failed because its body could not be read. -/
def IsMalformed (o : Outcome) : Prop := ∃ reason, o.resolution = some (.failed (.malformed reason))

/-- An outcome that is counted as a failure. -/
def counts (o : Outcome) : Bool :=
  match o.resolution with
  | some (.failed (.malformed _)) | some (.failed .circuitOpen) => false
  | some (.failed _) => true
  | _ => false

/-- An outcome that the breaker has let through: a request was sent, or it could not be built. -/
def tried (o : Outcome) : Bool := o.sent || o.resolution = some (.failed (.request .unbuilt))

/-- An outcome that ends the count. An answer from the cache does not. -/
def resets (o : Outcome) : Bool :=
  match o.sent, o.resolution with
  | true, some (.resolved _) | true, some .absent | true, some (.failed (.malformed _)) => true
  | _, _ => false

/-- The failures since the count was ended last, the last one in front. -/
def tally (os : List Outcome) : List Outcome :=
  (os.filter fun o => o.counts || o.resets).reverse.takeWhile counts

section
variable {os : List Outcome} {o : Outcome}

theorem tally_counts (ho : o.counts = true) : tally (os ++ [o]) = o :: tally os := by
  simp [tally, List.filter_append, ho]

theorem tally_resets (ho : o.counts = false) (hr : o.resets = true) : tally (os ++ [o]) = [] := by
  simp [tally, List.filter_append, ho, hr]

theorem tally_quiet (ho : o.counts = false) (hr : o.resets = false) : tally (os ++ [o]) = tally os := by
  simp [tally, List.filter_append, ho, hr]

end

end Outcome

/-- A failure makes the same of a breaker whether a request went out before or not. -/
theorem Breaker.fail_call_request (b : Breaker) (now t : Nat) :
    (b.call ⟨now, .request⟩).2.fail t = b.fail t := by
  cases ha : b.allows now with
  | false => rw [call_refused ha]
  | true =>
    cases ho : b.openedAt with
    | none => rw [call_granted_closed ho]
    | some o => rw [call_granted_open ho ha]; rfl

namespace Session

/-! ## One fetch -/

/-- What the breaker hears of a request: its outcome counts, or it ends the count. -/
def Heard (b b' : Breaker) (o : Outcome) : Prop :=
  o.counts = true ∧ o.resets = false ∧ b' = b.fail o.endedAt ∨
    o.counts = false ∧ o.resets = true ∧ b' = .closed

/-- What an errand does to the breaker, by its outcome. -/
inductive Served (s : Session) (e : Errand) : Prop where
  /-- The cache answered, or the breaker refused. -/
  | quiet (sent : (s.outcome e).sent = false) (counts : (s.outcome e).counts = false)
    (breaker : (s.serve e).client.breaker = s.client.breaker)
  /-- There was no way to make a request. -/
  | unbuilt (sent : (s.outcome e).sent = false)
    (resolution : (s.outcome e).resolution = some (.failed (.request .unbuilt)))
    (breaker : (s.serve e).client.breaker = s.client.breaker.fail (s.outcome e).endedAt)
  | sent (sent : (s.outcome e).sent = true)
    (heard : Heard s.client.breaker (s.serve e).client.breaker (s.outcome e))

theorem errorOf_cases (status : Nat) :
    Client.errorOf status = .unauthorized ∨ Client.errorOf status = .rateLimited ∨
      Client.errorOf status = .status status := by
  unfold Client.errorOf
  split
  · exact .inl rfl
  · split
    · exact .inr (.inl rfl)
    · exact .inr (.inr rfl)

theorem takeBody_resolution (c : Client) (now : Nat) (r : Reference) (content : Option (List UInt8)) :
    (∃ summary, (c.takeBody now r content).2 = .resolved summary) ∨
      ∃ reason, (c.takeBody now r content).2 = .failed (.malformed reason) := by
  cases content with
  | none => exact .inr ⟨_, rfl⟩
  | some body =>
    cases hsum : Client.summaryOf body with
    | error e => exact .inr ⟨_, by simp only [Client.takeBody, hsum]; rfl⟩
    | ok summary => exact .inl ⟨summary, by simp only [Client.takeBody, hsum]⟩

theorem heard_errorOf (b : Breaker) (status t : Nat) :
    Heard b (b.fail t) ⟨true, some (.failed (Client.errorOf status)), t⟩ := by
  rcases errorOf_cases status with h | h | h <;> rw [h] <;> exact .inl ⟨rfl, rfl, rfl⟩

/-- The head of a success is reported before the body is read, so it makes no difference to the breaker
what the body holds. -/
theorem heard_takeBody (b : Breaker) (c : Client) (now : Nat) (r : Reference) (content : Option (List UInt8))
    (t : Nat) :
    Heard b (c.reportSuccess.takeBody now r content).1.breaker
      ⟨true, some (c.reportSuccess.takeBody now r content).2, t⟩ := by
  have hbody : (c.reportSuccess.takeBody now r content).1.breaker = .closed := Client.takeBody_breaker content
  rcases takeBody_resolution c.reportSuccess now r content with ⟨summary, h⟩ | ⟨reason, h⟩
  · rw [h]
    exact .inr ⟨rfl, rfl, hbody⟩
  · rw [h]
    exact .inr ⟨rfl, rfl, hbody⟩

/-- What a reply does to a session in which a request waits, and how it answers. -/
theorem run_reply (c : Client) (now : Nat) (r : Reference) (reply : Reply) :
    let s : Session := ⟨c, now, [(0, ⟨r, .waiting⟩)]⟩
    ∃ c' t resolution, s.run reply.happenings = ⟨c', t, []⟩ ∧
      s.answers reply.happenings = [(0, resolution)] ∧
      Heard c.breaker c'.breaker ⟨true, some resolution, t⟩ := by
  intro s
  cases reply with
  | lost wait failure =>
    refine ⟨{ c with breaker := c.breaker.fail (now + wait) }, now + wait, .failed (.request failure), ?_, ?_,
      .inl ⟨rfl, rfl, rfl⟩⟩
    · simp [s, Reply.happenings, run, next, step, flight?, land, Client.failWith_value]
    · simp [s, Reply.happenings, answers, next, answer?, step, flight?, Client.failWith_value]
  | answered wait status pause content =>
    by_cases h2 : Net.isSuccess status = true
    · have hhead : (c.takeHead (now + wait) status).value = (c.reportSuccess, none) := by
        simp [Client.takeHead, h2]
      refine ⟨_, now + wait + pause, _, ?_, ?_, heard_takeBody _ c (now + wait + pause) r content _⟩
      · simp [s, Reply.happenings, run, next, step, flight?, land, advance, hhead, h2]
      · simp [s, Reply.happenings, answers, next, answer?, step, flight?, land, advance, hhead, h2]
    · by_cases h4 : status = 404 ∨ status = 410
      · have hhead : (c.takeHead (now + wait) status).value = (c.reportSuccess, some .absent) := by
          simp [Client.takeHead, h2, h4]
        refine ⟨c.reportSuccess, now + wait, .absent, ?_, ?_, .inr ⟨rfl, rfl, rfl⟩⟩
        · simp [s, Reply.happenings, run, next, step, flight?, land, hhead, h2]
        · simp [s, Reply.happenings, answers, next, answer?, step, flight?, land, hhead, h2]
      · have hhead : (c.takeHead (now + wait) status).value =
            ({ c with breaker := c.breaker.fail (now + wait) }, some (.failed (Client.errorOf status))) := by
          simp [Client.takeHead, h2, h4, Client.failWith_value]
        refine ⟨{ c with breaker := c.breaker.fail (now + wait) }, now + wait,
          .failed (Client.errorOf status), ?_, ?_, heard_errorOf c.breaker status (now + wait)⟩
        · simp [s, Reply.happenings, run, next, step, flight?, land, hhead, h2]
        · simp [s, Reply.happenings, answers, next, answer?, step, flight?, land, hhead, h2]

section
variable {c : Client} {now : Nat} {r : Reference} {cache : Cache}

theorem fetch_hit {summary : Summary} (hs : c.cache.serve now (Client.key r) = (some summary, cache)) :
    ((⟨c, now, []⟩ : Session).step (.fetch 0 r)).value =
      (⟨{ c with cache := cache }, now, []⟩, some (0, .resolved summary)) := by
  simp [step, flight?, look, Client.look_hit hs]

theorem fetch_refused (hs : c.cache.serve now (Client.key r) = (none, cache))
    (hb : c.breaker.allows now = false) :
    ((⟨c, now, []⟩ : Session).step (.fetch 0 r)).value =
      (⟨{ c with cache := cache }, now, []⟩, some (0, .failed .circuitOpen)) := by
  have hask : ({ c with cache := cache }.ask now r).value =
      ({ c with cache := cache }, .answered (.failed .circuitOpen)) := Client.ask_refused hb
  simp [step, flight?, look, Client.look_missed hs, advance, land, ask, hask]

theorem fetch_unbuilt (hs : c.cache.serve now (Client.key r) = (none, cache))
    (hb : c.breaker.allows now = true) (hq : c.request? r = none) :
    ((⟨c, now, []⟩ : Session).step (.fetch 0 r)).value =
      (⟨{ c with cache := cache, breaker := c.breaker.fail now }, now, []⟩,
        some (0, .failed (.request .unbuilt))) := by
  have hask : ({ c with cache := cache }.ask now r).value =
      ({ c with cache := cache, breaker := (c.breaker.call ⟨now, .request⟩).2.fail now },
        .answered (.failed (.request .unbuilt))) := Client.ask_unbuilt hb hq
  rw [Breaker.fail_call_request] at hask
  simp [step, flight?, look, Client.look_missed hs, advance, land, ask, hask]

theorem fetch_sent {q : Net.Request} (hs : c.cache.serve now (Client.key r) = (none, cache))
    (hb : c.breaker.allows now = true) (hq : c.request? r = some q) :
    ((⟨c, now, []⟩ : Session).step (.fetch 0 r)).value =
      (⟨{ c with cache := cache, breaker := (c.breaker.call ⟨now, .request⟩).2 }, now,
        [(0, ⟨r, .waiting⟩)]⟩, none) := by
  have hask : ({ c with cache := cache }.ask now r).value =
      ({ c with cache := cache, breaker := (c.breaker.call ⟨now, .request⟩).2 }, .sent q) :=
    Client.ask_sent hb hq
  simp [step, flight?, look, Client.look_missed hs, advance, land, ask, hask]

end

theorem serve_unsent {s : Session} {e : Errand} (hs : s.sendsFor e = false) :
    s.serve e = (s.before e).next (.fetch 0 e.reference) ∧
      s.outcome e =
        ⟨false, ((s.before e).answer? (.fetch 0 e.reference)).map (·.2), (s.serve e).now⟩ := by
  have hcourse : s.course e = [.passed e.pause, .fetch 0 e.reference] := by
    simp [course, hs]
  have hnone : s.answer? (.passed e.pause) = none := rfl
  constructor
  · rw [serve, hcourse]
    rfl
  · simp only [outcome, hcourse, hs, answers, hnone]
    cases ha : (s.before e).answer? (.fetch 0 e.reference) <;> simp_all [before]

theorem serve_sent {s : Session} {e : Errand} (hs : s.sendsFor e = true)
    (hnone : (s.before e).answer? (.fetch 0 e.reference) = none) :
    s.serve e = ((s.before e).next (.fetch 0 e.reference)).run e.reply.happenings ∧
      s.outcome e =
        ⟨true, (((s.before e).next (.fetch 0 e.reference)).answers e.reply.happenings).head?.map (·.2),
          (s.serve e).now⟩ := by
  have hcourse : s.course e = [.passed e.pause, .fetch 0 e.reference] ++ e.reply.happenings := by
    simp [course, hs]
  have hpassed : s.answer? (.passed e.pause) = none := rfl
  constructor
  · rw [serve, hcourse]
    rfl
  · simp only [before] at hnone
    simp [outcome, hcourse, hs, answers, hpassed, hnone, before]

/-- An errand of a client that is idle leaves it idle, and does to the breaker what its outcome says. -/
theorem served (c : Client) (now : Nat) (e : Errand) :
    let s : Session := ⟨c, now, []⟩
    (s.serve e).flights = [] ∧ s.Served e := by
  intro s
  have hbefore : s.before e = ⟨c, now + e.pause, []⟩ := rfl
  rcases hs : c.cache.serve (now + e.pause) (Client.key e.reference) with ⟨_ | summary, cache⟩
  · have ha : (s.before e).asks (.fetch 0 e.reference) = some (0, e.reference) := by
      simp [hbefore, asks, flight?, Client.look_missed hs]
    cases hb : c.breaker.allows (now + e.pause) with
    | false =>
      have hunsent : s.sendsFor e = false := by
        simp [sendsFor, (asks_refused ha hb).2.1]
      obtain ⟨hserve, hout⟩ := serve_unsent hunsent
      simp only [hbefore, next, answer?, fetch_refused hs hb] at hserve hout
      refine ⟨by rw [hserve], .quiet (by rw [hout]) (by rw [hout]; rfl) (by rw [hserve])⟩
    | true =>
      cases hq : c.request? e.reference with
      | none =>
        have hunsent : s.sendsFor e = false := by
          simp [sendsFor, (asks_unbuilt ha hb hq).2.1]
        obtain ⟨hserve, hout⟩ := serve_unsent hunsent
        simp only [hbefore, next, answer?, fetch_unbuilt hs hb hq] at hserve hout
        refine ⟨by rw [hserve], .unbuilt (by rw [hout]) (by rw [hout]; rfl) (by rw [hout, hserve])⟩
      | some q =>
        have hsent : s.sendsFor e = true := by
          simp [sendsFor, (asks_sent ha hb hq).2.1]
        obtain ⟨hserve, hout⟩ := serve_sent hsent (asks_sent ha hb hq).2.2.1
        simp only [hbefore, next, fetch_sent hs hb hq] at hserve hout
        obtain ⟨c', t, resolution, hrun, hanswers, hheard⟩ := run_reply
          { c with cache := cache, breaker := (c.breaker.call ⟨now + e.pause, .request⟩).2 } (now + e.pause)
          e.reference e.reply
        rw [hrun] at hserve
        rw [hanswers, hserve] at hout
        -- the trial's mark is gone once the request has failed or succeeded
        rw [Heard, Breaker.fail_call_request] at hheard
        refine ⟨by rw [hserve], .sent (by rw [hout]) ?_⟩
        rw [hserve, hout]
        exact hheard
  · have hunsent : s.sendsFor e = false := by
      simp [sendsFor, hbefore, sends, asks, flight?, Client.look_hit hs]
    obtain ⟨hserve, hout⟩ := serve_unsent hunsent
    simp only [hbefore, next, answer?, fetch_hit hs] at hserve hout
    exact ⟨by rw [hserve], .quiet (by rw [hout]) (by rw [hout]; rfl) (by rw [hserve])⟩

/-! ## Many fetches -/

/-- A breaker that has counted the failures among some outcomes. -/
structure Counted (b : Breaker) (os : List Outcome) : Prop where
  failures : b.failures = (Outcome.tally os).length
  openedAt : b.openedAt =
    if 5 ≤ (Outcome.tally os).length then (Outcome.tally os).head?.map (·.endedAt) else none

theorem counted_nil : Counted .closed [] := ⟨rfl, rfl⟩

theorem Counted.fail {b : Breaker} {os : List Outcome} {o : Outcome} (hb : Counted b os)
    (ho : o.counts = true) : Counted (b.fail o.endedAt) (os ++ [o]) := by
  constructor
  · simp [Breaker.fail, Outcome.tally_counts ho, hb.failures]
  · simp only [Breaker.fail, Breaker.threshold, hb.failures, hb.openedAt, Outcome.tally_counts ho,
      List.length_cons, List.head?_cons, Option.map_some]
    split
    · rfl
    · rw [if_neg (by omega)]

theorem counts_of_unbuilt {o : Outcome} (ho : o.resolution = some (.failed (.request .unbuilt))) :
    o.counts = true := by
  rw [Outcome.counts, ho]

theorem resets_of_unsent {o : Outcome} (ho : o.sent = false) : o.resets = false := by
  simp [Outcome.resets, ho]

theorem Counted.serve {s : Session} {e : Errand} {os : List Outcome} (hs : s.Served e)
    (hb : Counted s.client.breaker os) : Counted (s.serve e).client.breaker (os ++ [s.outcome e]) := by
  cases hs with
  | quiet sent counts breaker =>
    rw [breaker]
    refine ⟨?_, ?_⟩ <;> rw [Outcome.tally_quiet counts (resets_of_unsent sent)]
    · exact hb.failures
    · exact hb.openedAt
  | unbuilt sent resolution breaker =>
    rw [breaker]
    exact hb.fail (counts_of_unbuilt resolution)
  | sent sent heard =>
    rcases heard with ⟨counts, resets, breaker⟩ | ⟨counts, resets, breaker⟩
    · rw [breaker]
      exact hb.fail counts
    · rw [breaker]
      refine ⟨?_, ?_⟩ <;> rw [Outcome.tally_resets counts resets] <;> rfl

/-- No fetch is under way. -/
def Idle (s : Session) : Prop := s.flights = []

theorem served_of_idle {s : Session} (hs : s.Idle) (e : Errand) :
    (s.serve e).Idle ∧ s.Served e := by
  obtain ⟨c, now, flights⟩ := s
  obtain rfl : flights = [] := hs
  exact served c now e

theorem idle_serveAll {s : Session} (hs : s.Idle) (es : List Errand) : (s.serveAll es).Idle := by
  induction es generalizing s with
  | nil => exact hs
  | cons e es ih => exact ih (served_of_idle hs e).1

/-- After errands one after the other, the breaker has counted the failures among their outcomes. -/
theorem counted_serveAll {s : Session} (hs : s.Idle) (hb : s.client.breaker = .closed) (es : List Errand) :
    Counted (s.serveAll es).client.breaker (s.outcomes es) := by
  induction es using List.reverseRecOn with
  | nil =>
    rw [serveAll, List.foldl_nil, hb]
    exact counted_nil
  | append_singleton es e ih =>
    rw [serveAll_concat, outcomes_concat]
    exact ih.serve (served_of_idle (idle_serveAll hs es) e).2

/-! ## What is tried is counted -/

/-- An outcome counts, or ends the count, just when it was tried. -/
theorem tried_of_served {s : Session} {e : Errand} (hs : s.Served e) :
    ((s.outcome e).counts || (s.outcome e).resets) = (s.outcome e).tried := by
  cases hs with
  | quiet sent counts breaker =>
    have hbuilt : (s.outcome e).resolution ≠ some (.failed (.request .unbuilt)) := fun h =>
      Bool.false_ne_true (counts.symm.trans (counts_of_unbuilt h))
    simp [Outcome.tried, sent, counts, hbuilt, resets_of_unsent sent]
  | unbuilt sent resolution breaker =>
    rw [counts_of_unbuilt resolution, Outcome.tried, resolution]
    simp
  | sent sent heard =>
    rcases heard with ⟨counts, -⟩ | ⟨-, resets, -⟩
    · simp [Outcome.tried, sent, counts]
    · simp [Outcome.tried, sent, resets]

theorem tried_of_mem_outcomes {s : Session} (hs : s.Idle) {es : List Errand} {o : Outcome} (ho : o ∈ s.outcomes es) :
    (o.counts || o.resets) = o.tried := by
  induction es generalizing s with
  | nil => cases ho
  | cons e es ih =>
    obtain ⟨hidle, hserved⟩ := served_of_idle hs e
    rcases List.mem_cons.1 ho with rfl | ho
    · exact tried_of_served hserved
    · exact ih hidle ho

theorem tally_eq {s : Session} (hs : s.Idle) (es : List Errand) :
    Outcome.tally (s.outcomes es) = ((s.outcomes es).filter (·.tried)).reverse.takeWhile Outcome.counts := by
  rw [Outcome.tally, List.filter_congr fun o ho => tried_of_mem_outcomes hs ho]

/-- No outcome is before the start. -/
theorem now_le_of_mem_outcomes {s : Session} {es : List Errand} {o : Outcome} (ho : o ∈ s.outcomes es) :
    s.now ≤ o.endedAt := by
  induction es generalizing s with
  | nil => cases ho
  | cons e es ih =>
    have hle : s.now ≤ (s.serve e).now := now_le_run s (s.course e)
    rcases List.mem_cons.1 ho with rfl | ho
    · exact hle
    · exact Nat.le_trans hle (ih ho)

/-- The outcomes come in the order in which their fetches ended. -/
theorem ordered_outcomes (s : Session) (es : List Errand) :
    (s.outcomes es).Pairwise fun o o' => o.endedAt ≤ o'.endedAt := by
  induction es generalizing s with
  | nil => exact .nil
  | cons e es ih => exact List.pairwise_cons.2 ⟨fun o ho => now_le_of_mem_outcomes ho, ih (s.serve e)⟩

/-- The last failure that is counted ended last of all that was tried. -/
theorem endedAt_le_of_head {s : Session} (hs : s.Idle) {es : List Errand} {o last : Outcome} (ho : o ∈ s.outcomes es)
    (htried : o.tried = true) (hlast : (Outcome.tally (s.outcomes es)).head? = some last) :
    o.endedAt ≤ last.endedAt := by
  have hordered := (ordered_outcomes s es).filter (·.tried)
  have hmem : o ∈ (s.outcomes es).filter (·.tried) := List.mem_filter.2 ⟨ho, htried⟩
  rw [tally_eq hs] at hlast
  generalize (s.outcomes es).filter (·.tried) = tried at hordered hmem hlast
  obtain rfl | ⟨front, final, rfl⟩ := tried.eq_nil_or_concat
  · cases hmem
  rw [List.concat_eq_append, List.reverse_append, List.reverse_singleton, List.singleton_append,
    List.takeWhile_cons] at hlast
  split at hlast
  · obtain rfl : final = last := Option.some.inj hlast
    rw [List.concat_eq_append] at hordered hmem
    rcases List.mem_append.1 hmem with hmem | hmem
    · exact (List.pairwise_append.1 hordered).2.2 o hmem final (.head _)
    · rw [List.mem_singleton.1 hmem]
  · cases hlast

/-! ## Five failures -/

/-- Whether the last five outcomes all count can be read off the tally. -/
theorem five_le_tally (front : List Outcome) {five : List Outcome} (hlen : five.length = 5) :
    5 ≤ ((front ++ five).reverse.takeWhile Outcome.counts).length ↔ ∀ o ∈ five, o.counts = true := by
  rw [List.reverse_append, List.takeWhile_append]
  constructor
  · intro hle
    split at hle
    · rename_i hall
      have heq := (List.takeWhile_prefix Outcome.counts).eq_of_length hall
      intro o ho
      have hmem : o ∈ five.reverse.takeWhile Outcome.counts := by
        rw [heq]
        exact List.mem_reverse.2 ho
      exact List.all_eq_true.1 List.all_takeWhile o hmem
    · rename_i hshort
      have hpre := (List.takeWhile_prefix (l := five.reverse) Outcome.counts).length_le
      rw [List.length_reverse] at hshort hpre
      omega
  · intro hall
    have heq : five.reverse.takeWhile Outcome.counts = five.reverse := by
      rw [List.takeWhile_eq_self_iff]
      exact fun o ho => hall o (List.mem_reverse.1 ho)
    rw [heq, if_pos rfl, List.length_append, List.length_reverse]
    omega

/-- Failures in front of all that is not counted are in the run of those that are counted, where more may stand between
them. -/
theorem sublist_takeWhile {α : Type} {p q : α → Bool} {all few : List α} (hq : ∀ a ∈ all, p a = false → q a = true)
    (hfew : few <+: all.filter q) (hp : ∀ a ∈ few, p a = true) : few.Sublist (all.takeWhile p) := by
  induction all generalizing few with
  | nil =>
    rw [List.prefix_nil.1 hfew]
    exact List.nil_sublist _
  | cons a all ih =>
    obtain ⟨ha, hall⟩ := List.forall_mem_cons.1 hq
    cases hqa : q a with
    | false =>
      rw [List.filter_cons_of_neg (by rw [hqa]; exact Bool.false_ne_true)] at hfew
      have hpa : p a = true := by
        by_contra hnot
        exact Bool.false_ne_true (hqa.symm.trans (ha (Bool.eq_false_iff.2 hnot)))
      rw [List.takeWhile_cons_of_pos hpa]
      exact (ih hall hfew hp).cons a
    | true =>
      rw [List.filter_cons_of_pos hqa] at hfew
      rcases List.prefix_cons_iff.1 hfew with rfl | ⟨others, rfl, hothers⟩
      · exact List.nil_sublist _
      · obtain ⟨hpa, hp⟩ := List.forall_mem_cons.1 hp
        rw [List.takeWhile_cons_of_pos hpa]
        exact (ih hall hothers hp).cons_cons a

/-- A failed fetch that was tried counts, unless its body could not be read. -/
theorem counts_iff {o : Outcome} (hf : o.Fails) (htried : o.tried = true)
    (hheard : (o.counts || o.resets) = o.tried) : o.counts = true ↔ ¬o.IsMalformed := by
  obtain ⟨sent, resolution, endedAt⟩ := o
  obtain ⟨e, rfl⟩ := hf
  rw [htried] at hheard
  cases e with
  | malformed reason => exact iff_of_false (by simp [Outcome.counts]) (not_not_intro ⟨reason, rfl⟩)
  | circuitOpen => cases sent <;> cases hheard
  | _ => exact iff_of_true rfl (by rintro ⟨reason, h⟩; cases h)

/-- Up to a minute after the last failure, an open breaker refuses what the cache cannot answer. -/
theorem refused_of_openedAt {s : Session} {e : Errand} {t : Nat} (ho : s.client.breaker.openedAt = some t)
    (hmiss : s.misses e = true) (hle : s.now + e.pause ≤ t + 60 * second) :
    (s.outcome e).sent = false ∧ (s.outcome e).resolution = some (.failed .circuitOpen) := by
  obtain ⟨⟨id, r⟩, ha⟩ := Option.isSome_iff_exists.1 hmiss
  have hb : (s.before e).client.breaker.allows (s.before e).now = false := by
    refine Bool.eq_false_iff.2 fun hallows => ?_
    obtain ⟨hlt, -⟩ := (Breaker.allows_open ho).1 hallows
    exact absurd hle (Nat.not_le.2 hlt)
  obtain ⟨-, hsends, hanswer⟩ := asks_refused ha hb
  have hunsent : s.sendsFor e = false := by simp [sendsFor, hsends]
  rw [(serve_unsent hunsent).2, hanswer]
  exact ⟨rfl, rfl⟩

/-- A breaker that has counted five failures is open, and refuses what the cache cannot answer up to a minute after
the last one. -/
theorem refuses_of_five_le {s : Session} {os : List Outcome} (hs : Counted s.client.breaker os)
    (hfive : 5 ≤ (Outcome.tally os).length) :
    ∃ last, (Outcome.tally os).head? = some last ∧ s.client.breaker.isOpen = true ∧
      ∀ e, s.misses e = true → s.now + e.pause ≤ last.endedAt + 60 * second →
        (s.outcome e).sent = false ∧ (s.outcome e).resolution = some (.failed .circuitOpen) := by
  obtain ⟨last, others, htally⟩ := List.exists_cons_of_length_pos (Nat.lt_of_lt_of_le (by decide) hfive)
  have hopened := hs.openedAt
  rw [if_pos hfive, htally, List.head?_cons, Option.map_some] at hopened
  exact ⟨last, by rw [htally]; rfl, by rw [Breaker.isOpen, hopened]; rfl,
    fun e hmiss hsoon => refused_of_openedAt hopened hmiss hsoon⟩

/-- After fetches one after the other, the breaker has counted the failures since the last outcome that
ends the count: an issue or its absence, and also a body that could not be read. So if the last five
fetches that were tried all failed, the breaker is open and refuses the next one for a minute, just
when none of them failed for its body. If the last five requests that were sent all failed, and none for its body, it
is open and refuses as well, whatever could not be sent in between. -/
theorem failures_of_serveAll (base : String) (token : Option String) (es : List Errand) :
    let os := (start base token).outcomes es
    let s := (start base token).serveAll es
    s.client.breaker.failures = (Outcome.tally os).length ∧
    (∀ five, five.length = 5 → five <:+ os.filter (·.tried) → (∀ o ∈ five, o.Fails) →
      ((s.client.breaker.isOpen = true ∧
        ∀ e, s.misses e = true → (∀ o ∈ five.getLast?, s.now + e.pause ≤ o.endedAt + 60 * second) →
          (s.outcome e).sent = false ∧ (s.outcome e).resolution = some (.failed .circuitOpen)) ↔
        ∀ o ∈ five, ¬o.IsMalformed)) ∧
    ∀ five, five.length = 5 → five <:+ os.filter (·.sent) → (∀ o ∈ five, o.Fails ∧ ¬o.IsMalformed) →
      s.client.breaker.isOpen = true ∧
        ∀ e, s.misses e = true → (∀ o ∈ five.getLast?, s.now + e.pause ≤ o.endedAt + 60 * second) →
          (s.outcome e).sent = false ∧ (s.outcome e).resolution = some (.failed .circuitOpen) := by
  intro os s
  have hidle : (start base token).Idle := rfl
  have hcounted : Counted s.client.breaker os := counted_serveAll hidle rfl es
  -- what refuses a minute after the last failure refuses a minute after an earlier one
  have hrefuses : ∀ five : List Outcome, five.length = 5 → (∀ o ∈ five, o ∈ os ∧ o.tried = true) →
      5 ≤ (Outcome.tally os).length → s.client.breaker.isOpen = true ∧
        ∀ e, s.misses e = true → (∀ o ∈ five.getLast?, s.now + e.pause ≤ o.endedAt + 60 * second) →
          (s.outcome e).sent = false ∧ (s.outcome e).resolution = some (.failed .circuitOpen) := by
    intro five hlen hmem hfive
    obtain ⟨last, hlast, hopen, hall⟩ := refuses_of_five_le hcounted hfive
    refine ⟨hopen, fun e hmiss hsoon => hall e hmiss ?_⟩
    obtain ⟨o, ho⟩ : ∃ o, five.getLast? = some o :=
      ⟨_, List.getLast?_eq_some_getLast (List.length_pos_iff.1 (by omega))⟩
    have hin := hmem o (List.mem_of_getLast? ho)
    exact Nat.le_trans (hsoon o ho) (Nat.add_le_add_right (endedAt_le_of_head hidle hin.1 hin.2 hlast) _)
  refine ⟨hcounted.failures, ?_, ?_⟩
  · rintro five hlen hsuffix hfail
    have hmem : ∀ o ∈ five, o ∈ os ∧ o.tried = true := fun o ho => List.mem_filter.1 (hsuffix.subset ho)
    obtain ⟨front, hfront⟩ := hsuffix
    have hcounts : (∀ o ∈ five, o.counts = true) ↔ ∀ o ∈ five, ¬o.IsMalformed :=
      forall₂_congr fun o ho => counts_iff (hfail o ho) (hmem o ho).2 (tried_of_mem_outcomes hidle (hmem o ho).1)
    rw [← hcounts, ← five_le_tally front hlen, hfront, ← tally_eq hidle]
    constructor
    · rintro ⟨hopen, -⟩
      refine Decidable.byContradiction fun hfew => ?_
      have hopened := hcounted.openedAt
      rw [if_neg hfew] at hopened
      simp [Breaker.isOpen, hopened] at hopen
    · exact hrefuses five hlen hmem
  · rintro five hlen hsuffix hfail
    have hsent : ∀ o ∈ five, o ∈ os ∧ o.sent = true := fun o ho => List.mem_filter.1 (hsuffix.subset ho)
    have hmem : ∀ o ∈ five, o ∈ os ∧ o.tried = true := fun o ho =>
      ⟨(hsent o ho).1, by rw [Outcome.tried, (hsent o ho).2, Bool.true_or]⟩
    refine hrefuses five hlen hmem ?_
    -- what is tried and does not count was sent
    have hstop : ∀ o ∈ (os.filter (·.tried)).reverse, o.counts = false → o.sent = true := by
      intro o ho hnot
      have htried := (List.mem_filter.1 (List.mem_reverse.1 ho)).2
      by_contra hunsent
      have hresolution : o.resolution = some (.failed (.request .unbuilt)) := by
        simpa [Outcome.tried, Bool.eq_false_iff.2 hunsent] using htried
      exact Bool.false_ne_true (hnot.symm.trans (counts_of_unbuilt hresolution))
    have hpre : five.reverse <+: (os.filter (·.tried)).reverse.filter (·.sent) := by
      have hboth : (os.filter (·.tried)).filter (·.sent) = os.filter (·.sent) := by
        rw [List.filter_filter]
        refine List.filter_congr fun o _ => ?_
        cases hs : o.sent <;> simp [Outcome.tried, hs]
      rw [List.filter_reverse, hboth]
      exact List.reverse_prefix.2 hsuffix
    have hcounts : ∀ o ∈ five.reverse, o.counts = true := by
      intro o ho
      rw [List.mem_reverse] at ho
      exact (counts_iff (hfail o ho).1 (hmem o ho).2 (tried_of_mem_outcomes hidle (hmem o ho).1)).2 (hfail o ho).2
    have hle := (sublist_takeWhile hstop hpre hcounts).length_le
    rw [List.length_reverse, hlen] at hle
    rw [tally_eq hidle]
    exact hle

/-- A server that is down for a while. -/
def failing : List Errand := (List.range 5).map fun n => ⟨second, issue n, .answered 0 500 0 none⟩

/-- A server whose bodies all break off. -/
def garbled : List Errand := (List.range 5).map fun n => ⟨second, issue n, .answered 0 200 0 none⟩

/-- A fetch that starts at once. -/
def urgent : Errand := ⟨0, issue 5, .answered 0 200 0 none⟩

theorem failures_of_serveAll_failing :
    let s := (start "http://h" none).serveAll failing
    s.client.breaker.isOpen = true ∧ s.misses urgent = true ∧
      (s.outcome urgent).resolution = some (.failed .circuitOpen) := by
  intro s
  have houtcomes : (start "http://h" none).outcomes failing =
      (List.range 5).map fun n => ⟨true, some (.failed (.status 500)), (n + 1) * second⟩ := by decide +kernel
  have hmiss : s.misses urgent = true := by decide +kernel
  obtain ⟨-, htried, -⟩ := failures_of_serveAll "http://h" none failing
  have hcounted := htried
    ((start "http://h" none).outcomes failing) (by rw [houtcomes]; rfl) (by rw [houtcomes]; decide)
    (by rw [houtcomes]; simp [Outcome.Fails])
  obtain ⟨hopen, hrefused⟩ := hcounted.2 (by rw [houtcomes]; simp [Outcome.IsMalformed])
  exact ⟨hopen, hmiss, (hrefused urgent hmiss (by rw [houtcomes]; decide +kernel)).2⟩

/-- Five fetches in a row fail for their bodies, and the sixth sends its request at once. -/
theorem malformed_garbled :
    let os := (start "http://h" none).outcomes garbled
    let s := (start "http://h" none).serveAll garbled
    os.length = 5 ∧ (∀ o ∈ os, o.sent = true ∧ o.Fails) ∧ s.misses urgent = true ∧
      s.client.breaker.isOpen = false ∧ (s.outcome urgent).sent = true := by
  intro os s
  have houtcomes : os = (List.range 5).map fun n =>
      ⟨true, some (.failed (.malformed "error decoding response body")), (n + 1) * second⟩ := by decide +kernel
  refine ⟨by rw [houtcomes]; rfl, ?_, by decide +kernel, by decide +kernel, by decide +kernel⟩
  rw [houtcomes]
  simp [Outcome.Fails]

end Session

end ForgeBridge.Tracker
