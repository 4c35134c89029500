import ForgeBridge.Proofs.BreakerHistory
import ForgeBridge.Tracker.Session

/-!
# What a session tells its breaker

A happening of a session lets a request through, or reports one, or does nothing to the breaker
(`events`). The events of a run are the history of its breaker: the breaker is what they make of it
(`run_breaker`), each of them is let through (`passed_history`), and their times never go back
(`ordered_history`). What is known of breakers so holds for every run, in whatever order its fetches
are answered, fail or are given up.
-/

namespace ForgeBridge.Tracker

/-- Whether the head of an answer counts as a success: there is such an issue, or there is none. -/
def answersWell (status : Nat) : Bool := Net.isSuccess status || status = 404 || status = 410

/-! ## The steps of a client -/

namespace Client

variable {c : Client} {now : Nat} {r : Reference}

theorem look_hit {summary : Summary} {cache : Cache}
    (h : c.cache.serve now (key r) = (some summary, cache)) :
    (c.look now r).value = ({ c with cache := cache }, some (.resolved summary)) := by
  simp [look, h]

theorem look_missed {cache : Cache} (h : c.cache.serve now (key r) = (none, cache)) :
    (c.look now r).value = ({ c with cache := cache }, none) := by
  simp [look, h]

theorem failWith_value (e : Error) :
    (c.failWith now e).value = ({ c with breaker := c.breaker.fail now }, .failed e) := rfl

theorem ask_refused (ha : c.breaker.allows now = false) :
    (c.ask now r).value = (c, .answered (.failed .circuitOpen)) := by
  simp [ask, Breaker.grant, ha]

theorem ask_sent {q : Net.Request} (ha : c.breaker.allows now = true) (hq : c.request? r = some q) :
    (c.ask now r).value = ({ c with breaker := (c.breaker.call ⟨now, .request⟩).2 }, .sent q) := by
  have hq' (b : Breaker) : { c with breaker := b }.request? r = some q := hq
  simp [ask, Breaker.call, Breaker.grant, ha, hq']

theorem ask_unbuilt (ha : c.breaker.allows now = true) (hq : c.request? r = none) :
    (c.ask now r).value =
      ({ c with breaker := (c.breaker.call ⟨now, .request⟩).2.fail now },
        .answered (.failed (.request .unbuilt))) := by
  have hq' (b : Breaker) : { c with breaker := b }.request? r = none := hq
  simp [ask, Breaker.call, Breaker.grant, ha, hq', failWith_value]

/-- A head is reported as what it is. -/
theorem takeHead_breaker (status : Nat) :
    (c.takeHead now status).value.1.breaker =
      if answersWell status then c.breaker.succeed else c.breaker.fail now := by
  unfold takeHead answersWell
  by_cases h2 : Net.isSuccess status = true
  · simp [h2, reportSuccess]
  · by_cases h4 : status = 404 ∨ status = 410
    · simp [h2, h4, reportSuccess]
    · simp [h2, h4, failWith_value]

theorem takeBody_breaker (content : Option (List UInt8)) :
    (c.takeBody now r content).1.breaker = c.breaker := by
  cases content with
  | none => rfl
  | some body =>
    simp only [takeBody]
    split <;> rfl

end Client

namespace Session

/-! ## What can be seen of a happening -/

/-- Whether the request of a fetch is on its way, and no head has come. -/
def waits (s : Session) (id : Nat) : Bool := (s.flight? id).any (·.phase = .waiting)

/-- The fetch that asks the breaker in a happening, because the cache could not answer it. -/
def asks (s : Session) : Happening → Option (Nat × Reference)
  | .asked id =>
    match s.flight? id with
    | some ⟨reference, .missed⟩ => some (id, reference)
    | _ => none
  | .fetch id reference =>
    if (s.flight? id).isSome then none
    else if (s.client.look s.now reference).value.2.isSome then none
    else some (id, reference)
  | _ => none

/-- The request that goes out in a happening. -/
def sends (s : Session) (h : Happening) : Option Net.Request :=
  match s.asks h with
  | none => none
  | some (_, reference) =>
    match (s.client.ask s.now reference).value.2 with
    | .sent request => some request
    | .answered _ => none

/-- Whether a fetch asks the breaker in a happening and is not refused. -/
def admits (s : Session) (h : Happening) : Bool :=
  match s.asks h with
  | none => false
  | some (id, _) => s.answer? h ≠ some (id, .failed .circuitOpen)

/-- What is reported of a request in a happening: the head of its answer, or that none will come. A
request that cannot even be built has failed as well. -/
def report? (s : Session) (h : Happening) : Option Event :=
  match h with
  | .head id status =>
    if s.waits id then some (if answersWell status then .success else .failure) else none
  | .broken id _ => if s.waits id then some .failure else none
  | _ =>
    match s.answer? h with
    | some (_, .failed (.request _)) => some .failure
    | _ => none

/-- The requests and reports of a happening. -/
def events (s : Session) (h : Happening) : History :=
  (if s.admits h then [⟨s.now, .request⟩] else []) ++ (s.report? h).toList.map (⟨s.now, ·⟩)

/-- The requests and reports of a run. -/
def history (s : Session) : List Happening → History
  | [] => []
  | h :: hs => s.events h ++ (s.next h).history hs

/-- A session of a client that has not fetched anything yet. -/
def start (base : String) (token : Option String) : Session := ofClient (Client.new base token).value

theorem run_append (s : Session) (hs hs' : List Happening) : s.run (hs ++ hs') = (s.run hs).run hs' :=
  List.foldl_append

theorem history_append (s : Session) (hs hs' : List Happening) :
    s.history (hs ++ hs') = s.history hs ++ (s.run hs).history hs' := by
  induction hs generalizing s with
  | nil => rfl
  | cons h hs ih => simp only [List.cons_append, history, ih, run, List.foldl_cons, List.append_assoc]

/-! ## A fetch that asks the breaker -/

/-- A fetch asks the breaker of the client as it is, but for its cache. -/
theorem step_of_asks {s : Session} {h : Happening} {id : Nat} {r : Reference}
    (ha : s.asks h = some (id, r)) :
    ∃ cache flights, (s.step h).value =
      (Session.ask ⟨{ s.client with cache := cache }, s.now, flights⟩ id r).value := by
  cases h with
  | asked id' =>
    rcases hf : s.flight? id' with _ | ⟨r', _ | _ | _⟩ <;> simp only [asks, hf] at ha <;> try cases ha
    exact ⟨s.client.cache, s.flights, by simp only [step, hf]⟩
  | fetch id' r' =>
    simp only [asks] at ha
    split at ha
    · cases ha
    · rename_i hf
      split at ha
      · cases ha
      · rename_i hlook
        cases ha
        rcases hs : s.client.cache.serve s.now (Client.key r) with ⟨_ | summary, cache⟩
        · refine ⟨cache, (id, ⟨r, .missed⟩) :: (s.land id).flights, ?_⟩
          simp [step, hf, look, Client.look_missed hs, advance, land]
        · rw [Client.look_hit hs] at hlook
          exact absurd rfl hlook
  | _ => cases ha

section
variable {s : Session} {h : Happening} {id : Nat} {r : Reference}

theorem asks_refused (ha : s.asks h = some (id, r)) (hb : s.client.breaker.allows s.now = false) :
    (s.next h).client.breaker = s.client.breaker ∧ s.sends h = none ∧
      s.answer? h = some (id, .failed .circuitOpen) := by
  obtain ⟨cache, flights, hstep⟩ := step_of_asks ha
  have hask (cache) : ({ s.client with cache := cache }.ask s.now r).value =
      ({ s.client with cache := cache }, .answered (.failed .circuitOpen)) := Client.ask_refused hb
  refine ⟨?_, ?_, ?_⟩
  · simp [next, hstep, Session.ask, hask, land]
  · simp [sends, ha, hask s.client.cache]
  · simp [answer?, hstep, Session.ask, hask]

theorem asks_sent {q : Net.Request} (ha : s.asks h = some (id, r))
    (hb : s.client.breaker.allows s.now = true) (hq : s.client.request? r = some q) :
    (s.next h).client.breaker = (s.client.breaker.call ⟨s.now, .request⟩).2 ∧ s.sends h = some q ∧
      s.answer? h = none ∧ (s.next h).flight? id = some ⟨r, .waiting⟩ := by
  obtain ⟨cache, flights, hstep⟩ := step_of_asks ha
  have hask (cache) : ({ s.client with cache := cache }.ask s.now r).value =
      ({ s.client with cache := cache, breaker := (s.client.breaker.call ⟨s.now, .request⟩).2 }, .sent q) :=
    Client.ask_sent hb hq
  refine ⟨?_, ?_, ?_, ?_⟩
  · simp [next, hstep, Session.ask, hask, advance]
  · simp [sends, ha, hask s.client.cache]
  · simp [answer?, hstep, Session.ask, hask]
  · simp [next, hstep, Session.ask, hask, advance, flight?]

theorem asks_unbuilt (ha : s.asks h = some (id, r)) (hb : s.client.breaker.allows s.now = true)
    (hq : s.client.request? r = none) :
    (s.next h).client.breaker = (s.client.breaker.call ⟨s.now, .request⟩).2.fail s.now ∧
      s.sends h = none ∧ s.answer? h = some (id, .failed (.request .unbuilt)) := by
  obtain ⟨cache, flights, hstep⟩ := step_of_asks ha
  have hask (cache) : ({ s.client with cache := cache }.ask s.now r).value =
      ({ s.client with
          cache := cache
          breaker := (s.client.breaker.call ⟨s.now, .request⟩).2.fail s.now },
        .answered (.failed (.request .unbuilt))) := Client.ask_unbuilt hb hq
  refine ⟨?_, ?_, ?_⟩
  · simp [next, hstep, Session.ask, hask, land]
  · simp [sends, ha, hask s.client.cache]
  · simp [answer?, hstep, Session.ask, hask]

/-- Only a fetch that asks the breaker sends a request. -/
theorem asks_of_sends (hs : (s.sends h).isSome = true) : ∃ id r, s.asks h = some (id, r) := by
  rcases ha : s.asks h with _ | ⟨id, r⟩
  · simp [sends, ha] at hs
  · exact ⟨id, r, rfl⟩

/-- A fetch is let through just when the breaker allows it. -/
theorem admits_of_asks (ha : s.asks h = some (id, r)) : s.admits h = s.client.breaker.allows s.now := by
  cases hb : s.client.breaker.allows s.now with
  | false => simp [admits, ha, (asks_refused ha hb).2.2]
  | true =>
    cases hq : s.client.request? r with
    | none => simp [admits, ha, (asks_unbuilt ha hb hq).2.2]
    | some q => simp [admits, ha, (asks_sent ha hb hq).2.2.1]

/-- What goes out is a request of a fetch that was let through. -/
theorem sends_isSome_iff (ha : s.asks h = some (id, r)) :
    (s.sends h).isSome = true ↔ s.client.breaker.allows s.now = true ∧ (s.client.request? r).isSome := by
  cases hb : s.client.breaker.allows s.now with
  | false => simp [(asks_refused ha hb).2.1]
  | true =>
    cases hq : s.client.request? r with
    | none => simp [(asks_unbuilt ha hb hq).2.1]
    | some q => simp [(asks_sent ha hb hq).2.1]

end

/-! ## The breaker is what the events make of it -/

/-- A happening does to the breaker what its events do, and the breaker lets all of them through. -/
def Told (s : Session) (h : Happening) : Prop :=
  (s.next h).client.breaker = s.client.breaker.run (s.events h) ∧
    s.client.breaker.passed (s.events h) = s.events h

theorem report?_of_asks {s : Session} {h : Happening} {id : Nat} {r : Reference}
    (ha : s.asks h = some (id, r)) :
    s.report? h = match s.answer? h with
      | some (_, .failed (.request _)) => some .failure
      | _ => none := by
  cases h with
  | asked | fetch => rfl
  | _ => cases ha

theorem told_of_asks {s : Session} {h : Happening} {id : Nat} {r : Reference}
    (ha : s.asks h = some (id, r)) : s.Told h := by
  have hadm := admits_of_asks ha
  have hrep := report?_of_asks ha
  cases hb : s.client.breaker.allows s.now with
  | false =>
    obtain ⟨hbr, -, hans⟩ := asks_refused ha hb
    simp [Told, events, hadm, hb, hrep, hans, hbr, Breaker.run, Breaker.passed]
  | true =>
    have hcall := s.client.breaker.call_request_fst s.now
    rw [hb] at hcall
    cases hq : s.client.request? r with
    | some q =>
      obtain ⟨hbr, -, hans, -⟩ := asks_sent ha hb hq
      simp [Told, events, hadm, hb, hrep, hans, hbr, Breaker.run, Breaker.passed, hcall]
    | none =>
      obtain ⟨hbr, -, hans⟩ := asks_unbuilt ha hb hq
      simp [Told, events, hadm, hb, hrep, hans, hbr, Breaker.run, Breaker.passed, hcall]

/-- Where no fetch asks the breaker, it hears of the report at most. -/
theorem told_of_report {s : Session} {h : Happening} (ha : s.asks h = none)
    (hbr : (s.next h).client.breaker =
      match s.report? h with
      | none => s.client.breaker
      | some e => (s.client.breaker.call ⟨s.now, e⟩).2)
    (hrep : s.report? h ≠ some .request) : s.Told h := by
  have hadm : s.admits h = false := by simp [admits, ha]
  cases hr : s.report? h with
  | none => simp [Told, events, hadm, hr, hbr, Breaker.run, Breaker.passed]
  | some e =>
    cases e with
    | request => exact absurd hr hrep
    | success | failure =>
      simp [Told, events, hadm, hr, hbr, Breaker.run, Breaker.passed]

theorem told_broken (s : Session) (id : Nat) (failure : Net.Failure) : s.Told (.broken id failure) := by
  refine told_of_report rfl ?_ ?_
  · rcases hf : s.flight? id with _ | ⟨r, _ | _ | _⟩ <;>
      simp [report?, waits, next, step, hf, Client.failWith_value]
  · simp only [report?]
    split <;> simp

theorem told_head (s : Session) (id status : Nat) : s.Told (.head id status) := by
  refine told_of_report rfl ?_ ?_
  · rcases hf : s.flight? id with _ | ⟨r, _ | _ | _⟩
    case some.waiting =>
      have hhead : (s.client.takeHead s.now status).value.1.breaker =
          if answersWell status then s.client.breaker.succeed else s.client.breaker.fail s.now :=
        Client.takeHead_breaker status
      have hnext : (s.next (.head id status)).client = (s.client.takeHead s.now status).value.1 := by
        simp only [next, step, hf, Logged.value_bind]
        split <;> rfl
      rw [hnext, hhead]
      cases hw : answersWell status <;> simp [report?, waits, hf, hw]
    all_goals simp [report?, waits, next, step, hf]
  · simp only [report?]
    split
    · split <;> simp
    · simp

/-- A happening that the breaker does not hear of. -/
def Quiet (s : Session) (h : Happening) : Prop :=
  (s.next h).client.breaker = s.client.breaker ∧ s.report? h = none

theorem quiet_looked (s : Session) (id : Nat) (r : Reference) : s.Quiet (.looked id r) := by
  by_cases hf : (s.flight? id).isSome = true
  · constructor <;> simp [report?, answer?, next, step, hf]
  · rcases hs : s.client.cache.serve s.now (Client.key r) with ⟨_ | summary, cache⟩
    · constructor <;> simp [report?, answer?, next, step, hf, look, Client.look_missed hs, advance]
    · constructor <;> simp [report?, answer?, next, step, hf, look, Client.look_hit hs]

theorem quiet_body (s : Session) (id : Nat) (content : Option (List UInt8)) : s.Quiet (.body id content) := by
  rcases hf : s.flight? id with _ | ⟨r, _ | _ | _⟩
  case some.reading =>
    constructor
    · simp [next, step, hf, Client.takeBody_breaker]
    · cases content with
      | none => simp [report?, answer?, step, hf, Client.takeBody]
      | some body =>
        cases hsum : Client.summaryOf body <;>
          simp [report?, answer?, step, hf, Client.takeBody, hsum]
  all_goals constructor <;> simp [report?, answer?, next, step, hf]

/-- The breaker hears of nothing but heads, broken requests, and fetches that ask it. -/
theorem quiet_of_not_asks {s : Session} {h : Happening} (ha : s.asks h = none)
    (hhead : ∀ id status, h ≠ .head id status) (hbroken : ∀ id failure, h ≠ .broken id failure) :
    s.Quiet h := by
  cases h with
  | head id status => exact absurd rfl (hhead id status)
  | broken id failure => exact absurd rfl (hbroken id failure)
  | cancelled | passed => exact ⟨rfl, rfl⟩
  | looked id r => exact quiet_looked s id r
  | body id content => exact quiet_body s id content
  | asked id =>
    rcases hf : s.flight? id with _ | ⟨r, _ | _ | _⟩
    case some.missed => simp [asks, hf] at ha
    all_goals constructor <;> simp [report?, answer?, next, step, hf]
  | fetch id r =>
    by_cases hf : (s.flight? id).isSome = true
    · constructor <;> simp [report?, answer?, next, step, hf]
    · rcases hs : s.client.cache.serve s.now (Client.key r) with ⟨_ | summary, cache⟩
      · simp [asks, hf, Client.look_missed hs] at ha
      · constructor <;> simp [report?, answer?, next, step, hf, look, Client.look_hit hs]

theorem told (s : Session) (h : Happening) : s.Told h := by
  rcases ha : s.asks h with _ | ⟨id, r⟩
  · cases h with
    | head id status => exact told_head s id status
    | broken id failure => exact told_broken s id failure
    | _ =>
      obtain ⟨hbr, hr⟩ := quiet_of_not_asks ha (by simp) (by simp)
      exact told_of_report ha (by rw [hbr, hr]) (by simp [hr])
  · exact told_of_asks ha

/-- A fetch that asks the breaker reports a failure if it is let through and its request cannot be built. -/
theorem report?_of_asks_iff {s : Session} {h : Happening} {id : Nat} {r : Reference} {e : Event}
    (ha : s.asks h = some (id, r)) :
    s.report? h = some e ↔
      s.client.breaker.allows s.now = true ∧ s.client.request? r = none ∧ e = .failure := by
  rw [report?_of_asks ha]
  cases hb : s.client.breaker.allows s.now with
  | false => simp [(asks_refused ha hb).2.2]
  | true =>
    cases hq : s.client.request? r with
    | none => simp [(asks_unbuilt ha hb hq).2.2, eq_comm]
    | some q => simp [(asks_sent ha hb hq).2.2.1]

/-- All reports: final heads, broken requests, and requests that cannot be built. -/
theorem report?_eq_some {s : Session} {h : Happening} {e : Event} :
    s.report? h = some e ↔
      (∃ id status, h = .head id status ∧ s.waits id = true ∧
        e = if answersWell status then .success else .failure) ∨
      (∃ id failure, h = .broken id failure ∧ s.waits id = true ∧ e = .failure) ∨
      ∃ id r, s.asks h = some (id, r) ∧ s.client.breaker.allows s.now = true ∧ s.client.request? r = none ∧
        e = .failure := by
  constructor
  · intro hr
    rcases ha : s.asks h with _ | ⟨id, r⟩
    · cases h with
      | head id status =>
        simp only [report?] at hr
        split at hr
        · rename_i hw
          exact .inl ⟨id, status, rfl, hw, (Option.some.inj hr).symm⟩
        · cases hr
      | broken id failure =>
        simp only [report?] at hr
        split at hr
        · rename_i hw
          exact .inr (.inl ⟨id, failure, rfl, hw, (Option.some.inj hr).symm⟩)
        · cases hr
      | _ =>
        rw [(quiet_of_not_asks ha (by simp) (by simp)).2] at hr
        cases hr
    · exact .inr (.inr ⟨id, r, rfl, (report?_of_asks_iff ha).1 hr⟩)
  · rintro (⟨id, status, rfl, hw, rfl⟩ | ⟨id, failure, rfl, hw, rfl⟩ | ⟨id, r, ha, hr⟩)
    · simp [report?, hw]
    · simp [report?, hw]
    · exact (report?_of_asks_iff ha).2 hr

/-- After a run the breaker is what the history of the run makes of it. -/
theorem run_breaker (s : Session) (hs : List Happening) :
    (s.run hs).client.breaker = s.client.breaker.run (s.history hs) := by
  induction hs generalizing s with
  | nil => rfl
  | cons h hs ih =>
    rw [history, Breaker.run_append, ← (told s h).1]
    exact ih (s.next h)

/-- All that is in the history was let through. -/
theorem passed_history (s : Session) (hs : List Happening) :
    s.client.breaker.passed (s.history hs) = s.history hs := by
  induction hs generalizing s with
  | nil => rfl
  | cons h hs ih => rw [history, Breaker.passed_append, (told s h).2, ← (told s h).1, ih]

/-! ## Time -/

/-- Neither the time has passed, nor has the client got another server or another token. -/
structure Kept (s s' : Session) : Prop where
  now : s'.now = s.now
  apiBase : s'.client.apiBase = s.client.apiBase
  token : s'.client.token = s.client.token

theorem kept_look (s : Session) (id : Nat) (r : Reference) : s.Kept (s.look id r).value.1 := by
  rcases hs : s.client.cache.serve s.now (Client.key r) with ⟨_ | summary, cache⟩
  · constructor <;> simp [look, Client.look_missed hs, advance]
  · constructor <;> simp [look, Client.look_hit hs]

theorem kept_ask (s : Session) (id : Nat) (r : Reference) : s.Kept (s.ask id r).value.1 := by
  cases hb : s.client.breaker.allows s.now with
  | false => constructor <;> simp [ask, Client.ask_refused hb, land]
  | true =>
    cases hq : s.client.request? r with
    | none => constructor <;> simp [ask, Client.ask_unbuilt hb hq, land]
    | some q => constructor <;> simp [ask, Client.ask_sent hb hq, advance]

theorem Kept.refl (s : Session) : s.Kept s := ⟨rfl, rfl, rfl⟩

theorem Kept.trans {s s' s'' : Session} (h : s.Kept s') (h' : s'.Kept s'') : s.Kept s'' :=
  ⟨h'.now.trans h.now, h'.apiBase.trans h.apiBase, h'.token.trans h.token⟩

theorem kept_head (s : Session) (id status : Nat) : s.Kept (s.next (.head id status)) := by
  rcases hf : s.flight? id with _ | ⟨r, _ | _ | _⟩
  case some.waiting =>
    simp only [next, step, hf, Client.takeHead]
    split
    · exact ⟨rfl, rfl, rfl⟩
    · split <;> exact ⟨rfl, rfl, rfl⟩
  all_goals constructor <;> simp [next, step, hf]

theorem kept_body (s : Session) (id : Nat) (content : Option (List UInt8)) :
    s.Kept (s.next (.body id content)) := by
  rcases hf : s.flight? id with _ | ⟨r, _ | _ | _⟩
  case some.reading =>
    simp only [next, step, hf, Client.takeBody]
    split
    · exact ⟨rfl, rfl, rfl⟩
    · split <;> exact ⟨rfl, rfl, rfl⟩
  all_goals constructor <;> simp [next, step, hf]

/-- All but the passing of time keeps the time. -/
theorem kept_next (s : Session) {h : Happening} (hp : ∀ n, h ≠ .passed n) : s.Kept (s.next h) := by
  cases h with
  | passed n => exact absurd rfl (hp n)
  | cancelled id => exact ⟨rfl, rfl, rfl⟩
  | looked id r =>
    simp only [next, step]
    split
    · exact .refl s
    · exact kept_look s id r
  | asked id =>
    simp only [next, step]
    split
    · exact kept_ask s id _
    · exact .refl s
  | fetch id r =>
    simp only [next, step]
    split
    · exact .refl s
    · simp only [Logged.value_bind]
      split
      · exact kept_look s id r
      · exact (kept_look s id r).trans (kept_ask _ id r)
  | broken id failure =>
    simp only [next, step]
    split <;> exact ⟨rfl, rfl, rfl⟩
  | head id status => exact kept_head s id status
  | body id content => exact kept_body s id content

/-- A step takes no time back. -/
theorem now_le_next (s : Session) (h : Happening) : s.now ≤ (s.next h).now := by
  cases h with
  | passed n => exact Nat.le_add_right ..
  | _ => exact Nat.le_of_eq (kept_next s (by simp)).now.symm

/-- The requests that a client can make stay the same in a run. -/
theorem request?_run (s : Session) (hs : List Happening) (r : Reference) :
    (s.run hs).client.request? r = s.client.request? r := by
  induction hs generalizing s with
  | nil => rfl
  | cons h hs ih =>
    have hkept : (s.next h).client.apiBase = s.client.apiBase ∧ (s.next h).client.token = s.client.token := by
      cases h with
      | passed n => exact ⟨rfl, rfl⟩
      | _ => exact ⟨(kept_next s (by simp)).apiBase, (kept_next s (by simp)).token⟩
    refine (ih (s.next h)).trans ?_
    simp only [Client.request?, Client.urlText, hkept]

theorem now_le_run (s : Session) (hs : List Happening) : s.now ≤ (s.run hs).now := by
  induction hs generalizing s with
  | nil => exact Nat.le_refl _
  | cons h hs ih => exact Nat.le_trans (now_le_next s h) (ih (s.next h))

theorem time_of_mem_events {s : Session} {h : Happening} {c : Timed} (hc : c ∈ s.events h) :
    c.time = s.now := by
  simp only [events, List.mem_append, List.mem_map] at hc
  rcases hc with hc | ⟨e, -, rfl⟩
  · split at hc
    · rw [List.mem_singleton.1 hc]
    · cases hc
  · rfl

/-- What happens in a run is neither before its start nor after its end. -/
theorem time_of_mem_history {s : Session} {hs : List Happening} {c : Timed} (hc : c ∈ s.history hs) :
    s.now ≤ c.time ∧ c.time ≤ (s.run hs).now := by
  induction hs generalizing s with
  | nil => cases hc
  | cons h hs ih =>
    have hle := now_le_next s h
    rcases List.mem_append.1 hc with hc | hc
    · rw [time_of_mem_events hc]
      exact ⟨Nat.le_refl _, now_le_run s (h :: hs)⟩
    · obtain ⟨hlo, hhi⟩ := ih hc
      exact ⟨Nat.le_trans hle hlo, hhi⟩

theorem ordered_events (s : Session) (h : Happening) : (s.events h).Ordered := by
  refine List.pairwise_iff_forall_sublist.2 fun {x y} hsub => ?_
  have hx := time_of_mem_events (hsub.subset (.head _))
  have hy := time_of_mem_events (hsub.subset (.tail _ (.head _)))
  exact Nat.le_of_eq (hx.trans hy.symm)

/-- Time does not go back in a history. -/
theorem ordered_history (s : Session) (hs : List Happening) : (s.history hs).Ordered := by
  induction hs generalizing s with
  | nil => exact .nil
  | cons h hs ih =>
    refine List.pairwise_append.2 ⟨ordered_events s h, ih (s.next h), ?_⟩
    intro x hx y hy
    rw [time_of_mem_events hx]
    exact Nat.le_trans (now_le_next s h) (time_of_mem_history hy).1

end Session

end ForgeBridge.Tracker
