import ForgeBridge.Proofs.Entries
import ForgeBridge.Proofs.SessionHistory
import Mathlib.Data.List.Induction

/-!
# Requests on their way

A request is on its way from the moment when it is sent to the moment when its head arrives, it breaks
off, or its fetch is given up. A happening gets a fetch to its next phase, or ends it, or leaves it as it
is (`flight?_next`). So what phase a fetch is in at the end of a run tells what came before: its request
was sent (`waits_run`, `hasSent_iff`), or the head of a success came (`announced_of_reads`), and
it has been under way since.
-/

namespace ForgeBridge.Tracker

namespace Session

variable {s : Session} {h : Happening} {id : Nat} {r : Reference}

/-! ## The flights of a session -/

theorem flight?_land (s : Session) (i id : Nat) :
    (s.land i).flight? id = if id = i then none else s.flight? id := lookup_without id i s.flights

theorem flight?_advance (s : Session) (i id : Nat) (f : Flight) :
    (s.advance i f).flight? id = if id = i then some f else s.flight? id := by
  have hland := flight?_land s i id
  simp only [flight?] at hland
  simp only [flight?, advance, lookup_cons_ite, hland]
  by_cases hid : id = i <;> simp [hid]

/-- A fetch that asks the breaker has no request on its way. -/
theorem not_waits_of_asks (ha : s.asks h = some (id, r)) : s.waits id = false := by
  cases h with
  | asked i =>
    rcases hf : s.flight? i with _ | ⟨r', _ | _ | _⟩
    case some.missed =>
      simp only [asks, hf, Option.some.injEq, Prod.mk.injEq] at ha
      rw [← ha.1, waits, hf]
      rfl
    all_goals simp [asks, hf] at ha
  | fetch i r' =>
    simp only [asks] at ha
    split at ha
    · cases ha
    · rename_i hnone
      split at ha
      · cases ha
      · cases ha
        rw [waits, Option.not_isSome_iff_eq_none.1 hnone]
        rfl
  | _ => cases ha

theorem flight?_look (s : Session) (i id : Nat) (r : Reference) :
    (s.look i r).value.1.flight? id =
      if id = i ∧ (s.client.cache.serve s.now (Client.key r)).1 = none then some ⟨r, .missed⟩
      else s.flight? id := by
  rcases hs : s.client.cache.serve s.now (Client.key r) with ⟨_ | summary, cache⟩
  · simp only [look, Client.look_missed hs, Logged.value_bind, Logged.value_pure, and_true]
    exact flight?_advance _ i id _
  · simp only [look, Client.look_hit hs, Logged.value_bind, Logged.value_pure, reduceCtorEq, and_false, if_false]
    rfl

theorem flight?_ask (s : Session) (i id : Nat) (r : Reference) :
    (s.ask i r).value.1.flight? id =
      if id ≠ i then s.flight? id
      else if s.client.breaker.allows s.now = true ∧ (s.client.request? r).isSome = true then
        some ⟨r, .waiting⟩
      else none := by
  have hland (c : Client) : ({ s with client := c }.land i).flight? id = if id = i then none else s.flight? id :=
    flight?_land _ i id
  have hadvance (c : Client) (f : Flight) : ({ s with client := c }.advance i f).flight? id =
      if id = i then some f else s.flight? id := flight?_advance _ i id f
  cases hb : s.client.breaker.allows s.now with
  | false =>
    simp only [ask, Client.ask_refused hb, Logged.value_bind, Logged.value_pure, hland]
    by_cases hid : id = i <;> simp [hid]
  | true =>
    cases hq : s.client.request? r with
    | none =>
      simp only [ask, Client.ask_unbuilt hb hq, Logged.value_bind, Logged.value_pure, hland]
      by_cases hid : id = i <;> simp [hid]
    | some q =>
      simp only [ask, Client.ask_sent hb hq, Logged.value_bind, Logged.value_pure, hadvance]
      by_cases hid : id = i <;> simp [hid]

/-- How a fetch gets to another phase. -/
inductive Moves (s : Session) (h : Happening) (id : Nat) : Prop where
  /-- The cache cannot answer it. -/
  | missed (r : Reference) (looked : h = .looked id r)
      (next : (s.next h).flight? id = some ⟨r, .missed⟩)
  /-- Its request goes out. -/
  | sent (r : Reference) (asks : s.asks h = some (id, r)) (sends : (s.sends h).isSome = true)
      (next : (s.next h).flight? id = some ⟨r, .waiting⟩)
  /-- The head of a success comes. -/
  | announced (r : Reference) (status : Nat) (head : h = .head id status)
      (success : Net.isSuccess status = true) (waiting : s.flight? id = some ⟨r, .waiting⟩)
      (next : (s.next h).flight? id = some ⟨r, .reading⟩)

/-- A fetch that asks the breaker is over, or its request goes out; the others stay as they are. -/
theorem flight?_of_asks {i : Nat} (cache : Cache) (flights : List (Nat × Flight))
    (ha : s.asks h = some (i, r))
    (hnext : s.next h = (Session.ask ⟨{ s.client with cache := cache }, s.now, flights⟩ i r).value.1)
    (hother : id ≠ i → flights.lookup id = s.flight? id) :
    (s.next h).flight? id = s.flight? id ∨ (s.next h).flight? id = none ∨ s.Moves h id := by
  have hask : (s.next h).flight? id =
      if id ≠ i then flights.lookup id
      else if s.client.breaker.allows s.now = true ∧ (s.client.request? r).isSome = true then
        some ⟨r, .waiting⟩
      else none := by
    rw [hnext]
    exact flight?_ask ⟨{ s.client with cache := cache }, s.now, flights⟩ i id r
  by_cases hid : id = i
  · subst hid
    simp only [ne_eq, not_true_eq_false, if_false, ← sends_isSome_iff ha] at hask
    split at hask
    · rename_i hsent
      exact .inr (.inr (.sent r ha hsent hask))
    · exact .inr (.inl hask)
  · rw [if_pos hid, hother hid] at hask
    exact .inl hask

/-- What a happening does to a fetch: nothing, or it ends the fetch, or gets it to another phase. -/
theorem flight?_next (s : Session) (h : Happening) (id : Nat) :
    (s.next h).flight? id = s.flight? id ∨ (s.next h).flight? id = none ∨ s.Moves h id := by
  -- a fetch that is over is not under way, and no other fetch is touched
  have hland (i : Nat) : (s.land i).flight? id = s.flight? id ∨ (s.land i).flight? id = none := by
    rw [flight?_land]
    split
    · exact .inr rfl
    · exact .inl rfl
  cases h with
  | passed n => exact .inl rfl
  | cancelled i => exact (hland i).imp_right .inl
  | looked i r =>
    by_cases hf : (s.flight? i).isSome = true
    · exact .inl (by simp [next, step, hf])
    · have hnext : s.next (.looked i r) = (s.look i r).value.1 := by simp [next, step, hf]
      have hlook := flight?_look s i id r
      rw [← hnext] at hlook
      split at hlook
      · rename_i hmiss
        obtain ⟨rfl, -⟩ := hmiss
        exact .inr (.inr (.missed r rfl hlook))
      · exact .inl hlook
  | asked i =>
    rcases hf : s.flight? i with _ | ⟨r, _ | _ | _⟩
    case some.missed =>
      have ha : s.asks (.asked i) = some (i, r) := by simp only [asks, hf]
      exact flight?_of_asks s.client.cache s.flights ha (by simp only [next, step, hf]) fun _ => rfl
    all_goals exact .inl (by simp only [next, step, hf, Logged.value_pure])
  | fetch i r =>
    by_cases hf : (s.flight? i).isSome = true
    · exact .inl (by simp [next, step, hf])
    · rcases hs : s.client.cache.serve s.now (Client.key r) with ⟨_ | summary, cache⟩
      · have ha : s.asks (.fetch i r) = some (i, r) := by simp [asks, hf, Client.look_missed hs]
        refine flight?_of_asks cache (s.advance i ⟨r, .missed⟩).flights ha
          (by simp [next, step, hf, look, Client.look_missed hs, advance, land]) fun hid => ?_
        exact (flight?_advance s i id ⟨r, .missed⟩).trans (if_neg hid)
      · have hnext : s.next (.fetch i r) = { s with client := { s.client with cache := cache } } := by
          simp [next, step, hf, look, Client.look_hit hs]
        rw [hnext]
        exact .inl rfl
  | broken i failure =>
    rcases hf : s.flight? i with _ | ⟨r, _ | _ | _⟩
    case some.waiting =>
      simp only [next, step, hf, Client.failWith_value, Logged.value_bind, Logged.value_pure]
      exact (hland i).imp_right .inl
    all_goals exact .inl (by simp only [next, step, hf, Logged.value_pure])
  | head i status =>
    rcases hf : s.flight? i with _ | ⟨r, _ | _ | _⟩
    case some.waiting =>
      by_cases h2 : Net.isSuccess status = true
      · have hnext : s.next (.head i status) =
            ({ s with client := s.client.reportSuccess }.advance i ⟨r, .reading⟩) := by
          simp [next, step, hf, Client.takeHead, h2]
        have hadvance := flight?_advance { s with client := s.client.reportSuccess } i id ⟨r, .reading⟩
        rw [← hnext] at hadvance
        split at hadvance
        · rename_i hid
          subst hid
          exact .inr (.inr (.announced r status rfl h2 hf hadvance))
        · exact .inl hadvance
      · have hnext : ∃ c, s.next (.head i status) = { s with client := c }.land i := by
          by_cases h4 : status = 404 ∨ status = 410 <;>
            exact ⟨_, by simp [next, step, hf, Client.takeHead, h2, h4]; rfl⟩
        obtain ⟨c, hnext⟩ := hnext
        rw [hnext]
        exact (hland i).imp_right .inl
    all_goals exact .inl (by simp only [next, step, hf, Logged.value_pure])
  | body i content =>
    rcases hf : s.flight? i with _ | ⟨r, _ | _ | _⟩
    case some.reading =>
      simp only [next, step, hf, Logged.value_pure]
      exact (hland i).imp_right .inl
    all_goals exact .inl (by simp only [next, step, hf, Logged.value_pure])

/-- A request is on its way since it was sent. -/
theorem waits_next (hw : (s.next h).waits id = true) :
    s.waits id = true ∨ ∃ r, s.asks h = some (id, r) ∧ (s.sends h).isSome = true := by
  rcases flight?_next s h id with hsame | hnone | hmoves
  · rw [waits, hsame] at hw
    exact .inl hw
  · simp [waits, hnone] at hw
  · cases hmoves with
    | missed r looked next => simp [waits, next] at hw
    | sent r asks sends next => exact .inr ⟨r, asks, sends⟩
    | announced r status head success waiting next => simp [waits, next] at hw

/-! ## All along a run -/

/-- What is so at the start of a run and after each happening of it. -/
def Throughout (P : Session → Prop) (s : Session) (hs : List Happening) : Prop :=
  ∀ p, p <+: hs → P (s.run p)

/-- A request is on its way all along. -/
def StaysOut (s : Session) (id : Nat) (hs : List Happening) : Prop := s.Throughout (·.waits id = true) hs

section
variable {P : Session → Prop} {p : List Happening}

theorem run_concat (s : Session) (p : List Happening) (h : Happening) :
    s.run (p ++ [h]) = (s.run p).next h := run_append s p [h]

theorem throughout_nil : s.Throughout P [] ↔ P s := by
  constructor
  · intro hall
    exact hall [] (List.prefix_refl [])
  · intro hs p hp
    rw [List.prefix_nil.1 hp]
    exact hs

theorem throughout_concat : s.Throughout P (p ++ [h]) ↔ s.Throughout P p ∧ P ((s.run p).next h) := by
  rw [← run_concat]
  constructor
  · intro hall
    exact ⟨fun q hq => hall q (hq.trans (List.prefix_append ..)), hall _ (List.prefix_refl _)⟩
  · rintro ⟨hall, hlast⟩ q hq
    rcases List.prefix_concat_iff.1 hq with rfl | hq
    · exact hlast
    · exact hall q hq

/-- What is so at the end of a run has been so all along, or since it came to be so. -/
theorem since_run {Q : Session → Happening → Prop} (hstep : ∀ s h, P (Session.next s h) → P s ∨ Q s h)
    (hend : P (s.run p)) :
    s.Throughout P p ∨ ∃ p₁ k p₂, p = p₁ ++ k :: p₂ ∧ Q (s.run p₁) k ∧
      ((s.run p₁).next k).Throughout P p₂ := by
  induction p using List.reverseRecOn with
  | nil => exact .inl (throughout_nil.2 hend)
  | append_singleton p h ih =>
    rw [run_concat] at hend
    rcases hstep _ h hend with hbefore | hnow
    · rcases ih hbefore with hall | ⟨p₁, k, p₂, rfl, hk, hall⟩
      · exact .inl (throughout_concat.2 ⟨hall, hend⟩)
      · refine .inr ⟨p₁, k, p₂ ++ [h], by simp, hk, throughout_concat.2 ⟨hall, ?_⟩⟩
        rwa [run_append] at hend
    · exact .inr ⟨p, h, [], rfl, hnow, throughout_nil.2 hend⟩

/-- A request on its way has been so all along, or since it was sent. -/
theorem waits_run (hw : (s.run p).waits id = true) :
    s.StaysOut id p ∨ ∃ p₁ k p₂ r, p = p₁ ++ k :: p₂ ∧ (s.run p₁).asks k = some (id, r) ∧
      ((s.run p₁).sends k).isSome = true ∧ ((s.run p₁).next k).StaysOut id p₂ := by
  rcases since_run (P := (·.waits id = true)) (fun _ _ => waits_next) hw with
    hout | ⟨p₁, k, p₂, hp, ⟨r, ha, hsent⟩, hout⟩
  · exact .inl hout
  · exact .inr ⟨p₁, k, p₂, r, hp, ha, hsent, hout⟩

/-- Whether a fetch is past the breaker: its request is on its way, or its body is. -/
def isOut (s : Session) (id : Nat) : Bool := (s.flight? id).any (·.phase ≠ .missed)

/-- The request of a fetch went out in a run, and the fetch has been under way since. -/
def HasSent (s : Session) (p : List Happening) (id : Nat) : Prop :=
  ∃ p₁ k p₂ r, p = p₁ ++ k :: p₂ ∧ (s.run p₁).asks k = some (id, r) ∧
    ((s.run p₁).sends k).isSome = true ∧ ((s.run p₁).next k).Throughout (·.isOut id = true) p₂

/-- The head of a success came in a run for the request of a fetch, and its body is still to come. -/
def Announced (s : Session) (p : List Happening) (id : Nat) (r : Reference) : Prop :=
  ∃ p₁ status p₂, p = p₁ ++ .head id status :: p₂ ∧ Net.isSuccess status = true ∧
    (s.run p₁).flight? id = some ⟨r, .waiting⟩ ∧
    ((s.run p₁).next (.head id status)).Throughout (·.flight? id = some ⟨r, .reading⟩) p₂

theorem isOut_next (ho : (s.next h).isOut id = true) :
    s.isOut id = true ∨ ∃ r, s.asks h = some (id, r) ∧ (s.sends h).isSome = true := by
  rcases flight?_next s h id with hsame | hnone | hmoves
  · rw [isOut, hsame] at ho
    exact .inl ho
  · simp [isOut, hnone] at ho
  · cases hmoves with
    | missed r looked next => simp [isOut, next] at ho
    | sent r asks sends next => exact .inr ⟨r, asks, sends⟩
    | announced r status head success waiting next => exact .inl (by simp [isOut, waiting])

/-- A fetch is past the breaker just when it has sent its request. -/
theorem hasSent_iff (hidle : s.flights = []) : s.HasSent p id ↔ (s.run p).isOut id = true := by
  constructor
  · rintro ⟨p₁, k, p₂, r, rfl, -, -, hall⟩
    rw [run_append]
    exact hall p₂ (List.prefix_refl _)
  · intro ho
    rcases since_run (P := (·.isOut id = true)) (fun _ _ => isOut_next) ho with
      hall | ⟨p₁, k, p₂, hp, ⟨r, ha, hsent⟩, hall⟩
    · have hout : s.isOut id = true := hall [] List.nil_prefix
      simp [isOut, flight?, hidle] at hout
    · exact ⟨p₁, k, p₂, r, hp, ha, hsent, hall⟩

theorem reads_next (hr : (s.next h).flight? id = some ⟨r, .reading⟩) :
    s.flight? id = some ⟨r, .reading⟩ ∨ ∃ status, h = .head id status ∧
      Net.isSuccess status = true ∧ s.flight? id = some ⟨r, .waiting⟩ := by
  rcases flight?_next s h id with hsame | hnone | hmoves
  · exact .inl (hsame ▸ hr)
  · cases hnone.symm.trans hr
  · cases hmoves with
    | missed r' looked next => cases next.symm.trans hr
    | sent r' asks sends next => cases next.symm.trans hr
    | announced r' status head success waiting next =>
      cases next.symm.trans hr
      exact .inr ⟨status, head, success, waiting⟩

/-- The head of a success has come for a fetch that reads. -/
theorem announced_of_reads (hidle : s.flights = []) (hr : (s.run p).flight? id = some ⟨r, .reading⟩) :
    s.Announced p id r := by
  rcases since_run (P := (·.flight? id = some ⟨r, .reading⟩)) (fun _ _ => reads_next) hr with
    hall | ⟨p₁, k, p₂, hp, ⟨status, rfl, hsuccess, hw⟩, hall⟩
  · have hr : s.flight? id = some ⟨r, .reading⟩ := hall [] List.nil_prefix
    simp [flight?, hidle] at hr
  · exact ⟨p₁, status, p₂, hp, hsuccess, hw, hall⟩

end

end Session

end ForgeBridge.Tracker
