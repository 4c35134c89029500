import ForgeBridge.Proofs.Admission
import ForgeBridge.Proofs.Flights

/-!
# What ends an open period

A report does not say which request it is about, so it is not only the trial that can close an open
breaker: the success of a request that was on its way when the breaker opened does so as well. This is
the one exception (`trialDecides_iff`). Unless it happens, only the success of a trial closes the
breaker, and no request goes out in the minute after the opening.
-/

namespace ForgeBridge.Tracker

namespace Session

variable {s : Session} {h : Happening} {id : Nat} {r : Reference}

/-! ## Open periods of a run -/

/-- The breaker is open all along. -/
def StaysOpen (s : Session) (hs : List Happening) : Prop :=
  s.Throughout (·.client.breaker.isOpen = true) hs

/-- A happening closes a breaker that was open up to then. -/
def Closes (s : Session) (p : List Happening) (h : Happening) : Prop :=
  s.StaysOpen p ∧ ((s.run p).next h).client.breaker.isOpen = false

/-- A happening reports the success of a request. -/
def Succeeds (s : Session) (h : Happening) (id : Nat) : Prop :=
  ∃ status, h = .head id status ∧ s.waits id = true ∧ answersWell status = true

/-- In a run that starts when the breaker opens, a request went out as the trial, more than a minute
after the opening, and no head has come yet. -/
def TrialSent (s : Session) (p : List Happening) (id : Nat) : Prop :=
  ∃ p₁ k p₂ r, p = p₁ ++ k :: p₂ ∧
    (s.run p₁).client.breaker.isOpen = true ∧ s.now + 60 * second < (s.run p₁).now ∧
    (s.run p₁).asks k = some (id, r) ∧ ((s.run p₁).sends k).isSome = true ∧
    ((s.run p₁).next k).StaysOut id p₂

/-- In a run that starts when the breaker opens, only the success of a trial closes it, and no request
goes out for a minute. -/
structure TrialDecides (s : Session) (hs : List Happening) : Prop where
  closer : ∀ p h, p ++ [h] <+: hs → s.Closes p h → ∃ id, (s.run p).Succeeds h id ∧ s.TrialSent p id
  silent : ∀ p h, p ++ [h] <+: hs → ((s.run p).sends h).isSome = true →
    s.now + 60 * second < (s.run p).now

/-- In a run that starts when the breaker opens, a request that was on its way at the start succeeds
before the breaker has closed. -/
def LateSuccess (s : Session) (hs : List Happening) : Prop :=
  ∃ p h id, p ++ [h] <+: hs ∧ s.StaysOpen p ∧ s.StaysOut id p ∧ (s.run p).Succeeds h id

section
variable {p : List Happening}

/-! ## Successes -/

theorem report?_success (hr : s.report? h = some .success) : ∃ id, s.Succeeds h id := by
  cases h with
  | head id status =>
    simp only [report?] at hr
    split at hr
    · rename_i hw
      split at hr
      · rename_i hwell
        exact ⟨id, status, rfl, hw, hwell⟩
      · cases hr
    · cases hr
  | broken id failure =>
    simp only [report?] at hr
    split at hr <;> cases hr
  | _ =>
    simp only [report?] at hr
    split at hr <;> cases hr

theorem Succeeds.report? (hs : s.Succeeds h id) : s.report? h = some .success := by
  obtain ⟨status, rfl, hw, hwell⟩ := hs
  simp [Session.report?, hw, hwell]

theorem report?_of_mem_events {c : Timed} (hc : c ∈ s.events h) (he : c.event = .success) :
    s.report? h = some .success := by
  simp only [events, List.mem_append, List.mem_map] at hc
  rcases hc with hc | ⟨e, hmem, rfl⟩
  · split at hc
    · rw [List.mem_singleton.1 hc] at he
      cases he
    · cases hc
  · rw [← he]
    simpa using hmem

/-- After a success the breaker is closed. -/
theorem closed_of_success (hr : s.report? h = some .success) :
    (s.next h).client.breaker.isOpen = false := by
  rw [(told s h).1, events, hr, Breaker.run_append]
  rfl

theorem no_success_of_staysOpen (ho : s.StaysOpen p) : ∀ c ∈ s.history p, c.event ≠ .success := by
  induction p using List.reverseRecOn with
  | nil => exact fun c hc => absurd hc List.not_mem_nil
  | append_singleton p h ih =>
    obtain ⟨hp, hlast⟩ := throughout_concat.1 ho
    intro c hc he
    rw [history_append] at hc
    rcases List.mem_append.1 hc with hc | hc
    · exact ih hp c hc he
    · have hmem : c ∈ (s.run p).events h := by simpa [history] using hc
      rw [closed_of_success (report?_of_mem_events hmem he)] at hlast
      cases hlast

/-- While the breaker is open, it remembers the opening. -/
theorem remembers_of_staysOpen (hb : s.client.breaker.Remembers s.now) (ho : s.StaysOpen p) :
    (s.run p).client.breaker.Remembers s.now := by
  rw [run_breaker]
  exact hb.run (fun c hc => (time_of_mem_history hc).1) (no_success_of_staysOpen ho)

/-- So nothing is sent in the minute after the opening. -/
theorem lt_of_sends (hb : s.client.breaker.Remembers s.now) (ho : s.StaysOpen p)
    (ha : (s.run p).asks h = some (id, r)) (hsent : ((s.run p).sends h).isSome = true) :
    s.now + 60 * second < (s.run p).now :=
  (remembers_of_staysOpen hb ho).lt_of_allows ((sends_isSome_iff ha).1 hsent).1

/-- What closes the breaker is a success. -/
theorem success_of_closes (hb : s.client.breaker.Remembers s.now) (hc : s.Closes p h) :
    ∃ id, (s.run p).Succeeds h id := by
  obtain ⟨ho, hclosed⟩ := hc
  have hrem := remembers_of_staysOpen hb ho
  refine report?_success (Decidable.byContradiction fun hr => ?_)
  have hno : ∀ c ∈ (s.run p).events h, c.event ≠ .success :=
    fun c hc he => hr (report?_of_mem_events hc he)
  have hle : ∀ c ∈ (s.run p).events h, s.now ≤ c.time := fun c hc => by
    rw [time_of_mem_events hc]
    exact now_le_run s p
  have hopen := (hrem.run hle hno).isOpen
  rw [← (told (s.run p) h).1, hclosed] at hopen
  cases hopen

/-- An open period that is over has been closed at some point. -/
theorem exists_closes (hs : s.client.breaker.isOpen = true) (hno : ¬s.StaysOpen p) :
    ∃ q h, q ++ [h] <+: p ∧ s.Closes q h := by
  induction p using List.reverseRecOn with
  | nil => exact absurd (throughout_nil.2 hs) hno
  | append_singleton p h ih =>
    by_cases hp : s.StaysOpen p
    · refine ⟨p, h, List.prefix_refl _, hp, ?_⟩
      have hlast := fun ho => hno (throughout_concat.2 ⟨hp, ho⟩)
      simpa using hlast
    · obtain ⟨q, k, hq, hc⟩ := ih hp
      exact ⟨q, k, hq.trans (List.prefix_append ..), hc⟩

end

/-! ## The trial decides, but for late successes -/

/-- The opening is what an open breaker remembers first. -/
theorem remembers_opening (hclosed : s.client.breaker.isOpen = false)
    (hopen : (s.next h).client.breaker.isOpen = true) :
    (s.next h).client.breaker.Remembers (s.next h).now := by
  have hnow : (s.next h).now = s.now := by
    cases h with
    | passed n =>
      rw [show (s.next (.passed n)).client = s.client from rfl, hclosed] at hopen
      cases hopen
    | _ => exact (kept_next s (by simp)).now
  rw [hnow]
  rw [(told s h).1] at hopen ⊢
  refine Breaker.remembers_run (fun ho => ?_) (fun c hc => ?_) hopen
  · rw [hclosed] at ho
    cases ho
  · exact Nat.le_of_eq (time_of_mem_events hc).symm

/-- A request that was on its way at the opening is no trial. -/
theorem not_trialSent_of_staysOut {p : List Happening} (hout : s.StaysOut id p) : ¬s.TrialSent p id := by
  rintro ⟨p₁, k, p₂, r, rfl, -, -, ha, -, -⟩
  have hw : (s.run p₁).waits id = true := hout p₁ (List.prefix_append ..)
  rw [not_waits_of_asks ha] at hw
  cases hw

/-- Without late successes it is a trial that closes the breaker. -/
theorem trialSent_of_closes {p hs : List Happening} (hb : s.client.breaker.Remembers s.now)
    (hlate : ¬s.LateSuccess hs) (hp : p ++ [h] <+: hs) (hc : s.Closes p h) :
    ∃ id, (s.run p).Succeeds h id ∧ s.TrialSent p id := by
  obtain ⟨id, hsucc⟩ := success_of_closes hb hc
  refine ⟨id, hsucc, ?_⟩
  have hw : (s.run p).waits id = true := by
    obtain ⟨status, -, hw, -⟩ := hsucc
    exact hw
  rcases waits_run hw with hout | ⟨p₁, k, p₂, r, hsplit, ha, hsent, hout⟩
  · exact absurd ⟨p, h, id, hp, hc.1, hout, hsucc⟩ hlate
  · have hpre : p₁ <+: p := by
      rw [hsplit]
      exact List.prefix_append ..
    have ho : s.StaysOpen p₁ := fun q hq => hc.1 q (hq.trans hpre)
    exact ⟨p₁, k, p₂, r, hsplit, hc.1 p₁ hpre, lt_of_sends hb ho ha hsent, ha, hsent, hout⟩

/-- Where only trials close the breaker, nothing is sent for a minute. -/
theorem silent_of_closer {hs : List Happening} (hb : s.client.breaker.Remembers s.now)
    (hcloser : ∀ p h, p ++ [h] <+: hs → s.Closes p h → ∃ id, (s.run p).Succeeds h id ∧ s.TrialSent p id)
    {p : List Happening} (hp : p <+: hs) (hsent : ((s.run p).sends h).isSome = true) :
    s.now + 60 * second < (s.run p).now := by
  by_cases ho : s.StaysOpen p
  · obtain ⟨id, r, ha⟩ := asks_of_sends hsent
    exact lt_of_sends hb ho ha hsent
  · -- the breaker has been closed before, and so by a trial, which was sent late enough
    obtain ⟨q, k, hq, hc⟩ := exists_closes hb.isOpen ho
    obtain ⟨id, -, p₁, k', p₂, r, hsplit, -, hlt, -⟩ := hcloser q k (hq.trans hp) hc
    obtain ⟨q', rfl⟩ := hq
    have hlater : (s.run p₁).now ≤ (s.run (q ++ [k] ++ q')).now := by
      rw [hsplit, List.append_assoc, List.append_assoc, run_append]
      exact now_le_run ..
    exact Nat.lt_of_lt_of_le hlt hlater

/-- In the period after an opening, it is the success of a trial that closes the breaker, and no
request goes out for a minute, if and only if no request that was on its way at the opening succeeds
while the breaker is open. -/
theorem trialDecides_iff (base : String) (token : Option String) (before hs : List Happening)
    (opening : Happening) :
    let s₀ := (start base token).run before
    let s := s₀.next opening
    s₀.client.breaker.isOpen = false → s.client.breaker.isOpen = true →
      (s.TrialDecides hs ↔ ¬s.LateSuccess hs) := by
  intro s₀ s hclosed hopen
  have hb : s.client.breaker.Remembers s.now := remembers_opening hclosed hopen
  constructor
  · rintro hdecides ⟨p, h, id, hp, ho, hout, hsucc⟩
    obtain ⟨id', hsucc', htrial⟩ := hdecides.closer p h hp ⟨ho, closed_of_success hsucc.report?⟩
    -- a head is the head of one request
    obtain ⟨status, rfl, -, -⟩ := hsucc
    obtain ⟨status', heq, -, -⟩ := hsucc'
    cases heq
    exact not_trialSent_of_staysOut hout htrial
  · intro hlate
    have hcloser : ∀ p h, p ++ [h] <+: hs → s.Closes p h →
        ∃ id, (s.run p).Succeeds h id ∧ s.TrialSent p id :=
      fun p h hp hc => trialSent_of_closes hb hlate hp hc
    exact ⟨hcloser, fun p h hp hsent =>
      silent_of_closer hb hcloser ((List.prefix_append ..).trans hp) hsent⟩

/-- Four failures that come one after the other, and a fifth request that is on its way. -/
def faltering : List Happening := outage.dropLast

/-- A trial succeeds more than a minute later, and the next fetch is free. -/
def recovered : List Happening :=
  [.fetch 5 (issue 5), .passed (60 * second + 1), .fetch 5 (issue 5), .head 5 200, .fetch 6 (issue 6)]

theorem trialDecides_recovered :
    let s := ((start "http://h" none).run faltering).next (.head 4 500)
    s.TrialDecides recovered ∧ (s.run recovered).client.breaker.isOpen = false := by
  intro s
  have hnone : s.flights = [] := by decide +kernel
  have hdecides := trialDecides_iff "http://h" none faltering recovered (.head 4 500)
    (by decide +kernel) (by decide +kernel)
  refine ⟨hdecides.2 ?_, by decide +kernel⟩
  rintro ⟨p, h, id, -, -, hout, -⟩
  have hw : s.waits id = true := hout [] List.nil_prefix
  simp [waits, flight?, hnone] at hw

/-- Six requests are on their way at the same time, and four of them have failed. -/
def crowded : List Happening :=
  (List.range 6).map (fun n => .fetch n (issue n)) ++ (List.range 4).map (.head · 500)

/-- The fifth failure opens the breaker, but then the sixth request succeeds, and another one goes out
at once. -/
theorem lateSuccess_crowded :
    let s₀ := (start "http://h" none).run crowded
    let s := s₀.next (.head 4 500)
    s₀.client.breaker.isOpen = false ∧ s.client.breaker.isOpen = true ∧
      ¬s.TrialDecides [.head 5 200, .fetch 6 (issue 6)] := by
  intro s₀ s
  refine ⟨by decide +kernel, by decide +kernel, fun hdecides => ?_⟩
  have hlt : s.now + 60 * second < (s.run [.head 5 200]).now :=
    hdecides.silent [.head 5 200] (.fetch 6 (issue 6)) (List.prefix_refl _) (by decide +kernel)
  exact absurd hlt (by decide +kernel)

end Session

end ForgeBridge.Tracker
