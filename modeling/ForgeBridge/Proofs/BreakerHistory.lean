import ForgeBridge.Tracker.Breaker
import Mathlib.Data.Nat.Init

/-!
# What a breaker knows of its past

A breaker has three fields, and they sum up all that ever happened to it (`SumsUp`): the failures
since the last success, and, once there are five, the last failure and the last request that went
out since. So whether a request may go out can be told from the history alone (`allows_iff`).

While a breaker is open, it remembers a moment that is not before any request it has let through
(`Remembers`), whatever else fails in between, so the next one goes out more than a minute later
(`passed_apart`).
-/

namespace ForgeBridge.Tracker

/-- What is asked of a breaker, or reported to it. -/
inductive Event where
  /-- A request wants to go out. -/
  | request
  | success
  | failure
deriving DecidableEq

/-- An event at the time when it happens. -/
structure Timed where
  time : Nat
  event : Event
deriving DecidableEq

/-- What happened to a breaker, from the first event to the last. A request counts if it went out. -/
abbrev History := List Timed

def second : Nat := 1000000000

namespace History

/-- The failures since the last success, or since the beginning. -/
def failuresInRow (h : History) : Nat :=
  (h.reverse.takeWhile (·.event ≠ .success)).countP (·.event = .failure)

/-- The time of the last failure. -/
def lastFailure? (h : History) : Option Nat :=
  (h.reverse.find? (·.event = .failure)).map (·.time)

/-- The time of the last request that went out since the last failure. -/
def lastRequest? (h : History) : Option Nat :=
  ((h.reverse.takeWhile (·.event ≠ .failure)).find? (·.event = .request)).map (·.time)

/-- Whether a request may go out after a history: there were fewer than five failures in a row, or
the last one and the requests since then are more than a minute ago. -/
def MayPass (h : History) (now : Nat) : Prop :=
  h.failuresInRow < 5 ∨
    (∀ t ∈ h.lastFailure?, t + 60 * second < now) ∧ ∀ t ∈ h.lastRequest?, t + 60 * second < now

instance (h : History) (now : Nat) : Decidable (h.MayPass now) :=
  inferInstanceAs (Decidable (_ ∨ _))

/-- The times of the requests in a history. -/
def requestTimes (h : History) : List Nat := (h.filter (·.event = .request)).map (·.time)

/-- Each event is not before the one in front of it. -/
def Ordered (h : History) : Prop := h.Pairwise (·.time ≤ ·.time)

instance (h : History) : Decidable h.Ordered := inferInstanceAs (Decidable (h.Pairwise _))

/-! ## One event more -/

section
variable (h : History) (t : Nat)

@[simp] theorem failuresInRow_request : failuresInRow (h ++ [⟨t, .request⟩]) = h.failuresInRow := by
  simp [failuresInRow]

@[simp] theorem failuresInRow_success : failuresInRow (h ++ [⟨t, .success⟩]) = 0 := by
  simp [failuresInRow]

@[simp] theorem failuresInRow_failure : failuresInRow (h ++ [⟨t, .failure⟩]) = h.failuresInRow + 1 := by
  simp [failuresInRow]

@[simp] theorem lastFailure?_failure : lastFailure? (h ++ [⟨t, .failure⟩]) = some t := by
  simp [lastFailure?]

@[simp] theorem lastFailure?_request : lastFailure? (h ++ [⟨t, .request⟩]) = h.lastFailure? := by
  simp [lastFailure?]

@[simp] theorem lastRequest?_failure : lastRequest? (h ++ [⟨t, .failure⟩]) = none := by
  simp [lastRequest?]

@[simp] theorem lastRequest?_request : lastRequest? (h ++ [⟨t, .request⟩]) = some t := by
  simp [lastRequest?]

end

/-- There is a last failure where failures were counted. -/
theorem lastFailure?_isSome {h : History} (hf : 0 < h.failuresInRow) : h.lastFailure?.isSome := by
  obtain ⟨e, he, hef⟩ := List.countP_pos_iff.1 hf
  have hm := (List.takeWhile_prefix _).subset he
  simp only [lastFailure?, Option.isSome_map, List.find?_isSome]
  exact ⟨e, hm, hef⟩

theorem requestTimes_append (h h' : History) :
    requestTimes (h ++ h') = h.requestTimes ++ h'.requestTimes := by
  simp [requestTimes]

end History

namespace Breaker

/-- Whether requests are held back. -/
def isOpen (b : Breaker) : Bool := b.openedAt.isSome

/-! ## Calls -/

/-- What a breaker says to an event, and what becomes of it. A report is always heard. -/
def call (b : Breaker) (c : Timed) : Bool × Breaker :=
  match c.event with
  | .request => b.grant c.time
  | .success => (true, b.succeed)
  | .failure => (true, b.fail c.time)

@[simp] theorem call_success (b : Breaker) (t : Nat) : b.call ⟨t, .success⟩ = (true, b.succeed) := rfl

@[simp] theorem call_failure (b : Breaker) (t : Nat) : b.call ⟨t, .failure⟩ = (true, b.fail t) := rfl

/-- A breaker after one call after the other. -/
def run (b : Breaker) (cs : History) : Breaker := cs.foldl (fun b c => (b.call c).2) b

/-- The reports among some calls, and the requests that went out. -/
def passed (b : Breaker) : History → History
  | [] => []
  | c :: cs => (if (b.call c).1 then [c] else []) ++ (b.call c).2.passed cs

theorem run_append (b : Breaker) (cs cs' : History) : b.run (cs ++ cs') = (b.run cs).run cs' :=
  List.foldl_append

theorem passed_append (b : Breaker) (cs cs' : History) :
    b.passed (cs ++ cs') = b.passed cs ++ (b.run cs).passed cs' := by
  induction cs generalizing b with
  | nil => rfl
  | cons c cs ih => simp only [List.cons_append, passed, ih, run, List.foldl_cons, List.append_assoc]

/-- A time is past if more than the cooldown lies between. -/
theorem isPast_iff {now since : Nat} : isPast now since = true ↔ since + 60 * second < now := by
  rw [isPast, decide_eq_true_iff, cooldown, second]
  omega

/-- What it takes for an open breaker to let a request through. -/
theorem allows_open {b : Breaker} {o now : Nat} (ho : b.openedAt = some o) :
    b.allows now = true ↔ o + 60 * second < now ∧ ∀ t ∈ b.trialAt, t + 60 * second < now := by
  simp only [allows, ho, Bool.and_eq_true, isPast_iff, Option.all_eq_true, Option.mem_def]

theorem allows_closed {b : Breaker} (ho : b.openedAt = none) (now : Nat) : b.allows now = true := by
  simp only [allows, ho]

theorem call_request_fst (b : Breaker) (now : Nat) : (b.call ⟨now, .request⟩).1 = b.allows now := by
  simp only [call, grant]
  split <;> simp_all

/-- A request that is refused leaves no trace. -/
theorem call_refused {b : Breaker} {now : Nat} (h : b.allows now = false) :
    b.call ⟨now, .request⟩ = (false, b) := by
  simp [call, grant, h]

/-- A request that goes out while the breaker is closed leaves none either. -/
theorem call_granted_closed {b : Breaker} {now : Nat} (ho : b.openedAt = none) :
    b.call ⟨now, .request⟩ = (true, b) := by
  simp [call, grant, allows_closed ho, ho]

/-- One that goes out while it is open is the trial. -/
theorem call_granted_open {b : Breaker} {now o : Nat} (ho : b.openedAt = some o)
    (h : b.allows now = true) : b.call ⟨now, .request⟩ = (true, { b with trialAt := some now }) := by
  simp [call, grant, h, ho]

/-! ## The fields sum up the history -/

/-- A breaker is what its history makes it. -/
structure SumsUp (b : Breaker) (h : History) : Prop where
  failures : b.failures = h.failuresInRow
  openedAt : b.openedAt = if 5 ≤ h.failuresInRow then h.lastFailure? else none
  trialAt : b.trialAt = if 5 ≤ h.failuresInRow then h.lastRequest? else none

theorem sumsUp_closed : SumsUp closed [] := ⟨rfl, rfl, rfl⟩

theorem SumsUp.isOpen_iff {b : Breaker} {h : History} (hs : SumsUp b h) :
    b.isOpen = true ↔ 5 ≤ h.failuresInRow := by
  simp only [isOpen, hs.openedAt]
  split
  · rename_i h5
    exact iff_of_true (History.lastFailure?_isSome (by omega)) h5
  · rename_i h5
    exact iff_of_false Bool.false_ne_true h5

/-- Whether a request may go out can be told from the history. -/
theorem allows_iff {b : Breaker} {h : History} (hs : SumsUp b h) (now : Nat) :
    b.allows now = true ↔ h.MayPass now := by
  by_cases h5 : 5 ≤ h.failuresInRow
  · obtain ⟨o, ho⟩ := Option.isSome_iff_exists.1 (History.lastFailure?_isSome (h := h) (by omega))
    have hopen : b.openedAt = some o := by rw [hs.openedAt, if_pos h5, ho]
    have htrial : b.trialAt = h.lastRequest? := by rw [hs.trialAt, if_pos h5]
    rw [allows_open hopen, htrial, History.MayPass, ho]
    simp [Nat.not_lt.2 h5]
  · have hclosed : b.openedAt = none := by rw [hs.openedAt, if_neg h5]
    exact iff_of_true (allows_closed hclosed now) (.inl (Nat.lt_of_not_le h5))

theorem sumsUp_request {b : Breaker} {h : History} (hs : SumsUp b h) (now : Nat) :
    SumsUp (b.call ⟨now, .request⟩).2
      (h ++ if (b.call ⟨now, .request⟩).1 then [⟨now, .request⟩] else []) := by
  cases ha : b.allows now with
  | false => simpa [call_refused ha] using hs
  | true =>
    cases ho : b.openedAt with
    | none =>
      -- fewer than five failures: the fields do not look at requests
      have h5 : ¬5 ≤ h.failuresInRow := fun h5 => by
        have := hs.isOpen_iff.2 h5
        simp [isOpen, ho] at this
      rw [call_granted_closed ho]
      constructor
      · simpa using hs.failures
      · simpa [h5] using hs.openedAt
      · simpa [h5] using hs.trialAt
    | some o =>
      have h5 : 5 ≤ h.failuresInRow := hs.isOpen_iff.1 (by simp [isOpen, ho])
      rw [call_granted_open ho ha]
      constructor
      · simpa using hs.failures
      · simpa [h5] using hs.openedAt
      · simp [h5]

theorem sumsUp_success (b : Breaker) (h : History) (now : Nat) :
    SumsUp b.succeed (h ++ [⟨now, .success⟩]) := by
  constructor <;> simp [succeed, closed]

theorem sumsUp_failure {b : Breaker} {h : History} (hs : SumsUp b h) (now : Nat) :
    SumsUp (b.fail now) (h ++ [⟨now, .failure⟩]) := by
  constructor
  · simp [fail, hs.failures]
  · simp only [fail, threshold, hs.failures, hs.openedAt, History.failuresInRow_failure,
      History.lastFailure?_failure]
    split <;> simp
    omega
  · simp [fail]

/-- Each call keeps the fields in step with the history. -/
theorem sumsUp_call {b : Breaker} {h : History} (hs : SumsUp b h) (c : Timed) :
    SumsUp (b.call c).2 (h ++ if (b.call c).1 then [c] else []) := by
  obtain ⟨time, event⟩ := c
  cases event with
  | request => exact sumsUp_request hs time
  | success => exact sumsUp_success b h time
  | failure => exact sumsUp_failure hs time

theorem sumsUp_run {b : Breaker} {h : History} (hs : SumsUp b h) (cs : History) :
    SumsUp (b.run cs) (h ++ b.passed cs) := by
  induction cs generalizing b h with
  | nil => simpa [run, passed] using hs
  | cons c cs ih =>
    simp only [passed, ← List.append_assoc]
    exact ih (sumsUp_call hs c)

/-! ## The requests of an open period -/

/-- An open breaker remembers a moment that is not before `t`: the last failure, or the trial. -/
structure Remembers (b : Breaker) (t : Nat) : Prop where
  failures : threshold ≤ b.failures
  moment : ∃ o, b.openedAt = some o ∧ (t ≤ o ∨ ∃ a, b.trialAt = some a ∧ t ≤ a)

theorem SumsUp.remembers {b : Breaker} {h : History} (hs : SumsUp b h) (ho : b.isOpen = true) :
    b.Remembers 0 := by
  obtain ⟨o, heq⟩ := Option.isSome_iff_exists.1 ho
  refine ⟨?_, o, heq, .inl (Nat.zero_le o)⟩
  rw [hs.failures]
  exact hs.isOpen_iff.1 ho

/-- A request goes out more than a minute after all that is remembered. -/
theorem Remembers.lt_of_allows {b : Breaker} {t now : Nat} (h : b.Remembers t)
    (ha : b.allows now = true) : t + 60 * second < now := by
  obtain ⟨o, ho, hle | ⟨a, hta, hle⟩⟩ := h.moment
  all_goals obtain ⟨hopened, htrial⟩ := (allows_open ho).1 ha
  · omega
  · have := htrial a hta
    omega

/-- A failure frees the trial's place, but it moves the moment of opening past the trial. -/
theorem Remembers.fail {b : Breaker} {t now : Nat} (h : b.Remembers t) (hle : t ≤ now) :
    (b.fail now).Remembers t := by
  have hf := h.failures
  have hopened : (b.fail now).openedAt = some now := if_pos (by omega)
  exact ⟨Nat.le_succ_of_le hf, now, hopened, .inl hle⟩

theorem Remembers.trial {b : Breaker} {t : Nat} (h : b.Remembers t) (now : Nat) :
    { b with trialAt := some now }.Remembers now := by
  obtain ⟨o, ho, -⟩ := h.moment
  exact ⟨h.failures, o, ho, .inr ⟨now, rfl, Nat.le_refl now⟩⟩

theorem Remembers.isOpen {b : Breaker} {t : Nat} (h : b.Remembers t) : b.isOpen = true := by
  obtain ⟨o, ho, -⟩ := h.moment
  simp [Breaker.isOpen, ho]

theorem Remembers.mono {b : Breaker} {t t' : Nat} (h : b.Remembers t') (hle : t ≤ t') : b.Remembers t := by
  obtain ⟨o, ho, hto | ⟨a, ha, hta⟩⟩ := h.moment
  · exact ⟨h.failures, o, ho, .inl (Nat.le_trans hle hto)⟩
  · exact ⟨h.failures, o, ho, .inr ⟨a, ha, Nat.le_trans hle hta⟩⟩

/-- Only a success closes. -/
theorem Remembers.call {b : Breaker} {t : Nat} {c : Timed} (h : b.Remembers t) (ht : t ≤ c.time)
    (hno : c.event ≠ .success) : (b.call c).2.Remembers t := by
  obtain ⟨now, event⟩ := c
  cases event with
  | success => exact absurd rfl hno
  | failure => exact h.fail ht
  | request =>
    cases ha : b.allows now with
    | false => rwa [call_refused ha]
    | true =>
      obtain ⟨o, ho, -⟩ := h.moment
      rw [call_granted_open ho ha]
      exact (h.trial now).mono ht

theorem Remembers.run {b : Breaker} {t : Nat} {cs : History} (h : b.Remembers t)
    (ht : ∀ c ∈ cs, t ≤ c.time) (hno : ∀ c ∈ cs, c.event ≠ .success) : (b.run cs).Remembers t := by
  induction cs generalizing b with
  | nil => exact h
  | cons c cs ih =>
    obtain ⟨htc, hts⟩ := List.forall_mem_cons.1 ht
    obtain ⟨hnc, hns⟩ := List.forall_mem_cons.1 hno
    exact ih (h.call htc hnc) hts hns

/-- A call that opens a breaker is a failure, and its time is remembered. -/
theorem remembers_call {b : Breaker} {t : Nat} {c : Timed} (hb : b.isOpen = true → b.Remembers t)
    (ht : t ≤ c.time) (ho : (b.call c).2.isOpen = true) : (b.call c).2.Remembers t := by
  cases hbo : b.isOpen with
  | true =>
    refine (hb hbo).call ht fun hs => ?_
    obtain ⟨time, event⟩ := c
    simp only at hs
    subst hs
    cases ho
  | false =>
    have hnone : b.openedAt = none := by simpa [isOpen] using hbo
    obtain ⟨now, event⟩ := c
    cases event with
    | success => cases ho
    | request =>
      rw [call_granted_closed hnone, hbo] at ho
      cases ho
    | failure =>
      simp only [call_failure, fail, isOpen, hnone] at ho
      split at ho
      · rename_i hfive
        exact ⟨hfive, now, by simp [fail, hfive], .inl ht⟩
      · cases ho

theorem remembers_run {b : Breaker} {t : Nat} {cs : History} (hb : b.isOpen = true → b.Remembers t)
    (ht : ∀ c ∈ cs, t ≤ c.time) (ho : (b.run cs).isOpen = true) : (b.run cs).Remembers t := by
  induction cs generalizing b with
  | nil => exact hb ho
  | cons c cs ih =>
    obtain ⟨htc, hts⟩ := List.forall_mem_cons.1 ht
    exact ih (fun hco => remembers_call hb htc hco) hts ho

/-- The calls of an open period that come after `t` let requests through more than a minute after
`t`, and after each other. -/
theorem passed_apart {b : Breaker} {t : Nat} (hb : b.Remembers t) {cs : History} (hord : cs.Ordered)
    (ht : ∀ c ∈ cs, t ≤ c.time) (hno : ∀ c ∈ cs, c.event ≠ .success) :
    (t :: (b.passed cs).requestTimes).Pairwise (fun x y => x + 60 * second < y) := by
  induction cs generalizing b t with
  | nil => simp [passed, History.requestTimes]
  | cons c cs ih =>
    obtain ⟨hc, hcs⟩ := List.pairwise_cons.1 hord
    obtain ⟨htc, hts⟩ := List.forall_mem_cons.1 ht
    obtain ⟨hnc, hns⟩ := List.forall_mem_cons.1 hno
    obtain ⟨now, event⟩ := c
    simp only at hc htc
    rw [passed, History.requestTimes_append]
    cases event with
    | success => exact absurd rfl hnc
    | failure => exact ih (hb.fail htc) hcs hts hns
    | request =>
      cases ha : b.allows now with
      | false =>
        rw [call_refused ha]
        exact ih hb hcs hts hns
      | true =>
        obtain ⟨o, ho, -⟩ := hb.moment
        -- from here on the trial is what is remembered
        rw [call_granted_open ho ha]
        have hlt := hb.lt_of_allows ha
        have hrest := ih (hb.trial now) hcs hc hns
        have hafter := (List.pairwise_cons.1 hrest).1
        refine List.pairwise_cons.2 ⟨?_, hrest⟩
        intro y hy
        rcases List.mem_cons.1 hy with rfl | hy
        · exact hlt
        · have := hafter y hy
          omega

end Breaker

/-- Of two times in a list, the later one comes so much later for each step from one to the other. -/
def Apart (d : Nat) (ts : List Nat) : Prop :=
  ∀ i j, (hij : i < j) → (hj : j < ts.length) → ts[i] + (j - i) * d < ts[j]

theorem apart_of_pairwise {d : Nat} {ts : List Nat} (h : ts.Pairwise (fun x y => x + d < y)) :
    Apart d ts := by
  have hstep := List.pairwise_iff_getElem.1 h
  intro i j hij
  induction j, hij using Nat.le_induction with
  | base =>
    intro hj
    have hone : i.succ - i = 1 := by omega
    rw [hone, Nat.one_mul]
    exact hstep i (i + 1) (by omega) hj (Nat.lt_succ_self i)
  | succ j hij ih =>
    intro hj
    have hlt := ih (by omega)
    have hnext := hstep j (j + 1) (by omega) hj (Nat.lt_succ_self j)
    rw [Nat.succ_sub (by omega), Nat.succ_mul]
    omega

end ForgeBridge.Tracker
