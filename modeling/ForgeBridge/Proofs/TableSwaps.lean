import ForgeBridge.Proofs.Passes
import ForgeBridge.Proofs.SignedRequests
import ForgeBridge.Service.Live
import Mathlib.Data.List.Induction

/-!
# Replacing the table under way

A webhook call looks at the table once. From then on nothing that happens to the service or to other calls
touches it: its deliveries are those of the pass that starts from this table (`progress`), each at most once,
and all of them when the call is answered. The table itself is what the last replacement put in place
(`subscriptions_run`). So a call goes by the one table that is in place at a moment between its start and its
first delivery (`routes_by_one_table`), as if its event had been routed at that moment.
-/

namespace ForgeBridge.Service

open Webhook (Event)
open Routing (Pass)

/-! ## The table in place -/

/-- The table in place after a happening. -/
def putInPlace (table : Subscriptions) : Happening → Subscriptions
  | .replaced t => t
  | _ => table

/-- The table in place after a run: the last one that took the place of another, if there is one. -/
def tableAfter (table : Subscriptions) (hs : List Happening) : Subscriptions := hs.foldl putInPlace table

theorem tableAfter_append (table : Subscriptions) (hs hs' : List Happening) :
    tableAfter table (hs ++ hs') = tableAfter (tableAfter table hs) hs' := List.foldl_append

/-- Nothing is left of the tables before a replacement. -/
theorem tableAfter_replaced (table t : Subscriptions) (hs hs' : List Happening) :
    tableAfter table (hs ++ .replaced t :: hs') = tableAfter t hs' := by
  rw [tableAfter_append]
  rfl

namespace Live

section
variable (l : Live) (h : Happening) (hs hs' : List Happening)

theorem run_append : l.run (hs ++ hs') = (l.run hs).run hs' := List.foldl_append

theorem run_concat : l.run (hs ++ [h]) = (l.run hs).next h := run_append l hs [h]

/-- A happening touches the service by its table alone. -/
theorem service_next :
    (l.next h).service = { l.service with subscriptions := putInPlace l.service.subscriptions h } := by
  cases h with
  | moved call m =>
    simp only [next, step]
    split <;> rfl
  | _ => rfl

theorem service_run :
    (l.run hs).service = { l.service with subscriptions := tableAfter l.service.subscriptions hs } := by
  induction hs generalizing l with
  | nil => rfl
  | cons h hs ih =>
    rw [run, List.foldl_cons, ← run, ih, service_next]
    rfl

theorem subscriptions_run : (l.run hs).service.subscriptions = tableAfter l.service.subscriptions hs := by
  rw [service_run]

end

/-! ## The deliveries of a call -/

/-- The delivery that is attempted for a call in a happening. -/
def delivery? (l : Live) (call : Nat) (h : Happening) : Option (String × Message) :=
  match l.sight? h with
  | some (.attempt c room message) => if c = call then some (room, message) else none
  | _ => none

/-- The deliveries that are attempted for a call in a run. -/
def deliveries (l : Live) (call : Nat) : List Happening → List (String × Message)
  | [] => []
  | h :: hs => (l.delivery? call h).toList ++ (l.next h).deliveries call hs

theorem deliveries_append (l : Live) (call : Nat) (hs hs' : List Happening) :
    l.deliveries call (hs ++ hs') = l.deliveries call hs ++ (l.run hs).deliveries call hs' := by
  induction hs generalizing l with
  | nil => rfl
  | cons h hs ih => simp only [List.cons_append, deliveries, ih, run, List.foldl_cons, List.append_assoc]

section
variable {l : Live} {call : Nat} {stage : Stage} {h : Happening}

/-- A call does its own steps. -/
theorem stage?_moved (hstage : l.stage? call = some stage) (m : Move) :
    (l.next (.moved call m)).stage? call = some (stage.step l.service m).1 ∧
      l.delivery? call (.moved call m) = (stage.step l.service m).2 := by
  obtain ⟨hlt, -⟩ := List.getElem?_eq_some_iff.1 hstage
  constructor
  · simp only [next, step, hstage]
    exact List.getElem?_set_self hlt
  · simp only [delivery?, sight?, step, hstage]
    cases (stage.step l.service m).2 with
    | none => rfl
    | some attempt => exact if_pos rfl

/-- Nothing else touches it. -/
theorem stage?_other (hstage : l.stage? call = some stage) (hother : ∀ m, h ≠ .moved call m) :
    (l.next h).stage? call = some stage ∧ l.delivery? call h = none := by
  cases h with
  | called request =>
    obtain ⟨hlt, -⟩ := List.getElem?_eq_some_iff.1 hstage
    exact ⟨(List.getElem?_append_left hlt).trans hstage, rfl⟩
  | moved c m =>
    have hne : c ≠ call := fun heq => hother m (heq ▸ rfl)
    rcases hc : l.stage? c with _ | other
    · simp only [next, step, delivery?, sight?, hc]
      exact ⟨hstage, trivial⟩
    · simp only [next, step, delivery?, sight?, hc]
      refine ⟨(List.getElem?_set_ne hne).trans hstage, ?_⟩
      cases (other.step l.service m).2 with
      | none => rfl
      | some attempt => exact if_neg hne
  | _ => exact ⟨hstage, rfl⟩

end

end Live

/-! ## A pass under way -/

/-- A pass of an event by a table is under way: the deliveries to some of its rooms have been started, each
once, and no other delivery has ended. -/
structure UnderWay (table : Subscriptions) (event : Event) (pass : Pass) (begun : List String) : Prop where
  rooms : pass.rooms = table.roomsFor event.eventType
  message : pass.message = event.message
  nodup : begun.Nodup
  known : ∀ room ∈ begun, room ∈ pass.rooms
  ended : ∀ room, (pass.outcome? room).isSome → room ∈ begun

theorem underWay_start (table : Subscriptions) (event : Event) :
    UnderWay table event (.start table event) [] :=
  ⟨rfl, rfl, .nil, nofun, nofun⟩

section
variable {table : Subscriptions} {event : Event} {pass : Pass} {begun : List String}

theorem ofPass_done (hdone : pass.isDone = true) : Stage.ofPass pass begun = .answered (.ok pass) :=
  if_pos hdone

theorem ofPass_not_done (hdone : pass.isDone = false) : Stage.ofPass pass begun = .routing pass begun :=
  if_neg (Bool.eq_false_iff.1 hdone)

theorem UnderWay.begin {room : String} (h : UnderWay table event pass begun) (hroom : room ∈ pass.rooms)
    (hnew : room ∉ begun) : UnderWay table event pass (room :: begun) where
  rooms := h.rooms
  message := h.message
  nodup := List.nodup_cons.2 ⟨hnew, h.nodup⟩
  known := by
    rintro other (_ | ⟨_, hother⟩)
    · exact hroom
    · exact h.known other hother
  ended other hother := .tail _ (h.ended other hother)

theorem UnderWay.complete {room : String} (h : UnderWay table event pass begun) (hroom : room ∈ begun)
    (o : Outcome) : UnderWay table event (pass.complete room o) begun where
  rooms := (Pass.rooms_complete ..).trans h.rooms
  message := (Pass.message_complete ..).trans h.message
  nodup := h.nodup
  known other hother := by
    rw [Pass.rooms_complete]
    exact h.known other hother
  ended other hother := by
    rw [Pass.outcome?_complete, Option.isSome_or, Bool.or_eq_true] at hother
    rcases hother with hbefore | hnow
    · exact h.ended other hbefore
    · have heq : other = room := by
        by_contra hne
        rw [if_neg fun hand => hne hand.1] at hnow
        cases hnow
      exact heq ▸ hroom

/-- A pass stays under way, and what is attempted is at most one delivery more. -/
theorem UnderWay.step (h : UnderWay table event pass begun) (s : Service) (m : Move) :
    ∃ pass' begun', UnderWay table event pass' begun' ∧
      ((Stage.ofPass pass begun).step s m).1 = .ofPass pass' begun' ∧
      begun'.reverse.map (·, event.message) =
        begun.reverse.map (·, event.message) ++ ((Stage.ofPass pass begun).step s m).2.toList := by
  have hsame {stage : Stage × Option (String × Message)} (heq : stage = (.ofPass pass begun, none)) :
      ∃ pass' begun', UnderWay table event pass' begun' ∧ stage.1 = .ofPass pass' begun' ∧
        begun'.reverse.map (·, event.message) =
          begun.reverse.map (·, event.message) ++ stage.2.toList := by
    subst heq
    exact ⟨pass, begun, h, rfl, (List.append_nil _).symm⟩
  cases hdone : pass.isDone with
  | true =>
    refine hsame ?_
    rw [ofPass_done hdone]
    cases m <;> rfl
  | false =>
    have hrouting : Stage.ofPass pass begun = .routing pass begun := ofPass_not_done hdone
    rw [hrouting] at hsame ⊢
    cases m with
    | decoded => exact hsame rfl
    | taken => exact hsame rfl
    | begun room =>
      by_cases hand : room ∈ pass.rooms ∧ room ∉ begun
      · refine ⟨pass, room :: begun, h.begin hand.1 hand.2, ?_⟩
        simp only [Stage.step, if_pos hand, ofPass_not_done hdone, h.message]
        simp
      · exact hsame (if_neg hand)
    | ended room o =>
      by_cases hroom : room ∈ begun
      · refine ⟨pass.complete room o, begun, h.complete hroom o, ?_⟩
        simp [Stage.step, hroom]
      · exact hsame (if_neg hroom)

/-- When it is over, all its deliveries have been attempted. -/
theorem UnderWay.perm (h : UnderWay table event pass begun) (hdone : pass.isDone = true) :
    (begun.reverse.map (·, event.message)).Perm (Pass.start table event).attempts := by
  have hmem : ∀ room, room ∈ begun ↔ room ∈ table.roomsFor event.eventType := by
    intro room
    rw [← h.rooms]
    exact ⟨h.known room, fun hroom => h.ended room (List.all_eq_true.1 hdone room hroom)⟩
  have hperm := (List.perm_ext_iff_of_nodup h.nodup (table.nodup_roomsFor event.eventType)).2 hmem
  exact ((List.reverse_perm begun).trans hperm).map _

/-- Its report then is that of a pass that is routed at once, with deliveries that end in the same way. -/
theorem UnderWay.report (h : UnderWay table event pass begun) (hdone : pass.isDone = true) :
    ∃ deliver, pass.report = (Routing.route deliver table event).value.report := by
  let outcome (room : String) : Outcome := (pass.outcome? room).getD (.ok ())
  have hknown : ∀ room ∈ pass.rooms, pass.outcome? room = some (outcome room) := by
    intro room hroom
    obtain ⟨o, ho⟩ := Option.isSome_iff_exists.1 (List.all_eq_true.1 hdone room hroom)
    simp only [outcome, ho, Option.getD_some]
  obtain ⟨hdelivered, hfailed⟩ := Pass.report_eq hknown
  obtain ⟨hdelivered', hfailed'⟩ := Routing.report_route (fun room _ => outcome room) table event
  rw [h.rooms] at hdelivered hfailed
  have hext (r r' : Routing.Report) : r.delivered = r'.delivered → r.failed = r'.failed → r = r' := by
    cases r
    cases r'
    rintro rfl rfl
    rfl
  exact ⟨_, hext _ _ (hdelivered.trans hdelivered'.symm) (hfailed.trans hfailed'.symm)⟩

/-- Up to then, each has been attempted at most once. -/
theorem UnderWay.subperm (h : UnderWay table event pass begun) :
    (begun.reverse.map (·, event.message)).Subperm (Pass.start table event).attempts := by
  have hsub : begun ⊆ table.roomsFor event.eventType := fun room hroom => h.rooms ▸ h.known room hroom
  have hinj : Function.Injective fun room : String => (room, event.message) :=
    fun _ _ heq => congrArg Prod.fst heq
  exact (List.map_subperm_map_iff hinj).2 ((List.reverse_perm begun).subperm.trans (h.nodup.subperm hsub))

end

/-! ## Passes come to their ends -/

/-- The stage of a call after some steps of its own. -/
def Stage.steps (s : Service) (stage : Stage) (ms : List Move) : Stage :=
  ms.foldl (fun stage m => (stage.step s m).1) stage

/-- The rooms of a pass of which nothing is known yet. -/
def unknown (p : Pass) : List String := p.rooms.filter fun room => (p.outcome? room).isNone

section
variable {table : Subscriptions} {event : Event} {pass : Pass} {begun : List String} {room : String}

theorem exists_unknown (hdone : pass.isDone = false) : ∃ room, room ∈ unknown pass := by
  obtain ⟨room, hroom, hnone⟩ := List.all_eq_false.1 hdone
  exact ⟨room, List.mem_filter.2 ⟨hroom, by simpa using hnone⟩⟩

theorem length_unknown_complete (hroom : room ∈ unknown pass) (o : Outcome) :
    (unknown (pass.complete room o)).length < (unknown pass).length := by
  obtain ⟨hmem, hnone⟩ := List.mem_filter.1 hroom
  have hsub : unknown (pass.complete room o) = (unknown pass).filter (· ≠ room) := by
    rw [unknown, unknown, Pass.rooms_complete, List.filter_filter]
    refine List.filter_congr fun other _ => ?_
    rw [Pass.outcome?_complete]
    by_cases heq : other = room
    · subst heq
      simp [hmem]
    · simp [heq]
  rw [hsub]
  exact List.length_filter_lt_length_iff_exists.2 ⟨room, hroom, by simp⟩

/-- Whatever has happened to a pass, steps of its own bring it to its end. -/
theorem UnderWay.finishes (h : UnderWay table event pass begun) (s : Service) :
    ∃ ms result, (Stage.ofPass pass begun).steps s ms = .answered result := by
  induction hn : (unknown pass).length using Nat.strongRecOn generalizing pass begun with
  | ind n ih =>
    cases hdone : pass.isDone with
    | true => exact ⟨[], _, ofPass_done hdone⟩
    | false =>
      obtain ⟨room, hroom⟩ := exists_unknown hdone
      have hmem : room ∈ pass.rooms := (List.mem_filter.1 hroom).1
      -- a delivery that has been started can end, and then less is unknown
      have hend {started : List String} (hstarted : UnderWay table event pass started) (hin : room ∈ started) :
          ∃ ms result, (Stage.routing pass started).steps s ms = .answered result := by
        have hless := length_unknown_complete hroom (.ok ())
        obtain ⟨ms, result, hms⟩ := ih _ (hn ▸ hless) (hstarted.complete hin (.ok ())) rfl
        refine ⟨.ended room (.ok ()) :: ms, result, ?_⟩
        rw [Stage.steps, List.foldl_cons, Stage.step, if_pos hin]
        exact hms
      rw [ofPass_not_done hdone]
      by_cases hin : room ∈ begun
      · exact hend h hin
      · obtain ⟨ms, result, hms⟩ := hend (h.begin hmem hin) (.head _)
        refine ⟨.begun room :: ms, result, ?_⟩
        rw [Stage.steps, List.foldl_cons, Stage.step, if_pos ⟨hmem, hin⟩]
        exact hms

end

namespace Live

/-! ## A call under way -/

/-- How far a call has come in a run that starts with its arrival, if its request can be decoded. -/
inductive Progress (l : Live) (call : Nat) (request : Webhook.Request) (event : Event)
    (hs : List Happening) : Prop where
  | arrived (stage : (l.run hs).stage? call = some (.arrived request)) (quiet : l.deliveries call hs = [])
  | decoded (stage : (l.run hs).stage? call = some (.decoded event)) (quiet : l.deliveries call hs = [])
  | taken (mid rest : List Happening) (pass : Pass) (begun : List String)
    (split : hs = mid ++ .moved call .taken :: rest) (quiet : l.deliveries call mid = [])
    (underWay : UnderWay (l.run mid).service.subscriptions event pass begun)
    (stage : (l.run hs).stage? call = some (.ofPass pass begun))
    (attempted : l.deliveries call hs = begun.reverse.map (·, event.message))

section
variable {l : Live} {call : Nat} {request : Webhook.Request} {event : Event} {hs : List Happening}

theorem deliveries_concat (l : Live) (call : Nat) (hs : List Happening) (h : Happening) :
    l.deliveries call (hs ++ [h]) = l.deliveries call hs ++ ((l.run hs).delivery? call h).toList := by
  rw [deliveries_append, deliveries, deliveries, List.append_nil]

/-- A happening that is none of its own steps leaves a call where it is. -/
theorem Progress.other {h : Happening} (hp : Progress l call request event hs)
    (hother : ∀ m, h ≠ .moved call m) : Progress l call request event (hs ++ [h]) := by
  have hquiet {stage : Stage} (hstage : (l.run hs).stage? call = some stage) :
      (l.run (hs ++ [h])).stage? call = some stage ∧
        l.deliveries call (hs ++ [h]) = l.deliveries call hs := by
    obtain ⟨hnext, hnone⟩ := stage?_other hstage hother
    rw [run_concat, deliveries_concat, hnone, Option.toList_none, List.append_nil]
    exact ⟨hnext, rfl⟩
  cases hp with
  | arrived stage quiet => exact .arrived (hquiet stage).1 ((hquiet stage).2.trans quiet)
  | decoded stage quiet => exact .decoded (hquiet stage).1 ((hquiet stage).2.trans quiet)
  | taken mid rest pass begun split quiet underWay stage attempted =>
    exact .taken mid (rest ++ [h]) pass begun (by simp [split]) quiet underWay (hquiet stage).1
      ((hquiet stage).2.trans attempted)

/-- Its own steps get a call on: it is decoded, takes the table in place, and starts its deliveries. -/
theorem Progress.moved (hp : Progress l call request event hs) (m : Move)
    (hevent : Event.ofRequest request (l.run hs).service.webhookSecret = .ok event) :
    Progress l call request event (hs ++ [.moved call m]) := by
  have hmoved {stage : Stage} (hstage : (l.run hs).stage? call = some stage) :
      (l.run (hs ++ [.moved call m])).stage? call = some (stage.step (l.run hs).service m).1 ∧
        l.deliveries call (hs ++ [.moved call m]) =
          l.deliveries call hs ++ (stage.step (l.run hs).service m).2.toList := by
    rw [run_concat, deliveries_concat, (stage?_moved hstage m).2]
    exact ⟨(stage?_moved hstage m).1, rfl⟩
  cases hp with
  | arrived stage quiet =>
    obtain ⟨hnext, htried⟩ := hmoved stage
    rw [quiet] at htried
    cases m with
    | decoded =>
      simp only [Stage.step, hevent] at hnext htried
      exact .decoded hnext htried
    | _ => exact .arrived hnext htried
  | decoded stage quiet =>
    obtain ⟨hnext, htried⟩ := hmoved stage
    rw [quiet] at htried
    cases m with
    | taken => exact .taken hs [] _ _ rfl quiet (underWay_start _ event) hnext htried
    | _ => exact .decoded hnext htried
  | taken mid rest pass begun split quiet underWay stage attempted =>
    obtain ⟨hnext, htried⟩ := hmoved stage
    obtain ⟨pass', begun', hunder, hstep, hbegun⟩ := underWay.step (l.run hs).service m
    rw [attempted, ← hbegun] at htried
    exact .taken mid (rest ++ [.moved call m]) pass' begun' (by simp [split]) quiet hunder
      (hnext.trans (congrArg some hstep)) htried

/-- However its steps are mixed with what else happens, a call takes the table once and goes by it. -/
theorem progress (hcall : l.stage? call = some (.arrived request))
    (hevent : Event.ofRequest request l.service.webhookSecret = .ok event) (hs : List Happening) :
    Progress l call request event hs := by
  induction hs using List.reverseRecOn with
  | nil => exact .arrived hcall rfl
  | append_singleton hs h ih =>
    have hsecret : (l.run hs).service.webhookSecret = l.service.webhookSecret := by rw [service_run]
    by_cases hown : ∃ m, h = .moved call m
    · obtain ⟨m, rfl⟩ := hown
      exact ih.moved m (hsecret ▸ hevent)
    · exact ih.other fun m heq => hown ⟨m, heq⟩

/-- A call may do any steps of its own without anything in between. -/
theorem stage?_steps {stage : Stage} (hstage : l.stage? call = some stage) (ms : List Move) :
    (l.run (ms.map (.moved call))).stage? call = some (stage.steps l.service ms) := by
  induction ms generalizing l stage with
  | nil => exact hstage
  | cons m ms ih =>
    rw [List.map_cons, run, List.foldl_cons, ← run, ih (stage?_moved hstage m).1, service_next]
    rfl

/-- Whatever has happened, steps of its own bring a call to its answer. -/
theorem Progress.finishes (hp : Progress l call request event hs)
    (hevent : Event.ofRequest request (l.run hs).service.webhookSecret = .ok event) :
    ∃ (ms : List Move) (result : Except Webhook.DecodeError Pass),
      (l.run (hs ++ ms.map (.moved call))).stage? call = some (.answered result) := by
  have hstart := (underWay_start (l.run hs).service.subscriptions event).finishes (l.run hs).service
  obtain ⟨ms, result, hms⟩ := hstart
  have hsteps {stage : Stage} (hstage : (l.run hs).stage? call = some stage)
      (hanswer : ∃ ms result, stage.steps (l.run hs).service ms = .answered result) :
      ∃ (ms : List Move) (result : Except Webhook.DecodeError Pass),
        (l.run (hs ++ ms.map (.moved call))).stage? call = some (.answered result) := by
    obtain ⟨ms, result, hms⟩ := hanswer
    refine ⟨ms, result, ?_⟩
    rw [run_append, stage?_steps hstage, hms]
  cases hp with
  | arrived stage quiet =>
    refine hsteps stage ⟨.decoded :: .taken :: ms, result, ?_⟩
    rw [Stage.steps, List.foldl_cons, Stage.step, hevent]
    exact hms
  | decoded stage quiet => exact hsteps stage ⟨.taken :: ms, result, hms⟩
  | taken mid rest pass begun split quiet underWay stage attempted =>
    exact hsteps stage (underWay.finishes (l.run hs).service)

/-- What a call has delivered: nothing before it takes the table, then each delivery of the pass that starts
from this table at most once, and all of them when it is answered. -/
theorem Progress.routed (hp : Progress l call request event hs) :
    (l.deliveries call hs = [] ∧ ∀ result, (l.run hs).stage? call ≠ some (.answered result)) ∨
      ∃ mid rest, hs = mid ++ .moved call .taken :: rest ∧ l.deliveries call mid = [] ∧
        let table := (l.run mid).service.subscriptions
        (l.deliveries call hs).Subperm (Pass.start table event).attempts ∧
        ∀ result, (l.run hs).stage? call = some (.answered result) →
          (l.deliveries call hs).Perm (Pass.start table event).attempts ∧
          ∃ pass deliver, result = .ok pass ∧
            pass.report = (Routing.route deliver table event).value.report := by
  cases hp with
  | arrived stage quiet =>
    refine .inl ⟨quiet, fun result h => ?_⟩
    rw [stage] at h
    cases h
  | decoded stage quiet =>
    refine .inl ⟨quiet, fun result h => ?_⟩
    rw [stage] at h
    cases h
  | taken mid rest pass begun split quiet underWay stage attempted =>
    refine .inr ⟨mid, rest, split, quiet, ?_⟩
    rw [attempted]
    refine ⟨underWay.subperm, fun result hanswered => ?_⟩
    have hdone : pass.isDone = true := by
      by_contra hnot
      rw [stage, ofPass_not_done (Bool.eq_false_iff.2 hnot)] at hanswered
      cases hanswered
    rw [stage, ofPass_done hdone] at hanswered
    cases hanswered
    obtain ⟨deliver, hreport⟩ := underWay.report hdone
    exact ⟨underWay.perm hdone, pass, deliver, rfl, hreport⟩

theorem delivery?_of_none (hnone : l.stage? call = none) (h : Happening) : l.delivery? call h = none := by
  cases h with
  | moved c m =>
    rcases hc : l.stage? c with _ | stage
    · simp only [delivery?, sight?, step, hc]
    · have hne : c ≠ call := by
        rintro rfl
        rw [hnone] at hc
        cases hc
      simp only [delivery?, sight?, step, hc]
      cases (stage.step l.service m).2 with
      | none => rfl
      | some attempt => exact if_neg hne
  | _ => rfl

theorem stage?_of_next {h : Happening} (hnone : (l.next h).stage? call = none) : l.stage? call = none := by
  by_contra hsome
  obtain ⟨stage, hstage⟩ := Option.ne_none_iff_exists'.1 hsome
  by_cases hown : ∃ m, h = .moved call m
  · obtain ⟨m, rfl⟩ := hown
    rw [(stage?_moved hstage m).1] at hnone
    cases hnone
  · rw [(stage?_other hstage fun m heq => hown ⟨m, heq⟩).1] at hnone
    cases hnone

/-- Nothing is delivered for a call before it comes. -/
theorem deliveries_of_none (hnone : (l.run hs).stage? call = none) : l.deliveries call hs = [] := by
  induction hs using List.reverseRecOn with
  | nil => rfl
  | append_singleton hs h ih =>
    rw [run_concat] at hnone
    have hbefore := stage?_of_next hnone
    rw [deliveries_concat, ih hbefore, delivery?_of_none hbefore, Option.toList_none, List.append_nil]

/-- A new call gets the next number. -/
theorem stage?_called (l : Live) (request : Webhook.Request) :
    (l.next (.called request)).stage? l.calls.length = some (.arrived request) :=
  List.getElem?_concat_length

/-- A run through the arrival of a call is a run up to it and one from it on. -/
theorem run_called (l : Live) (before after : List Happening) (request : Webhook.Request) :
    l.run (before ++ .called request :: after) = ((l.run before).next (.called request)).run after := by
  rw [run_append]
  rfl

theorem deliveries_called (l : Live) (before after : List Happening) (request : Webhook.Request) :
    l.deliveries (l.run before).calls.length (before ++ .called request :: after) =
      ((l.run before).next (.called request)).deliveries (l.run before).calls.length after := by
  have hnone : (l.run before).stage? (l.run before).calls.length = none :=
    List.getElem?_eq_none (Nat.le_refl _)
  rw [deliveries_append, deliveries_of_none hnone, deliveries, delivery?_of_none hnone]
  rfl

end

/-! ## One table for each call -/

/-- Whoever looks at the table or the rooms of a service sees the last table that was put in place. A webhook
whose request can be decoded goes by one table, which is in place at a moment between its start and its first
delivery: it is the last one that was put in place up to then, and so none that was replaced before the start.
Each room that this table selects is attempted at most once, and no other. When the call is answered, each has
been attempted, and the answer is as if the event had been routed at that moment. Whatever has happened, steps
of its own bring the call to its answer. -/
theorem routes_by_one_table (s : Service) (before after : List Happening) (request : Webhook.Request)
    (event : Event) (haccepted : Event.ofRequest request s.webhookSecret = .ok event) :
    let l := ofService s
    let call := (l.run before).calls.length
    let hs := before ++ .called request :: after
    (∀ p, (l.run p).sight? .copied = some (.snapshot (tableAfter s.subscriptions p)) ∧
      (l.run p).sight? .listed = some (.rooms (tableAfter s.subscriptions p).roomIds)) ∧
    (∃ (ms : List Move) (result : Except Webhook.DecodeError Pass),
      (l.run (hs ++ ms.map (.moved call))).stage? call = some (.answered result)) ∧
    ((l.deliveries call hs = [] ∧ ∀ result, (l.run hs).stage? call ≠ some (.answered result)) ∨
      ∃ mid rest, after = mid ++ .moved call .taken :: rest ∧
        l.deliveries call (before ++ .called request :: mid) = [] ∧
        let table := (l.run (before ++ .called request :: mid)).service.subscriptions
        (∀ older t newer, before = older ++ .replaced t :: newer →
          table = tableAfter t (newer ++ .called request :: mid)) ∧
        (∀ room message, (l.deliveries call hs).count (room, message) ≤
          if table.isSubscribed room event.eventType ∧ message = event.message then 1 else 0) ∧
        ∀ result, (l.run hs).stage? call = some (.answered result) →
          (∀ room message, (l.deliveries call hs).count (room, message) =
            if table.isSubscribed room event.eventType ∧ message = event.message then 1 else 0) ∧
          ∃ pass deliver, result = .ok pass ∧
            pass.report = (Routing.route deliver table event).value.report) := by
  intro l call hs
  have htable (p : List Happening) : (l.run p).service.subscriptions = tableAfter s.subscriptions p :=
    subscriptions_run l p
  have hevent (p : List Happening) : Event.ofRequest request (l.run p).service.webhookSecret = .ok event := by
    rw [service_run]
    exact haccepted
  -- the run from the arrival of the call on
  have hp := progress (stage?_called (l.run before) request) (hevent before) after
  have hrun (p : List Happening) := l.run_called before p request
  refine ⟨fun p => ⟨by rw [← htable]; rfl, by rw [← htable]; rfl⟩, ?_, ?_⟩
  · obtain ⟨ms, result, hms⟩ := hp.finishes (hrun after ▸ hevent _)
    refine ⟨ms, result, ?_⟩
    rw [List.append_assoc, List.cons_append, hrun]
    exact hms
  · simp only [hs, call, hrun, deliveries_called]
    rcases hp.routed with hquiet | ⟨mid, rest, hsplit, hquiet, hsub, hall⟩
    · exact .inl hquiet
    · refine .inr ⟨mid, rest, hsplit, hquiet, ?_, fun room message => ?_, fun result hanswered => ?_⟩
      · rintro older t newer hbefore
        rw [← hrun, htable, hbefore, List.append_assoc, List.cons_append, tableAfter_replaced]
      · rw [← Pass.count_start]
        exact hsub.count_le _
      · obtain ⟨hperm, hreport⟩ := hall result hanswered
        refine ⟨fun room message => ?_, hreport⟩
        rw [← Pass.count_start]
        exact hperm.count_eq _

/-- A service that takes pings without a signature. -/
def openService : Service where
  id := "gh"
  userId := "@gh:h"
  webhookSecret := none
  subscriptions := .ofList [("!a", ["ping"]), ("!b", ["ping"])]

/-- A ping without a signature. -/
def openPing : Webhook.Request where
  event := some "ping"
  signature := none
  signature256 := none
  body := Event.pingBody

/-- The table is replaced after the call was decoded, and again after it took the table. -/
def swaps : List Happening :=
  [.moved 0 .decoded, .replaced (.ofList [("!c", ["ping"])]), .moved 0 .taken,
    .replaced (.ofList [("!a", ["ping"])]), .moved 0 (.begun "!a"), .moved 0 (.begun "!c"),
    .moved 0 (.ended "!c" (.ok ()))]

theorem routes_by_one_table_swaps :
    let event : Event := ⟨"ping", "", .notice "[] webhook configured: z"⟩
    let l := ofService openService
    let hs := .called openPing :: swaps
    Event.ofRequest openPing openService.webhookSecret = .ok event ∧
      (l.run hs).sight? .listed = some (.rooms ["!a"]) ∧
      (l.deliveries 0 hs).count ("!c", event.message) = 1 ∧
      (l.deliveries 0 hs).count ("!a", event.message) = 0 := by
  intro event l hs
  have haccepted : Event.ofRequest openPing openService.webhookSecret = .ok event := by decide +kernel
  obtain ⟨hsights, -, hroutes⟩ := routes_by_one_table openService [] swaps openPing event haccepted
  have hroom : (l.run hs).sight? .listed = some (.rooms ["!a"]) := by
    rw [(hsights hs).2]
    decide +kernel
  obtain ⟨result, hresult⟩ : ∃ result, (l.run hs).stage? 0 = some (.answered result) := by
    have hover : ((l.run hs).stage? 0).any (fun stage => stage matches .answered _) = true := by
      decide +kernel
    generalize (l.run hs).stage? 0 = stage at hover
    match stage, hover with
    | some (.answered result), _ => exact ⟨result, rfl⟩
  obtain ⟨-, hnot⟩ | ⟨mid, rest, hsplit, -, -, -, hend⟩ := hroutes
  · exact absurd hresult (hnot result)
  · have hmid : mid = [.moved 0 .decoded, .replaced (.ofList [("!c", ["ping"])])] := by
      simp [swaps, List.cons_eq_append_iff] at hsplit
      exact hsplit.1
    subst hmid
    obtain ⟨hcount, -⟩ := hend result hresult
    refine ⟨haccepted, hroom, (hcount _ _).trans ?_, (hcount _ _).trans ?_⟩
    · decide +kernel
    · decide +kernel

end Live

end ForgeBridge.Service
