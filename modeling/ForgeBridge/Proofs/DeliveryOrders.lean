import ForgeBridge.Proofs.TableSwaps

/-!
# Orders of deliveries

The deliveries of a pass start and end in any order, each with the outcome of its own room (`Schedule`). In every
order the pass comes to its end, with one attempt for each room, and what it reports and logs is what comes of
routing the event at once (`Schedule.steps`). So the report splits the rooms of the event by their own outcomes,
whatever the order and whatever comes of other rooms (`routes_in_any_order`).
-/

namespace ForgeBridge

open Webhook (Event)
open Routing (Pass)

namespace Service

/-- The steps of a pass in some order, given the rooms that wait for their delivery and those to which it is on its
way: each delivery starts once, and ends behind its start with the outcome of its room. -/
inductive Schedule (outcome : String → Outcome) : (waiting running : List String) → List Move → Prop
  | done : Schedule outcome [] [] []
  | begun {waiting running : List String} {room : String} {ms : List Move} (hroom : room ∈ waiting)
      (h : Schedule outcome (waiting.erase room) (room :: running) ms) :
      Schedule outcome waiting running (.begun room :: ms)
  | ended {waiting running : List String} {room : String} {ms : List Move} (hroom : room ∈ running)
      (h : Schedule outcome waiting (running.erase room) ms) :
      Schedule outcome waiting running (.ended room (outcome room) :: ms)

namespace Schedule

variable {outcome : String → Outcome}

/-- Deliveries that are on their way can end in any order. -/
theorem ends {running order : List String} (h : order.Perm running) :
    Schedule outcome [] running (order.map fun room => .ended room (outcome room)) := by
  induction order generalizing running with
  | nil =>
    rw [List.nil_perm.1 h]
    exact .done
  | cons room order ih => exact .ended (h.subset (.head _)) (ih (List.cons_perm_iff_perm_erase.1 h).2)

/-- All deliveries can start before any of them ends. -/
theorem starts {waiting running : List String} {ms : List Move}
    (h : Schedule outcome [] (waiting.reverse ++ running) ms) :
    Schedule outcome waiting running (waiting.map .begun ++ ms) := by
  induction waiting generalizing running with
  | nil => exact h
  | cons room waiting ih =>
    rw [List.reverse_cons, List.append_assoc] at h
    refine .begun (.head _) ?_
    rw [List.erase_cons_head]
    exact ih h

/-- So there is a schedule for each order of the ends. -/
theorem ofOrder {rooms order : List String} (h : order.Perm rooms) :
    Schedule outcome rooms [] (rooms.map .begun ++ order.map fun room => .ended room (outcome room)) := by
  refine starts (ends ?_)
  rw [List.append_nil]
  exact h.trans (List.reverse_perm rooms).symm

end Schedule

/-! ## The steps of a schedule -/

/-- The deliveries that steps of a call attempt. -/
def Stage.attempts (s : Service) (stage : Stage) : List Move → List (String × Message)
  | [] => []
  | m :: ms => (stage.step s m).2.toList ++ Stage.attempts s (stage.step s m).1 ms

/-- How far a pass is: some rooms wait, to some the delivery is on its way, and of the others the outcome is known. -/
structure Stands (outcome : String → Outcome) (pass : Pass) (begun waiting running : List String) : Prop where
  waiting_nodup : waiting.Nodup
  running_nodup : running.Nodup
  mem_waiting : ∀ room, room ∈ waiting ↔ room ∈ pass.rooms ∧ room ∉ begun
  mem_running : ∀ room, room ∈ running ↔ room ∈ begun ∧ pass.outcome? room = none
  known : ∀ room o, pass.outcome? room = some o → o = outcome room

section
variable {outcome : String → Outcome} {table : Subscriptions} {event : Event} {pass : Pass}
  {begun waiting running : List String} {room : String} {ms : List Move}

theorem stands_start (outcome : String → Outcome) (table : Subscriptions) (event : Event) :
    Stands outcome (.start table event) [] (table.roomsFor event.eventType) [] where
  waiting_nodup := table.nodup_roomsFor _
  running_nodup := .nil
  mem_waiting _ := (and_iff_left List.not_mem_nil).symm
  mem_running _ := ⟨nofun, nofun⟩
  known := nofun

/-- Nothing is known of a delivery before it has started. -/
theorem UnderWay.unknown (hu : UnderWay table event pass begun) (hnew : room ∉ begun) :
    pass.outcome? room = none := by
  cases hknown : pass.outcome? room with
  | none => rfl
  | some o => exact absurd (hu.ended room (Option.isSome_of_eq_some hknown)) hnew

theorem Stands.begin (h : Stands outcome pass begun waiting running) (hu : UnderWay table event pass begun)
    (hroom : room ∈ waiting) : Stands outcome pass (room :: begun) (waiting.erase room) (room :: running) := by
  have hnew : room ∉ begun := ((h.mem_waiting room).1 hroom).2
  have hnone := hu.unknown hnew
  refine ⟨h.waiting_nodup.erase room, List.nodup_cons.2 ⟨fun hin => hnew ((h.mem_running room).1 hin).1,
    h.running_nodup⟩, fun other => ?_, fun other => ?_, h.known⟩
  · rw [h.waiting_nodup.mem_erase_iff, h.mem_waiting, List.mem_cons, not_or, and_left_comm]
  · rw [List.mem_cons, List.mem_cons, h.mem_running]
    constructor
    · rintro (rfl | hother)
      · exact ⟨.inl rfl, hnone⟩
      · exact ⟨.inr hother.1, hother.2⟩
    · rintro ⟨rfl | hother, hunknown⟩
      · exact .inl rfl
      · exact .inr ⟨hother, hunknown⟩

theorem Stands.complete (h : Stands outcome pass begun waiting running) (hu : UnderWay table event pass begun)
    (hroom : room ∈ running) :
    Stands outcome (pass.complete room (outcome room)) begun waiting (running.erase room) := by
  obtain ⟨hbegun, hnone⟩ := (h.mem_running room).1 hroom
  have hmem : room ∈ pass.rooms := hu.known room hbegun
  refine ⟨h.waiting_nodup, h.running_nodup.erase room, fun other => ?_, fun other => ?_, fun other o ho => ?_⟩
  · rw [h.mem_waiting, Pass.rooms_complete]
  · rw [h.running_nodup.mem_erase_iff, h.mem_running, Pass.outcome?_complete, Option.or_eq_none_iff]
    by_cases heq : other = room
    · subst heq
      simp [hmem]
    · simp [heq]
  · rw [Pass.outcome?_complete, Option.or_eq_some_iff] at ho
    rcases ho with hbefore | ⟨-, hnow⟩
    · exact h.known other o hbefore
    · split at hnow
      case isTrue hand =>
        obtain ⟨rfl, -⟩ := hand
        exact (Option.some.inj hnow).symm
      case isFalse => cases hnow

/-- A pass of which a delivery is missing is not over. -/
theorem not_done (hroom : room ∈ pass.rooms) (hnone : pass.outcome? room = none) : pass.isDone = false := by
  refine List.all_eq_false.2 ⟨room, hroom, ?_⟩
  rw [hnone]
  exact Bool.false_ne_true

/-- A schedule brings a pass to its end: of each room the outcome is known, and each delivery that had to wait has
been attempted. -/
theorem Schedule.steps (hs : Schedule outcome waiting running ms) (hu : UnderWay table event pass begun)
    (h : Stands outcome pass begun waiting running) (s : Service) :
    (∃ pass', (Stage.ofPass pass begun).steps s ms = .answered (.ok pass') ∧
      pass'.rooms = table.roomsFor event.eventType ∧
      ∀ room ∈ pass'.rooms, pass'.outcome? room = some (outcome room)) ∧
    ((Stage.ofPass pass begun).attempts s ms).Perm (waiting.map (·, event.message)) := by
  induction hs generalizing pass begun with
  | done =>
    have hknown : ∀ room ∈ pass.rooms, pass.outcome? room = some (outcome room) := by
      intro room hroom
      have hbegun : room ∈ begun := by
        by_contra hnot
        exact List.not_mem_nil ((h.mem_waiting room).2 ⟨hroom, hnot⟩)
      cases hend : pass.outcome? room with
      | none => exact absurd ((h.mem_running room).2 ⟨hbegun, hend⟩) List.not_mem_nil
      | some o => rw [h.known room o hend]
    have hdone : pass.isDone = true := List.all_eq_true.2 fun room hroom => by
      rw [hknown room hroom]
      rfl
    exact ⟨⟨pass, ofPass_done hdone, hu.rooms, hknown⟩, .nil⟩
  | @begun waiting running room ms hroom hs ih =>
    obtain ⟨hmem, hnew⟩ := (h.mem_waiting room).1 hroom
    have hdone := not_done hmem (hu.unknown hnew)
    have hstep : (Stage.ofPass pass begun).step s (.begun room) =
        (.ofPass pass (room :: begun), some (room, event.message)) := by
      rw [ofPass_not_done hdone, ofPass_not_done hdone, Stage.step, if_pos ⟨hmem, hnew⟩, hu.message]
    obtain ⟨hend, hattempts⟩ := ih (hu.begin hmem hnew) (h.begin hu hroom)
    rw [Stage.steps, List.foldl_cons, Stage.attempts, hstep]
    refine ⟨hend, (hattempts.cons _).trans ?_⟩
    exact (List.perm_cons_erase hroom).symm.map (·, event.message)
  | @ended waiting running room ms hroom hs ih =>
    obtain ⟨hbegun, hnone⟩ := (h.mem_running room).1 hroom
    have hstep : (Stage.ofPass pass begun).step s (.ended room (outcome room)) =
        (.ofPass (pass.complete room (outcome room)) begun, none) := by
      rw [ofPass_not_done (not_done (hu.known room hbegun) hnone), Stage.step, if_pos hbegun]
    obtain ⟨hend, hattempts⟩ := ih (hu.complete hbegun _) (h.complete hu hroom)
    rw [Stage.steps, List.foldl_cons, Stage.attempts, hstep]
    exact ⟨hend, hattempts⟩

end

end Service

/-! ## What a pass reports and logs -/

namespace Routing

/-- A warning about a room. -/
def WarnsOf (room : String) (event : Log.Event) : Prop :=
  event.level = .warn ∧ ("room_id", Log.Value.text room) ∈ event.fields

instance (room : String) : DecidablePred (WarnsOf room) :=
  fun _ => inferInstanceAs (Decidable (_ ∧ _))

theorem warnsOf_notSent {room other : String} {error : DeliveryError} :
    WarnsOf room (notSent other error) ↔ other = room := by
  simp [WarnsOf, notSent, eq_comm]

/-- Passes with the same rooms and the same outcomes report and log the same. -/
theorem report_congr {p p' : Pass} (hrooms : p.rooms = p'.rooms)
    (h : ∀ room ∈ p.rooms, p.outcome? room = p'.outcome? room) (e : Event) :
    p.report = p'.report ∧ log e p = log e p' := by
  have hreport : p.report = p'.report := by
    simp only [Pass.report, hrooms, Report.mk.injEq]
    rw [hrooms] at h
    refine ⟨List.filter_congr fun room hroom => ?_, List.filterMap_congr fun room hroom => ?_⟩ <;> rw [h room hroom]
  exact ⟨hreport, by rw [log, log, hreport, hrooms]⟩

section
variable (deliver : String → Message → Outcome) (table : Subscriptions) (e : Event)

theorem mem_delivered {room : String} :
    room ∈ (route deliver table e).value.report.delivered ↔
      table.isSubscribed room e.eventType ∧ deliver room e.message = .ok () := by
  rw [(report_route deliver table e).1, List.mem_filter, Subscriptions.mem_roomsFor, decide_eq_true_eq]

theorem mem_failed {room : String} {error : DeliveryError} :
    (room, error) ∈ (route deliver table e).value.report.failed ↔
      table.isSubscribed room e.eventType ∧ deliver room e.message = .error error := by
  rw [(report_route deliver table e).2, List.mem_filterMap, ← Subscriptions.mem_roomsFor]
  constructor
  · rintro ⟨other, hother, hfailed⟩
    cases houtcome : deliver other e.message with
    | ok =>
      rw [houtcome] at hfailed
      cases hfailed
    | error error =>
      rw [houtcome] at hfailed
      cases hfailed
      exact ⟨hother, houtcome⟩
  · rintro ⟨hroom, houtcome⟩
    exact ⟨room, hroom, by rw [houtcome]⟩

/-- The rooms that a delivery failed for. -/
theorem rooms_failed :
    (route deliver table e).value.report.failed.map (·.1) =
      (table.roomsFor e.eventType).filter fun room => ¬deliver room e.message = .ok () := by
  rw [(report_route deliver table e).2, List.map_filterMap, ← List.filterMap_eq_filter]
  refine List.filterMap_congr fun room _ => ?_
  cases houtcome : deliver room e.message <;> simp [Option.guard, houtcome]

/-- The report splits the rooms of the event. -/
theorem perm_report :
    ((route deliver table e).value.report.delivered ++
        (route deliver table e).value.report.failed.map (·.1)).Perm (table.roomsFor e.eventType) := by
  rw [(report_route deliver table e).1, rooms_failed]
  simpa using List.filter_append_perm (fun room => deliver room e.message = .ok ()) (table.roomsFor e.eventType)

/-- There is one warning about each room that a delivery failed for, and none about the others. -/
theorem count_warnings (room : String) :
    (route deliver table e).log.countP (WarnsOf room) =
      if table.isSubscribed room e.eventType ∧ deliver room e.message ≠ .ok () then 1 else 0 := by
  have hsending : ((route deliver table e).value.rooms.map (sending e)).countP (WarnsOf room) = 0 := by
    rw [List.countP_map]
    refine List.countP_eq_zero.2 fun other _ => ?_
    simp [WarnsOf, sending]
  have hmem : room ∈ (table.roomsFor e.eventType).filter (fun room => ¬deliver room e.message = .ok ()) ↔
      table.isSubscribed room e.eventType ∧ deliver room e.message ≠ .ok () := by
    rw [List.mem_filter, Subscriptions.mem_roomsFor, decide_eq_true_eq]
  have hlog : (route deliver table e).log = (route deliver table e).value.rooms.map (sending e) ++
      (route deliver table e).value.report.failed.map fun failure => notSent failure.1 failure.2 := rfl
  calc (route deliver table e).log.countP (WarnsOf room)
      = ((route deliver table e).value.report.failed.map fun failure => notSent failure.1 failure.2).countP
          (WarnsOf room) := by
        rw [hlog, List.countP_append, hsending, Nat.zero_add]
    _ = ((route deliver table e).value.report.failed.map (·.1)).count room := by
        rw [List.countP_map, List.count, List.countP_map]
        refine List.countP_congr fun failure _ => ?_
        simp [warnsOf_notSent]
    _ = _ := by
        rw [rooms_failed, ((table.nodup_roomsFor _).filter _).count, if_congr hmem rfl rfl]

/-- All warnings are about failed deliveries, with their own errors. -/
theorem mem_failed_of_warning {event : Log.Event} (h : event ∈ (route deliver table e).log)
    (hwarn : event.level = .warn) :
    ∃ room error, (room, error) ∈ (route deliver table e).value.report.failed ∧ event = notSent room error := by
  rcases List.mem_append.1 h with hsent | hfailed
  · obtain ⟨room, -, rfl⟩ := List.mem_map.1 hsent
    cases hwarn
  · obtain ⟨⟨room, error⟩, hmem, rfl⟩ := List.mem_map.1 hfailed
    exact ⟨room, error, hmem, rfl⟩

end

end Routing

/-! ## Whatever the order -/

namespace Service

/-- A decoded event takes the table of rooms and is delivered in any order. It comes to its end, with the report and
the log of an event that is routed at once. Each room that wants the event has then been attempted once, with its
message, and nothing else. The report splits these rooms: a room is in one of its two lists, once, and among the
failed ones, with its own error, if and only if its own delivery failed. There is one warning about each failed room,
and none about others. Another run of the event, with other outcomes in another order, reports the same of all rooms
whose own outcome is the same. -/
theorem routes_in_any_order (s : Service) (e : Event) (deliver : String → Message → Outcome) (ms : List Move)
    (h : Schedule (fun room => deliver room e.message) (s.subscriptions.roomsFor e.eventType) [] ms) :
    let wants (room : String) : Bool := s.subscriptions.isSubscribed room e.eventType
    let outcome (room : String) : Outcome := deliver room e.message
    let attempts := (Stage.decoded e).attempts s (.taken :: ms)
    ∃ pass, (Stage.decoded e).steps s (.taken :: ms) = .answered (.ok pass) ∧
      pass.report = (Routing.route deliver s.subscriptions e).value.report ∧
      Routing.log e pass = (Routing.route deliver s.subscriptions e).log ∧
      (∀ room message, attempts.count (room, message) = if wants room ∧ message = e.message then 1 else 0) ∧
      (pass.report.delivered ++ pass.report.failed.map (·.1)).Nodup ∧
      (pass.report.delivered ++ pass.report.failed.map (·.1)).Perm (attempts.map (·.1)) ∧
      pass.report.attempted = attempts.length ∧
      (∀ room, room ∈ pass.report.delivered ↔ wants room ∧ outcome room = .ok ()) ∧
      (∀ room error, (room, error) ∈ pass.report.failed ↔ wants room ∧ outcome room = .error error) ∧
      (∀ room, (Routing.log e pass).countP (Routing.WarnsOf room) =
        if wants room ∧ outcome room ≠ .ok () then 1 else 0) ∧
      (∀ event ∈ Routing.log e pass, event.level = .warn →
        ∃ room error, (room, error) ∈ pass.report.failed ∧ event = Routing.notSent room error) ∧
      ∀ (deliver' : String → Message → Outcome) (ms' : List Move),
        Schedule (fun room => deliver' room e.message) (s.subscriptions.roomsFor e.eventType) [] ms' →
        ∃ pass', (Stage.decoded e).steps s (.taken :: ms') = .answered (.ok pass') ∧
          ∀ room, deliver' room e.message = outcome room →
            (room ∈ pass'.report.delivered ↔ room ∈ pass.report.delivered) ∧
            ∀ error, (room, error) ∈ pass'.report.failed ↔ (room, error) ∈ pass.report.failed := by
  intro wants outcome attempts
  -- what any schedule comes to
  have hroute (d : String → Message → Outcome) (ms : List Move)
      (hs : Schedule (fun room => d room e.message) (s.subscriptions.roomsFor e.eventType) [] ms) :
      (∃ pass, (Stage.decoded e).steps s (.taken :: ms) = .answered (.ok pass) ∧
        pass.report = (Routing.route d s.subscriptions e).value.report ∧
        Routing.log e pass = (Routing.route d s.subscriptions e).log) ∧
      ((Stage.decoded e).attempts s (.taken :: ms)).Perm (Pass.start s.subscriptions e).attempts := by
    obtain ⟨⟨pass, hend, hrooms, hknown⟩, hattempts⟩ :=
      hs.steps (underWay_start s.subscriptions e) (stands_start _ _ _) s
    have hsame := hrooms.trans (Routing.rooms_route d s.subscriptions e).symm
    have hreports := Routing.report_congr hsame (fun room hroom => by
      rw [hknown room hroom, Routing.outcome?_route d _ e (hrooms ▸ hroom)]) e
    exact ⟨⟨pass, hend, hreports.1, hreports.2⟩, hattempts⟩
  obtain ⟨⟨pass, hend, hreport, hlog⟩, hattempts⟩ := hroute deliver ms h
  have hperm : (pass.report.delivered ++ pass.report.failed.map (·.1)).Perm (attempts.map (·.1)) := by
    have hrooms : (Pass.start s.subscriptions e).attempts.map (·.1) = s.subscriptions.roomsFor e.eventType := by
      simp [Pass.attempts, Pass.start, Function.comp_def]
    have hsplit := Routing.perm_report deliver s.subscriptions e
    rw [← hrooms, ← hreport] at hsplit
    exact hsplit.trans (hattempts.map _).symm
  refine ⟨pass, hend, hreport, hlog, fun room message => ?_, ?_, hperm, ?_, fun room => ?_, fun room error => ?_,
    fun room => ?_, fun event hevent hwarn => ?_, fun deliver' ms' hs' => ?_⟩
  · rw [← Pass.count_start]
    exact hattempts.count_eq _
  · rw [hreport]
    exact (Routing.perm_report deliver s.subscriptions e).nodup_iff.2 (s.subscriptions.nodup_roomsFor _)
  · have hlength := hperm.length_eq
    rwa [List.length_append, List.length_map, List.length_map] at hlength
  · rw [hreport, Routing.mem_delivered]
  · rw [hreport, Routing.mem_failed]
  · rw [hlog, Routing.count_warnings]
  · rw [hreport]
    exact Routing.mem_failed_of_warning deliver _ e (hlog ▸ hevent) hwarn
  · obtain ⟨⟨pass', hend', hreport', -⟩, -⟩ := hroute deliver' ms' hs'
    refine ⟨pass', hend', fun room hsame => ⟨?_, fun error => ?_⟩⟩
    · rw [hreport', hreport, Routing.mem_delivered, Routing.mem_delivered, hsame]
    · rw [hreport', hreport, Routing.mem_failed, Routing.mem_failed, hsame]

/-- Three rooms want pings, and one of them cannot be reached. The deliveries overlap. -/
theorem routes_in_any_order_overlapping :
    let s : Service := { Live.openService with
      subscriptions := .ofList [("!a", ["ping"]), ("!b", ["ping", "push"]), ("!c", ["ping"]), ("!d", ["push"])] }
    let e : Event := ⟨"ping", "", .notice "hello"⟩
    let deliver (room : String) (_ : Message) : Outcome := if room = "!b" then .error (.other "down") else .ok ()
    let ms : List Move := ["!a", "!b", "!c"].map .begun ++
      ["!c", "!b", "!a"].map fun room => .ended room (deliver room e.message)
    Schedule (fun room => deliver room e.message) (s.subscriptions.roomsFor e.eventType) [] ms ∧
      ∃ pass, (Stage.decoded e).steps s (.taken :: ms) = .answered (.ok pass) ∧
        pass.report.attempted = 3 ∧ ("!b", .other "down") ∈ pass.report.failed ∧ "!c" ∈ pass.report.delivered := by
  intro s e deliver ms
  have hrooms : s.subscriptions.roomsFor e.eventType = ["!a", "!b", "!c"] := by decide +kernel
  have hs : Schedule (fun room => deliver room e.message) (s.subscriptions.roomsFor e.eventType) [] ms := by
    rw [hrooms]
    exact .ofOrder (by decide)
  obtain ⟨pass, hend, -, -, -, -, -, hcount, hdelivered, hfailed, -⟩ := routes_in_any_order s e deliver ms hs
  refine ⟨hs, pass, hend, hcount.trans ?_, (hfailed _ _).2 ⟨?_, rfl⟩, (hdelivered _).2 ⟨?_, rfl⟩⟩ <;> decide +kernel

end Service

end ForgeBridge
