import ForgeBridge.Proofs.Entries
import ForgeBridge.Routing
import Mathlib.Data.Finset.Card
import Mathlib.Data.List.Nodup

/-!
# Passes

A pass goes to the rooms whose set holds the type of the event, once to each. As deliveries end, the first
end of each room of the pass is kept (`outcome?_completeAll`); once all have ended, the report puts each room
where its own outcome belongs (`report_eq`).
-/

namespace ForgeBridge

/-! ## The rooms of an event -/

namespace Subscriptions

theorem mem_roomsFor {t : Subscriptions} {room event : String} :
    room ∈ t.roomsFor event ↔ t.isSubscribed room event := by
  simp only [roomsFor, isSubscribed, eventTypes, List.mem_map, List.mem_filter, Prod.exists,
    exists_and_right, exists_eq_right, Keyed.mem_entries, Option.any_eq_true]

theorem nodup_roomsFor (t : Subscriptions) (event : String) : (t.roomsFor event).Nodup :=
  t.rooms.nodup_keys.sublist (List.filter_sublist.map _)

end Subscriptions

namespace Routing.Pass

/-- A pass goes to each room that wants the event once, with its message, and to no other. -/
theorem count_start (table : Subscriptions) (e : Webhook.Event) (room : String) (message : Message) :
    (start table e).attempts.count (room, message) =
      if table.isSubscribed room e.eventType ∧ message = e.message then 1 else 0 := by
  have hnodup : (start table e).attempts.Nodup :=
    (table.nodup_roomsFor _).map fun _ _ h => congrArg Prod.fst h
  have hmem : (room, message) ∈ (start table e).attempts ↔
      table.isSubscribed room e.eventType ∧ message = e.message := by
    rw [attempts, List.mem_map]
    constructor
    · rintro ⟨_, hroom, heq⟩
      cases heq
      exact ⟨Subscriptions.mem_roomsFor.1 hroom, rfl⟩
    · rintro ⟨hroom, rfl⟩
      exact ⟨room, Subscriptions.mem_roomsFor.2 hroom, rfl⟩
  rw [hnodup.count, if_congr hmem rfl rfl]

/-! ## Ends of deliveries -/

section
variable (p : Pass) (ends : List (String × Outcome)) (room other : String) (o : Outcome)

@[simp] theorem rooms_complete : (p.complete room o).rooms = p.rooms := by
  unfold complete
  split <;> rfl

@[simp] theorem message_complete : (p.complete room o).message = p.message := by
  unfold complete
  split <;> rfl

@[simp] theorem rooms_completeAll : (p.completeAll ends).rooms = p.rooms := by
  induction ends generalizing p with
  | nil => rfl
  | cons e ends ih => exact (ih (p.complete e.1 e.2)).trans (rooms_complete ..)

@[simp] theorem message_completeAll : (p.completeAll ends).message = p.message := by
  induction ends generalizing p with
  | nil => rfl
  | cons e ends ih => exact (ih (p.complete e.1 e.2)).trans (message_complete ..)

/-- The end of a delivery tells of its own room alone, and only what was not known. -/
theorem outcome?_complete :
    (p.complete room o).outcome? other =
      (p.outcome? other).or (if other = room ∧ other ∈ p.rooms then some o else none) := by
  by_cases hroom : other = room
  · subst hroom
    unfold complete
    split
    case isTrue h => rw [outcome?, lookup_cons_ite, if_pos rfl, h.2, if_pos ⟨rfl, h.1⟩, Option.none_or]
    case isFalse h =>
      cases hknown : p.outcome? other with
      | some known => rfl
      | none => rw [if_neg fun hmem => h ⟨hmem.2, hknown⟩, Option.none_or]
  · rw [if_neg fun h => hroom h.1, Option.or_none]
    unfold complete
    split
    · rw [outcome?, lookup_cons_ite, if_neg hroom, outcome?]
    · rfl

/-- After any number of ends, what is known of a room of the pass is what was known before, or else its
first end. -/
theorem outcome?_completeAll :
    (p.completeAll ends).outcome? room =
      (p.outcome? room).or (if room ∈ p.rooms then ends.lookup room else none) := by
  induction ends generalizing p with
  | nil => simp [completeAll]
  | cons e ends ih =>
    obtain ⟨other, o⟩ := e
    rw [show p.completeAll ((other, o) :: ends) = (p.complete other o).completeAll ends from rfl, ih,
      outcome?_complete, rooms_complete, Option.or_assoc, lookup_cons_ite]
    congr 1
    by_cases hmem : room ∈ p.rooms
    · simp only [hmem, and_true, if_true]
      split <;> rfl
    · simp [hmem]

end

/-! ## Reports -/

/-- The report of a pass of which all deliveries have ended. -/
theorem report_eq {p : Pass} {f : String → Outcome}
    (h : ∀ room ∈ p.rooms, p.outcome? room = some (f room)) :
    p.report.delivered = p.rooms.filter (fun room => f room = .ok ()) ∧
      p.report.failed = p.rooms.filterMap fun room =>
        match f room with
        | .ok () => none
        | .error e => some (room, e) := by
  constructor
  · refine List.filter_congr fun room hroom => ?_
    rw [h room hroom]
    cases f room <;> simp
  · refine List.filterMap_congr fun room hroom => ?_
    rw [h room hroom]
    cases f room <;> rfl

end Routing.Pass

namespace Routing

open Webhook (Event)

section
variable (deliver : String → Message → Outcome) (table : Subscriptions) (e : Event)

theorem rooms_route : (route deliver table e).value.rooms = table.roomsFor e.eventType :=
  Pass.rooms_completeAll ..

theorem message_route : (route deliver table e).value.message = e.message :=
  Pass.message_completeAll ..

theorem outcome?_route {room : String} (h : room ∈ table.roomsFor e.eventType) :
    (route deliver table e).value.outcome? room = some (deliver room e.message) := by
  simp only [route, Pass.start, Pass.outcome?_completeAll, if_pos h, List.lookup_graph _ h]
  rfl

theorem report_route :
    (route deliver table e).value.report.delivered =
        (table.roomsFor e.eventType).filter (fun room => deliver room e.message = .ok ()) ∧
      (route deliver table e).value.report.failed = (table.roomsFor e.eventType).filterMap fun room =>
        match deliver room e.message with
        | .ok () => none
        | .error error => some (room, error) := by
  rw [← rooms_route deliver table e]
  exact Pass.report_eq fun room h => outcome?_route deliver table e (rooms_route deliver table e ▸ h)

/-- Each room that wants the event is attempted once, with its message; nothing else is attempted. -/
theorem count_attempts (room : String) (message : Message) :
    (route deliver table e).value.attempts.count (room, message) =
      if table.isSubscribed room e.eventType ∧ message = e.message then 1 else 0 := by
  rw [Pass.attempts, rooms_route, message_route]
  exact Pass.count_start table e room message

theorem length_filter_eq_card {l : List String} (h : l.Nodup) (p : String → Prop) [DecidablePred p] :
    (l.filter p).length = (l.toFinset.filter p).card := by
  rw [← List.toFinset_card_of_nodup (h.filter _), List.toFinset_filter]
  simp only [decide_eq_true_eq]

theorem length_delivered :
    (route deliver table e).value.report.delivered.length =
      ((table.roomsFor e.eventType).toFinset.filter fun room => deliver room e.message = .ok ()).card := by
  rw [(report_route deliver table e).1]
  exact length_filter_eq_card (table.nodup_roomsFor _) _

theorem length_failed :
    (route deliver table e).value.report.failed.length =
      ((table.roomsFor e.eventType).toFinset.filter fun room => deliver room e.message ≠ .ok ()).card := by
  rw [(report_route deliver table e).2, List.length_filterMap_eq_countP, List.countP_eq_length_filter]
  refine Eq.trans (congrArg List.length (List.filter_congr fun room _ => ?_))
    (length_filter_eq_card (table.nodup_roomsFor _) _)
  cases deliver room e.message <;> simp

end

end Routing

end ForgeBridge
