import ForgeBridge.Proofs.Passes
import Mathlib.Data.Set.Card
import Mathlib.Data.List.Induction

/-!
# Changes of a table

A table of subscriptions stands for a map from rooms to sets of types, where some rooms may have no set
(`roomSets`). Each change of the table changes that map at one room (`roomSets_change`), and all that can be asked of
a table is told by its map. So the table that a row of changes leads to is the one whose map they lead to
(`changeAll_agrees`).
-/

namespace ForgeBridge

/-! ## Sets of names -/

namespace Names

/-- The names that a set holds. -/
def toSet (s : Names) : Set String := {name | s.contains name}

theorem mem_toSet {s : Names} {name : String} : name ∈ s.toSet ↔ s.contains name := .rfl

@[simp] theorem toSet_empty : toSet Keyed.empty = ∅ := Set.eq_empty_of_forall_notMem fun _ => Bool.false_ne_true

@[simp] theorem toSet_insert (s : Names) (name : String) :
    toSet (Keyed.insert s name ()) = insert name s.toSet := by
  ext other
  by_cases h : name = other
  · simp [mem_toSet, contains, h]
  · simp [mem_toSet, contains, h, Ne.symm h]

@[simp] theorem toSet_erase (s : Names) (name : String) : toSet (Keyed.erase s name) = s.toSet \ {name} := by
  ext other
  by_cases h : name = other
  · simp [mem_toSet, contains, h]
  · simp [mem_toSet, contains, h, Ne.symm h]

@[simp] theorem toSet_ofList (names : List String) : (ofList names).toSet = {name | name ∈ names} := by
  have hfold (s : Names) :
      toSet ((names.map (·, ())).foldl (fun m e => Keyed.insert m e.1 e.2) s) = {name | name ∈ names} ∪ s.toSet := by
    induction names generalizing s with
    | nil => simp
    | cons name names ih =>
      rw [List.map_cons, List.foldl_cons, ih, toSet_insert]
      ext other
      simp [or_assoc]
  rw [ofList, Keyed.ofList, hfold, toSet_empty, Set.union_empty]

/-- Sets with the same names are equal. -/
theorem toSet_inj {s t : Names} : s.toSet = t.toSet ↔ s = t := by
  refine ⟨fun h => Keyed.ext fun name => ?_, fun h => h ▸ rfl⟩
  have hname : (Keyed.get? s name).isSome ↔ (Keyed.get? t name).isSome := Set.ext_iff.1 h name
  cases hs : Keyed.get? s name <;> cases ht : Keyed.get? t name <;> simp_all

end Names

namespace Subscriptions

/-! ## Changes -/

inductive Change where
  | setRoom (room : String) (events : List String)
  | removeRoom (room : String)
  | subscribe (room event : String)
  | unsubscribe (room event : String)

/-- The room that a change is about. -/
def Change.room : Change → String
  | .setRoom room _ | .removeRoom room | .subscribe room _ | .unsubscribe room _ => room

/-- A table with a change made. -/
def change (t : Subscriptions) : Change → Subscriptions
  | .setRoom room events => t.setRoom room events
  | .removeRoom room => t.removeRoom room
  | .subscribe room event => t.subscribe room event
  | .unsubscribe room event => t.unsubscribe room event

/-- A table with some changes made, one after the other. -/
def changeAll (t : Subscriptions) (cs : List Change) : Subscriptions := cs.foldl change t

theorem changeAll_concat (t : Subscriptions) (cs : List Change) (c : Change) :
    t.changeAll (cs ++ [c]) = (t.changeAll cs).change c := by
  rw [changeAll, List.foldl_append]
  rfl

/-! ## The map of a table -/

/-- For each room the types it wants, if the room is known. -/
abbrev RoomSets := String → Option (Set String)

/-- The map that a table stands for. -/
def roomSets (t : Subscriptions) : RoomSets := fun room => (t.eventTypes room).map Names.toSet

/-- What a change makes of what its room wants, if the room is known. -/
def Change.onTypes (wanted : Option (Set String)) : Change → Option (Set String)
  | .setRoom _ events => some {event | event ∈ events}
  | .removeRoom _ => none
  | .subscribe _ event => some (insert event (wanted.getD ∅))
  | .unsubscribe _ event => wanted.map (· \ {event})

/-- A map with a change made. -/
def Change.apply (m : RoomSets) (c : Change) : RoomSets := Function.update m c.room (c.onTypes (m c.room))

/-- A map with some changes made, one after the other. -/
def Change.applyAll (m : RoomSets) (cs : List Change) : RoomSets := cs.foldl Change.apply m

theorem roomSets_insert (t : Subscriptions) (room : String) (names : Names) :
    roomSets ⟨t.rooms.insert room names⟩ = Function.update t.roomSets room (some names.toSet) := by
  funext other
  by_cases h : other = room
  · simp [roomSets, eventTypes, h]
  · simp [roomSets, eventTypes, h, Ne.symm h]

theorem roomSets_erase (t : Subscriptions) (room : String) :
    roomSets ⟨t.rooms.erase room⟩ = Function.update t.roomSets room none := by
  funext other
  by_cases h : other = room
  · simp [roomSets, eventTypes, h]
  · simp [roomSets, eventTypes, h, Ne.symm h]

/-- A change of a table is that change of its map. -/
theorem roomSets_change (t : Subscriptions) (c : Change) : (t.change c).roomSets = c.apply t.roomSets := by
  cases c with
  | setRoom room events => exact (roomSets_insert ..).trans (by rw [Names.toSet_ofList]; rfl)
  | removeRoom room => exact roomSets_erase ..
  | subscribe room event =>
    refine (roomSets_insert ..).trans ?_
    rw [Names.toSet_insert, Change.apply, Change.room, Change.onTypes, roomSets, eventTypes]
    cases t.rooms.get? room <;> simp
  | unsubscribe room event =>
    rw [change, unsubscribe, Change.apply, Change.room, Change.onTypes, roomSets, eventTypes]
    cases h : t.rooms.get? room with
    | none =>
      refine (Function.update_eq_self_iff.2 ?_).symm
      simp [roomSets, eventTypes, h]
    | some names =>
      refine (roomSets_insert ..).trans ?_
      rw [Names.toSet_erase]
      rfl

theorem roomSets_changeAll (t : Subscriptions) (cs : List Change) :
    (t.changeAll cs).roomSets = Change.applyAll t.roomSets cs := by
  induction cs generalizing t with
  | nil => rfl
  | cons c cs ih => exact (ih (t.change c)).trans (congrArg (Change.applyAll · cs) (roomSets_change t c))

/-- Tables from which all rooms want the same are equal. -/
theorem ext_eventTypes {t t' : Subscriptions} (h : ∀ room, t.eventTypes room = t'.eventTypes room) : t = t' := by
  cases t
  cases t'
  exact congrArg Subscriptions.mk (Keyed.ext h)

/-- Tables with the same map are equal. -/
theorem roomSets_inj {t u : Subscriptions} : t.roomSets = u.roomSets ↔ t = u := by
  refine ⟨fun h => ext_eventTypes fun room => ?_, fun h => h ▸ rfl⟩
  exact Option.map_injective (fun _ _ => Names.toSet_inj.1) (congrFun h room)

/-! ## What can be asked of a table -/

section
variable {t : Subscriptions} {room event : String}

theorem isSubscribed_iff : t.isSubscribed room event ↔ ∃ types, t.roomSets room = some types ∧ event ∈ types := by
  rw [isSubscribed, roomSets]
  cases t.eventTypes room <;> simp [Names.mem_toSet]

theorem mem_roomIds : room ∈ t.roomIds ↔ (t.roomSets room).isSome := by
  rw [roomIds, Keyed.mem_keys, roomSets, eventTypes, Option.isSome_map]

theorem nodup_roomIds (t : Subscriptions) : t.roomIds.Nodup := t.rooms.nodup_keys

theorem encard_known (t : Subscriptions) : {room | (t.roomSets room).isSome}.encard = t.size := by
  have hrooms : {room | (t.roomSets room).isSome} = (t.roomIds.toFinset : Set String) := by
    ext room
    rw [Finset.mem_coe, List.mem_toFinset, mem_roomIds, Set.mem_ofPred_eq]
  rw [hrooms, Set.encard_coe_eq_coe_finsetCard, List.toFinset_card_of_nodup t.nodup_roomIds, roomIds, Keyed.keys,
    List.length_map, size, Keyed.size]

/-- A room that is not known wants nothing of an event. -/
theorem roomsFor_removeRoom (t : Subscriptions) (room event : String) :
    (t.removeRoom room).roomsFor event = (t.roomsFor event).filter (· ≠ room) := by
  simp only [roomsFor, removeRoom, Keyed.erase, List.filter_map, List.filter_filter, Function.comp_def, Bool.and_comm]

end

/-! ## Rows of changes -/

/-- What a change says of a room and a type, if it concerns them. -/
def Change.verdict? (c : Change) (room event : String) : Option Bool :=
  match c with
  | .setRoom r events => if r = room then some (decide (event ∈ events)) else none
  | .removeRoom r => if r = room then some false else none
  | .subscribe r e => if r = room ∧ e = event then some true else none
  | .unsubscribe r e => if r = room ∧ e = event then some false else none

theorem isSubscribed_change (t : Subscriptions) (c : Change) (room event : String) :
    (t.change c).isSubscribed room event = (c.verdict? room event).getD (t.isSubscribed room event) := by
  rw [Bool.eq_iff_iff, isSubscribed_iff, roomSets_change, Change.apply, Function.update_apply]
  by_cases hroom : room = c.room
  · subst hroom
    rw [if_pos rfl]
    cases c with
    | setRoom r events => simp [Change.onTypes, Change.verdict?, Change.room]
    | removeRoom r => simp [Change.onTypes, Change.verdict?, Change.room]
    | subscribe r e =>
      by_cases he : e = event
      · simp [Change.onTypes, Change.verdict?, Change.room, he]
      · cases hr : t.roomSets r <;>
          simp [Change.onTypes, Change.verdict?, Change.room, he, Ne.symm he, isSubscribed_iff, hr]
    | unsubscribe r e =>
      by_cases he : e = event
      · simp [Change.onTypes, Change.verdict?, Change.room, he]
      · simp [Change.onTypes, Change.verdict?, Change.room, he, Ne.symm he, isSubscribed_iff]
  · have hnone : c.verdict? room event = none := by
      cases c <;> simp_all [Change.verdict?, Change.room, eq_comm]
    rw [if_neg hroom, hnone, Option.getD_none, isSubscribed_iff]

/-- The last change that concerns a room and a type decides. -/
theorem isSubscribed_changeAll (t : Subscriptions) (cs : List Change) (room event : String) :
    (t.changeAll cs).isSubscribed room event =
      (cs.reverse.findSome? (·.verdict? room event)).getD (t.isSubscribed room event) := by
  induction cs using List.reverseRecOn with
  | nil => rfl
  | append_singleton cs c ih =>
    rw [changeAll_concat, isSubscribed_change, ih, List.reverse_append, List.reverse_singleton,
      List.singleton_append, List.findSome?_cons]
    cases c.verdict? room event <;> rfl

/-- Changes of different rooms can be made in any order. -/
theorem change_comm (t : Subscriptions) {c d : Change} (h : c.room ≠ d.room) :
    (t.change c).change d = (t.change d).change c := by
  rw [← roomSets_inj]
  simp only [roomSets_change, Change.apply, Function.update_of_ne h, Function.update_of_ne h.symm]
  exact Function.update_comm h _ _ _

/-- Rooms that want nothing can be removed, as far as events are concerned. -/
theorem roomsFor_removeRooms {t : Subscriptions} {idle : List String} (h : ∀ room ∈ idle, t.roomSets room = some ∅)
    (event : String) : (t.changeAll (idle.map .removeRoom)).roomsFor event = t.roomsFor event := by
  have hsame (rooms : List String) : (t.changeAll (rooms.map .removeRoom)).roomsFor event =
      (t.roomsFor event).filter (· ∉ rooms) := by
    induction rooms using List.reverseRecOn with
    | nil => simp [changeAll]
    | append_singleton rooms room ih =>
      rw [List.map_append, List.map_singleton, changeAll_concat, change, roomsFor_removeRoom, ih,
        List.filter_filter]
      refine List.filter_congr fun other _ => ?_
      simp [and_comm]
  rw [hsame, List.filter_eq_self]
  intro room hroom
  rw [mem_roomsFor, isSubscribed_iff] at hroom
  obtain ⟨types, htypes, hevent⟩ := hroom
  refine decide_eq_true fun hidle => ?_
  rw [h room hidle] at htypes
  cases htypes
  exact hevent

/-- A row of changes leads to the table of the map that they lead to. Whether a room wants a type is decided by the
last change that concerns them. Every question to the table is answered by the map, and no answer lists a room twice.
A room whose last type is taken away stays known, and a room that is not known stays so. Two tables, in whatever way
they came about, are equal if and only if their maps are. Changes of different rooms can be made in any order, and
rooms that want nothing can be removed, as far as events are concerned. -/
theorem changeAll_agrees (t : Subscriptions) (cs : List Change) :
    let after := t.changeAll cs
    let sets := Change.applyAll t.roomSets cs
    (∀ room, (after.eventTypes room).map Names.toSet = sets room) ∧
      (∀ room event, after.isSubscribed room event =
        (cs.reverse.findSome? (·.verdict? room event)).getD (t.isSubscribed room event)) ∧
      (∀ room event, after.isSubscribed room event ↔ ∃ types, sets room = some types ∧ event ∈ types) ∧
      (∀ event, (after.roomsFor event).Nodup ∧
        ∀ room, room ∈ after.roomsFor event ↔ ∃ types, sets room = some types ∧ event ∈ types) ∧
      (after.roomIds.Nodup ∧ ∀ room, room ∈ after.roomIds ↔ sets room ≠ none) ∧
      after.size = {room | sets room ≠ none}.encard ∧
      (∀ room event, sets room = some {event} →
        (after.unsubscribe room event).eventTypes room = some Keyed.empty) ∧
      (∀ room, sets room = none →
        after.removeRoom room = after ∧ ∀ event, after.unsubscribe room event = after) ∧
      (∀ (u : Subscriptions) (ds : List Change), after = u.changeAll ds ↔ sets = Change.applyAll u.roomSets ds) ∧
      (∀ c d : Change, c.room ≠ d.room → (after.change c).change d = (after.change d).change c) ∧
      ∀ idle : List String, (∀ room ∈ idle, sets room = some ∅) →
        ∀ event, (after.changeAll (idle.map .removeRoom)).roomsFor event = after.roomsFor event := by
  intro after sets
  have hsets : after.roomSets = sets := roomSets_changeAll t cs
  rw [← hsets]
  refine ⟨fun _ => rfl, isSubscribed_changeAll t cs, fun room event => isSubscribed_iff,
    fun event => ⟨after.nodup_roomsFor event, fun room => mem_roomsFor.trans isSubscribed_iff⟩,
    ⟨after.nodup_roomIds, fun room => mem_roomIds.trans Option.isSome_iff_ne_none⟩, ?_, fun room event hlast => ?_,
    fun room hnone => ⟨?_, fun event => ?_⟩, fun u ds => ?_, fun c d => change_comm after,
    fun idle hidle => roomsFor_removeRooms hidle⟩
  · simp only [← Option.isSome_iff_ne_none]
    exact (encard_known after).symm
  · have hroom := congrFun (roomSets_change after (.unsubscribe room event)) room
    rw [Change.apply, Change.room, Function.update_self, Change.onTypes, hlast, Option.map_some, Set.sdiff_self,
      ← Names.toSet_empty] at hroom
    exact Option.map_injective (fun _ _ => Names.toSet_inj.1) hroom
  · refine roomSets_inj.1 ((roomSets_change after (.removeRoom room)).trans ?_)
    exact Function.update_eq_self_iff.2 hnone.symm
  · refine roomSets_inj.1 ((roomSets_change after (.unsubscribe room event)).trans ?_)
    refine Function.update_eq_self_iff.2 ?_
    rw [Change.onTypes, Change.room, hnone]
    rfl
  · rw [← roomSets_inj, roomSets_changeAll t, roomSets_changeAll u]

/-- A room is emptied type by type and stays known, and another one is removed and comes back. -/
theorem changeAll_agrees_emptied :
    let t := ofList [("!a", ["push", "ping"]), ("!b", ["push"])]
    let after := t.changeAll [.unsubscribe "!a" "push", .removeRoom "!b", .unsubscribe "!c" "push",
      .subscribe "!b" "ping"]
    after.roomsFor "ping" = ["!a", "!b"] ∧ "!c" ∉ after.roomIds ∧
      (after.unsubscribe "!a" "ping").eventTypes "!a" = some Keyed.empty ∧ after.unsubscribe "!c" "push" = after ∧
      (after.change (.removeRoom "!a")).change (.subscribe "!b" "push") =
        (after.change (.subscribe "!b" "push")).change (.removeRoom "!a") := by
  intro t after
  obtain ⟨htypes, -, -, -, ⟨-, hknown⟩, -, hlast, hnone, -, hcomm, -⟩ := changeAll_agrees t
    [.unsubscribe "!a" "push", .removeRoom "!b", .unsubscribe "!c" "push", .subscribe "!b" "ping"]
  have habsent : after.eventTypes "!c" = none := by decide +kernel
  have hping : after.eventTypes "!a" = some (Keyed.insert Keyed.empty "ping" ()) := by decide +kernel
  have hc := (htypes "!c").symm.trans (congrArg (Option.map Names.toSet) habsent)
  refine ⟨by decide +kernel, fun hmem => (hknown "!c").1 hmem hc, hlast _ _ ?_, (hnone _ hc).2 _,
    hcomm _ _ (by decide)⟩
  rw [← htypes]
  exact (congrArg (Option.map Names.toSet) hping).trans (by simp)

end Subscriptions

end ForgeBridge
