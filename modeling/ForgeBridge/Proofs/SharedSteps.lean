import ForgeBridge.Service.Shared
import Mathlib.Data.List.Nodup

/-!
# Steps on a shared registry

What the next step of a call can be is listed once (`moves`), and everything about runs follows from it. A
registration that is making its service holds the lock of its id alone, so the id stays free until the service
is taken in (`Sound`). The factories and the spreading of the ids never change (`frame_run`).
-/

namespace ForgeBridge

namespace Registry

/-- The shard that must not be locked when a call does its next step. -/
def Stage.needs (sharding : Sharding) : Stage → Option Nat
  | .asked (.register c) => some (sharding.shardOf c.id)
  | .asked (.deregister id) => some (sharding.shardOf id)
  | .asked (.get id) => some (sharding.shardOf id)
  | .visiting _ shard _ => some shard
  | _ => none

namespace Shared

/-! ## Steps of calls -/

section
variable {s : Shared} {call i shard : Nat}

/-- A call that gets to another stage leaves the others where they are. -/
theorem stage?_advance {old : Stage} (hold : s.stage? call = some old) (stage : Stage) (i : Nat) :
    (s.advance call stage).stage? i = if i = call then some stage else s.stage? i := by
  obtain ⟨hlt, -⟩ := List.getElem?_eq_some_iff.1 hold
  split
  · rename_i heq
    subst heq
    exact List.getElem?_set_self hlt
  · rename_i hne
    exact List.getElem?_set_ne (Ne.symm hne)

/-- A new call has the next number. -/
theorem stage?_called (s : Shared) (op : Operation) (i : Nat) :
    (s.next (.called op)).stage? i = if i = s.calls.length then some (.asked op) else s.stage? i := by
  change (s.calls ++ [Stage.asked op])[i]? = _
  rw [List.getElem?_append]
  split
  · rename_i hlt
    rw [if_neg (Nat.ne_of_lt hlt)]
    rfl
  · rename_i hge
    by_cases heq : i = s.calls.length
    · simp [heq]
    · have hpast : 1 ≤ i - s.calls.length := by omega
      have hnone : s.calls.length ≤ i := Nat.le_of_not_lt hge
      rw [if_neg heq, List.getElem?_eq_none hpast, stage?, List.getElem?_eq_none hnone]

/-- A lock is held by a call that makes a service. -/
theorem isHeld_eq_false : s.isHeld shard = false ↔
    ∀ i c factory, s.stage? i = some (.making c factory) → s.sharding.shardOf c.id ≠ shard := by
  constructor
  · intro h i c factory hi heq
    exact List.any_eq_false.1 h _ (List.mem_of_getElem? hi) (decide_eq_true heq)
  · intro h
    refine List.any_eq_false.2 fun stage hmem hholds => ?_
    obtain ⟨i, hi⟩ := List.mem_iff_getElem?.1 hmem
    cases stage with
    | making c factory => exact h i c factory hi (of_decide_eq_true hholds)
    | _ => cases hholds

/-- What the next step of a call can be, with the answer that it gives and what is logged. -/
inductive Moves (s : Shared) (call : Nat) : Shared → Option Answer → List Log.Event → Prop
  /-- There is no such call, or it is over. -/
  | ended (ended : ∀ stage, s.stage? call = some stage → ∃ a, stage = .answered a) : Moves s call s none []
  /-- It waits for a lock. -/
  | waits (stage : Stage) (shard : Nat) (waiting : s.stage? call = some stage)
    (needs : stage.needs s.sharding = some shard) (held : s.isHeld shard = true) : Moves s call s none []
  /-- A registration is refused. -/
  | refused (c : ServiceConfig) (e : BridgeError) (asked : s.stage? call = some (.asked (.register c)))
    (why : (s.factories.get? c.type = none ∧ e = .unknownServiceType c.type) ∨
      ∃ f i, s.factories.get? c.type = some f ∧ s.services.get? c.id = some i ∧
        e = .duplicateService c.id) :
    Moves s call (s.advance call (.answered (.registered c (.error e)))) (some (.registered c (.error e))) []
  /-- A registration gets the lock of its id. -/
  | entered (c : ServiceConfig) (f : Nat → Factory) (asked : s.stage? call = some (.asked (.register c)))
    (known : s.factories.get? c.type = some f) (idle : s.isBusy c.id = false)
    (free : s.services.get? c.id = none) : Moves s call (s.advance call (.making c (f call))) none []
  /-- A service cannot be made. -/
  | failed (c : ServiceConfig) (factory : Factory) (e : BridgeError)
    (making : s.stage? call = some (.making c factory)) (fails : (factory c).value = .error e) :
    Moves s call (s.advance call (.answered (.registered c (.error e)))) (some (.registered c (.error e)))
      (factory c).log
  /-- A service is made and taken in. -/
  | made (c : ServiceConfig) (factory : Factory) (service : Service)
    (making : s.stage? call = some (.making c factory)) (makes : (factory c).value = .ok service) :
    Moves s call
      ({ s with services := s.services.insert c.id ⟨service, call⟩ }.advance call
        (.answered (.registered c (.ok ⟨service, call⟩))))
      (some (.registered c (.ok ⟨service, call⟩)))
      ((factory c).log ++ [⟨.service, .info, "Registered service",
        [("service_id", .text c.id), ("service_type", .text c.type),
          ("rooms", .number service.roomIds.length)]⟩])
  /-- There is no service to be taken out. -/
  | missed (id : String) (asked : s.stage? call = some (.asked (.deregister id)))
    (free : s.services.get? id = none) :
    Moves s call (s.advance call (.answered (.deregistered id none))) (some (.deregistered id none)) []
  /-- A service is taken out. -/
  | removed (id : String) (i : Instance) (asked : s.stage? call = some (.asked (.deregister id)))
    (live : s.services.get? id = some i) :
    Moves s call
      ({ s with services := s.services.erase id }.advance call (.answered (.deregistered id (some i))))
      (some (.deregistered id (some i)))
      [⟨.service, .info, "Deregistered service", [("service_id", .text id)]⟩]
  /-- A service is looked up. -/
  | looked (id : String) (asked : s.stage? call = some (.asked (.get id))) :
    Moves s call (s.advance call (.answered (.got id (s.services.get? id))))
      (some (.got id (s.services.get? id))) []
  /-- The shards are about to be gone through. -/
  | started (counts : Bool)
    (asked : s.stage? call = some (.asked (if counts then .size else .serviceIds))) :
    Moves s call (s.advance call (.visiting counts 0 [])) none []
  /-- The ids in a shard are seen. -/
  | visited (counts : Bool) (shard : Nat) (seen : List String)
    (visiting : s.stage? call = some (.visiting counts shard seen)) (lt : shard < s.sharding.count) :
    Moves s call (s.advance call (.visiting counts (shard + 1) (seen ++ s.idsIn shard))) none []
  /-- All ids have been seen. -/
  | listed (shard : Nat) (ids : List String) (visiting : s.stage? call = some (.visiting false shard ids)) :
    Moves s call (s.advance call (.answered (.listed ids))) (some (.listed ids)) []
  /-- All ids have been seen, and only their number was asked for. -/
  | counted (shard : Nat) (ids : List String) (visiting : s.stage? call = some (.visiting true shard ids)) :
    Moves s call (s.advance call (.answered (.counted ids.length))) (some (.counted ids.length)) []

theorem moves (s : Shared) (call : Nat) :
    s.Moves call (s.next (.moved call)) (s.answer? (.moved call)) (s.step (.moved call)).log := by
  simp only [next, answer?, step, move]
  cases hstage : s.stage? call with
  | none => exact .ended (by simp [hstage])
  | some stage =>
    cases stage with
    | asked op =>
      cases op with
      | register c =>
        simp only [enter, Logged.value_pure, Logged.log_pure]
        split
        · rename_i hnone
          exact .refused c _ hstage (.inl ⟨hnone, rfl⟩)
        · rename_i f hf
          split
          · rename_i hheld
            exact .waits _ _ hstage rfl hheld
          · rename_i hidle
            split
            · rename_i i hi
              exact .refused c _ hstage (.inr ⟨f, i, hf, hi, rfl⟩)
            · rename_i hfree
              exact .entered c f hstage hf (Bool.eq_false_iff.2 hidle) hfree
      | deregister id =>
        simp only [remove]
        split
        · rename_i hheld
          exact .waits _ _ hstage rfl hheld
        · split
          · rename_i hfree
            exact .missed id hstage hfree
          · rename_i i hi
            exact .removed id i hstage hi
      | get id =>
        simp only [look, Logged.value_pure, Logged.log_pure]
        split
        · rename_i hheld
          exact .waits _ _ hstage rfl hheld
        · exact .looked id hstage
      | serviceIds => exact .started false hstage
      | size => exact .started true hstage
    | making c factory =>
      simp only [make, Logged.value_bind, Logged.log_bind]
      split
      · rename_i e he
        rw [Logged.log_pure, List.append_nil]
        exact .failed c factory e hstage he
      · rename_i service hmade
        exact .made c factory service hstage hmade
    | visiting counts shard seen =>
      simp only [visit, Logged.value_pure, Logged.log_pure]
      split
      · rename_i hlt
        split
        · rename_i hheld
          exact .waits _ _ hstage rfl hheld
        · exact .visited counts shard seen hstage hlt
      · cases counts with
        | false => exact .listed shard seen hstage
        | true => exact .counted shard seen hstage
    | answered a => exact .ended (by simp [hstage])

theorem moves_of_answer {a : Answer} (ha : s.answer? (.moved call) = some a) :
    s.Moves call (s.next (.moved call)) (some a) (s.step (.moved call)).log := ha ▸ s.moves call

/-- A call touches no other. -/
theorem stage?_other (hne : i ≠ call) : (s.next (.moved call)).stage? i = s.stage? i := by
  have hadvance (stage : Stage) : (s.calls.set call stage)[i]? = s.calls[i]? :=
    List.getElem?_set_ne (Ne.symm hne)
  have hm := s.moves call
  generalize s.next (.moved call) = s', s.answer? (.moved call) = a, (s.step (.moved call)).log = log at hm
  cases hm with
  | ended => rfl
  | waits => rfl
  | _ => exact hadvance _

/-- The types, and the shards of the ids, stay as they are. -/
theorem frame_next (s : Shared) (h : Happening) :
    (s.next h).factories = s.factories ∧ (s.next h).sharding = s.sharding := by
  cases h with
  | called op => exact ⟨rfl, rfl⟩
  | moved call =>
    have hm := s.moves call
    generalize s.next (.moved call) = s', s.answer? (.moved call) = a, (s.step (.moved call)).log = log at hm
    cases hm <;> exact ⟨rfl, rfl⟩

end

/-! ## Calls under way -/

/-- A registration that is under way holds the lock of its id alone, and the id is free. What was seen on a
way through the shards is from those in front. -/
structure Sound (s : Shared) : Prop where
  known : ∀ i c factory, s.stage? i = some (.making c factory) →
    ∃ f, s.factories.get? c.type = some f ∧ factory = f i
  free : ∀ i c factory, s.stage? i = some (.making c factory) → s.services.get? c.id = none
  alone : ∀ i j c d factory factory', s.stage? i = some (.making c factory) →
    s.stage? j = some (.making d factory') → s.sharding.shardOf c.id = s.sharding.shardOf d.id → i = j
  seen : ∀ i counts shard ids, s.stage? i = some (.visiting counts shard ids) →
    ids.Nodup ∧ ∀ id ∈ ids, s.sharding.shardOf id < shard

theorem sound_start (sharding : Sharding) (factories : Keyed (Nat → Factory)) :
    (start sharding factories).Sound :=
  ⟨nofun, nofun, nofun, nofun⟩

section
variable {s : Shared} {call i : Nat} {c : ServiceConfig} {id : String}

/-- A step that does not lock anything, and that leaves the ids free that others hold. -/
theorem Sound.advance {services : Keyed Instance} {old stage : Stage} (hs : s.Sound)
    (hold : s.stage? call = some old) (hquiet : ∀ c f, stage ≠ .making c f)
    (hseen : ∀ counts shard ids, stage = .visiting counts shard ids →
      ids.Nodup ∧ ∀ id ∈ ids, s.sharding.shardOf id < shard)
    (hfree : ∀ i c f, i ≠ call → s.stage? i = some (.making c f) → services.get? c.id = none) :
    ({ s with services := services }.advance call stage).Sound := by
  have hadvance : ∀ i, ({ s with services := services }.advance call stage).stage? i =
      if i = call then some stage else s.stage? i := stage?_advance hold stage
  have hmaking {i : Nat} {c : ServiceConfig} {factory : Factory}
      (hi : ({ s with services := services }.advance call stage).stage? i = some (.making c factory)) :
      i ≠ call ∧ s.stage? i = some (.making c factory) := by
    rw [hadvance] at hi
    split at hi
    · exact absurd (Option.some.inj hi) (hquiet c factory)
    · exact ⟨‹_›, hi⟩
  refine ⟨fun i c factory hi => hs.known i c factory (hmaking hi).2,
    fun i c factory hi => hfree i c factory (hmaking hi).1 (hmaking hi).2,
    fun i j c d factory factory' hi hj =>
      hs.alone i j c d factory factory' (hmaking hi).2 (hmaking hj).2,
    fun i counts shard ids hi => ?_⟩
  rw [hadvance] at hi
  split at hi
  · exact hseen counts shard ids (Option.some.inj hi)
  · exact hs.seen i counts shard ids hi

/-- The lock of an id is taken. -/
theorem Sound.enter {f : Nat → Factory} {old : Stage} (hs : s.Sound) (hold : s.stage? call = some old)
    (known : s.factories.get? c.type = some f) (idle : s.isBusy c.id = false)
    (free : s.services.get? c.id = none) : (s.advance call (.making c (f call))).Sound := by
  refine ⟨fun i d factory hi => ?_, fun i d factory hi => ?_, fun i j d e factory factory' hi hj heq => ?_,
    fun i counts shard ids hi => ?_⟩ <;> rw [stage?_advance hold] at hi
  · split at hi
    · cases hi
      subst i
      exact ⟨f, known, rfl⟩
    · exact hs.known i d factory hi
  · split at hi
    · cases hi
      exact free
    · exact hs.free i d factory hi
  · rw [stage?_advance hold] at hj
    -- of two that hold one lock, neither is the one that has just taken it
    split at hi <;> split at hj
    · exact ‹i = call›.trans ‹j = call›.symm
    · cases hi
      exact absurd heq.symm (isHeld_eq_false.1 idle j e factory' hj)
    · cases hj
      exact absurd heq (isHeld_eq_false.1 idle i d factory hi)
    · exact hs.alone i j d e factory factory' hi hj heq
  · split at hi
    · cases hi
    · exact hs.seen i counts shard ids hi

theorem mem_idsIn {shard : Nat} :
    id ∈ s.idsIn shard ↔ id ∈ s.services.keys ∧ s.sharding.shardOf id = shard := by
  simp [idsIn]

theorem nodup_idsIn (s : Shared) (shard : Nat) : (s.idsIn shard).Nodup := (Keyed.nodup_keys _).filter _

/-- The next shard holds other ids than those in front. -/
theorem seen_visited {shard : Nat} {ids : List String}
    (hseen : ids.Nodup ∧ ∀ id ∈ ids, s.sharding.shardOf id < shard) :
    (ids ++ s.idsIn shard).Nodup ∧ ∀ id ∈ ids ++ s.idsIn shard, s.sharding.shardOf id < shard + 1 := by
  refine ⟨List.nodup_append.2 ⟨hseen.1, nodup_idsIn s shard, ?_⟩, ?_⟩
  · rintro id hid other hother rfl
    exact absurd (hseen.2 id hid) (by rw [(mem_idsIn.1 hother).2]; omega)
  · intro id hid
    rcases List.mem_append.1 hid with hid | hid
    · exact Nat.lt_succ_of_lt (hseen.2 id hid)
    · rw [(mem_idsIn.1 hid).2]
      exact Nat.lt_succ_self shard

theorem Sound.next (hs : s.Sound) (h : Happening) : (s.next h).Sound := by
  cases h with
  | called op =>
    have hold {i : Nat} {stage : Stage} (hi : (s.next (.called op)).stage? i = some stage)
        (hne : stage ≠ .asked op) : s.stage? i = some stage := by
      rw [stage?_called] at hi
      split at hi
      · exact absurd (Option.some.inj hi).symm hne
      · exact hi
    exact ⟨fun i c f hi => hs.known i c f (hold hi nofun), fun i c f hi => hs.free i c f (hold hi nofun),
      fun i j c d f f' hi hj => hs.alone i j c d f f' (hold hi nofun) (hold hj nofun),
      fun i counts shard ids hi => hs.seen i counts shard ids (hold hi nofun)⟩
  | moved call =>
    have hm := s.moves call
    generalize s.next (.moved call) = s', s.answer? (.moved call) = a, (s.step (.moved call)).log = log at hm
    have hfree : ∀ i c f, i ≠ call → s.stage? i = some (.making c f) → s.services.get? c.id = none :=
      fun i c f _ hi => hs.free i c f hi
    cases hm with
    | ended => exact hs
    | waits => exact hs
    | refused c e asked => exact hs.advance asked nofun nofun hfree
    | entered c f asked known idle free => exact hs.enter asked known idle free
    | failed c factory e making => exact hs.advance making nofun nofun hfree
    | made c factory service making =>
      refine hs.advance making nofun nofun fun i d f hne hi => ?_
      have hid : c.id ≠ d.id := fun heq => hne (hs.alone i call d c f factory hi making (by rw [heq]))
      rw [Keyed.get?_insert, if_neg hid]
      exact hs.free i d f hi
    | missed id asked => exact hs.advance asked nofun nofun hfree
    | removed id j asked =>
      refine hs.advance asked nofun nofun fun i d f _ hi => ?_
      rw [Keyed.get?_erase, hs.free i d f hi, ite_self]
    | looked id asked => exact hs.advance asked nofun nofun hfree
    | started counts asked =>
      refine hs.advance asked nofun ?_ hfree
      rintro _ _ _ heq
      cases heq
      exact ⟨.nil, nofun⟩
    | visited counts shard ids visiting =>
      refine hs.advance visiting nofun ?_ hfree
      rintro _ _ _ heq
      cases heq
      exact seen_visited (hs.seen call counts shard ids visiting)
    | listed shard ids visiting => exact hs.advance visiting nofun nofun hfree
    | counted shard ids visiting => exact hs.advance visiting nofun nofun hfree

end

/-! ## Runs -/

theorem run_append (s : Shared) (hs hs' : List Happening) : s.run (hs ++ hs') = (s.run hs).run hs' :=
  List.foldl_append

theorem run_concat (s : Shared) (hs : List Happening) (h : Happening) :
    s.run (hs ++ [h]) = (s.run hs).next h :=
  run_append s hs [h]

theorem frame_run (s : Shared) (hs : List Happening) :
    (s.run hs).factories = s.factories ∧ (s.run hs).sharding = s.sharding := by
  induction hs generalizing s with
  | nil => exact ⟨rfl, rfl⟩
  | cons h hs ih => exact ⟨(ih _).1.trans (frame_next s h).1, (ih _).2.trans (frame_next s h).2⟩

theorem Sound.run {s : Shared} (hs : s.Sound) (hs' : List Happening) : (s.run hs').Sound := by
  induction hs' generalizing s with
  | nil => exact hs
  | cons h hs' ih => exact ih (hs.next h)

end Shared

end Registry

end ForgeBridge
