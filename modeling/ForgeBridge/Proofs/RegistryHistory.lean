import ForgeBridge.Proofs.RegistryAnswers

/-!
# A shared registry over time

However calls are mixed, the services stay under their own ids (`ids_run`), a call can come to its answer
(`finishes`), and one that goes on alone lists and counts what is live (`listed_alone`). Together with what
the answers tell, this is what any number of callers can rely on (`registrations`).
-/

namespace ForgeBridge

namespace Registry

/-- What was asked. -/
def Answer.operation : Answer → Operation
  | .registered c _ => .register c
  | .deregistered id _ => .deregister id
  | .got id _ => .get id
  | .listed _ => .serviceIds
  | .counted _ => .size

/-- What a call was asked. -/
def Stage.operation : Stage → Operation
  | .asked op => op
  | .making c _ => .register c
  | .visiting counts _ _ => if counts then .size else .serviceIds
  | .answered a => a.operation

namespace Shared

/-! ## Ids -/

/-- A factory that fails or makes the service that is configured. -/
def Faithful (factory : Factory) : Prop :=
  ∀ c, (∃ e, (factory c).value = .error e) ∨
    ∃ sharesTracker, (factory c).value = .ok (Service.ofConfig sharesTracker c).value

section
variable {s : Shared} {call : Nat} {c : ServiceConfig} {i : Instance}

theorem due_eq_ok (hmakes : ∀ type f, s.factories.get? type = some f → ∀ call, Faithful (f call)) :
    s.due call c = .ok i ↔ (∃ f, s.factories.get? c.type = some f ∧ s.services.get? c.id = none ∧
      (f call c).value = .ok c.service) ∧ i = ⟨c.service, call⟩ := by
  cases hf : s.factories.get? c.type with
  | none => simp [due_unknown hf]
  | some f =>
    cases hi : s.services.get? c.id with
    | some j => simp [due_duplicate hf hi]
    | none =>
      rw [due_free hf hi]
      rcases hmakes _ f hf call c with ⟨e, he⟩ | ⟨sharesTracker, hservice⟩
      · simp [he, Except.map]
      · rw [Service.value_ofConfig] at hservice
        simp [hservice, Except.map, eq_comm]

/-- The services are under their own ids. -/
theorem ids_next (hs : s.Sound)
    (hmakes : ∀ type f, s.factories.get? type = some f → ∀ call, Faithful (f call))
    (hids : ∀ id i, s.services.get? id = some i → i.service.id = id) (h : Happening) (id : String)
    (hi : (s.next h).services.get? id = some i) : i.service.id = id := by
  rw [get?_next] at hi
  cases ha : s.answer? h with
  | none =>
    rw [ha] at hi
    exact hids id i hi
  | some a =>
    rw [ha, Option.elim_some, Answer.leaves] at hi
    split at hi
    · cases hi
    · rcases Option.or_eq_some_iff.1 hi with hentered | ⟨-, hbefore⟩
      · obtain ⟨c, rfl, rfl⟩ := Answer.eq_of_entered hentered
        obtain ⟨call, rfl⟩ := moved_of_answer ha
        obtain ⟨-, rfl⟩ := (due_eq_ok hmakes).1 (due_of_answer hs ha).1.symm
        rfl
      · exact hids id i hbefore

theorem ids_run (sharding : Sharding) {factories : Keyed (Nat → Factory)}
    (hmakes : ∀ type f, factories.get? type = some f → ∀ call, Faithful (f call)) (hs : List Happening)
    {id : String} (hi : ((start sharding factories).run hs).services.get? id = some i) :
    i.service.id = id := by
  induction hs using List.reverseRecOn generalizing id i with
  | nil => cases hi
  | append_singleton hs h ih =>
    rw [run_concat] at hi
    refine ids_next ((sound_start sharding factories).run hs) ?_ (fun id i => ih) h id hi
    rw [(frame_run _ hs).1]
    exact hmakes

end

/-! ## Calls come to their answers -/

section
variable {s : Shared} {call i shard : Nat} {stage : Stage}

/-- How far a call is from its answer at most. -/
def rank (sharding : Sharding) : Stage → Nat
  | .asked _ => sharding.count + 2
  | .making _ _ => 1
  | .visiting _ shard _ => sharding.count - shard + 1
  | .answered _ => 0

/-- A call that does not wait gets nearer to its answer. -/
theorem rank_next (hstage : s.stage? call = some stage) (hopen : ∀ a, stage ≠ .answered a)
    (hidle : ∀ shard, stage.needs s.sharding = some shard → s.isHeld shard = false) :
    ∃ stage', (s.next (.moved call)).stage? call = some stage' ∧
      rank s.sharding stage' < rank s.sharding stage ∧ stage'.operation = stage.operation := by
  have hnearer {services : Keyed Instance} {old new : Stage} (hold : s.stage? call = some old)
      (hless : rank s.sharding new < rank s.sharding old) (hop : new.operation = old.operation) :
      ∃ stage', ({ s with services := services }.advance call new).stage? call = some stage' ∧
        rank s.sharding stage' < rank s.sharding stage ∧ stage'.operation = stage.operation := by
    cases hstage.symm.trans hold
    exact ⟨new, (stage?_advance hold new call).trans (if_pos rfl), hless, hop⟩
  have hm := s.moves call
  generalize s.next (.moved call) = s', s.answer? (.moved call) = a, (s.step (.moved call)).log = log at hm ⊢
  cases hm with
  | ended hended =>
    obtain ⟨a, rfl⟩ := hended stage hstage
    exact absurd rfl (hopen a)
  | waits waiting shard hwaiting needs held =>
    cases hstage.symm.trans hwaiting
    rw [hidle shard needs] at held
    cases held
  | refused c e asked => exact hnearer asked (by simp [rank]) rfl
  | entered c f asked => exact hnearer asked (by simp [rank]) rfl
  | failed c factory e making => exact hnearer making (by simp [rank]) rfl
  | made c factory service making => exact hnearer making (by simp [rank]) rfl
  | missed id asked => exact hnearer asked (by simp [rank]) rfl
  | removed id j asked => exact hnearer asked (by simp [rank]) rfl
  | looked id asked => exact hnearer asked (by simp [rank]) rfl
  | started counts asked => exact hnearer asked (by simp [rank]) rfl
  | visited counts shard seen visiting lt => exact hnearer visiting (by simp only [rank]; omega) rfl
  | listed shard ids visiting => exact hnearer visiting (by simp [rank]) rfl
  | counted shard ids visiting => exact hnearer visiting (by simp [rank]) rfl

/-- Whoever holds a lock can give it back on its own. -/
theorem released (hs : s.Sound) (hstage : s.stage? call = some stage) (hquiet : ∀ c f, stage ≠ .making c f)
    (shard : Nat) : ∃ ms : List Nat, (s.run (ms.map .moved)).isHeld shard = false ∧
      (s.run (ms.map .moved)).stage? call = some stage := by
  cases hheld : s.isHeld shard with
  | false => exact ⟨[], hheld, hstage⟩
  | true =>
    obtain ⟨holding, hmem, hholds⟩ := List.any_eq_true.1 hheld
    obtain ⟨i, hi⟩ := List.mem_iff_getElem?.1 hmem
    cases holding with
    | making c factory =>
      have hc : s.sharding.shardOf c.id = shard := of_decide_eq_true hholds
      replace hi : s.stage? i = some (.making c factory) := hi
      obtain ⟨after, hafter, hrank, -⟩ := rank_next hi nofun nofun
      have hne : call ≠ i := by
        rintro rfl
        exact hquiet c factory (Option.some.inj (hstage.symm.trans hi))
      refine ⟨[i], isHeld_eq_false.2 fun j d factory' hj heq => ?_, (stage?_other hne).trans hstage⟩
      change (s.next (.moved i)).stage? j = _ at hj
      rw [(frame_run ..).2] at heq
      by_cases hji : j = i
      · subst hji
        cases hafter.symm.trans hj
        exact absurd hrank (Nat.lt_irrefl 1)
      · rw [stage?_other hji] at hj
        exact hji (hs.alone j i d c factory' factory hj hi (heq.trans hc.symm))
    | _ => cases hholds

/-- A call can come to its answer, whatever has happened. -/
theorem finishes (hs : s.Sound) (hstage : s.stage? call = some stage) :
    ∃ (ms : List Nat) (a : Answer), (s.run (ms.map .moved)).stage? call = some (.answered a) ∧
      a.operation = stage.operation := by
  induction hn : rank s.sharding stage using Nat.strongRecOn generalizing s stage with
  | ind n ih =>
    -- one step more, when the call does not wait
    have hstep {s' : Shared} (hs' : s'.Sound) (hsharding : s'.sharding = s.sharding)
        (hstage' : s'.stage? call = some stage) (hopen : ∀ a, stage ≠ .answered a)
        (hidle : ∀ shard, stage.needs s.sharding = some shard → s'.isHeld shard = false) :
        ∃ (ms : List Nat) (a : Answer), (s'.run (ms.map .moved)).stage? call = some (.answered a) ∧
          a.operation = stage.operation := by
      obtain ⟨nearer, hnearer, hrank, hop⟩ := rank_next hstage' hopen (hsharding ▸ hidle)
      rw [← hn, ← hsharding] at ih
      obtain ⟨ms, a, hms, ha⟩ := ih _ hrank (hs'.next (.moved call)) hnearer (by rw [(frame_next ..).2])
      exact ⟨call :: ms, a, hms, ha.trans hop⟩
    -- a call that may have to wait does so until its shard is not locked
    have hwait (hopen : ∀ a, stage ≠ .answered a) (hquiet : ∀ c f, stage ≠ .making c f) :
        ∃ (ms : List Nat) (a : Answer), (s.run (ms.map .moved)).stage? call = some (.answered a) ∧
          a.operation = stage.operation := by
      obtain ⟨ms, hidle, hsame⟩ := released hs hstage hquiet ((stage.needs s.sharding).getD 0)
      obtain ⟨ms', a, hms, ha⟩ := hstep (hs.run _) (frame_run ..).2 hsame hopen fun shard hneeds => by
        rwa [hneeds] at hidle
      exact ⟨ms ++ ms', a, by rw [List.map_append, run_append, hms], ha⟩
    cases stage with
    | answered a => exact ⟨[], a, hstage, rfl⟩
    | making c factory => exact hstep hs rfl hstage nofun nofun
    | asked op => exact hwait nofun nofun
    | visiting counts shard seen => exact hwait nofun nofun

end

/-! ## Listings -/

section
variable {s : Shared}

/-- The ids in the shards up to one. -/
def idsBelow (s : Shared) (n : Nat) : List String := (List.range n).flatMap s.idsIn

theorem idsBelow_succ (s : Shared) (n : Nat) : s.idsBelow (n + 1) = s.idsBelow n ++ s.idsIn n := by
  simp [idsBelow, List.range_succ, List.flatMap_append]

/-- The shards together hold each id once. -/
theorem idsBelow_perm (s : Shared) : (s.idsBelow s.sharding.count).Perm s.services.keys := by
  have hnodup (n : Nat) : (s.idsBelow n).Nodup ∧ ∀ id ∈ s.idsBelow n, s.sharding.shardOf id < n := by
    induction n with
    | zero => exact ⟨.nil, nofun⟩
    | succ n ih =>
      rw [idsBelow_succ]
      exact seen_visited ih
  refine (List.perm_ext_iff_of_nodup (hnodup _).1 (Keyed.nodup_keys _)).2 fun id => ?_
  simp only [idsBelow, List.mem_flatMap, List.mem_range, mem_idsIn]
  constructor
  · rintro ⟨_, _, hid, _⟩
    exact hid
  · intro hid
    exact ⟨_, s.sharding.shardOf_lt id, hid, rfl⟩

/-- One step on the way through the shards, while none is locked. -/
theorem next_visiting (hidle : ∀ shard, s.isHeld shard = false) {call : Nat} {old : Stage}
    (hold : s.stage? call = some old) (counts : Bool) (n : Nat) (ids : List String) :
    (s.advance call (.visiting counts n ids)).next (.moved call) =
      s.advance call (if n < s.sharding.count then .visiting counts (n + 1) (ids ++ s.idsIn n)
        else .answered (if counts then .counted ids.length else .listed ids)) := by
  have hself : (s.advance call (.visiting counts n ids)).stage? call = some (.visiting counts n ids) :=
    (stage?_advance hold _ call).trans (if_pos rfl)
  have hstill : (s.advance call (.visiting counts n ids)).isHeld n = false := by
    refine isHeld_eq_false.2 fun i c factory hi => ?_
    rw [stage?_advance hold] at hi
    split at hi
    · cases hi
    · exact isHeld_eq_false.1 (hidle n) i c factory hi
  have hsharding : (s.advance call (.visiting counts n ids)).sharding = s.sharding := rfl
  have hagain (stage : Stage) :
      (s.advance call (.visiting counts n ids)).advance call stage = s.advance call stage := by
    simp only [advance, List.set_set]
  rw [next, step, move, hself]
  simp only [visit, finish, hsharding, hstill, hagain, Bool.false_eq_true, if_false, Logged.value_pure]
  split <;> rfl

/-- The shards are gone through without anything in between, while none is locked. -/
theorem run_visits (hidle : ∀ shard, s.isHeld shard = false) {call : Nat} {old : Stage}
    (hold : s.stage? call = some old) (counts : Bool) {n : Nat} (hn : n ≤ s.sharding.count) :
    (s.advance call (.visiting counts 0 [])).run (.replicate n (.moved call)) =
      s.advance call (.visiting counts n (s.idsBelow n)) := by
  induction n with
  | zero => rfl
  | succ n ih =>
    rw [List.replicate_succ', run_concat, ih (by omega), next_visiting hidle hold, idsBelow_succ,
      if_pos (Nat.lt_of_succ_le hn)]

/-- A call that is asked for all ids, or for their number, and goes on alone. -/
theorem run_listing (hidle : ∀ shard, s.isHeld shard = false) {call : Nat} (counts : Bool)
    (hasked : s.stage? call = some (.asked (if counts then .size else .serviceIds))) :
    s.run (.replicate (s.sharding.count + 2) (.moved call)) =
      s.advance call (.answered (if counts then .counted (s.idsBelow s.sharding.count).length
        else .listed (s.idsBelow s.sharding.count))) := by
  have hstarted : s.next (.moved call) = s.advance call (.visiting counts 0 []) := by
    rw [next, step, move, hasked]
    cases counts <;> rfl
  rw [List.replicate_succ, run, List.foldl_cons, hstarted, ← run, List.replicate_succ', run_concat,
    run_visits hidle hasked counts (Nat.le_refl _), next_visiting hidle hasked, if_neg (Nat.lt_irrefl _)]

/-- While no shard is locked, a call that goes on alone lists and counts the ids that are live. -/
theorem listed_alone (hidle : ∀ shard, s.isHeld shard = false) (call : Nat) :
    (s.stage? call = some (.asked .serviceIds) → ∃ ids,
      (s.run (.replicate (s.sharding.count + 2) (.moved call))).stage? call = some (.answered (.listed ids)) ∧
        ids.Perm s.services.keys) ∧
    (s.stage? call = some (.asked .size) →
      (s.run (.replicate (s.sharding.count + 2) (.moved call))).stage? call =
        some (.answered (.counted s.services.keys.length))) := by
  constructor
  · intro hasked
    rw [run_listing hidle false hasked, stage?_advance hasked, if_pos rfl]
    exact ⟨_, rfl, s.idsBelow_perm⟩
  · intro hasked
    rw [run_listing hidle true hasked, stage?_advance hasked, if_pos rfl, if_pos rfl,
      s.idsBelow_perm.length_eq]

end

/-! ## Any number of callers -/

/-- What a registration comes to that is answered in a state and leaves another one. -/
structure Registers (s : Shared) (call : Nat) (c : ServiceConfig) (result : Except BridgeError Instance)
    (s' : Shared) : Prop where
  succeeds : (∃ i, result = .ok i) ↔ ∃ f, s.factories.get? c.type = some f ∧
    s.services.get? c.id = none ∧ (f call c).value = .ok c.service
  unknown : s.factories.get? c.type = none → result = .error (.unknownServiceType c.type)
  duplicate : ∀ f i, s.factories.get? c.type = some f → s.services.get? c.id = some i →
    result = .error (.duplicateService c.id)
  failed : ∀ f e, s.factories.get? c.type = some f → s.services.get? c.id = none →
    (f call c).value = .error e → result = .error e
  taken : ∀ i, result = .ok i → i = ⟨c.service, call⟩ ∧ s'.services = s.services.insert c.id i
  kept : ∀ e, result = .error e → s'.services = s.services ∧ s'.factories = s.factories
  alone : ((s.registry call).register c).value = (s'.registry call, result.map (·.service))

theorem registers {s : Shared} (hs : s.Sound)
    (hmakes : ∀ type f, s.factories.get? type = some f → ∀ call, Faithful (f call)) {call : Nat}
    {c : ServiceConfig} {result : Except BridgeError Instance}
    (ha : s.answer? (.moved call) = some (.registered c result)) :
    s.Registers call c result (s.next (.moved call)) := by
  obtain ⟨hdue, htaken⟩ := due_of_answer hs ha
  refine ⟨?_, fun hf => hdue.trans (due_unknown hf), fun f i hf hi => hdue.trans (due_duplicate hf hi),
    fun f e hf hfree he => ?_, fun i hi => ⟨?_, htaken i hi⟩, fun e he => ⟨?_, (frame_next ..).1⟩,
    congrArg Logged.value (register_atomic hs ha)⟩
  · rw [hdue]
    constructor
    · rintro ⟨i, hi⟩
      exact ((due_eq_ok hmakes).1 hi).1
    · intro hfree
      exact ⟨_, (due_eq_ok hmakes).2 ⟨hfree, rfl⟩⟩
  · rw [hdue, due_free hf hfree, he]
    rfl
  · exact ((due_eq_ok hmakes).1 (hdue.symm.trans hi)).2
  · subst he
    refine services_next ?_ ?_
    · intro c' i hentered
      cases ha.symm.trans hentered
    · intro id i hremoved
      cases ha.symm.trans hremoved

/-- However the calls to a registry are mixed: its services are under their own ids, and it lists and counts
each of them once. A registration that is answered succeeds if its type is known, its id is free and its
service can be made, and otherwise nothing changes; it comes to what it would come to alone, as removals do.
Services come and go in no other way. From one removal of an id to the next, at most one service is taken in
under it, and it is the one that is found. Each call can come to its answer. -/
theorem registrations (sharding : Sharding) (factories : Keyed (Nat → Factory))
    (hmakes : ∀ type f, factories.get? type = some f → ∀ call, Faithful (f call)) (hs : List Happening) :
    let s := (start sharding factories).run hs
    ((∀ id i, s.services.get? id = some i → i.service.id = id) ∧ s.services.keys.Nodup ∧
      s.services.size = s.services.keys.length) ∧
    (∀ call ids, s.answer? (.moved call) = some (.listed ids) → ids.Nodup) ∧
    ((∀ shard, s.isHeld shard = false) → ∀ call,
      let alone := s.run (.replicate (s.sharding.count + 2) (.moved call))
      (s.stage? call = some (.asked .serviceIds) → ∃ ids,
        alone.stage? call = some (.answered (.listed ids)) ∧ ids.Perm s.services.keys) ∧
      (s.stage? call = some (.asked .size) →
        alone.stage? call = some (.answered (.counted s.services.keys.length)))) ∧
    (∀ call c result, s.answer? (.moved call) = some (.registered c result) →
      s.Registers call c result (s.next (.moved call))) ∧
    (∀ call id removed, s.answer? (.moved call) = some (.deregistered id removed) →
      removed = s.services.get? id ∧ ((s.registry call).deregister id).value =
        ((s.next (.moved call)).registry call, removed.map (·.service))) ∧
    (∀ h, (∀ c i, s.answer? h ≠ some (.registered c (.ok i))) →
      (∀ id i, s.answer? h ≠ some (.deregistered id (some i))) → (s.next h).services = s.services) ∧
    (∀ id hs', (∀ a ∈ s.answers hs', a.removes id = false) →
      let entered := (s.answers hs').filterMap (·.entered? id)
      entered.length ≤ 1 ∧ ∀ i ∈ entered, (s.run hs').services.get? id = some i ∧
        ∀ call found, (s.run hs').answer? (.moved call) = some (.got id found) → found = some i) ∧
    ∀ call stage, s.stage? call = some stage → ∃ (ms : List Nat) (a : Answer),
      (s.run (ms.map .moved)).stage? call = some (.answered a) ∧ a.operation = stage.operation := by
  intro s
  have hsound : s.Sound := (sound_start sharding factories).run hs
  have hfactories : s.factories = factories := (frame_run (start sharding factories) hs).1
  refine ⟨⟨fun id i => ids_run sharding hmakes hs, Keyed.nodup_keys _, (List.length_map _).symm⟩,
    fun call ids => nodup_of_answer hsound, fun hidle => listed_alone hidle,
    fun call c result => registers hsound (hfactories ▸ hmakes),
    fun call id removed ha => (deregister_atomic ha).imp_right (congrArg Logged.value),
    fun h => services_next, fun id hs' hkept => ?_, fun call stage => finishes hsound⟩
  rcases entered_of_not_removed hsound hkept with ⟨hnone, -⟩ | ⟨i, hone, hlive⟩
  · simp [hnone]
  · simp only [hone, List.length_singleton, Nat.le_refl, List.mem_singleton, forall_eq, true_and]
    exact ⟨hlive, fun call found hfound => (found_of_answer hfound).trans hlive⟩

/-- Two types of services: one is built in, and services of the other cannot be made. -/
def twoTypes : Keyed (Nat → Factory) :=
  .ofList [(Service.typeName, fun _ => builtIn false),
    ("broken", fun _ _ => return .error (.httpClient "down"))]

theorem faithful_twoTypes {type : String} {f : Nat → Factory} (h : twoTypes.get? type = some f) (call : Nat) :
    Faithful (f call) := by
  have hget : twoTypes.get? type = if "broken" = type then some fun _ _ => return .error (.httpClient "down")
      else if Service.typeName = type then some fun _ => builtIn false else none := by
    simp only [twoTypes, Keyed.ofList, List.foldl_cons, List.foldl_nil, Keyed.get?_insert]
    rfl
  rw [hget] at h
  intro c
  split at h
  · cases h
    exact .inl ⟨_, rfl⟩
  · split at h
    · cases h
      exact .inr ⟨false, rfl⟩
    · cases h

/-- A service to be registered under one id. -/
def entryOf (type user : String) : ServiceConfig := ⟨"gh", type, user, none, none, .empty⟩

/-- Registrations of one id race. The first one has the lock when the others come, but its service cannot be
made. The second one wins. -/
def race : List Happening :=
  [.called (.register (entryOf "broken" "@c:h")), .called (.register (entryOf "github" "@a:h")),
    .called (.register (entryOf "github" "@b:h")), .called (.register (entryOf "gitlab" "@d:h")),
    .moved 0, .moved 1, .moved 3, .moved 0, .moved 1, .moved 2, .moved 1, .moved 2, .called (.get "gh")]

theorem registrations_race :
    let s := start ⟨1, fun _ => 0, fun _ => Nat.one_pos⟩ twoTypes
    let winner : Instance := ⟨⟨"gh", "@a:h", none, .empty⟩, 1⟩
    (s.answers race).filterMap (·.entered? "gh") = [winner] ∧
      (s.run race).services.get? "gh" = some winner ∧
      (s.run race).answer? (.moved 4) = some (.got "gh" (some winner)) := by
  intro s winner
  obtain ⟨-, -, -, -, -, -, hbetween, -⟩ :=
    registrations ⟨1, fun _ => 0, fun _ => Nat.one_pos⟩ twoTypes (fun _ _ => faithful_twoTypes) []
  have hkept : ∀ a ∈ s.answers race, a.removes "gh" = false := by decide +kernel
  have hentered : (s.answers race).filterMap (·.entered? "gh") = [winner] := by decide +kernel
  obtain ⟨-, hfound⟩ := hbetween "gh" race hkept
  obtain ⟨hlive, hgot⟩ := hfound winner (hentered ▸ .head _)
  obtain ⟨found, hanswer⟩ : ∃ found, (s.run race).answer? (.moved 4) = some (.got "gh" found) := by
    have hlooks : ((s.run race).answer? (.moved 4)).any
        (fun | .got id _ => decide (id = "gh") | _ => false) = true := by
      decide +kernel
    generalize (s.run race).answer? (.moved 4) = answer at hlooks
    match answer, hlooks with
    | some (.got id found), hid => exact ⟨found, by rw [of_decide_eq_true hid]⟩
  refine ⟨hentered, hlive, ?_⟩
  rw [hanswer, hgot 4 found hanswer]

end Shared

end Registry

end ForgeBridge
