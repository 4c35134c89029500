import ForgeBridge.Proofs.Registrations
import ForgeBridge.Proofs.SharedSteps
import Mathlib.Data.List.Induction

/-!
# Answers of a shared registry

What is live under an id is told by the answers that were given (`get?_next`). As long as no answer tells of
a removal, at most one tells of a service that was taken in (`entered_of_not_removed`). An answer is the one
that the registry of that moment gives when no other call is under way (`register_atomic`,
`deregister_atomic`, `found_of_answer`), although a registration takes two steps.
-/

namespace ForgeBridge

namespace Keyed

variable {α β : Type} (f : α → β) (m : Keyed α)

theorem get?_map (key : String) : (m.map f).get? key = (m.get? key).map f := by
  obtain ⟨entries, sorted⟩ := m
  simp only [get?, map]
  clear sorted
  induction entries with
  | nil => rfl
  | cons e entries ih =>
    simp only [List.map_cons, find?, ih]
    split <;> rfl

theorem map_insert (key : String) (a : α) : (m.insert key a).map f = (m.map f).insert key (f a) := by
  refine ext fun other => ?_
  rw [get?_map, get?_insert, get?_insert, get?_map]
  split <;> rfl

theorem map_erase (key : String) : (m.erase key).map f = (m.map f).erase key := by
  refine ext fun other => ?_
  rw [get?_map, get?_erase, get?_erase, get?_map]
  split <;> rfl

end Keyed

namespace Registry

namespace Answer

/-- The service that was taken in under an id. -/
def entered? (id : String) : Answer → Option Instance
  | .registered c (.ok i) => if c.id = id then some i else none
  | _ => none

/-- Whether the service of an id was taken out. -/
def removes (id : String) : Answer → Bool
  | .deregistered other (some _) => other = id
  | _ => false

/-- What is live under an id after an answer was given. -/
def leaves (id : String) (live : Option Instance) (a : Answer) : Option Instance :=
  if a.removes id then none else (a.entered? id).or live

theorem eq_of_entered {id : String} {a : Answer} {i : Instance} (h : a.entered? id = some i) :
    ∃ c, a = .registered c (.ok i) ∧ c.id = id := by
  rcases a with ⟨c, _ | j⟩ | _ | _ | _ | _
  case registered.ok =>
    simp only [entered?] at h
    split at h
    · cases h
      exact ⟨c, rfl, ‹_›⟩
    · cases h
  all_goals cases h

end Answer

namespace Shared

/-! ## What is live -/

section
variable {s : Shared} {h : Happening} {hs hs' : List Happening} {call : Nat} {c : ServiceConfig} {id : String}

theorem answers_append (s : Shared) (hs hs' : List Happening) :
    s.answers (hs ++ hs') = s.answers hs ++ (s.run hs).answers hs' := by
  induction hs generalizing s with
  | nil => rfl
  | cons h hs ih => simp only [List.cons_append, answers, ih, run, List.foldl_cons, List.append_assoc]

theorem answers_concat (s : Shared) (hs : List Happening) (h : Happening) :
    s.answers (hs ++ [h]) = s.answers hs ++ ((s.run hs).answer? h).toList := by
  rw [answers_append, answers, answers, List.append_nil]

/-- What is live after a happening is told by its answer. -/
theorem get?_next (s : Shared) (h : Happening) (id : String) :
    (s.next h).services.get? id =
      (s.answer? h).elim (s.services.get? id) (·.leaves id (s.services.get? id)) := by
  cases h with
  | called op => rfl
  | moved call =>
    have hm := s.moves call
    generalize s.next (.moved call) = s', s.answer? (.moved call) = a, (s.step (.moved call)).log = log at hm ⊢
    cases hm with
    | made c factory service =>
      simp only [Option.elim_some, Answer.leaves, Answer.removes, Answer.entered?, Bool.false_eq_true,
        if_false]
      refine (Keyed.get?_insert ..).trans ?_
      split <;> rfl
    | removed other i =>
      simp only [Option.elim_some, Answer.leaves, Answer.removes, Answer.entered?, decide_eq_true_eq]
      exact Keyed.get?_erase ..
    | _ => rfl

/-- Services come by a registration and go by a removal only. -/
theorem services_next (henters : ∀ c i, s.answer? h ≠ some (.registered c (.ok i)))
    (hremoves : ∀ id i, s.answer? h ≠ some (.deregistered id (some i))) :
    (s.next h).services = s.services := by
  refine Keyed.ext fun id => ?_
  rw [get?_next]
  rcases ha : s.answer? h with _ | ⟨c, _ | i⟩ | ⟨other, _ | i⟩ | _ | _ | _
  case some.registered.ok => exact absurd ha (henters c i)
  case some.deregistered.some => exact absurd ha (hremoves other i)
  all_goals rfl

/-- An answer is given by a step of a call. -/
theorem moved_of_answer {a : Answer} (ha : s.answer? h = some a) : ∃ call, h = .moved call := by
  cases h with
  | called op => cases ha
  | moved call => exact ⟨call, rfl⟩

/-- What is taken in takes a free id. -/
theorem free_of_entered (hs : s.Sound) {a : Answer} (ha : s.answer? h = some a) {i : Instance}
    (hi : a.entered? id = some i) : s.services.get? id = none := by
  obtain ⟨c, rfl, rfl⟩ := Answer.eq_of_entered hi
  obtain ⟨call, rfl⟩ := moved_of_answer ha
  have hm := moves_of_answer ha
  generalize s.next (.moved call) = s', (s.step (.moved call)).log = log at hm
  cases hm with
  | made _ factory service making => exact hs.free call c factory making

/-- As long as the service of an id is not taken out, at most one is taken in under it, and it stays. -/
theorem entered_of_not_removed (hs : s.Sound) (hkept : ∀ a ∈ s.answers hs', a.removes id = false) :
    ((s.answers hs').filterMap (·.entered? id) = [] ∧ (s.run hs').services.get? id = s.services.get? id) ∨
      ∃ i, (s.answers hs').filterMap (·.entered? id) = [i] ∧ (s.run hs').services.get? id = some i := by
  induction hs' using List.reverseRecOn with
  | nil => exact .inl ⟨rfl, rfl⟩
  | append_singleton hs' h ih =>
    rw [answers_concat] at hkept ⊢
    rw [List.filterMap_append, run_concat, get?_next]
    replace ih := ih fun a ha => hkept a (List.mem_append_left _ ha)
    cases ha : (s.run hs').answer? h with
    | none => simpa using ih
    | some a =>
      have hstays : a.removes id = false := hkept a (List.mem_append_right _ (by simp [ha]))
      simp only [Option.toList_some, Option.elim_some, Answer.leaves, hstays, Bool.false_eq_true, if_false]
      cases hi : a.entered? id with
      | none => simpa [hi] using ih
      | some i =>
        have hfree := free_of_entered (hs.run hs') ha hi
        rcases ih with ⟨hnone, -⟩ | ⟨j, -, hlive⟩
        · exact .inr ⟨i, by simp [hnone, hi], rfl⟩
        · rw [hfree] at hlive
          cases hlive

end

/-! ## One call at a time -/

/-- The registry as a call finds it that has no other beside it. -/
def registry (s : Shared) (call : Nat) : Registry := ⟨s.factories.map (· call), s.services.map (·.service)⟩

theorem factories_registry {s : Shared} {call : Nat} {type : String} {f : Option (Nat → Factory)}
    (hf : s.factories.get? type = f) : (s.registry call).factories.get? type = f.map (· call) := by
  rw [registry, Keyed.get?_map, hf]

theorem get?_registry {s : Shared} {call : Nat} {id : String} {i : Option Instance}
    (hi : s.services.get? id = i) : (s.registry call).get? id = i.map (·.service) := by
  rw [Registry.get?, registry, Keyed.get?_map, hi]

theorem registry_insert (s : Shared) (call : Nat) (id : String) (service : Service) (maker : Nat) :
    { s with services := s.services.insert id ⟨service, maker⟩ }.registry call =
      { s.registry call with services := (s.registry call).services.insert id service } := by
  rw [registry, Keyed.map_insert]
  rfl

theorem registry_erase (s : Shared) (call : Nat) (id : String) :
    { s with services := s.services.erase id }.registry call =
      { s.registry call with services := (s.registry call).services.erase id } := by
  rw [registry, Keyed.map_erase]
  rfl

/-- What a registration comes to when it is answered. -/
def due (s : Shared) (call : Nat) (c : ServiceConfig) : Except BridgeError Instance :=
  match s.factories.get? c.type, s.services.get? c.id with
  | none, _ => .error (.unknownServiceType c.type)
  | some _, some _ => .error (.duplicateService c.id)
  | some f, none => (f call c).value.map fun service => ⟨service, call⟩

section
variable {s : Shared} {call : Nat} {c : ServiceConfig} {result : Except BridgeError Instance}

theorem due_unknown (hf : s.factories.get? c.type = none) :
    s.due call c = .error (.unknownServiceType c.type) := by
  rw [due, hf]

theorem due_duplicate {f : Nat → Factory} {i : Instance} (hf : s.factories.get? c.type = some f)
    (hi : s.services.get? c.id = some i) : s.due call c = .error (.duplicateService c.id) := by
  rw [due, hf, hi]

theorem due_free {f : Nat → Factory} (hf : s.factories.get? c.type = some f)
    (hfree : s.services.get? c.id = none) :
    s.due call c = (f call c).value.map fun service => ⟨service, call⟩ := by
  rw [due, hf, hfree]

theorem due_of_answer (hs : s.Sound) (ha : s.answer? (.moved call) = some (.registered c result)) :
    result = s.due call c ∧
      ∀ i, result = .ok i → (s.next (.moved call)).services = s.services.insert c.id i := by
  have hm := moves_of_answer ha
  generalize s.next (.moved call) = s', (s.step (.moved call)).log = log at hm ⊢
  cases hm with
  | refused _ e asked why =>
    refine ⟨?_, nofun⟩
    rcases why with ⟨hnone, rfl⟩ | ⟨f, i, hf, hi, rfl⟩
    · exact (due_unknown hnone).symm
    · exact (due_duplicate hf hi).symm
  | failed _ factory e making fails =>
    obtain ⟨f, hf, rfl⟩ := hs.known call c factory making
    refine ⟨?_, nofun⟩
    rw [due_free hf (hs.free call c _ making), fails]
    rfl
  | made _ factory service making makes =>
    obtain ⟨f, hf, rfl⟩ := hs.known call c factory making
    refine ⟨?_, fun i hi => ?_⟩
    · rw [due_free hf (hs.free call c _ making), makes]
      rfl
    · cases hi
      rfl

/-- A registration comes to what it comes to alone, at the moment when it is answered. -/
theorem register_atomic (hs : s.Sound) (ha : s.answer? (.moved call) = some (.registered c result)) :
    (s.registry call).register c =
      ⟨((s.next (.moved call)).registry call, result.map (·.service)), (s.step (.moved call)).log⟩ := by
  have hm := moves_of_answer ha
  generalize s.next (.moved call) = s', (s.step (.moved call)).log = log at hm ⊢
  cases hm with
  | refused _ e asked why =>
    rcases why with ⟨hnone, rfl⟩ | ⟨f, i, hf, hi, rfl⟩
    · exact register_unknown (factories_registry hnone)
    · exact register_duplicate (factories_registry hf) (get?_registry hi)
  | failed _ factory e making fails =>
    obtain ⟨f, hf, rfl⟩ := hs.known call c factory making
    exact register_failed (factories_registry hf) (get?_registry (hs.free call c _ making)) fails
  | made _ factory service making makes =>
    obtain ⟨f, hf, rfl⟩ := hs.known call c factory making
    rw [register_made (factories_registry hf) (get?_registry (hs.free call c _ making)) makes, ← registry_insert]
    rfl

/-- A removal takes out what is live at the moment when it is answered. -/
theorem deregister_atomic {id : String} {removed : Option Instance}
    (ha : s.answer? (.moved call) = some (.deregistered id removed)) :
    removed = s.services.get? id ∧
      (s.registry call).deregister id =
        ⟨((s.next (.moved call)).registry call, removed.map (·.service)), (s.step (.moved call)).log⟩ := by
  have hm := moves_of_answer ha
  generalize s.next (.moved call) = s', (s.step (.moved call)).log = log at hm ⊢
  cases hm with
  | missed _ asked free =>
    refine ⟨free.symm, ?_⟩
    rw [deregister, get?_registry free]
    rfl
  | removed _ i asked live =>
    refine ⟨live.symm, ?_⟩
    rw [deregister, get?_registry live]
    simp only [Option.map_some, ← registry_erase]
    rfl

/-- A look-up finds what is live at the moment when it is answered. -/
theorem found_of_answer {id : String} {found : Option Instance}
    (ha : s.answer? (.moved call) = some (.got id found)) : found = s.services.get? id := by
  have hm := moves_of_answer ha
  generalize s.next (.moved call) = s', (s.step (.moved call)).log = log at hm
  cases hm
  rfl

/-- No id is listed twice, whatever happens while the shards are gone through. -/
theorem nodup_of_answer (hs : s.Sound) {ids : List String}
    (ha : s.answer? (.moved call) = some (.listed ids)) : ids.Nodup := by
  have hm := moves_of_answer ha
  generalize s.next (.moved call) = s', (s.step (.moved call)).log = log at hm
  cases hm with
  | listed shard _ visiting => exact (hs.seen call false shard ids visiting).1

end

end Shared

end Registry

end ForgeBridge
