import Mathlib.Data.List.Basic

/-!
# Look-ups in lists of entries

A list of entries with names, of which the first one of a name counts: what an entry more in front, the
entries of a name less, a part of the list and another order make of a look-up.
-/

namespace ForgeBridge

section
variable {α β : Type} [BEq α] [LawfulBEq α] [DecidableEq α]

theorem lookup_cons_ite (key k : α) (b : β) (entries : List (α × β)) :
    ((k, b) :: entries).lookup key = if key = k then some b else entries.lookup key := by
  by_cases hk : key = k
  · simp [hk]
  · rw [List.lookup_cons, beq_false_of_ne hk, if_neg hk]

theorem lookup_without (key k : α) (entries : List (α × β)) :
    (entries.filter (·.1 ≠ k)).lookup key = if key = k then none else entries.lookup key := by
  induction entries with
  | nil => simp
  | cons e entries ih =>
    obtain ⟨j, b⟩ := e
    by_cases hj : j = k
    · rw [List.filter_cons_of_neg (by simpa using hj), ih, lookup_cons_ite, hj]
      by_cases hk : key = k <;> simp [hk]
    · rw [List.filter_cons_of_pos (by simpa using hj), lookup_cons_ite, lookup_cons_ite, ih]
      by_cases hk : key = k
      · simp [hk, Ne.symm hj]
      · simp [hk]

omit [DecidableEq α] [LawfulBEq α] in
/-- What a part from the front knows of a name, the whole list says of it too. -/
theorem lookup_of_take {key : α} {b : β} {n : Nat} {entries : List (α × β)}
    (h : (entries.take n).lookup key = some b) : entries.lookup key = some b := by
  rw [← List.take_append_drop n entries, List.lookup_append, h]
  rfl

omit [DecidableEq α] in
/-- Where no name stands twice, a look-up finds any entry. -/
theorem lookup_eq_some_iff {key : α} {b : β} {entries : List (α × β)} (hnodup : (entries.map (·.1)).Nodup) :
    entries.lookup key = some b ↔ (key, b) ∈ entries := by
  induction entries with
  | nil => simp
  | cons e entries ih =>
    obtain ⟨k, c⟩ := e
    obtain ⟨hk, hnodup⟩ := List.nodup_cons.1 hnodup
    have hnot : (k, b) ∉ entries := fun hmem => hk (List.mem_map_of_mem (f := (·.1)) hmem)
    rw [List.mem_cons, Prod.mk.injEq]
    by_cases heq : key = k
    · simp [heq, hnot, eq_comm]
    · rw [List.lookup_cons, beq_false_of_ne heq, ← ih hnodup]
      simp [heq]

omit [DecidableEq α] in
/-- So the order of the entries does not matter. -/
theorem lookup_perm {entries entries' : List (α × β)} (h : entries.Perm entries')
    (hnodup : (entries.map (·.1)).Nodup) (key : α) : entries.lookup key = entries'.lookup key := by
  refine Option.ext fun b => ?_
  rw [lookup_eq_some_iff hnodup, lookup_eq_some_iff ((h.map _).nodup_iff.1 hnodup), h.mem_iff]

end

end ForgeBridge
