/-!
Finite maps from names, held as lists in the order of the names, so that two of them are equal as
soon as they give the same answer to every look-up.
-/

namespace ForgeBridge

/-- Entries in strictly increasing order of their names. -/
structure Keyed (α : Type) where
  entries : List (String × α)
  sorted : entries.Pairwise (·.1 < ·.1)
deriving DecidableEq

namespace Keyed

variable {α β : Type}

def empty : Keyed α := ⟨[], .nil⟩

instance : EmptyCollection (Keyed α) := ⟨empty⟩

instance : Inhabited (Keyed α) := ⟨empty⟩

/-- What a list of entries holds under a name. -/
def find? (key : String) : List (String × α) → Option α
  | [] => none
  | (k, a) :: rest => if k = key then some a else find? key rest

/-- What is held under a name. -/
def get? (m : Keyed α) (key : String) : Option α := find? key m.entries

/-- The names, in order. -/
def keys (m : Keyed α) : List String := m.entries.map (·.1)

/-- The number of names. -/
def size (m : Keyed α) : Nat := m.entries.length

/-- The entries with one put in its place. -/
def put (key : String) (a : α) : List (String × α) → List (String × α)
  | [] => [(key, a)]
  | (k, b) :: rest =>
    if key < k then (key, a) :: (k, b) :: rest
    else if key = k then (key, a) :: rest
    else (k, b) :: put key a rest

theorem lt_of_not {a b : String} (h : ¬a < b) (hne : a ≠ b) : b < a := by
  have hle : b ≤ a := Std.not_lt.1 h
  exact Std.lt_of_le_of_ne hle (Ne.symm hne)

theorem mem_put {key : String} {a : α} {entries : List (String × α)} {e : String × α}
    (h : e ∈ put key a entries) : e = (key, a) ∨ e ∈ entries := by
  induction entries with
  | nil => simpa [put] using h
  | cons e' rest ih =>
    obtain ⟨k, b⟩ := e'
    simp only [put] at h
    split at h
    · simpa using h
    · split at h
      · rcases List.mem_cons.1 h with h | h
        · exact .inl h
        · exact .inr (.tail _ h)
      · rcases List.mem_cons.1 h with h | h
        · exact .inr (h ▸ .head _)
        · exact (ih h).imp id (.tail _)

theorem sorted_put {key : String} {a : α} {entries : List (String × α)}
    (h : entries.Pairwise (·.1 < ·.1)) : (put key a entries).Pairwise (·.1 < ·.1) := by
  induction entries with
  | nil => simp [put]
  | cons e rest ih =>
    obtain ⟨k, b⟩ := e
    obtain ⟨hk, hr⟩ := List.pairwise_cons.1 h
    simp only [put]
    split
    · rename_i hlt
      refine List.pairwise_cons.2 ⟨?_, h⟩
      intro e he
      rcases List.mem_cons.1 he with rfl | he
      · exact hlt
      · exact String.lt_trans hlt (hk _ he)
    · split
      · rename_i heq
        subst heq
        exact List.pairwise_cons.2 ⟨hk, hr⟩
      · rename_i hnlt hne
        refine List.pairwise_cons.2 ⟨?_, ih hr⟩
        intro e he
        rcases mem_put he with rfl | he
        · exact lt_of_not hnlt hne
        · exact hk _ he

/-- Holds a value under a name, in place of any other. -/
def insert (m : Keyed α) (key : String) (a : α) : Keyed α :=
  ⟨put key a m.entries, sorted_put m.sorted⟩

/-- Holds nothing under a name. -/
def erase (m : Keyed α) (key : String) : Keyed α :=
  ⟨m.entries.filter (·.1 ≠ key), m.sorted.filter _⟩

/-- Each value changed. -/
def map (f : α → β) (m : Keyed α) : Keyed β :=
  ⟨m.entries.map fun e => (e.1, f e.2), by
    rw [List.pairwise_map]
    exact m.sorted⟩

/-- A later entry for a name takes the place of an earlier one. -/
def ofList (entries : List (String × α)) : Keyed α :=
  entries.foldl (fun m e => m.insert e.1 e.2) empty

/-! ## Look-ups -/

@[simp] theorem get?_empty (key : String) : (empty : Keyed α).get? key = none := rfl

theorem find?_put (key other : String) (a : α) (entries : List (String × α)) :
    find? other (put key a entries) = if key = other then some a else find? other entries := by
  induction entries with
  | nil => simp [put, find?]
  | cons e rest ih =>
    obtain ⟨k, b⟩ := e
    simp only [put]
    split
    · simp [find?]
    · split
      · rename_i heq
        subst heq
        simp only [find?]
        split <;> rfl
      · rename_i hne
        simp only [find?, ih]
        by_cases hk : k = other
        · subst hk
          simp [hne]
        · simp [hk]

@[simp] theorem get?_insert (m : Keyed α) (key other : String) (a : α) :
    (m.insert key a).get? other = if key = other then some a else m.get? other :=
  find?_put ..

@[simp] theorem get?_erase (m : Keyed α) (key other : String) :
    (m.erase key).get? other = if key = other then none else m.get? other := by
  obtain ⟨entries, sorted⟩ := m
  simp only [get?, erase]
  clear sorted
  induction entries with
  | nil => simp [find?]
  | cons e rest ih =>
    obtain ⟨k, b⟩ := e
    by_cases hk : k = key
    · subst hk
      simp only [List.filter, ne_eq, not_true_eq_false, decide_false, ih, find?]
      split <;> simp_all
    · simp only [List.filter, ne_eq, hk, not_false_eq_true, decide_true, find?, ih]
      by_cases ho : k = other
      · subst ho
        simp [Ne.symm hk]
      · simp [ho]

theorem find?_eq_some {entries : List (String × α)} (h : entries.Pairwise (·.1 < ·.1))
    {key : String} {a : α} : find? key entries = some a ↔ (key, a) ∈ entries := by
  induction entries with
  | nil => simp [find?]
  | cons e rest ih =>
    obtain ⟨k, b⟩ := e
    obtain ⟨hk, hr⟩ := List.pairwise_cons.1 h
    simp only [find?, List.mem_cons, Prod.mk.injEq]
    by_cases heq : k = key
    · subst heq
      have : (k, a) ∉ rest := fun hm => String.lt_irrefl k (hk (k, a) hm)
      simp [this, eq_comm]
    · simp [heq, Ne.symm heq, ih hr]

/-- An entry is what a look-up of its name finds. -/
theorem mem_entries {m : Keyed α} {key : String} {a : α} :
    (key, a) ∈ m.entries ↔ m.get? key = some a :=
  (find?_eq_some m.sorted).symm

/-- The names are those under which something is held. -/
theorem mem_keys {m : Keyed α} {key : String} : key ∈ m.keys ↔ (m.get? key).isSome := by
  simp only [keys, List.mem_map, Prod.exists, exists_and_right, exists_eq_right, mem_entries,
    Option.isSome_iff_exists]

theorem nodup_keys (m : Keyed α) : m.keys.Nodup := by
  unfold keys List.Nodup
  rw [List.pairwise_map]
  exact m.sorted.imp fun h => Std.ne_of_lt h

theorem eq_of_mem_iff {l l' : List (String × α)} (h : l.Pairwise (·.1 < ·.1))
    (h' : l'.Pairwise (·.1 < ·.1)) (hm : ∀ e, e ∈ l ↔ e ∈ l') : l = l' := by
  induction l generalizing l' with
  | nil =>
    cases l' with
    | nil => rfl
    | cons e _ => exact absurd ((hm e).2 (.head _)) (by simp)
  | cons e rest ih =>
    cases l' with
    | nil => exact absurd ((hm e).1 (.head _)) (by simp)
    | cons e' rest' =>
      obtain ⟨hk, hr⟩ := List.pairwise_cons.1 h
      obtain ⟨hk', hr'⟩ := List.pairwise_cons.1 h'
      have heq : e = e' := by
        rcases List.mem_cons.1 ((hm e).1 (.head _)) with rfl | he
        · rfl
        · rcases List.mem_cons.1 ((hm e').2 (.head _)) with rfl | he'
          · rfl
          · exact absurd (String.lt_trans (hk _ he') (hk' _ he)) (String.lt_irrefl _)
      subst heq
      refine congrArg (e :: ·) (ih hr hr' fun x => ?_)
      constructor
      · intro hx
        rcases List.mem_cons.1 ((hm x).1 (.tail _ hx)) with rfl | hx'
        · exact absurd (hk _ hx) (String.lt_irrefl _)
        · exact hx'
      · intro hx
        rcases List.mem_cons.1 ((hm x).2 (.tail _ hx)) with rfl | hx'
        · exact absurd (hk' _ hx) (String.lt_irrefl _)
        · exact hx'

/-- Maps that answer every look-up alike are equal. -/
theorem ext {m m' : Keyed α} (h : ∀ key, m.get? key = m'.get? key) : m = m' := by
  obtain ⟨l, hl⟩ := m
  obtain ⟨l', hl'⟩ := m'
  congr
  refine eq_of_mem_iff hl hl' fun ⟨key, a⟩ => ?_
  rw [← find?_eq_some hl, ← find?_eq_some hl']
  exact iff_of_eq (congrArg (· = some a) (h key))

end Keyed

/-- A finite set of names. -/
abbrev Names := Keyed Unit

namespace Names

/-- The names of a list. -/
def ofList (names : List String) : Names := Keyed.ofList (names.map (·, ()))

/-- Whether a name is in the set. -/
def contains (s : Names) (name : String) : Bool := (s.get? name).isSome

end Names

end ForgeBridge
