import Mathlib.Data.List.TakeWhile

/-!
# Runs at the front of a list

What `takeWhile` and `dropWhile` make of a list that is put together of two, where the second one starts with an
element that ends the run, or is empty.
-/

namespace ForgeBridge

section
variable {α : Type} {p : α → Bool} {xs ys : List α}

/-- A run ends in front of an element that is not of its class. -/
theorem stop_cons {c : α} (h : p c = false) (cs : List α) : ∀ d ∈ (c :: cs).head?, p d = false := by
  rintro d ⟨⟩
  exact h

theorem takeWhile_eq_nil (h : ∀ c ∈ ys.head?, p c = false) : ys.takeWhile p = [] := by
  cases ys with
  | nil => rfl
  | cons c cs => rw [List.takeWhile_cons, h c rfl]; rfl

theorem dropWhile_eq_self (h : ∀ c ∈ ys.head?, p c = false) : ys.dropWhile p = ys := by
  cases ys with
  | nil => rfl
  | cons c cs => rw [List.dropWhile_cons, h c rfl]; rfl

theorem takeWhile_append_stop (h : ∀ c ∈ ys.head?, p c = false) :
    (xs ++ ys).takeWhile p = xs.takeWhile p := by
  rw [List.takeWhile_append, takeWhile_eq_nil h, List.append_nil]
  split
  · rename_i hlen
    exact ((List.takeWhile_prefix p).eq_of_length hlen).symm
  · rfl

theorem dropWhile_append_stop (h : ∀ c ∈ ys.head?, p c = false) :
    (xs ++ ys).dropWhile p = xs.dropWhile p ++ ys := by
  rw [List.dropWhile_append, dropWhile_eq_self h]
  split
  · rename_i hnil
    rw [List.isEmpty_iff.1 hnil, List.nil_append]
  · rfl

/-- A run is taken as a whole. -/
theorem takeWhile_run (hxs : ∀ x ∈ xs, p x = true) (h : ∀ c ∈ ys.head?, p c = false) :
    (xs ++ ys).takeWhile p = xs := by
  rw [List.takeWhile_append_of_pos hxs, takeWhile_eq_nil h, List.append_nil]

theorem dropWhile_run (hxs : ∀ x ∈ xs, p x = true) (h : ∀ c ∈ ys.head?, p c = false) :
    (xs ++ ys).dropWhile p = ys := by
  rw [List.dropWhile_append_of_pos hxs, dropWhile_eq_self h]

end

end ForgeBridge
