import Mathlib.Data.List.Basic

/-!
# Lists as heaps

Objects that are only ever added can be numbered in the order of their making: the heap is then a list, an address an index. What is
found at an address after a write or an allocation is the new object there, or the old one elsewhere.
-/

namespace Containers

variable {α : Type} {xs : List α} {i j : Nat} {x y : α}

/-- What a heap holds after a write is what was written, or what another place held before. -/
theorem getElem?_set_cases (h : (xs.set i x)[j]? = some y) : (j = i ∧ y = x) ∨ (j ≠ i ∧ xs[j]? = some y) := by
  rw [List.getElem?_set] at h
  by_cases hij : i = j
  · subst hij
    rw [if_pos rfl] at h
    split at h
    · exact Or.inl ⟨rfl, (Option.some.inj h).symm⟩
    · cases h
  · rw [if_neg hij] at h
    exact Or.inr ⟨fun he => hij he.symm, h⟩

/-- A write to a place in use can be read back. -/
theorem getElem?_set_self (h : xs[i]? = some x) : (xs.set i y)[i]? = some y := by
  rw [List.getElem?_set_self (List.getElem?_eq_some_iff.mp h).1]

/-- A write leaves the other places alone. -/
theorem getElem?_set_other (h : j ≠ i) : (xs.set i x)[j]? = xs[j]? := List.getElem?_set_ne (Ne.symm h)

/-- What a heap holds after an allocation is the new value in the new place, or what was there before. -/
theorem getElem?_push_cases (h : (xs ++ [x])[j]? = some y) :
    (j = xs.length ∧ y = x) ∨ (j ≠ xs.length ∧ xs[j]? = some y) := by
  rcases Nat.lt_trichotomy j xs.length with hlt | rfl | hgt
  · rw [List.getElem?_append_left hlt] at h
    exact Or.inr ⟨Nat.ne_of_lt hlt, h⟩
  · simp at h
    exact Or.inl ⟨rfl, h.symm⟩
  · rw [List.getElem?_eq_none (by simp; omega)] at h
    cases h

/-- An allocation moves nothing. -/
theorem getElem?_push_old (h : xs[j]? = some y) : (xs ++ [x])[j]? = some y := by
  rw [List.getElem?_append_left (List.getElem?_eq_some_iff.mp h).1]
  exact h

end Containers
