import Mathlib.Data.Nat.ModEq
import Mathlib.Data.List.Basic

/-!
# A ring of slots is a bounded queue

`Ring` is the usual circular buffer: a vector of slots, the index of the first filled one and how many are filled. `toList` reads
the filled slots in order; `push`, `pop` and `front` are then the operations of a queue.
-/

namespace Containers

/-- A ring of `n` slots, of which `size` are filled, from `head` on and round the end. -/
structure Ring (α : Type) (n : Nat) where
  slots : Vector (Option α) n
  head : Nat
  size : Nat
  head_lt : head < n
  size_le : size ≤ n
  filled : ∀ i, i < size → ∃ x, slots[(head + i) % n]? = some (some x)

namespace Ring

variable {α : Type} {n : Nat}

/-- The slot `i` places behind the head. -/
def slot (r : Ring α n) (i : Nat) : Option α := (r.slots[(r.head + i) % n]?).join

/-- What the ring holds, oldest first. -/
def toList (r : Ring α n) : List α := (List.range r.size).filterMap r.slot

/-- A ring that holds nothing. -/
def empty (h : 0 < n) : Ring α n where
  slots := Vector.replicate n none
  head := 0
  size := 0
  head_lt := h
  size_le := Nat.zero_le n
  filled := fun _ hi => absurd hi (Nat.not_lt_zero _)

/-- A ring has a slot. -/
theorem pos (r : Ring α n) : 0 < n := Nat.lt_of_le_of_lt (Nat.zero_le _) r.head_lt

/-- Two places less than a turn apart are different slots. -/
theorem index_injective {h i j : Nat} (hi : i < n) (hj : j < n) (he : (h + i) % n = (h + j) % n) : i = j :=
  (Nat.ModEq.add_left_cancel' h he).eq_of_lt_of_lt hi hj

/-- The slots in use are filled. -/
theorem slot_filled (r : Ring α n) {i : Nat} (hi : i < r.size) : ∃ x, r.slot i = some x := by
  obtain ⟨x, hx⟩ := r.filled i hi
  exact ⟨x, by rw [slot, hx]; rfl⟩

/-- `toList` has the filled slots and nothing else. -/
theorem toList_eq_of_slots (r : Ring α n) (xs : List α) (hl : xs.length = r.size)
    (hs : ∀ i, i < r.size → r.slot i = xs[i]?) : r.toList = xs := by
  have hmap : r.toList = (List.range xs.length).filterMap (fun i => xs[i]?) := by
    rw [toList, ← hl]
    exact List.filterMap_congr (fun i hi => hs i (hl ▸ List.mem_range.mp hi))
  rw [hmap]
  clear hmap hl hs
  induction xs with
  | nil => rfl
  | cons x xs ih =>
    rw [List.length_cons, List.range_succ_eq_map, List.filterMap_cons, List.filterMap_map]
    simpa [Function.comp_def] using ih

/-- The first `m` filled slots are `m` elements. -/
theorem prefix_length (r : Ring α n) {m : Nat} (hm : m ≤ r.size) :
    ((List.range m).filterMap r.slot).length = m := by
  induction m with
  | zero => rfl
  | succ m ih =>
    obtain ⟨x, hx⟩ := r.slot_filled (Nat.lt_of_succ_le hm)
    rw [List.range_succ, List.filterMap_append, List.length_append, ih (Nat.le_of_succ_le hm)]
    simp [hx]

/-- The contents are as many as the size says. -/
theorem toList_length (r : Ring α n) : r.toList.length = r.size := r.prefix_length (Nat.le_refl _)

/-- The contents are the slots in use, in order. -/
theorem getElem?_toList (r : Ring α n) {i : Nat} (hi : i < r.size) : r.toList[i]? = r.slot i := by
  suffices h : ∀ m, m ≤ r.size → ∀ i, i < m → ((List.range m).filterMap r.slot)[i]? = r.slot i from
    h _ (Nat.le_refl _) i hi
  intro m hm
  induction m with
  | zero => intro i hi; exact absurd hi (Nat.not_lt_zero _)
  | succ m ih =>
    intro i hi
    have hlen := r.prefix_length (Nat.le_of_succ_le hm)
    rw [List.range_succ, List.filterMap_append]
    rcases Nat.lt_succ_iff_lt_or_eq.mp hi with hlt | rfl
    · rw [List.getElem?_append_left (by omega)]
      exact ih (Nat.le_of_succ_le hm) i hlt
    · obtain ⟨x, hx⟩ := r.slot_filled (Nat.lt_of_succ_le hm)
      rw [List.getElem?_append_right (by omega), hlen]
      simp [hx]

/-- The oldest element. -/
def front (r : Ring α n) : Option α := if r.size = 0 then none else r.slot 0

/-- Write behind the last element, when a slot is free. -/
def push (r : Ring α n) (x : α) (h : r.size < n) : Ring α n where
  slots := r.slots.set ((r.head + r.size) % n) (some x) (Nat.mod_lt _ r.pos)
  head := r.head
  size := r.size + 1
  head_lt := r.head_lt
  size_le := h
  filled := by
    intro i hi
    rw [Vector.getElem?_set]
    by_cases he : (r.head + r.size) % n = (r.head + i) % n
    · exact ⟨x, by rw [if_pos he]⟩
    · have hne : i ≠ r.size := fun h => he (by rw [h])
      obtain ⟨y, hy⟩ := r.filled i (by omega)
      exact ⟨y, by rw [if_neg he, hy]⟩

/-- The slots behind a head that has moved on by one. -/
theorem index_pop (r : Ring α n) (i : Nat) : ((r.head + 1) % n + i) % n = (r.head + (i + 1)) % n := by
  rw [Nat.mod_add_mod]; congr 1; omega

/-- The slot a pop empties is none of those that stay filled. -/
theorem head_ne_index (r : Ring α n) {i : Nat} (hi : i < r.size - 1) : r.head ≠ (r.head + (i + 1)) % n := by
  have hs := r.size_le
  intro he
  have h0 : (r.head + 0) % n = (r.head + (i + 1)) % n := by rw [Nat.add_zero, Nat.mod_eq_of_lt r.head_lt]; exact he
  have := index_injective r.pos (by omega) h0
  omega

/-- Empty the first slot and move the head on. -/
def pop (r : Ring α n) : Ring α n where
  slots := r.slots.set r.head none r.head_lt
  head := (r.head + 1) % n
  size := r.size - 1
  head_lt := Nat.mod_lt _ r.pos
  size_le := Nat.le_trans (Nat.sub_le _ _) r.size_le
  filled := by
    intro i hi
    obtain ⟨y, hy⟩ := r.filled (i + 1) (by omega)
    exact ⟨y, by rw [Vector.getElem?_set, r.index_pop, if_neg (r.head_ne_index hi), hy]⟩

@[simp] theorem toList_empty (h : 0 < n) : (empty h : Ring α n).toList = [] := rfl

@[simp] theorem size_empty (h : 0 < n) : (empty h : Ring α n).size = 0 := rfl

@[simp] theorem size_push (r : Ring α n) (x : α) (h : r.size < n) : (r.push x h).size = r.size + 1 := rfl

@[simp] theorem size_pop (r : Ring α n) : r.pop.size = r.size - 1 := rfl

/-- Pushing appends. -/
@[simp] theorem toList_push (r : Ring α n) (x : α) (h : r.size < n) : (r.push x h).toList = r.toList ++ [x] := by
  apply toList_eq_of_slots
  · rw [List.length_append, toList_length]; rfl
  · intro i hi
    have hi' : i < r.size + 1 := hi
    by_cases he : i = r.size
    · subst he
      rw [List.getElem?_append_right (by rw [toList_length]), toList_length]
      simp [slot, push]
    · have hne : (r.head + r.size) % n ≠ (r.head + i) % n := fun h' =>
        he (index_injective (by omega) h h'.symm)
      rw [List.getElem?_append_left (by rw [toList_length]; omega), r.getElem?_toList (by omega)]
      simp [slot, push, hne]

/-- Popping drops the oldest element. -/
@[simp] theorem toList_pop (r : Ring α n) : r.pop.toList = r.toList.tail := by
  apply toList_eq_of_slots
  · rw [List.length_tail, toList_length]; rfl
  · intro i hi
    have hi' : i < r.size - 1 := hi
    rw [List.getElem?_tail, r.getElem?_toList (by omega)]
    simp [slot, pop, r.index_pop, r.head_ne_index hi']

/-- The front is the first element of the queue. -/
theorem front_eq_head? (r : Ring α n) : r.front = r.toList.head? := by
  unfold front
  split
  · rename_i h
    have : r.toList = [] := List.eq_nil_of_length_eq_zero (by rw [toList_length, h])
    rw [this]; rfl
  · rw [← r.getElem?_toList (by omega), List.head?_eq_getElem?]

/-- Empty every slot, as a writer that leaves does: pop until nothing is left. -/
def clear (r : Ring α n) : Ring α n := Nat.repeat pop r.size r

/-- So many pops drop so many of the oldest. -/
theorem toList_repeat_pop (r : Ring α n) (k : Nat) : (Nat.repeat pop k r).toList = r.toList.drop k := by
  induction k with
  | zero => rfl
  | succ k ih => rw [Nat.repeat, toList_pop, ih, List.tail_drop]

/-- A cleared ring holds nothing. -/
@[simp] theorem toList_clear (r : Ring α n) : r.clear.toList = [] := by
  rw [clear, toList_repeat_pop, List.drop_eq_nil_of_le]
  rw [toList_length]

/-- A ring of size zero is one that holds nothing. -/
theorem size_eq_zero_iff (r : Ring α n) : r.size = 0 ↔ r.toList = [] := by
  rw [← toList_length, List.length_eq_zero_iff]

end Ring

end Containers
