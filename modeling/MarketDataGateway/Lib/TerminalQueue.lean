import Mathlib.Data.List.Basic

/-!
# A bounded queue with a terminal

Elements wait in a queue of bounded length. Behind them there may be one terminal, which shows when the queue is empty; nothing comes
after it. Elements and the terminal are numbered in one row; the last number is kept for the terminal.

Nothing here is about one system: elements, terminals and how they are made from their numbers are parameters.
-/

namespace Containers

/-- Whether a queue takes elements, takes none any more, or is over. -/
inductive Standing where
  | accepting | ended | closed
  deriving DecidableEq, Repr

structure TerminalQueue (α τ : Type) where
  capacity : Nat
  last : Nat
  queue : List α
  terminal : Option τ
  standing : Standing
  next : Nat

/-- What a reader sees. -/
inductive Visible (α τ : Type) where
  | nothing
  | element (a : α)
  | terminal (t : τ)

inductive Offer where
  | admitted | ended | inactive | refused
  deriving DecidableEq, Repr

inductive Receipt where
  | taken | over | mismatch
  deriving DecidableEq, Repr

/-- An offer makes its element from the next number, if it can, or the terminal when the queue is full. One that is rejected has nothing
to be made. -/
inductive QueueOperation (α τ : Type) where
  | offer (element : Nat → Option α) (lost : Nat → τ)
  | reject
  | terminate (terminal : Nat → τ)
  | finish
  | look
  | take (seen : Visible α τ)
  | close
  | empty

/-- What an operation makes from a number has that number. -/
def QueueOperation.Numbers {α τ : Type} (number : α ⊕ τ → Nat) : QueueOperation α τ → Prop
  | .offer element lost => (∀ n a, element n = some a → number (.inl a) = n) ∧ ∀ n, number (.inr (lost n)) = n
  | .terminate terminal => ∀ n, number (.inr (terminal n)) = n
  | _ => True

inductive QueueAnswer (α τ : Type) where
  | offered (result : Offer)
  | begun (result : Bool)
  | shown (seen : Visible α τ)
  | received (result : Receipt)
  | done

namespace TerminalQueue

variable {α τ : Type}

/-- The first element, or behind the last one the terminal. -/
def visible (q : TerminalQueue α τ) : Visible α τ :=
  if q.standing = .closed then .nothing
  else
    match q.queue, q.terminal with
    | a :: _, _ => .element a
    | [], some t => .terminal t
    | [], none => .nothing

def terminate (terminal : Nat → τ) (q : TerminalQueue α τ) : TerminalQueue α τ :=
  { q with
    terminal := some (terminal q.next)
    next := if q.next ≠ q.last then q.next + 1 else q.next
    standing := .ended }

def offer (element : Nat → Option α) (lost : Nat → τ) (q : TerminalQueue α τ) : Offer × TerminalQueue α τ :=
  if q.standing ≠ .accepting then (.inactive, q)
  else if q.queue.length = q.capacity then (.ended, q.terminate lost)
  else if q.next = q.last then (.refused, q)
  else
    match element q.next with
    | none => (.refused, q)
    | some a => (.admitted, { q with queue := q.queue ++ [a], next := q.next + 1 })

open Classical in
/-- A reader takes what it has seen, if that is what it would see now. -/
noncomputable def take (seen : Visible α τ) (q : TerminalQueue α τ) : Receipt × TerminalQueue α τ :=
  if q.standing = .closed then (.over, q)
  else if seen = q.visible then
    match seen with
    | .element _ => (.taken, { q with queue := q.queue.tail })
    | .terminal _ => (.over, { q with terminal := none, standing := .closed })
    | .nothing => (.mismatch, q)
  else (.mismatch, q)

noncomputable def perform (q : TerminalQueue α τ) : QueueOperation α τ → QueueAnswer α τ × TerminalQueue α τ
  | .offer element lost => (.offered (q.offer element lost).1, (q.offer element lost).2)
  | .reject => (.offered (if q.standing ≠ .accepting then .inactive else .refused), q)
  | .terminate terminal => if q.standing ≠ .accepting then (.begun false, q) else (.begun true, q.terminate terminal)
  | .finish => if q.standing ≠ .accepting then (.begun false, q) else (.begun true, { q with standing := .ended })
  | .look => (.shown q.visible, q)
  | .take seen => (.received (q.take seen).1, (q.take seen).2)
  | .close => (.done, { q with standing := .closed })
  | .empty => (.done, { q with queue := [], terminal := none, standing := .closed })

/-- What an operation has put into the queue, or behind it. -/
def stored (answer : QueueAnswer α τ) (after : TerminalQueue α τ) : List (α ⊕ τ) :=
  match answer with
  | .offered .admitted => after.queue.getLast?.toList.map .inl
  | .offered .ended | .begun true => after.terminal.toList.map .inr
  | _ => []

/-- A row of operations: their answers, what they have stored, and the queue they leave. -/
noncomputable def run : List (QueueOperation α τ) → TerminalQueue α τ →
    List (QueueAnswer α τ) × List (α ⊕ τ) × TerminalQueue α τ
  | [], q => ([], [], q)
  | operation :: operations, q =>
    let r := q.perform operation
    let rest := run operations r.2
    (r.1 :: rest.1, stored r.1 r.2 ++ rest.2.1, rest.2.2)

/-! ## One operation -/

structure Sound (q : TerminalQueue α τ) : Prop where
  room : q.queue.length ≤ q.capacity
  unended : q.standing = .accepting → q.terminal = none
  within : q.next ≤ q.last

/-- What an operation may have stored, and what it leaves: nothing new, one element more, or a terminal. -/
inductive Leaves (number : α ⊕ τ → Nat) (q : TerminalQueue α τ) : List (α ⊕ τ) → TerminalQueue α τ → Prop where
  | less {q'} (hqueue : q'.queue <:+ q.queue) (hterminal : q'.terminal = q.terminal ∨ q'.terminal = none)
      (hcapacity : q'.capacity = q.capacity) (hlast : q'.last = q.last) (hnext : q'.next = q.next)
      (haccepting : q'.standing = .accepting → q.standing = .accepting)
      (hclosed : q.standing = .closed → q'.standing = .closed) : Leaves number q [] q'
  | element {a} (ha : q.standing = .accepting) (hroom : q.queue.length ≠ q.capacity) (hnext : q.next ≠ q.last)
      (hn : number (.inl a) = q.next) :
      Leaves number q [.inl a] { q with queue := q.queue ++ [a], next := q.next + 1 }
  | terminal {t : Nat → τ} (ha : q.standing = .accepting) (hn : number (.inr (t q.next)) = q.next) :
      Leaves number q [.inr (t q.next)] (q.terminate t)

variable {number : α ⊕ τ → Nat} {q q' : TerminalQueue α τ}

/-- A queue that is left alone leaves nothing behind. -/
theorem Leaves.same : Leaves number q [] q :=
  .less List.suffix_rfl (Or.inl rfl) rfl rfl rfl id id

/-- An offer leaves the element it queues, or the terminal that stands for the lost one. -/
theorem offer_leaves {element : Nat → Option α} {lost : Nat → τ} (hn : (QueueOperation.offer element lost).Numbers number) :
    Leaves number q (stored (.offered (q.offer element lost).1) (q.offer element lost).2) (q.offer element lost).2 := by
  by_cases ha : q.standing = .accepting
  · by_cases hfull : q.queue.length = q.capacity
    · have he : q.offer element lost = (.ended, q.terminate lost) := by simp [offer, ha, hfull]
      rw [he]
      exact .terminal ha (hn.2 q.next)
    by_cases hlast : q.next = q.last
    · have he : q.offer element lost = (.refused, q) := by simp [offer, ha, hfull, hlast]
      rw [he]
      exact .same
    cases hmake : element q.next with
    | none =>
      have he : q.offer element lost = (.refused, q) := by simp [offer, ha, hfull, hlast, hmake]
      rw [he]
      exact .same
    | some a =>
      have he : q.offer element lost = (.admitted, { q with queue := q.queue ++ [a], next := q.next + 1 }) := by
        simp [offer, ha, hfull, hlast, hmake]
      rw [he]
      have hstored : stored (.offered .admitted) { q with queue := q.queue ++ [a], next := q.next + 1 } = [.inl a] := by
        simp [stored]
      rw [hstored]
      exact .element ha hfull hlast (hn.1 _ _ hmake)
  · have he : q.offer element lost = (.inactive, q) := by simp [offer, ha]
    rw [he]
    exact .same

/-- An open queue shows an element just when it is the first one queued. -/
theorem visible_element {a : α} (h : q.standing ≠ .closed) : q.visible = .element a ↔ q.queue.head? = some a := by
  rw [visible, if_neg h]
  cases q.queue with
  | cons b rest => simp
  | nil => cases q.terminal <;> simp

/-- An open queue shows its terminal just when nothing is queued before it. -/
theorem visible_terminal {t : τ} (h : q.standing ≠ .closed) :
    q.visible = .terminal t ↔ q.queue = [] ∧ q.terminal = some t := by
  rw [visible, if_neg h]
  cases q.queue with
  | cons b rest => simp
  | nil => cases q.terminal <;> simp

/-- Nothing can be taken from a closed queue. -/
theorem take_closed (seen : Visible α τ) (h : q.standing = .closed) : q.take seen = (.over, q) := if_pos h

/-- Taking what is not shown is refused. -/
theorem take_other {seen : Visible α τ} (h : q.standing ≠ .closed) (hs : seen ≠ q.visible) : q.take seen = (.mismatch, q) := by
  unfold take
  rw [if_neg h, if_neg hs]

/-- Taking the element that is shown removes it. -/
theorem take_element {a : α} (h : q.standing ≠ .closed) (hs : q.visible = .element a) :
    q.take (.element a) = (.taken, { q with queue := q.queue.tail }) := by
  simp [take, h, hs]

/-- Taking the terminal that is shown closes the queue. -/
theorem take_terminal {t : τ} (h : q.standing ≠ .closed) (hs : q.visible = .terminal t) :
    q.take (.terminal t) = (.over, { q with terminal := none, standing := .closed }) := by
  simp [take, h, hs]

/-- There is no taking nothing. -/
theorem take_nothing (h : q.standing ≠ .closed) : q.take .nothing = (.mismatch, q) := by
  simp [take, h]

/-- Taking adds nothing to what the queue has stored. -/
theorem take_leaves (seen : Visible α τ) : Leaves number q [] (q.take seen).2 := by
  by_cases hc : q.standing = .closed
  · rw [take_closed seen hc]
    exact .same
  by_cases hs : seen = q.visible
  · cases seen with
    | nothing =>
      rw [take_nothing hc]
      exact .same
    | element a =>
      rw [take_element hc hs.symm]
      exact .less (List.tail_suffix _) (Or.inl rfl) rfl rfl rfl id id
    | terminal t =>
      rw [take_terminal hc hs.symm]
      exact .less List.suffix_rfl (Or.inr rfl) rfl rfl rfl (by simp) fun h => absurd h hc
  · rw [take_other hc hs]
    exact .same

/-- Each operation stores what its answer says, with the next number. -/
theorem perform_leaves (hq : q.Sound) {operation : QueueOperation α τ} (hn : operation.Numbers number) :
    Leaves number q (stored (q.perform operation).1 (q.perform operation).2) (q.perform operation).2 := by
  cases operation with
  | offer element lost => exact offer_leaves hn
  | reject =>
    simp only [perform]
    split <;> exact .same
  | terminate t =>
    by_cases ha : q.standing = .accepting
    · have he : q.perform (.terminate t) = (.begun true, q.terminate t) := by simp [perform, ha]
      rw [he]
      exact .terminal ha (hn q.next)
    · have he : q.perform (.terminate t) = (.begun false, q) := by simp [perform, ha]
      rw [he]
      exact .same
  | finish =>
    by_cases ha : q.standing = .accepting
    · have he : q.perform .finish = (.begun true, { q with standing := .ended }) := by simp [perform, ha]
      rw [he]
      have hstored : stored (.begun true) { q with standing := .ended } = ([] : List (α ⊕ τ)) := by
        simp [stored, hq.unended ha]
      rw [hstored]
      exact .less List.suffix_rfl (Or.inl rfl) rfl rfl rfl (by simp) (by simp [ha])
    · have he : q.perform .finish = (.begun false, q) := by simp [perform, ha]
      rw [he]
      exact .same
  | look => exact .same
  | take seen => exact take_leaves seen
  | close => exact .less List.suffix_rfl (Or.inl rfl) rfl rfl rfl (by simp [perform]) (by simp [perform])
  | empty => exact .less (List.nil_suffix) (Or.inr rfl) rfl rfl rfl (by simp [perform]) (by simp [perform])

/-- What an operation leaves keeps the queue sound. -/
theorem Leaves.sound {new : List (α ⊕ τ)} (h : Leaves number q new q') (hq : q.Sound) : q'.Sound := by
  cases h with
  | less hqueue hterminal hcapacity hlast hnext haccepting hclosed =>
    refine ⟨?_, fun ha => ?_, ?_⟩
    · rw [hcapacity]
      exact Nat.le_trans hqueue.length_le hq.room
    · rcases hterminal with ht | ht
      · rw [ht]
        exact hq.unended (haccepting ha)
      · exact ht
    · rw [hnext, hlast]
      exact hq.within
  | element ha hroom hnext hn =>
    have hroom' := hq.room
    have hwithin := hq.within
    refine ⟨?_, fun _ => hq.unended ha, ?_⟩
    · simp only [List.length_append, List.length_singleton]
      omega
    · show q.next + 1 ≤ q.last
      omega
  | terminal ha hn =>
    have hwithin := hq.within
    refine ⟨hq.room, fun h => (by cases h), ?_⟩
    simp only [terminate]
    split <;> omega

/-- The element that is shown is queued. -/
theorem visible_mem {a : α} (h : q.visible = .element a) : a ∈ q.queue := by
  by_cases hc : q.standing = .closed
  · simp [visible, hc] at h
  · exact List.mem_of_head? ((visible_element hc).mp h)

/-- A reader is shown what is in the queue. -/
theorem perform_shown {operation : QueueOperation α τ} {a : α} (h : (q.perform operation).1 = .shown (.element a)) :
    a ∈ q.queue := by
  cases operation with
  | look => exact visible_mem (by simpa [perform] using h)
  | terminate | finish =>
    simp only [perform] at h
    split at h <;> cases h
  | offer | reject | take | close | empty => cases h

/-- An element of the queue was there before, or has just been made from the next number. -/
theorem perform_queue {operation : QueueOperation α τ} {a : α} (h : a ∈ (q.perform operation).2.queue) :
    a ∈ q.queue ∨ ∃ element lost, operation = .offer element lost ∧ element q.next = some a := by
  cases operation with
  | offer element lost =>
    simp only [perform, offer] at h
    split at h
    · exact Or.inl h
    split at h
    · exact Or.inl h
    split at h
    · exact Or.inl h
    split at h
    · exact Or.inl h
    · rename_i b hmake
      rcases List.mem_append.mp h with h | h
      · exact Or.inl h
      · rw [List.mem_singleton.mp h]
        exact Or.inr ⟨element, lost, rfl, hmake⟩
  | terminate | finish =>
    simp only [perform] at h
    split at h <;> exact Or.inl h
  | take seen =>
    have hleaves : Leaves (fun _ => 0) q [] (q.take seen).2 := take_leaves seen
    cases hleaves with
    | less hqueue => exact Or.inl (hqueue.subset h)
  | empty => cases h
  | reject | look | close => exact Or.inl h

/-! ## A row of operations -/

/-- What has been stored, in order: elements, and at most one terminal, which is the last. The numbers increase. -/
structure Row (number : α ⊕ τ → Nat) (first : Nat) (new : List (α ⊕ τ)) : Prop where
  increasing : (new.map number).Pairwise (· < ·)
  from_first : ∀ x ∈ new, first ≤ number x
  terminal_last : ∃ (elements : List α) (terminal : Option τ), new = elements.map .inl ++ terminal.toList.map .inr

/-- An empty row carries on from any number. -/
theorem Row.nil {first : Nat} : Row number first [] :=
  ⟨List.Pairwise.nil, fun x hx => (by cases hx), [], none, rfl⟩

/-- A terminal ends a row. -/
theorem Row.terminal {first : Nat} {t : τ} (hn : number (.inr t) = first) : Row number first [.inr t] := by
  refine ⟨List.pairwise_singleton _ _, ?_, [], some t, rfl⟩
  intro x hx
  rw [List.mem_singleton.mp hx]
  exact Nat.le_of_eq hn.symm

/-- An element goes before a row that begins with the next number. -/
theorem Row.cons {first : Nat} {a : α} {new : List (α ⊕ τ)} (hn : number (.inl a) = first) (h : Row number (first + 1) new) :
    Row number first (.inl a :: new) := by
  obtain ⟨elements, terminal, hnew⟩ := h.terminal_last
  refine ⟨?_, ?_, a :: elements, terminal, by rw [hnew]; rfl⟩
  · rw [List.map_cons, List.pairwise_cons]
    refine ⟨?_, h.increasing⟩
    intro n hmem
    obtain ⟨x, hx, rfl⟩ := List.mem_map.mp hmem
    have hfirst := h.from_first x hx
    omega
  · intro x hx
    rcases List.mem_cons.mp hx with rfl | hx
    · omega
    · exact Nat.le_of_succ_le (h.from_first x hx)

/-- A row goes on from what has numbers below its first. -/
theorem Row.behind {first : Nat} {old new : List (α ⊕ τ)} (h : Row number first new)
    (hold : (old.map number).Pairwise (· < ·)) (hbelow : ∀ x ∈ old, number x < first) :
    ((old ++ new).map number).Pairwise (· < ·) := by
  rw [List.map_append, List.pairwise_append]
  refine ⟨hold, h.increasing, ?_⟩
  intro m hm n hn
  obtain ⟨x, hx, rfl⟩ := List.mem_map.mp hm
  obtain ⟨y, hy, rfl⟩ := List.mem_map.mp hn
  have hx := hbelow x hx
  have hy := h.from_first y hy
  omega

/-- Once a queue accepts nothing, nothing is stored. -/
theorem run_unaccepting {operations : List (QueueOperation α τ)} (hn : ∀ operation ∈ operations, operation.Numbers number)
    (hq : q.Sound) (ha : q.standing ≠ .accepting) : (run operations q).2.1 = [] := by
  induction operations generalizing q with
  | nil => rfl
  | cons operation operations ih =>
    have hleaves := perform_leaves hq (hn operation List.mem_cons_self)
    have hrest := ih (fun o ho => hn o (List.mem_cons_of_mem _ ho)) (hleaves.sound hq)
    simp only [run]
    generalize stored (q.perform operation).1 (q.perform operation).2 = new at hleaves ⊢
    generalize (q.perform operation).2 = after at hleaves hrest ⊢
    cases hleaves with
    | less _ _ _ _ _ haccepting _ => exact hrest fun h => ha (haccepting h)
    | element h => exact absurd h ha
    | terminal h => exact absurd h ha

/-- A run of operations stores a row of consecutive numbers. -/
theorem run_row {operations : List (QueueOperation α τ)} (hn : ∀ operation ∈ operations, operation.Numbers number)
    (hq : q.Sound) : Row number q.next (run operations q).2.1 := by
  induction operations generalizing q with
  | nil => exact .nil
  | cons operation operations ih =>
    have hleaves := perform_leaves hq (hn operation List.mem_cons_self)
    have hmore : ∀ o ∈ operations, o.Numbers number := fun o ho => hn o (List.mem_cons_of_mem _ ho)
    have hsound := hleaves.sound hq
    have hrest := ih hmore hsound
    have hended := run_unaccepting hmore hsound
    simp only [run]
    generalize stored (q.perform operation).1 (q.perform operation).2 = new at hleaves ⊢
    generalize (q.perform operation).2 = after at hleaves hrest hended ⊢
    cases hleaves with
    | less _ _ _ _ hnext _ _ => exact hnext ▸ hrest
    | element ha hroom hlast hnumber => exact hrest.cons hnumber
    | terminal ha hnumber =>
      rw [hended (by simp [terminate])]
      exact .terminal hnumber

/-- A terminal that is in place was there before, or is the one that has been stored. -/
theorem run_terminal {operations : List (QueueOperation α τ)} (hn : ∀ operation ∈ operations, operation.Numbers number)
    (hq : q.Sound) {t : τ} (ht : (run operations q).2.2.terminal = some t) :
    q.terminal = some t ∨ .inr t ∈ (run operations q).2.1 := by
  induction operations generalizing q with
  | nil => exact Or.inl ht
  | cons operation operations ih =>
    have hleaves := perform_leaves hq (hn operation List.mem_cons_self)
    have hrest := ih (fun o ho => hn o (List.mem_cons_of_mem _ ho)) (hleaves.sound hq) ht
    simp only [run]
    generalize stored (q.perform operation).1 (q.perform operation).2 = new at hleaves ⊢
    generalize (q.perform operation).2 = after at hleaves hrest ⊢
    rcases hrest with hafter | hmem
    · cases hleaves with
      | less _ hterminal _ _ _ _ _ =>
        rcases hterminal with he | he
        · exact Or.inl (he ▸ hafter)
        · rw [he] at hafter
          cases hafter
      | element => exact Or.inl hafter
      | terminal =>
        cases hafter
        exact Or.inr List.mem_cons_self
    · exact Or.inr (List.mem_append_right _ hmem)

/-- What is over stays over. -/
theorem run_closed {operations : List (QueueOperation α τ)} (hn : ∀ operation ∈ operations, operation.Numbers number)
    (hq : q.Sound) (hc : q.standing = .closed) : (run operations q).2.2.standing = .closed := by
  induction operations generalizing q with
  | nil => exact hc
  | cons operation operations ih =>
    have hleaves := perform_leaves hq (hn operation List.mem_cons_self)
    refine ih (fun o ho => hn o (List.mem_cons_of_mem _ ho)) (hleaves.sound hq) ?_
    generalize stored (q.perform operation).1 (q.perform operation).2 = new at hleaves
    generalize (q.perform operation).2 = after at hleaves ⊢
    cases hleaves with
    | less _ _ _ _ _ _ hclosed => exact hclosed hc
    | element ha =>
      rw [hc] at ha
      cases ha
    | terminal ha =>
      rw [hc] at ha
      cases ha

end TerminalQueue

end Containers
