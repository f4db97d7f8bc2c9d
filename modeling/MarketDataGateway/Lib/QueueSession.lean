import MarketDataGateway.Lib.TerminalQueue
import Mathlib.Data.List.Nodup

/-!
# Sessions with a queue

A system that is used as a queue, and a reader that keeps what it has seen for as long as it likes. The system tells elements apart by
their address only. That is enough, because an element that is still referred to keeps its address, so that a new one is elsewhere.
-/

namespace Containers

/-- Which queue a system stands for, and which operation of the queue each of its operations. -/
structure QueueSystem (σ ω α τ : Type) where
  asQueue : σ → TerminalQueue α τ
  onQueue : ω → QueueOperation α τ
  perform : σ → ω → QueueAnswer α τ × σ
  address : α → Nat
  number : α ⊕ τ → Nat

structure Session (σ α τ : Type) where
  system : σ
  held : List (Visible α τ)

namespace QueueSystem

variable {σ ω α τ : Type}

/-- The elements that somebody refers to. -/
def Refers (Q : QueueSystem σ ω α τ) (s : Session σ α τ) (a : α) : Prop :=
  a ∈ (Q.asQueue s.system).queue ∨ .element a ∈ s.held

/-- A new element is where no other one is, and a reader takes what it holds. -/
def Permits (Q : QueueSystem σ ω α τ) (s : Session σ α τ) (operation : ω) : Prop :=
  match Q.onQueue operation with
  | .offer element _ => ∀ a, element (Q.asQueue s.system).next = some a → ∀ b, Q.Refers s b → Q.address b ≠ Q.address a
  | .take seen => seen ∈ s.held
  | _ => True

/-- What a reader is shown, it holds. -/
def next (Q : QueueSystem σ ω α τ) (s : Session σ α τ) (operation : ω) : Session σ α τ where
  system := (Q.perform s.system operation).2
  held :=
    match (Q.perform s.system operation).1 with
    | .shown seen => seen :: s.held
    | _ => s.held

/-- The runs of a session: the operations, their answers and what they have stored. The reader may let go of anything at any time. -/
inductive Run (Q : QueueSystem σ ω α τ) :
    Session σ α τ → List ω → List (QueueAnswer α τ) → List (α ⊕ τ) → Session σ α τ → Prop where
  | done {s} : Run Q s [] [] [] s
  | letGo {s kept operations answers items s'} (h : ∀ seen ∈ kept, seen ∈ s.held)
      (rest : Run Q ⟨s.system, kept⟩ operations answers items s') : Run Q s operations answers items s'
  | operation {s operation operations answers items s'} (h : Q.Permits s operation)
      (rest : Run Q (Q.next s operation) operations answers items s') :
      Run Q s (operation :: operations) ((Q.perform s.system operation).1 :: answers)
        (TerminalQueue.stored (Q.perform s.system operation).1 (Q.asQueue (Q.next s operation).system) ++ items) s'

/-- Each operation does to the queue what it stands for, where two elements with one address are one. -/
structure Refines (Q : QueueSystem σ ω α τ) : Prop where
  numbers : ∀ operation, (Q.onQueue operation).Numbers Q.number
  step : ∀ system operation, (Q.asQueue system).Sound →
    (∀ a b, Q.onQueue operation = .take (.element a) → b ∈ (Q.asQueue system).queue → Q.address b = Q.address a → b = a) →
    (Q.asQueue system).perform (Q.onQueue operation) =
      ((Q.perform system operation).1, Q.asQueue (Q.perform system operation).2)

/-- Two elements with one address are one. -/
def Distinct (Q : QueueSystem σ ω α τ) (s : Session σ α τ) : Prop :=
  ∀ a b, Q.Refers s a → Q.Refers s b → Q.address a = Q.address b → a = b

variable {Q : QueueSystem σ ω α τ} {s s' : Session σ α τ} {operation : ω} {operations : List ω}
  {answers : List (QueueAnswer α τ)} {items : List (α ⊕ τ)}

/-! ## One operation -/

/-- A permitted operation of the system is the operation of the queue that it stands for. -/
theorem Refines.perform (hQ : Q.Refines) (hs : (Q.asQueue s.system).Sound) (hd : Q.Distinct s) (h : Q.Permits s operation) :
    (Q.asQueue s.system).perform (Q.onQueue operation) =
      ((Q.perform s.system operation).1, Q.asQueue (Q.next s operation).system) := by
  refine hQ.step s.system operation hs ?_
  intro a b ho hb hab
  refine hd b a (Or.inl hb) (Or.inr ?_) hab
  simpa [Permits, ho] using h

/-- A permitted operation keeps the queue sound. -/
theorem Refines.sound (hQ : Q.Refines) (hs : (Q.asQueue s.system).Sound) (hd : Q.Distinct s) (h : Q.Permits s operation) :
    (Q.asQueue (Q.next s operation).system).Sound := by
  have hleaves := TerminalQueue.perform_leaves hs (hQ.numbers operation)
  rw [hQ.perform hs hd h] at hleaves
  exact hleaves.sound hs

/-- What is referred to after an operation was referred to before, or is the new element. -/
theorem Refines.refers (hQ : Q.Refines) (hs : (Q.asQueue s.system).Sound) (hd : Q.Distinct s) (h : Q.Permits s operation) {a : α}
    (ha : Q.Refers (Q.next s operation) a) :
    Q.Refers s a ∨ ∃ element lost, Q.onQueue operation = .offer element lost ∧ element (Q.asQueue s.system).next = some a := by
  have hstep := hQ.perform hs hd h
  rcases ha with hqueue | hheld
  · have hbefore : a ∈ ((Q.asQueue s.system).perform (Q.onQueue operation)).2.queue := by rw [hstep]; exact hqueue
    rcases TerminalQueue.perform_queue hbefore with hold | hnew
    · exact Or.inl (Or.inl hold)
    · exact Or.inr hnew
  · have hanswer : ((Q.asQueue s.system).perform (Q.onQueue operation)).1 = (Q.perform s.system operation).1 := by rw [hstep]
    cases hshown : (Q.perform s.system operation).1 with
    | shown seen =>
      simp only [next, hshown, List.mem_cons] at hheld
      rcases hheld with rfl | hheld
      · exact Or.inl (Or.inl (TerminalQueue.perform_shown (hanswer.trans hshown)))
      · exact Or.inl (Or.inr hheld)
    | offered | begun | received | done =>
      simp only [next, hshown] at hheld
      exact Or.inl (Or.inr hheld)

/-- A permitted operation keeps the records apart. -/
theorem Refines.distinct (hQ : Q.Refines) (hs : (Q.asQueue s.system).Sound) (hd : Q.Distinct s) (h : Q.Permits s operation) :
    Q.Distinct (Q.next s operation) := by
  have hfresh : ∀ element lost a, Q.onQueue operation = .offer element lost → element (Q.asQueue s.system).next = some a →
      ∀ b, Q.Refers s b → Q.address b ≠ Q.address a := by
    intro element lost a ho ha b hb
    have hpermits := h
    simp only [Permits, ho] at hpermits
    exact hpermits a ha b hb
  intro a b ha hb hab
  rcases hQ.refers hs hd h ha with ha | ⟨element, lost, ho, ha⟩ <;> rcases hQ.refers hs hd h hb with hb | ⟨element', lost', ho', hb⟩
  · exact hd a b ha hb hab
  · exact absurd hab (hfresh element' lost' b ho' hb a ha)
  · exact absurd hab.symm (hfresh element lost a ho ha b hb)
  · rw [ho] at ho'
    cases ho'
    rw [ha] at hb
    cases hb
    rfl

/-! ## A run -/

/-- A run of a session is a row of operations on the queue: the same answers, the same items, the same queue. -/
theorem Refines.run (hQ : Q.Refines) (h : Q.Run s operations answers items s') (hs : (Q.asQueue s.system).Sound)
    (hd : Q.Distinct s) :
    TerminalQueue.run (operations.map Q.onQueue) (Q.asQueue s.system) = (answers, items, Q.asQueue s'.system) := by
  induction h with
  | done => rfl
  | @letGo s kept _ _ _ _ h _ ih =>
    refine ih hs fun a b ha hb hab => hd a b ?_ ?_ hab
    · exact ha.imp id (h _)
    · exact hb.imp id (h _)
  | operation h _ ih =>
    have hrest := ih (hQ.sound hs hd h) (hQ.distinct hs hd h)
    simp only [List.map_cons, TerminalQueue.run, hQ.perform hs hd h, hrest]

/-- Along a run the queue stays sound and the records stay apart. -/
theorem Refines.run_sound (hQ : Q.Refines) (h : Q.Run s operations answers items s') (hs : (Q.asQueue s.system).Sound)
    (hd : Q.Distinct s) : (Q.asQueue s'.system).Sound ∧ Q.Distinct s' := by
  induction h with
  | done => exact ⟨hs, hd⟩
  | letGo h _ ih =>
    refine ih hs fun a b ha hb hab => hd a b ?_ ?_ hab
    · exact ha.imp id (h _)
    · exact hb.imp id (h _)
  | operation h _ ih => exact ih (hQ.sound hs hd h) (hQ.distinct hs hd h)

/-- What the operations of a system offer carries the numbers of the queue. -/
theorem Refines.numbers_of (hQ : Q.Refines) (operations : List ω) :
    ∀ operation ∈ operations.map Q.onQueue, operation.Numbers Q.number := by
  intro o ho
  obtain ⟨operation, -, rfl⟩ := List.mem_map.mp ho
  exact hQ.numbers operation

/-- What a run has stored: increasing numbers, and nothing behind the first terminal. -/
theorem Refines.row (hQ : Q.Refines) (h : Q.Run s operations answers items s') (hs : (Q.asQueue s.system).Sound)
    (hd : Q.Distinct s) : TerminalQueue.Row Q.number (Q.asQueue s.system).next items := by
  have hrow := TerminalQueue.run_row (hQ.numbers_of operations) hs
  rw [hQ.run h hs hd] at hrow
  exact hrow

/-- A terminal was there before the run or has been stored in it. -/
theorem Refines.terminal (hQ : Q.Refines) (h : Q.Run s operations answers items s') (hs : (Q.asQueue s.system).Sound)
    (hd : Q.Distinct s) {t : τ} (ht : (Q.asQueue s'.system).terminal = some t) :
    (Q.asQueue s.system).terminal = some t ∨ .inr t ∈ items := by
  have hterminal := TerminalQueue.run_terminal (hQ.numbers_of operations) hs (t := t)
  rw [hQ.run h hs hd] at hterminal
  exact hterminal ht

/-- A queue that accepts nothing stores nothing in the rest of a run. -/
theorem Refines.ended (hQ : Q.Refines) (h : Q.Run s operations answers items s') (hs : (Q.asQueue s.system).Sound)
    (hd : Q.Distinct s) (ha : (Q.asQueue s.system).standing ≠ .accepting) : items = [] := by
  have hitems := TerminalQueue.run_unaccepting (hQ.numbers_of operations) hs ha
  rw [hQ.run h hs hd] at hitems
  exact hitems

/-- A closed queue stays closed along a run. -/
theorem Refines.closed (hQ : Q.Refines) (h : Q.Run s operations answers items s') (hs : (Q.asQueue s.system).Sound)
    (hd : Q.Distinct s) (hc : (Q.asQueue s.system).standing = .closed) : (Q.asQueue s'.system).standing = .closed := by
  have hclosed := TerminalQueue.run_closed (hQ.numbers_of operations) hs hc
  rw [hQ.run h hs hd] at hclosed
  exact hclosed

/-- What is held is told by its address. -/
theorem Distinct.held (hd : Q.Distinct s) {a b : α} (ha : .element a ∈ s.held) (hb : b ∈ (Q.asQueue s.system).queue)
    (hab : Q.address b = Q.address a) : b = a :=
  hd b a (Or.inl hb) (Or.inr ha) hab

/-- A session starts with elements at different addresses, and with nothing held. -/
theorem distinct_start {system : σ} (h : ((Q.asQueue system).queue.map Q.address).Nodup) : Q.Distinct ⟨system, []⟩ := by
  intro a b ha hb hab
  rcases ha with ha | ha
  · rcases hb with hb | hb
    · exact List.inj_on_of_nodup_map h ha hb hab
    · cases hb
  · cases ha

end QueueSystem

end Containers
