import Mathlib.Data.List.Basic

/-!
# Histories

A history is a list of events, latest first. `Every P` says of each event what held of the events before it when it happened.
-/

namespace Threads

variable {α : Type}

/-- Each event of the history satisfies `P` together with the history before it. -/
def Every (P : α → List α → Prop) : List α → Prop
  | [] => True
  | event :: past => P event past ∧ Every P past

namespace Every

variable {P : α → List α → Prop}

/-- What `Every` says about one event of the history. -/
theorem at_event {log later past : List α} {event : α} (h : Every P log) (hs : log = later ++ event :: past) :
    P event past := by
  subst hs
  induction later with
  | nil => exact h.1
  | cons e later ih => exact ih h.2

/-- Where a third assertion holds of the whole history and two agree wherever it holds, they agree on the whole history. -/
theorem congr {Q R : α → List α → Prop} {log : List α} (h : Every R log)
    (hpq : ∀ event past, R event past → Every R past → (P event past ↔ Q event past)) : Every P log ↔ Every Q log := by
  induction log with
  | nil => exact Iff.rfl
  | cons event past ih => exact and_congr (hpq event past h.1 h.2) (ih h.2)

end Every

end Threads
