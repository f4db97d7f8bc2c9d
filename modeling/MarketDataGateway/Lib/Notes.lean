import MarketDataGateway.Lib.Loop

/-!
# What a program notes

`T now s t` says that a section that moves the state from `s` to `t` notes `now`. A program notes a list of events when its sections
note them piece by piece, on every path through it and whatever the other threads do in between.
-/

namespace Threads

variable {σ ω α β ε : Type} {T : List ε → σ → σ → Prop}

/-- On every path to its end the program notes exactly these events, in this order. -/
def Program.Notes (T : List ε → σ → σ → Prop) : Program σ ω α → List ε → Prop
  | done _, events => events = []
  | sect g u n, events =>
    ∀ w s, g s = true → ∃ now later, events = now ++ later ∧ T now s (u w s) ∧ Notes T (n w s) later

namespace Program.Notes

/-- Sections that note nothing. -/
theorem of_all {p : Program σ ω α} (h : p.All (T [])) : p.Notes T [] := by
  induction p with
  | done a => rfl
  | sect g u n ih => exact fun w s hg => ⟨[], [], rfl, (h w s hg).1, ih w s (h w s hg).2⟩

/-- A single section. -/
theorem await {g : σ → Bool} {f : ω → σ → α × σ} {events : List ε} (h : ∀ w s, g s = true → T events s (f w s).2) :
    (Program.await g f).Notes T events :=
  fun w s hg => ⟨events, [], (List.append_nil _).symm, h w s hg, rfl⟩

/-- A section notes the events that each of its choices leads through. -/
theorem atomic {f : ω → σ → α × σ} {events : List ε} (h : ∀ w s, T events s (f w s).2) : (Program.atomic f).Notes T events :=
  await fun w s _ => h w s

/-- A sequence notes what its halves note, one behind the other. -/
theorem bind {p : Program σ ω α} {k : α → Program σ ω β} {events events' : List ε} (hp : p.Notes T events)
    (hk : ∀ a, (k a).Notes T events') : (p.bind k).Notes T (events ++ events') := by
  induction p generalizing events with
  | done a =>
    obtain rfl : events = [] := hp
    exact hk a
  | sect g u n ih =>
    intro w s hg
    obtain ⟨now, later, rfl, hnow, hlater⟩ := hp w s hg
    exact ⟨now, later ++ events', List.append_assoc _ _ _, hnow, ih w s hlater⟩

/-- A sequence whose second part notes nothing. -/
theorem bind_silent {p : Program σ ω α} {k : α → Program σ ω β} {events : List ε} (hp : p.Notes T events)
    (hk : ∀ a, (k a).All (T [])) : (p.bind k).Notes T events := by
  have h := hp.bind fun a => of_all (hk a)
  rwa [List.append_nil] at h

/-- A section notes the next of the events, and the rest of the program the others. -/
theorem of_step {p p' : Program σ ω α} {s t : σ} {events : List ε} (hp : p.Notes T events) (h : Program.Step p s p' t) :
    ∃ now later, events = now ++ later ∧ T now s t ∧ p'.Notes T later := by
  cases h with
  | sect w hg => exact hp w s hg

end Program.Notes

/-- What a looping thread is still to note before it is back at the head. -/
def PhaseNotes (T : List ε → σ → σ → Prop) : Phase σ ω → List ε → Prop
  | .running p, events => p.Notes T events
  | .head, events | .exited, events => events = []

end Threads
