import MarketDataGateway.Runtime.Tickets

/-!
# States, faults and overflow

The published state, the fault reason and the gate of the ingress agree in every reachable state: `StateFacts`. An overflow is a
flag first and a fault later; `fullSinceReset` reads off the ticket history whether one has happened since the last reset, and
`startedAfterFull` whether an observe call began behind it.
-/

namespace MarketDataGateway.MarketRuntime

open Threads

variable {L : ProjectionLibrary}

/-- A submission has been refused as `Full` and no reset has happened since. -/
def fullSinceReset : List TicketEvent → Bool
  | [] => false
  | .full :: _ => true
  | .reset :: _ => false
  | _ :: past => fullSinceReset past

/-- A reset has thrown over an ingress that was not empty, and none has been completed since: what was admitted before it is still to
be worked off. -/
def brokenReset : List TicketEvent → Bool
  | [] => false
  | .resetThrew waiting :: past => !waiting.isEmpty || brokenReset past
  | .reset :: _ => false
  | _ :: past => brokenReset past

/-- The observe call was started behind such a refusal, and no reset has happened since the refusal. -/
def startedAfterFull (id : Nat) : List TicketEvent → Bool
  | [] => false
  | .reset :: _ => false
  | .observeStarted i _ :: past => if i = id then fullSinceReset past else startedAfterFull id past
  | _ :: past => startedAfterFull id past

/-- States in which a runtime is not live and does not become live without a reset. -/
def RuntimeState.isDead (state : RuntimeState) : Prop :=
  state = .faulted ∨ state = .needsResync ∨ state = .stopping ∨ state = .stopped

/-- No observe call that started behind a refused submission comes back with `Live`. -/
def TicketEvent.Fresh : TicketEvent → List TicketEvent → Prop
  | .observed id _ state, past => startedAfterFull id past = true → state ≠ .live
  | _, _ => True

/-- An observe call that began behind an overflow knows of one. -/
theorem fullSinceReset_of_started {id : Nat} {log : List TicketEvent} (h : startedAfterFull id log = true) :
    fullSinceReset log = true := by
  induction log with
  | nil => cases h
  | cons e past ih =>
    cases e with
    | reset => cases h
    | full => rfl
    | observeStarted i target =>
      simp only [startedAfterFull] at h
      split at h
      · exact h
      · exact ih h
    | _ => exact ih h

/-! ## What always holds -/

/-- The published state, the fault reason and the gate agree. -/
structure StateFacts (state : RuntimeState) (status : ProjectionStatus) (fault : Option FaultReason) (accepting : Bool)
    (ingress : List (IngressItem L)) (log : List TicketEvent) : Prop where
  live : state = .live → status = .synchronized ∧ fault = none
  faulted : state = .faulted → fault ≠ none
  fault : fault ≠ none → state = .faulted ∨ state = .stopped
  needsResync : state = .needsResync → status = .needsResync
  shut : state = .faulted ∨ state = .needsResync →
    accepting = false ∧ ((state = .faulted → brokenReset log = false) → ingress = [])
  full : fullSinceReset log = true → accepting = false ∧ (ingress ≠ [] ∨ state.isDead)

/-- No buffer is longer than its capacity, and the published occupancies are not either. -/
structure Occupancy (limits : RuntimeLimits) (ingress bootstrap observedIngress observedBootstrap : Nat) : Prop where
  ingress : ingress ≤ limits.ingressCapacity
  bootstrap : bootstrap ≤ limits.bootstrapCapacity
  observedIngress : observedIngress ≤ limits.ingressCapacity
  observedBootstrap : observedBootstrap ≤ limits.bootstrapCapacity

/-- The barrier of an observe call that began behind an overflow is the last ticket there is, as long as the counter of tickets has not
come round. -/
structure ObserverFacts (observers : List ObserveCall) (next last : Nat) (log : List TicketEvent) : Prop where
  known : ∀ o ∈ observers, o.id < next
  full : ∀ o ∈ observers, startedAfterFull o.id log = true → o.target = last
  fresh : InRange log → Every TicketEvent.Fresh log

/-- The owner has no item in hand. -/
def HandsFree (log : List TicketEvent) : Prop := ∀ t, .taken t ∈ log → .finished t ∈ log

/-- Between items a runtime that is faulted or out of sync buffers nothing. -/
def IdleFacts (state : RuntimeState) (bootstrap : List (DepthUpdateInput L)) (log : List TicketEvent) : Prop :=
  InRange log → brokenReset log = false → HandsFree log → state = .faulted ∨ state = .needsResync → bootstrap = []

variable {state : RuntimeState} {status : ProjectionStatus} {fault : Option FaultReason} {accepting : Bool}
  {ingress : List (IngressItem L)} {log : List TicketEvent} {observers : List ObserveCall} {next last : Nat}

namespace StateFacts

/-- Events that are neither overflows nor resets keep the facts about the state. -/
theorem log_cons {e : TicketEvent} (h : StateFacts state status fault accepting ingress log)
    (he : fullSinceReset (e :: log) = true → fullSinceReset log = true) (hb : brokenReset (e :: log) = brokenReset log) :
    StateFacts state status fault accepting ingress (e :: log) :=
  ⟨h.live, h.faulted, h.fault, h.needsResync, hb ▸ h.shut, fun hf => h.full (he hf)⟩

/-- A runtime that stops is dead, whatever else is going on. -/
theorem stopped (h : StateFacts state status fault accepting ingress log) :
    StateFacts .stopped status fault accepting ingress log where
  live h := by cases h
  faulted h := by cases h
  fault _ := Or.inr rfl
  needsResync h := by cases h
  shut h := by rcases h with h | h <;> cases h
  full hf := ⟨(h.full hf).1, Or.inr (Or.inr (Or.inr (Or.inr rfl)))⟩

/-- A fault shuts the gate and empties the ingress. -/
theorem ofFault (reason : FaultReason) (status : ProjectionStatus) (log : List TicketEvent) :
    StateFacts .faulted status (some reason) false ([] : List (IngressItem L)) log where
  live h := by cases h
  faulted _ := by simp
  fault _ := Or.inl rfl
  needsResync h := by cases h
  shut _ := ⟨rfl, fun _ => rfl⟩
  full _ := ⟨rfl, Or.inr (Or.inl rfl)⟩

end StateFacts

/-- An event that neither ends an item nor breaks a reset leaves the owner's hands as they are. -/
theorem IdleFacts.cons {bootstrap : List (DepthUpdateInput L)} {e : TicketEvent} (h : IdleFacts state bootstrap log)
    (he : ∀ t, e ≠ .finished t) (hb : brokenReset (e :: log) = brokenReset log) : IdleFacts state bootstrap (e :: log) :=
  fun hr hbroken hf => h hr.past (hb ▸ hbroken) fun t ht =>
    (List.mem_cons.mp (hf t (List.mem_cons_of_mem _ ht))).resolve_left (he t).symm

/-- With an item in hand there is nothing to show. -/
theorem IdleFacts.of_busy {bootstrap : List (DepthUpdateInput L)} {item : Nat} {processed : Nat}
    (h : TicketsInHand (some item) ingress processed log) : IdleFacts state bootstrap log := fun hr _ hf =>
  have hitem := (h hr).1 item rfl
  absurd (hf item hitem.1) hitem.2.1

namespace ObserverFacts

/-- Events that start no observe call keep the facts about the observers. -/
theorem log_cons {e : TicketEvent} (h : ObserverFacts observers next last log) (he : InRange log → e.Fresh log)
    (hs : ∀ id, startedAfterFull id (e :: log) = true → startedAfterFull id log = true) :
    ObserverFacts observers next last (e :: log) :=
  ⟨h.known, fun o ho hf => h.full o ho (hs o.id hf), fun hr => ⟨he hr.past, h.fresh hr.past⟩⟩

/-- A new ticket is only given out when no overflow is pending. -/
theorem count (h : ObserverFacts observers next last log) (hf : fullSinceReset log = false) {e : TicketEvent} (last' : Nat)
    (he : e.Fresh log) (hs : ∀ id, startedAfterFull id (e :: log) = startedAfterFull id log) :
    ObserverFacts observers next last' (e :: log) where
  known := h.known
  full o _ hstarted := by
    rw [hs] at hstarted
    have := fullSinceReset_of_started hstarted
    rw [hf] at this
    cases this
  fresh hr := ⟨he, h.fresh hr.past⟩

/-- A new observe call. -/
theorem start (h : ObserverFacts observers next last log) :
    ObserverFacts (observers ++ [⟨next, last⟩]) (next + 1) last (.observeStarted next last :: log) where
  known o ho := by
    rcases List.mem_append.mp ho with ho | ho
    · exact Nat.lt_succ_of_lt (h.known o ho)
    · rw [List.mem_singleton.mp ho]; exact Nat.lt_succ_self _
  full o ho hs := by
    rcases List.mem_append.mp ho with ho | ho
    · have hne : next ≠ o.id := Nat.ne_of_gt (h.known o ho)
      simp only [startedAfterFull, if_neg hne] at hs
      exact h.full o ho hs
    · rw [List.mem_singleton.mp ho]
  fresh hr := ⟨trivial, h.fresh hr⟩

/-- An observer may be forgotten. -/
theorem forget (h : ObserverFacts observers next last log) (i : Nat) :
    ObserverFacts (observers.eraseIdx i) next last log :=
  ⟨fun o ho => h.known o (List.mem_of_mem_eraseIdx ho), fun o ho => h.full o (List.mem_of_mem_eraseIdx ho), h.fresh⟩

end ObserverFacts

end MarketDataGateway.MarketRuntime
