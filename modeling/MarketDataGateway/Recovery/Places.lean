import MarketDataGateway.Recovery.History
import MarketDataGateway.Recovery.Runs

/-!
# Where a coordinator is

A place says what the coordinator's thread knows of its own state while it runs: the attempt it has made, the source generation it has
opened, what is left of its budget. Other threads leave all of that as it is. The invariant below it holds in every state, whether
the thread is there or not.
-/

namespace MarketDataGateway.Recovery

open BinanceTransport MarketRuntime OrderBook Threads

variable {L : ProjectionLibrary} {X ω : Type}

/-! ## Places -/

/-- `made` is the last attempt, `last` the source generation opened last, `spent` says that an attempt counts against the budget
although no delay has been asked for since, `since` is when the attempt began if it has a planned rotation. -/
structure Place where
  made : Nat
  phase : AttemptPhase := .ready
  active : Option Nat := none
  counted : Bool := false
  opened : Option Nat := none
  quiesced : Bool := false
  ended : Bool := false
  last : Nat
  spent : Bool := false
  held : Bool := false
  terminal : Bool := false
  since : Option Nat := none

namespace Place

/-- The number of the next attempt, or of the one there is. -/
def generation (p : Place) : Nat := if p.phase = .ready then p.made + 1 else p.made

def source (p : Place) : SourcePhase :=
  if p.ended then .ended
  else match p.opened with
    | none => .closed
    | some _ => if p.quiesced then .quiesced else .opened

/-- The attempt's own source generation is open, or none is. -/
def OwnSource (p : Place) : Prop := p.opened = none ∨ (p.opened = some p.made ∧ p.last = p.made ∧ p.ended = false)

/-- An attempt is under way. -/
structure Running (p : Place) : Prop where
  phase : p.phase ≠ .ready
  active : p.active = some p.made
  own : p.OwnSource
  quiesced : p.quiesced = false
  terminal : p.terminal = false
  lastLe : p.last ≤ p.made

/-- No attempt is under way; a source generation that is open has been quiesced. -/
structure Quiet (p : Place) : Prop where
  phase : p.phase ≠ .active
  active : p.active = none
  counted : p.counted = false
  own : p.OwnSource
  quiesced : p.quiesced = p.opened.isSome
  stopped : p.opened.isSome → p.phase = .stopped
  terminal : p.terminal = false
  lastLe : p.last ≤ p.made

end Place

/-- The coordinator's thread is at a place. What is said of the lifecycle callbacks holds when they are `reliable`. -/
structure At (reliable : Prop) (p : Place) (s : World L X) : Prop where
  created : s.coordinator.threadCreated = true
  running : s.coordinator.exited = false
  generation : s.coordinator.generation = p.generation
  attempts : AttemptWord p.phase p.made (attemptCalls s.calls)
  active : s.coordinator.activeAttempt = p.active
  counted : s.coordinator.observation.activeTransportCount = if p.counted then 1 else 0
  opened : s.coordinator.sourceGenerationOpen = p.opened
  quiesced : s.coordinator.sourceGenerationQuiesced = p.quiesced
  source : reliable → SourceWord p.source p.last (invocations s.calls)
  budget : startedSinceLive s.calls ≤ s.coordinator.observation.consecutiveRecoveryAttempts + (if p.spent then 1 else 0)
  held : s.coordinator.mutexHeld = p.held
  terminal : s.coordinator.observation.terminal = p.terminal

/-- Whatever keeps an attempt from being marked live comes from a requested shutdown. -/
structure Coordinator.Halted (c : Coordinator L) : Prop where
  token : c.stopToken = true → c.shutdownRequested = true
  stopped : c.stopped = true → c.shutdownRequested = true
  stopping : c.observation.state = .stopping → c.shutdownRequested = true

/-- The lifecycle callbacks so far; when the thread is over no source generation is open, unless the cleanup after an exception has
failed. -/
def SourceTrace (exited : Bool) (calls : List RecoveryCall) : Prop :=
  ∃ phase last, SourceWord phase last (invocations calls) ∧
    (exited = true → (phase = .closed ∨ phase = .ended) ∨ .cleanupFailed ∈ calls)

/-- A call that is no callback leaves the trace of the source as it is. -/
theorem SourceTrace.cons {exited : Bool} {calls : List RecoveryCall} (h : SourceTrace exited calls) {call : RecoveryCall}
    (hcall : call.invocation = none) : SourceTrace exited (call :: calls) := by
  obtain ⟨phase, last, hword, hover⟩ := h
  refine ⟨phase, last, ?_, fun he => (hover he).imp id (List.mem_cons_of_mem call)⟩
  rwa [invocations, List.filterMap_cons_none hcall]

/-- What holds of a coordinator in every state. -/
structure CoordinatorInv (reliable : Prop) (s : World L X) : Prop where
  halted : s.coordinator.Halted
  created : s.coordinator.threadCreated = true → s.coordinator.started = true ∧ s.coordinator.startPending = false
  pending : s.coordinator.startPending = true → s.coordinator.started = true
  untouched : s.coordinator.threadCreated = false → s.calls = [] ∧ s.coordinator.observation.activeTransportCount = 0
  failed : s.coordinator.observation.terminal = true → s.coordinator.started = true ∧ s.coordinator.startPending = false
  consecutive : s.coordinator.observation.consecutiveRecoveryAttempts = backoffsSinceLive s.calls
  within : s.coordinator.observation.consecutiveRecoveryAttempts ≤ kMaximumRecoveryAttempts
  attempts : startedSinceLive s.calls ≤ kMaximumRecoveryAttempts + 1
  delays : ∀ n, .backoffDelay n ∈ s.calls → 1 ≤ n ∧ n ≤ kMaximumRecoveryAttempts
  counts : s.coordinator.observation.activeTransportCount ≤ 1 ∧ s.coordinator.observation.maxActiveTransportCount ≤ 1
  word : ∃ phase n, AttemptWord phase n (attemptCalls s.calls)
  stoppedFirst : StoppedFirst s.calls
  source : reliable → AllTrue s.calls ∧ SourceTrace s.coordinator.exited s.calls
  terminal : s.coordinator.observation.terminal = true →
    (s.coordinator.observation.activeTransportCount = 0 ∧ Settled s.calls) ∨ Escaped s.calls

/-! ## What other threads leave as it is -/

/-- The coordinator's own state is the same. -/
structure Kept (s t : World L X) : Prop where
  created : t.coordinator.threadCreated = s.coordinator.threadCreated
  exited : t.coordinator.exited = s.coordinator.exited
  generation : t.coordinator.generation = s.coordinator.generation
  calls : t.calls = s.calls
  active : t.coordinator.activeAttempt = s.coordinator.activeAttempt
  count : t.coordinator.observation.activeTransportCount = s.coordinator.observation.activeTransportCount
  maxCount : t.coordinator.observation.maxActiveTransportCount = s.coordinator.observation.maxActiveTransportCount
  opened : t.coordinator.sourceGenerationOpen = s.coordinator.sourceGenerationOpen
  quiesced : t.coordinator.sourceGenerationQuiesced = s.coordinator.sourceGenerationQuiesced
  consecutive : t.coordinator.observation.consecutiveRecoveryAttempts = s.coordinator.observation.consecutiveRecoveryAttempts
  held : t.coordinator.mutexHeld = s.coordinator.mutexHeld
  terminal : t.coordinator.observation.terminal = s.coordinator.observation.terminal

variable {reliable : Prop} {p : Place} {s t : World L X} {around : World L X → X → Prop}

/-- The thread stays at its place while its state is kept. -/
theorem At.kept (h : At reliable p s) (hk : Kept s t) : At reliable p t where
  created := hk.created.trans h.created
  running := hk.exited.trans h.running
  generation := hk.generation.trans h.generation
  attempts := hk.calls ▸ h.attempts
  active := hk.active.trans h.active
  counted := hk.count.trans h.counted
  opened := hk.opened.trans h.opened
  quiesced := hk.quiesced.trans h.quiesced
  source := fun hr => hk.calls ▸ h.source hr
  budget := by rw [hk.calls, hk.consecutive]; exact h.budget
  held := hk.held.trans h.held
  terminal := hk.terminal.trans h.terminal

/-- While the coordinator's thread runs the other threads keep its state. -/
theorem ClientStep.kept (hs : ClientStep around s t) (hb : s.coordinator.started = true ∧ s.coordinator.startPending = false)
    (hc : s.coordinator.threadCreated = true) (he : s.coordinator.exited = false) : Kept s t := by
  obtain ⟨hstarted, hpending⟩ := hb
  have hjoined : s.coordinator.joined = false := by simp [Coordinator.joined, hc, he]
  cases hs with
  | outside h => exact ⟨rfl, rfl, rfl, rfl, rfl, rfl, rfl, rfl, rfl, rfl, rfl, rfl⟩
  | start hm =>
    unfold Coordinator.start
    split
    · exact ⟨rfl, rfl, rfl, rfl, rfl, rfl, rfl, rfl, rfl, rfl, rfl, rfl⟩
    · exact ⟨rfl, rfl, rfl, rfl, rfl, rfl, rfl, rfl, rfl, rfl, rfl, rfl⟩
  | failStart hp hm | createThread hp =>
    rw [hpending] at hp
    cases hp
  | requestStop hm =>
    unfold Coordinator.requestStop
    split
    · exact ⟨rfl, rfl, rfl, rfl, rfl, rfl, rfl, rfl, rfl, rfl, rfl, rfl⟩
    · split <;> exact ⟨rfl, rfl, rfl, rfl, rfl, rfl, rfl, rfl, rfl, rfl, rfl, rfl⟩
  | beginAcceptance hm =>
    unfold Coordinator.beginAcceptance
    split <;> exact ⟨rfl, rfl, rfl, rfl, rfl, rfl, rfl, rfl, rfl, rfl, rfl, rfl⟩
  | requestStopToken hr => exact ⟨rfl, rfl, rfl, rfl, rfl, rfl, rfl, rfl, rfl, rfl, rfl, rfl⟩
  | takeAttempt hr hj | finishStop hr hj | finishAcceptance hr hj =>
    rw [hjoined] at hj
    cases hj
  | submit hc hs => exact ⟨rfl, rfl, rfl, rfl, rfl, rfl, rfl, rfl, rfl, rfl, rfl, rfl⟩

/-- A requested shutdown stays so; nobody requests one while the coordinator's thread holds the mutex. -/
theorem ClientStep.shutdown (hs : ClientStep around s t) :
    (s.coordinator.shutdownRequested = true → t.coordinator.shutdownRequested = true) ∧
      (s.coordinator.mutexHeld = true → t.coordinator.shutdownRequested = s.coordinator.shutdownRequested) := by
  cases hs with
  | requestStop hm =>
    unfold Coordinator.requestStop
    split
    · exact ⟨fun h => h, fun _ => rfl⟩
    · split <;> exact ⟨fun _ => rfl, fun h => by rw [hm] at h; cases h⟩
  | beginAcceptance hm =>
    unfold Coordinator.beginAcceptance
    split
    · exact ⟨fun h => h, fun _ => rfl⟩
    · exact ⟨fun _ => rfl, fun h => by rw [hm] at h; cases h⟩
  | start hm =>
    unfold Coordinator.start
    split
    · exact ⟨fun h => h, fun _ => rfl⟩
    · split <;> exact ⟨fun h => h, fun _ => rfl⟩
  | _ => exact ⟨fun h => h, fun _ => rfl⟩

/-- Other threads stop the coordinator only for a shutdown. -/
theorem ClientStep.halted (hs : ClientStep around s t) (hi : s.coordinator.Halted) : t.coordinator.Halted := by
  cases hs with
  | requestStopToken hr => exact ⟨fun _ => hr, hi.stopped, hi.stopping⟩
  | requestStop hm =>
    unfold Coordinator.requestStop
    split
    · exact hi
    · split <;> exact ⟨fun _ => rfl, fun _ => rfl, fun _ => rfl⟩
  | beginAcceptance hm =>
    unfold Coordinator.beginAcceptance
    split
    · exact hi
    · exact ⟨fun _ => rfl, fun _ => rfl, fun _ => rfl⟩
  | start hm =>
    unfold Coordinator.start
    split
    · exact hi
    · split
      · exact hi
      · exact ⟨hi.token, hi.stopped, fun h => by cases h⟩
  | failStart hp hm => exact ⟨hi.token, hi.stopped, fun h => by cases h⟩
  | finishStop hr hj ha hm => exact ⟨hi.token, fun _ => hr, fun _ => hr⟩
  | outside h | submit hc hs | createThread hp | takeAttempt hr hj | finishAcceptance hr hj =>
    exact ⟨hi.token, hi.stopped, hi.stopping⟩

/-- No other thread takes the mutex from the coordinator's. -/
theorem ClientStep.mutex (hs : ClientStep around s t) : t.coordinator.mutexHeld = s.coordinator.mutexHeld := by
  cases hs with
  | start hm =>
    unfold Coordinator.start
    split
    · rfl
    · split <;> rfl
  | requestStop hm =>
    unfold Coordinator.requestStop
    split
    · rfl
    · split <;> rfl
  | beginAcceptance hm =>
    unfold Coordinator.beginAcceptance
    split <;> rfl
  | _ => rfl

/-- No other thread notes a call. -/
theorem ClientStep.calls (hs : ClientStep around s t) : t.calls = s.calls := by
  cases hs <;> rfl

/-- The invariant does not look at what goes on outside, nor at the submissions, nor at what the observation says of the state. -/
theorem CoordinatorInv.kept (hi : CoordinatorInv reliable s) (hk : Kept s t) (hhalted : t.coordinator.Halted)
    (hstarted : s.coordinator.started = true → t.coordinator.started = true)
    (hpending : t.coordinator.startPending = s.coordinator.startPending) : CoordinatorInv reliable t where
  halted := hhalted
  created := fun h => ⟨hstarted (hi.created (hk.created ▸ h)).1, hpending.trans (hi.created (hk.created ▸ h)).2⟩
  pending := fun h => hstarted (hi.pending (hpending ▸ h))
  untouched := fun h => by
    rw [hk.calls, hk.count]
    exact hi.untouched (hk.created ▸ h)
  failed := fun h => ⟨hstarted (hi.failed (hk.terminal ▸ h)).1, hpending.trans (hi.failed (hk.terminal ▸ h)).2⟩
  consecutive := by rw [hk.consecutive, hk.calls]; exact hi.consecutive
  within := by rw [hk.consecutive]; exact hi.within
  attempts := by rw [hk.calls]; exact hi.attempts
  delays := by rw [hk.calls]; exact hi.delays
  counts := by rw [hk.count, hk.maxCount]; exact hi.counts
  word := by rw [hk.calls]; exact hi.word
  stoppedFirst := by rw [hk.calls]; exact hi.stoppedFirst
  source := by rw [hk.calls, hk.exited]; exact hi.source
  terminal := by rw [hk.calls, hk.count, hk.terminal]; exact hi.terminal

/-- The other threads keep the invariant. -/
theorem ClientStep.inv (hs : ClientStep around s t) (hi : CoordinatorInv reliable s) : CoordinatorInv reliable t := by
  have hhalted := hs.halted hi.halted
  cases hs with
  | outside h | submit hc hs => exact hi.kept ⟨rfl, rfl, rfl, rfl, rfl, rfl, rfl, rfl, rfl, rfl, rfl, rfl⟩ hhalted id rfl
  | requestStopToken hr => exact hi.kept ⟨rfl, rfl, rfl, rfl, rfl, rfl, rfl, rfl, rfl, rfl, rfl, rfl⟩ hhalted id rfl
  | requestStop hm =>
    revert hhalted
    unfold Coordinator.requestStop
    split
    · exact fun hhalted => hi.kept ⟨rfl, rfl, rfl, rfl, rfl, rfl, rfl, rfl, rfl, rfl, rfl, rfl⟩ hhalted id rfl
    · split <;> exact fun hhalted => hi.kept ⟨rfl, rfl, rfl, rfl, rfl, rfl, rfl, rfl, rfl, rfl, rfl, rfl⟩ hhalted id rfl
  | beginAcceptance hm =>
    revert hhalted
    unfold Coordinator.beginAcceptance
    split <;> exact fun hhalted => hi.kept ⟨rfl, rfl, rfl, rfl, rfl, rfl, rfl, rfl, rfl, rfl, rfl, rfl⟩ hhalted id rfl
  | start hm =>
    revert hhalted
    unfold Coordinator.start
    split
    · exact fun hhalted => hi.kept ⟨rfl, rfl, rfl, rfl, rfl, rfl, rfl, rfl, rfl, rfl, rfl, rfl⟩ hhalted id rfl
    · split
      · exact fun hhalted => hi.kept ⟨rfl, rfl, rfl, rfl, rfl, rfl, rfl, rfl, rfl, rfl, rfl, rfl⟩ hhalted id rfl
      · rename_i hnot
        have hcreated : s.coordinator.threadCreated ≠ true := fun h => hnot (hi.created h).1
        exact fun hhalted => { hi with
          halted := hhalted
          created := fun h => absurd h hcreated
          pending := fun _ => rfl
          failed := fun h => absurd (hi.failed h).1 hnot }
  | failStart hp hm =>
    have hcreated : s.coordinator.threadCreated = false := by
      cases h : s.coordinator.threadCreated with
      | false => rfl
      | true =>
        rw [(hi.created h).2] at hp
        cases hp
    obtain ⟨hcalls, hcount⟩ := hi.untouched hcreated
    exact { hi with
      halted := hhalted
      created := fun h => absurd (hcreated.symm.trans h) (by simp)
      pending := fun h => by cases h
      failed := fun _ => ⟨hi.pending hp, rfl⟩
      terminal := fun _ => Or.inl ⟨hcount, by
        show Settled s.calls
        rw [hcalls]
        exact fun g hg => by cases hg⟩ }
  | createThread hp =>
    have hcreated : s.coordinator.threadCreated = false := by
      cases h : s.coordinator.threadCreated with
      | false => rfl
      | true =>
        rw [(hi.created h).2] at hp
        cases hp
    exact { hi with
      halted := hhalted
      created := fun _ => ⟨hi.pending hp, rfl⟩
      pending := fun h => by cases h
      untouched := fun h => by cases h
      failed := fun h => ⟨hi.pending hp, rfl⟩ }
  | takeAttempt hr hj lastEventUtcNs => exact { hi with halted := hhalted }
  | finishStop hr hj ha hm | finishAcceptance hr hj hm transport =>
    exact { hi with
      halted := hhalted
      untouched := fun h => ⟨(hi.untouched h).1, rfl⟩
      counts := ⟨Nat.zero_le _, hi.counts.2⟩
      terminal := fun h => (hi.terminal h).imp (fun hq => ⟨rfl, hq.2⟩) id }

end MarketDataGateway.Recovery
