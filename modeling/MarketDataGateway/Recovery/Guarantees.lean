import MarketDataGateway.Recovery.Growth
import MarketDataGateway.Runtime.Counting

/-!
# What a coordinator guarantees

Whatever the attempts, the runtime, the clock and the callbacks do: the order of the lifecycle callbacks, the order and number of the
attempts, and what is left of them when the recovery is terminal.
-/

namespace MarketDataGateway.Recovery

open BinanceTransport MarketRuntime OrderBook Threads Promise Relation

variable {L : ProjectionLibrary} {X ω : Type} {around : World L X → X → Prop} {c : Collaborators L X ω} {x : X}
  {ph ph' : Phase (World L X) ω} {s t : World L X}

/-! ## Runs -/

/-- A run from one state to another. -/
def Run (around : World L X → X → Prop) (c : Collaborators L X ω) (p q : Phase (World L X) ω × World L X) : Prop :=
  ReflTransGen (fun p q => RunStep around c p.1 p.2 q.1 q.2) p q

/-- Whatever is left of a round forgets nothing and submits nothing. -/
theorem Reachable.phase_grows (hc : c.Honest) (h : Reachable around c x ph s) : PhaseAll Grows ph := by
  induction h with
  | initial => trivial
  | step _ hs ih => exact (hs.guarantee (coordinatorRound_grows hc.toSections) ih).2

/-- A section of any other thread submits for an attempt that has not been stopped, or not at all. -/
theorem ClientStep.submitted (hs : ClientStep around s t) :
    t.submissions = s.submissions ∨ ∃ g, .attemptStopped g ∉ s.calls ∧ t.submissions = g :: s.submissions := by
  cases hs with
  | submit hc hs => exact Or.inr ⟨_, hs, rfl⟩
  | _ => exact Or.inl rfl

/-- An attempt that has been stopped stays stopped and submits nothing more. -/
theorem RunStep.stopped (hc : c.Honest) (hp : PhaseAll Grows ph) (hs : RunStep around c ph s ph' t) {g : Nat}
    (hg : .attemptStopped g ∈ s.calls) :
    PhaseAll Grows ph' ∧ .attemptStopped g ∈ t.calls ∧ t.submissions.count g = s.submissions.count g := by
  obtain ⟨hmove, hp'⟩ := hs.guarantee (coordinatorRound_grows hc.toSections) hp
  rcases hmove with hclient | ⟨hcalls, hsubmissions⟩ | rfl
  · refine ⟨hp', hclient.calls ▸ hg, ?_⟩
    rcases hclient.submitted with he | ⟨g', hg', he⟩
    · rw [he]
    · rw [he]
      refine List.count_cons_of_ne fun hsame => hg' ?_
      rw [hsame]
      exact hg
  · exact ⟨hp', hcalls.subset hg, by rw [hsubmissions]⟩
  · exact ⟨hp', hg, rfl⟩

/-- A stopped attempt submits nothing more. -/
theorem Run.stopped (hc : c.Honest) (hp : PhaseAll Grows ph) (hrun : Run around c (ph, s) (ph', t)) {g : Nat}
    (hg : .attemptStopped g ∈ s.calls) : t.submissions.count g = s.submissions.count g := by
  have hall : ∀ q, Run around c (ph, s) q → PhaseAll Grows q.1 ∧ .attemptStopped g ∈ q.2.calls ∧
      q.2.submissions.count g = s.submissions.count g := by
    intro q hq
    induction hq with
    | refl => exact ⟨hp, hg, rfl⟩
    | tail _ hs ih =>
      obtain ⟨hp', hg', hcount⟩ := RunStep.stopped hc ih.1 hs ih.2.1
      exact ⟨hp', hg', hcount.trans ih.2.2⟩
  exact (hall (ph', t) hrun).2.2

/-- The invariant holds in every state of every run. -/
theorem Reachable.inv (hc : c.Honest) (h : Reachable around c x ph s) : CoordinatorInv c.CallbacksReturnTrue s :=
  (Contract.reachable (K := honestContract around hc) trivial trivial h).1

/-! ## The lifecycle callbacks -/

/-- With callbacks that return true, generations are opened, quiesced and closed one after the other, each later than the one before;
one is quiesced only after its attempt has been stopped; none is open when the thread is over, unless the attempt could not be quiesced
in the cleanup after an exception; and none follows a close that is not a replacement. -/
theorem lifecycle_grammar (hc : c.Honest) (hr : c.CallbacksReturnTrue) (h : Reachable around c x ph s) :
    StoppedFirst s.calls ∧ ∃ phase last, SourceWord phase last (invocations s.calls) ∧
      (s.coordinator.exited = true → (phase = .closed ∨ phase = .ended) ∨ .cleanupFailed ∈ s.calls) := by
  have hi := h.inv hc
  exact ⟨hi.stoppedFirst, (hi.source hr).2⟩

/-! ## The attempts -/

/-- Attempts are numbered without a gap, each made after the one before has been stopped and the owner has been reset once; at most
one is counted; the budget is what has been spent since the last one was marked live, at most six, and no more than seven attempts
are made with it. -/
theorem bounded_recovery (hc : c.Honest) (h : Reachable around c x ph s) :
    (∃ phase n, AttemptWord phase n (attemptCalls s.calls)) ∧
      s.coordinator.observation.activeTransportCount ≤ 1 ∧ s.coordinator.observation.maxActiveTransportCount ≤ 1 ∧
      s.coordinator.observation.consecutiveRecoveryAttempts = backoffsSinceLive s.calls ∧
      s.coordinator.observation.consecutiveRecoveryAttempts ≤ kMaximumRecoveryAttempts ∧
      (∀ n, .backoffDelay n ∈ s.calls → 1 ≤ n ∧ n ≤ kMaximumRecoveryAttempts) ∧
      startedSinceLive s.calls ≤ kMaximumRecoveryAttempts + 1 := by
  have hi := h.inv hc
  exact ⟨hi.word, hi.counts.1, hi.counts.2, hi.consecutive, hi.within, hi.delays, hi.attempts⟩

/-! ## The end -/

/-- In a run in which no exception has escaped: when the recovery is terminal every attempt has been stopped, none is counted, and
none submits anything any more. -/
theorem terminal_quiesced (hc : c.Honest) (h : Reachable around c x ph s) (he : ¬Escaped s.calls)
    (ht : s.coordinator.observation.terminal = true) :
    s.coordinator.observation.activeTransportCount = 0 ∧ Settled s.calls ∧
      ∀ ph' t, Run around c (ph, s) (ph', t) → ∀ g, .attemptCreated g ∈ s.calls →
        t.submissions.count g = s.submissions.count g := by
  obtain ⟨hcount, hsettled⟩ := ((h.inv hc).terminal ht).resolve_right he
  exact ⟨hcount, hsettled, fun ph' t hrun g hg => hrun.stopped hc (h.phase_grows hc) (hsettled g hg)⟩

/-! ## A runtime that never gets anywhere -/

/-- Every attempt starts and every runtime needs a resync; `opened` is what the callback that opens a generation returns. -/
def resyncing (opened : Bool) : Collaborators countingLibrary Unit Unit where
  createAttempt _ := pure (.ok true)
  startAttempt _ := pure (.ok .started)
  stopAttempt _ := pure ()
  observeAttempt g := pure (.ok { started := true, running := true, websocketHandshake := true, connectionGeneration := g })
  monotonicClock := pure (.ok 0)
  waitUntilLiveOrRecoveryRequired := pure (.ok (some { state := .needsResync }))
  waitUntilRecoveryRequired := pure (.ok (some { state := .needsResync }))
  waitForRotation _ := pure (.ok .recoveryRequired)
  observeRuntime := pure (.ok { state := .needsResync })
  submitTransportFailure := pure (.ok .accepted)
  resetForRebootstrap := pure (.ok .reset)
  resetLiveForPlannedRebootstrap := pure (.ok .invalidState)
  waitBackoff _ := pure (.ok true)
  sourceGenerationLifecycle := some
    { openGeneration := fun _ => pure (.ok opened)
      quiesce := fun _ => pure (.ok true)
      close := fun _ _ => pure (.ok true) }
  plannedRotation := none

/-- The coordinator's thread has run for `n` sections. -/
def resynced (opened : Bool) (n : Nat) : Phase (World countingLibrary Unit) Unit × World countingLibrary Unit :=
  Phase.advances (coordinatorRound (resyncing opened)) () n
    (.head, { outside := (), coordinator := ((Coordinator.start {}).2).createThread })

/-- The sample collaborators are honest. -/
theorem resyncing_honest (opened : Bool) : (resyncing opened).Honest where
  createAttempt _ := trivial
  startAttempt _ := trivial
  stopAttempt _ := trivial
  observeAttempt _ := trivial
  monotonicClock := trivial
  waitUntilLiveOrRecoveryRequired := trivial
  waitUntilRecoveryRequired := trivial
  waitForRotation _ := trivial
  observeRuntime := trivial
  submitTransportFailure := trivial
  resetForRebootstrap := trivial
  resetLiveForPlannedRebootstrap := trivial
  waitBackoff _ := trivial
  lifecycle := by
    rintro l ⟨⟩ g
    exact ⟨trivial, trivial, fun _ => trivial⟩
  generations g := by
    rintro t ⟨⟩
    rfl

/-- Their callbacks return true. -/
theorem resyncing_callbacks : (resyncing true).CallbacksReturnTrue := by
  rintro l ⟨⟩ g
  exact ⟨rfl, rfl, fun _ => rfl⟩

/-- Nothing happens outside. -/
def still (_ : World countingLibrary Unit) (_ : Unit) : Prop := False

/-- The sample run is a run. -/
theorem resynced_reachable (opened : Bool) (n : Nat) :
    Reachable still (resyncing opened) () (resynced opened n).1 (resynced opened n).2 :=
  (Reachable.begun still (resyncing opened) ()).advances () n

/-- Seven attempts, the last one closed for good. -/
theorem lifecycle_grammar_exhausted :
    (resynced true 300).2.coordinator.exited = true ∧ StoppedFirst (resynced true 300).2.calls ∧
      ∃ phase last, SourceWord phase last (invocations (resynced true 300).2.calls) ∧
        ((resynced true 300).2.coordinator.exited = true →
          (phase = .closed ∨ phase = .ended) ∨ .cleanupFailed ∈ (resynced true 300).2.calls) :=
  ⟨by decide +kernel, lifecycle_grammar (resyncing_honest true) resyncing_callbacks (resynced_reachable true 300)⟩

/-- The sample run spends its whole budget with seven attempts. -/
theorem bounded_recovery_exhausted :
    startedSinceLive (resynced true 300).2.calls = 7 ∧
      (∃ phase n, AttemptWord phase n (attemptCalls (resynced true 300).2.calls)) ∧
      (resynced true 300).2.coordinator.observation.activeTransportCount ≤ 1 ∧
      (resynced true 300).2.coordinator.observation.maxActiveTransportCount ≤ 1 ∧
      (resynced true 300).2.coordinator.observation.consecutiveRecoveryAttempts = backoffsSinceLive (resynced true 300).2.calls ∧
      (resynced true 300).2.coordinator.observation.consecutiveRecoveryAttempts ≤ kMaximumRecoveryAttempts ∧
      (∀ n, .backoffDelay n ∈ (resynced true 300).2.calls → 1 ≤ n ∧ n ≤ kMaximumRecoveryAttempts) ∧
      startedSinceLive (resynced true 300).2.calls ≤ kMaximumRecoveryAttempts + 1 :=
  ⟨by decide +kernel, bounded_recovery (resyncing_honest true) (resynced_reachable true 300)⟩

/-- Whether an exception has escaped can be computed. -/
theorem not_escaped {calls : List RecoveryCall}
    (h : calls.all (fun call => match call with | .caught (some _) none | .cleanupFailed => false | _ => true) = true) :
    ¬Escaped calls := by
  rw [List.all_eq_true] at h
  rintro (⟨g, hg⟩ | hc)
  · exact absurd (h _ hg) (by simp)
  · exact absurd (h _ hc) (by simp)

/-- The sample run ends with no attempt under way. -/
theorem terminal_quiesced_exhausted :
    (resynced true 300).2.coordinator.observation.activeTransportCount = 0 ∧ Settled (resynced true 300).2.calls ∧
      ∀ ph' t, Run still (resyncing true) ((resynced true 300).1, (resynced true 300).2) (ph', t) →
        ∀ g, .attemptCreated g ∈ (resynced true 300).2.calls →
          t.submissions.count g = (resynced true 300).2.submissions.count g :=
  terminal_quiesced (resyncing_honest true) (resynced_reachable true 300) (not_escaped (by decide +kernel)) (by decide +kernel)

/-- An open callback that returns false ends the recovery while the attempt is counted, has not been stopped, and submits. -/
theorem terminal_with_running_attempt :
    ∃ ph s, Reachable still (resyncing false) () ph s ∧ s.coordinator.observation.terminal = true ∧
      s.coordinator.observation.activeTransportCount = 1 ∧ .attemptCreated 1 ∈ s.calls ∧ .attemptStopped 1 ∉ s.calls ∧
      ∃ t, RunStep still (resyncing false) ph s ph t ∧ t.submissions = 1 :: s.submissions := by
  have hcreated : .attemptCreated 1 ∈ (resynced false 60).2.calls := by decide +kernel
  have hstopped : .attemptStopped 1 ∉ (resynced false 60).2.calls := by decide +kernel
  exact ⟨_, _, resynced_reachable false 60, by decide +kernel, by decide +kernel, hcreated, hstopped, _,
    .env (.submit hcreated hstopped), rfl⟩

end MarketDataGateway.Recovery
