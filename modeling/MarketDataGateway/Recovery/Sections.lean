import MarketDataGateway.Recovery.Places

/-!
# What the coordinator's sections do to a place

One lemma for each section of the coordinator's thread: it keeps the invariant and leads from one place to the next.
-/

namespace MarketDataGateway.Recovery

open BinanceTransport MarketRuntime OrderBook

variable {L : ProjectionLibrary} {X : Type} {reliable : Prop} {p : Place} {s : World L X}

/-- The invariant, and the thread at a place. -/
def Stands (reliable : Prop) (p : Place) (s : World L X) : Prop := CoordinatorInv reliable s ∧ At reliable p s

/-! ## Sections that the place does not show -/

/-- A section of the observation that touches none of what the place and the invariant speak of. -/
theorem Stands.observed (h : Stands reliable p s) {f : RecoveryObservation L → RecoveryObservation L}
    (hcount : (f s.coordinator.observation).activeTransportCount = s.coordinator.observation.activeTransportCount)
    (hmax : (f s.coordinator.observation).maxActiveTransportCount = s.coordinator.observation.maxActiveTransportCount)
    (hconsecutive : (f s.coordinator.observation).consecutiveRecoveryAttempts =
      s.coordinator.observation.consecutiveRecoveryAttempts)
    (hterminal : (f s.coordinator.observation).terminal = s.coordinator.observation.terminal)
    (hstate : (f s.coordinator.observation).state = .stopping → s.coordinator.observation.state = .stopping) :
    Stands reliable p (s.onCoordinator (Coordinator.onObservation f)) := by
  have hk : Kept s (s.onCoordinator (Coordinator.onObservation f)) :=
    ⟨rfl, rfl, rfl, rfl, rfl, hcount, hmax, rfl, rfl, hconsecutive, rfl, hterminal⟩
  exact ⟨h.1.kept hk ⟨h.1.halted.token, h.1.halted.stopped, fun hs => h.1.halted.stopping (hstate hs)⟩ id rfl, h.2.kept hk⟩

/-- When the attempt began is not part of the coordinator's state. -/
theorem Stands.since (h : Stands reliable p s) (since : Option Nat) : Stands reliable { p with since := since } s :=
  ⟨h.1, { h.2 with }⟩

/-- A call that is neither about attempts and resets nor about the source, and does not count. -/
def RecoveryCall.plain : RecoveryCall → Bool
  | .failureRecorded _ _ _ | .caught _ _ | .cleanupFailed => true
  | _ => false

/-- A plain call says nothing of attempts and resets. -/
theorem attemptCalls_plain {call : RecoveryCall} (hp : call.plain = true) (calls : List RecoveryCall) :
    attemptCalls (call :: calls) = attemptCalls calls := by
  cases call <;> first | rfl | cases hp

/-- A plain call invokes no callback. -/
theorem invocations_plain {call : RecoveryCall} (hp : call.plain = true) (calls : List RecoveryCall) :
    invocations (call :: calls) = invocations calls := by
  cases call <;> first | rfl | cases hp

/-- A call that is no failed callback leaves all of them true. -/
theorem AllTrue.cons {calls : List RecoveryCall} {call : RecoveryCall} (h : AllTrue calls)
    (hc : (∀ g, call ≠ .sourceOpened g false) ∧ (∀ g, call ≠ .sourceQuiesced g false) ∧
      ∀ g outcome, call ≠ .sourceClosed g outcome false) : AllTrue (call :: calls) := by
  intro other hm
  rcases List.mem_cons.mp hm with rfl | hm
  · exact hc
  · exact h other hm

/-- What holds of the callbacks so far holds behind a call that is none. -/
theorem CoordinatorInv.source_cons (hi : CoordinatorInv reliable s) {call : RecoveryCall} (hcall : call.invocation = none)
    (hr : reliable) : AllTrue (call :: s.calls) ∧ SourceTrace s.coordinator.exited (call :: s.calls) := by
  obtain ⟨hall, htrace⟩ := hi.source hr
  refine ⟨hall.cons ⟨fun g he => ?_, fun g he => ?_, fun g outcome he => ?_⟩, htrace.cons hcall⟩ <;>
  · subst he
    cases hcall

/-- The delays on record stay within the budget behind a call that asks for none. -/
theorem CoordinatorInv.delays_cons (hi : CoordinatorInv reliable s) {call : RecoveryCall} (hcall : ∀ n, .backoffDelay n ≠ call) (n : Nat)
    (hn : .backoffDelay n ∈ call :: s.calls) : 1 ≤ n ∧ n ≤ kMaximumRecoveryAttempts :=
  hi.delays n ((List.mem_cons.mp hn).resolve_left (hcall n))

/-- A call that makes no attempt leaves all of them stopped. -/
theorem Settled.cons {calls : List RecoveryCall} {call : RecoveryCall} (h : Settled calls)
    (hc : ∀ g, call ≠ .attemptCreated g) : Settled (call :: calls) := by
  intro g hg
  exact List.mem_cons_of_mem _ (h g ((List.mem_cons.mp hg).resolve_left fun he => hc g he.symm))

/-- What has escaped stays on record. -/
theorem Escaped.cons {calls : List RecoveryCall} (h : Escaped calls) (call : RecoveryCall) : Escaped (call :: calls) :=
  h.imp (fun ⟨g, hg⟩ => ⟨g, List.mem_cons_of_mem _ hg⟩) (List.mem_cons_of_mem _)

/-- A plain call may be noted anywhere. -/
theorem Stands.note (h : Stands reliable p s) {call : RecoveryCall} (hp : call.plain = true) : Stands reliable p (s.note call) := by
  obtain ⟨hi, ha⟩ := h
  have hstarted : startedSinceLive (call :: s.calls) = startedSinceLive s.calls := by cases call <;> first | rfl | cases hp
  have hbackoffs : backoffsSinceLive (call :: s.calls) = backoffsSinceLive s.calls := by cases call <;> first | rfl | cases hp
  refine ⟨⟨hi.halted, hi.created, hi.pending, fun hc => ?_, hi.failed, hi.consecutive.trans hbackoffs.symm, hi.within, ?_, ?_,
    hi.counts, ?_, ?_, ?_, ?_⟩, ⟨ha.created, ha.running, ha.generation, ?_, ha.active, ha.counted, ha.opened, ha.quiesced, ?_, ?_,
    ha.held, ha.terminal⟩⟩
  · exact absurd (ha.created.symm.trans hc) (by simp)
  · exact hstarted.le.trans hi.attempts
  · refine hi.delays_cons fun n he => ?_
    subst he
    cases hp
  · exact (attemptCalls_plain hp s.calls).symm ▸ hi.word
  · refine ⟨fun g r he => ?_, hi.stoppedFirst⟩
    subst he
    cases hp
  · exact hi.source_cons (by cases call <;> first | rfl | cases hp)
  · intro ht
    refine (hi.terminal ht).imp (fun hq => ⟨hq.1, hq.2.cons fun g he => ?_⟩) (fun he => he.cons _)
    subst he
    cases hp
  · exact (attemptCalls_plain hp s.calls).symm ▸ ha.attempts
  · exact fun hr => (invocations_plain hp s.calls).symm ▸ ha.source hr
  · exact hstarted.le.trans ha.budget

/-! ## The mutex -/

/-- The mutex is taken or given back. -/
theorem Stands.hold (h : Stands reliable p s) (b : Bool) :
    Stands reliable { p with held := b } (s.onCoordinator fun c => { c with mutexHeld := b }) := by
  obtain ⟨hi, ha⟩ := h
  exact ⟨{ hi with halted := ⟨hi.halted.token, hi.halted.stopped, hi.halted.stopping⟩ }, { ha with held := rfl }⟩

/-! ## Attempts -/

/-- An attempt is published when the last one is over. -/
theorem Stands.attemptPublished (h : Stands reliable p s) (hphase : p.phase = .ready) (hspent : p.spent = false)
    (hterminal : p.terminal = false) :
    Stands reliable { p with made := p.made + 1, phase := .active, active := some (p.made + 1), spent := true }
      (s.attemptPublished (p.made + 1)) := by
  obtain ⟨hi, ha⟩ := h
  have hword : AttemptWord .active (p.made + 1) (attemptCalls (.attemptCreated (p.made + 1) :: s.calls)) := by
    have := ha.attempts
    rw [hphase] at this
    exact .create this
  have hbudget : startedSinceLive s.calls ≤ s.coordinator.observation.consecutiveRecoveryAttempts := by
    have := ha.budget
    rw [hspent] at this
    simpa using this
  have hnot : s.coordinator.observation.terminal = false := ha.terminal.trans hterminal
  refine ⟨⟨⟨hi.halted.token, hi.halted.stopped, hi.halted.stopping⟩, hi.created, hi.pending, fun hc => ?_, hi.failed,
    hi.consecutive, hi.within, ?_, ?_, hi.counts, ⟨_, _, hword⟩, ⟨?_, hi.stoppedFirst⟩, ?_, fun ht => ?_⟩,
    ⟨ha.created, ha.running, ?_, hword, rfl, ha.counted, ha.opened, ha.quiesced, ha.source, ?_, ha.held, ha.terminal⟩⟩
  · exact absurd (ha.created.symm.trans hc) (by simp)
  · show startedSinceLive s.calls + 1 ≤ kMaximumRecoveryAttempts + 1
    have := hi.within
    omega
  · exact hi.delays_cons (by simp)
  · intro g r he
    cases he
  · exact hi.source_cons rfl
  · exact absurd (hnot.symm.trans ht) (by simp)
  · have hg : s.coordinator.generation = p.generation := ha.generation
    rw [Place.generation, if_pos hphase] at hg
    exact hg
  · show startedSinceLive s.calls + 1 ≤ s.coordinator.observation.consecutiveRecoveryAttempts + 1
    omega

/-- An attempt is counted. -/
theorem Stands.attemptCounted (h : Stands reliable p s) (hterminal : p.terminal = false) (generation : Nat)
    (transport : TransportObservation) :
    Stands reliable { p with counted := true } (s.attemptCounted generation transport) := by
  obtain ⟨hi, ha⟩ := h
  have hnot : s.coordinator.observation.terminal = false := ha.terminal.trans hterminal
  exact ⟨{ hi with
      halted := ⟨hi.halted.token, hi.halted.stopped, hi.halted.stopping⟩
      untouched := fun hc => absurd (ha.created.symm.trans hc) (by simp)
      counts := ⟨Nat.le_refl _, Nat.max_le.mpr ⟨hi.counts.2, Nat.le_refl _⟩⟩
      terminal := fun ht => absurd (hnot.symm.trans ht) (by simp) },
    { ha with counted := rfl }⟩

/-- An attempt is stopped. -/
theorem Stands.attemptStopped (h : Stands reliable p s) (hphase : p.phase ≠ .ready) (hterminal : p.terminal = false) :
    Stands reliable { p with phase := .stopped } (s.note (.attemptStopped p.made)) := by
  obtain ⟨hi, ha⟩ := h
  have hword : AttemptWord .stopped p.made (attemptCalls (.attemptStopped p.made :: s.calls)) := by
    have := ha.attempts
    cases hp : p.phase with
    | ready => exact absurd hp hphase
    | active => rw [hp] at this; exact .stop this
    | stopped => rw [hp] at this; exact .stopAgain this
  have hnot : s.coordinator.observation.terminal = false := ha.terminal.trans hterminal
  refine ⟨⟨hi.halted, hi.created, hi.pending, fun hc => ?_, hi.failed, hi.consecutive, hi.within, hi.attempts, ?_, hi.counts,
    ⟨_, _, hword⟩, ⟨?_, hi.stoppedFirst⟩, ?_, fun ht => ?_⟩,
    ⟨ha.created, ha.running, ?_, hword, ha.active, ha.counted, ha.opened, ha.quiesced, ha.source, ha.budget, ha.held, ha.terminal⟩⟩
  · exact absurd (ha.created.symm.trans hc) (by simp)
  · exact hi.delays_cons (by simp)
  · intro g r he
    cases he
  · exact hi.source_cons rfl
  · exact absurd (hnot.symm.trans ht) (by simp)
  · have hg : s.coordinator.generation = p.generation := ha.generation
    rw [Place.generation, if_neg hphase] at hg
    rw [Place.generation, if_neg (by simp)]
    exact hg

/-- An attempt is released. -/
theorem Stands.attemptReleased (h : Stands reliable p s) (hactive : p.active = some p.made) :
    Stands reliable { p with active := none } (s.attemptReleased p.made) := by
  obtain ⟨hi, ha⟩ := h
  refine ⟨{ hi with halted := ⟨hi.halted.token, hi.halted.stopped, hi.halted.stopping⟩ }, { ha with active := ?_ }⟩
  simp [World.attemptReleased, World.onCoordinator, ha.active, hactive]

/-- An attempt is not counted any more. -/
theorem Stands.attemptUncounted (h : Stands reliable p s) (transport : TransportObservation) :
    Stands reliable { p with counted := false } (s.attemptUncounted transport) := by
  obtain ⟨hi, ha⟩ := h
  exact ⟨{ hi with
      halted := ⟨hi.halted.token, hi.halted.stopped, hi.halted.stopping⟩
      untouched := fun hc => absurd (ha.created.symm.trans hc) (by simp)
      counts := ⟨Nat.zero_le _, hi.counts.2⟩
      terminal := fun ht => (hi.terminal ht).imp (fun hq => ⟨rfl, hq.2⟩) id },
    { ha with counted := rfl }⟩

/-! ## The source generation -/

/-- A callback has returned: `success` is what it changes, `phase` and `last` what it makes of the word. -/
theorem Stands.invoked (h : Stands reliable p s) (call : RecoveryCall) (invocation : SourceCall) (opened : Option Nat)
    (quiesced ended : Bool) (last : Nat) (hcall : call.invocation = some invocation) (hterminal : p.terminal = false) (htrue : (∀ g, call ≠ .sourceOpened g false) ∧ (∀ g, call ≠ .sourceQuiesced g false) ∧
      ∀ g outcome, call ≠ .sourceClosed g outcome false)
    (hstopped : ∀ g r, call = .sourceQuiesced g r → .attemptStopped g ∈ s.calls)
    (hword : ∀ w, reliable → SourceWord p.source p.last w →
      SourceWord { p with opened := opened, quiesced := quiesced, ended := ended, last := last }.source last (invocation :: w)) :
    Stands reliable { p with opened := opened, quiesced := quiesced, ended := ended, last := last }
      ((s.onCoordinator fun c => { c with sourceGenerationOpen := opened, sourceGenerationQuiesced := quiesced }).note call) := by
  obtain ⟨hi, ha⟩ := h
  have hattempt : attemptCalls (call :: s.calls) = attemptCalls s.calls := by cases call <;> first | rfl | cases hcall
  have hinvocation : invocations (call :: s.calls) = invocation :: invocations s.calls := by simp [invocations, hcall]
  have hstarted : startedSinceLive (call :: s.calls) = startedSinceLive s.calls := by cases call <;> first | rfl | cases hcall
  have hbackoffs : backoffsSinceLive (call :: s.calls) = backoffsSinceLive s.calls := by
    cases call <;> first | rfl | cases hcall
  have hnot : s.coordinator.observation.terminal = false := ha.terminal.trans hterminal
  refine ⟨⟨⟨hi.halted.token, hi.halted.stopped, hi.halted.stopping⟩, hi.created, hi.pending, fun hc => ?_, hi.failed,
    hi.consecutive.trans hbackoffs.symm, hi.within, hstarted.le.trans hi.attempts, ?_, hi.counts, hattempt.symm ▸ hi.word,
    ⟨hstopped, hi.stoppedFirst⟩, ?_, fun ht => ?_⟩,
    ⟨ha.created, ha.running, ha.generation, hattempt.symm ▸ ha.attempts, ha.active, ha.counted, rfl, rfl, fun hr => ?_,
      hstarted.le.trans ha.budget, ha.held, ha.terminal⟩⟩
  · exact absurd (ha.created.symm.trans hc) (by simp)
  · intro n hn
    rcases List.mem_cons.mp hn with rfl | hn
    · cases hcall
    · exact hi.delays n hn
  · intro hr
    refine ⟨(hi.source hr).1.cons htrue, ?_⟩
    refine ⟨_, last, hinvocation.symm ▸ hword _ hr (ha.source hr), fun he => ?_⟩
    exact absurd (ha.running.symm.trans he) (by simp)
  · exact absurd (hnot.symm.trans ht) (by simp)
  · exact hinvocation.symm ▸ hword _ hr (ha.source hr)

/-- A callback that is not reliable has failed. -/
theorem Stands.refused (h : Stands reliable p s) {call : RecoveryCall} (invocation : SourceCall)
    (hcall : call.invocation = some invocation) (hterminal : p.terminal = false) (hunreliable : ¬reliable)
    (hstopped : ∀ g r, call = .sourceQuiesced g r → .attemptStopped g ∈ s.calls) : Stands reliable p (s.note call) := by
  obtain ⟨hi, ha⟩ := h
  have hattempt : attemptCalls (call :: s.calls) = attemptCalls s.calls := by cases call <;> first | rfl | cases hcall
  have hstarted : startedSinceLive (call :: s.calls) = startedSinceLive s.calls := by cases call <;> first | rfl | cases hcall
  have hbackoffs : backoffsSinceLive (call :: s.calls) = backoffsSinceLive s.calls := by
    cases call <;> first | rfl | cases hcall
  have hnot : s.coordinator.observation.terminal = false := ha.terminal.trans hterminal
  refine ⟨⟨hi.halted, hi.created, hi.pending, fun hc => ?_, hi.failed, hi.consecutive.trans hbackoffs.symm, hi.within,
    hstarted.le.trans hi.attempts, ?_, hi.counts, hattempt.symm ▸ hi.word, ⟨hstopped, hi.stoppedFirst⟩,
    fun hr => absurd hr hunreliable, fun ht => ?_⟩,
    ⟨ha.created, ha.running, ha.generation, hattempt.symm ▸ ha.attempts, ha.active, ha.counted, ha.opened, ha.quiesced,
      fun hr => absurd hr hunreliable, hstarted.le.trans ha.budget, ha.held, ha.terminal⟩⟩
  · exact absurd (ha.created.symm.trans hc) (by simp)
  · intro n hn
    rcases List.mem_cons.mp hn with rfl | hn
    · cases hcall
    · exact hi.delays n hn
  · exact absurd (hnot.symm.trans ht) (by simp)

/-! ## Live and after -/

/-- An attempt that is marked live gives the budget back. -/
theorem Stands.markedLive (h : Stands reliable p s) (hterminal : p.terminal = false) {transport : TransportObservation}
    {generation : Nat} (hl : (s.markLive transport generation).1 = true) :
    Stands reliable { p with spent := false } (s.markLive transport generation).2 := by
  obtain ⟨hi, ha⟩ := h
  have hnot : s.coordinator.observation.terminal = false := ha.terminal.trans hterminal
  unfold World.markLive at hl ⊢
  split at hl
  · cases hl
  · rename_i hopen
    rw [if_neg hopen]
    refine ⟨⟨⟨hi.halted.token, hi.halted.stopped, fun hs => by cases hs⟩, hi.created, hi.pending, fun hc => ?_, hi.failed, rfl,
      Nat.zero_le _, Nat.zero_le _, ?_, hi.counts, hi.word, ⟨?_, hi.stoppedFirst⟩, ?_, fun ht => ?_⟩,
      ⟨ha.created, ha.running, ha.generation, ha.attempts, ha.active, ha.counted, ha.opened, ha.quiesced, ha.source, Nat.le_refl _,
        ha.held, ha.terminal⟩⟩
    · exact absurd (ha.created.symm.trans hc) (by simp)
    · exact hi.delays_cons (by simp)
    · intro g r he
      cases he
    · exact hi.source_cons rfl
    · exact absurd (hnot.symm.trans ht) (by simp)

/-- An attempt is not marked live only where a shutdown has been requested. -/
theorem markLive_refused (hi : CoordinatorInv reliable s) (ha : At reliable p s) (hterminal : p.terminal = false)
    {transport : TransportObservation} {generation : Nat} (hl : (s.markLive transport generation).1 = false) :
    s.coordinator.shutdownRequested = true ∧ (s.markLive transport generation).2 = s := by
  have hnot : s.coordinator.observation.terminal = false := ha.terminal.trans hterminal
  unfold World.markLive at hl ⊢
  split at hl
  · rename_i hc
    refine ⟨?_, by rw [if_pos hc]⟩
    simp only [Bool.or_eq_true, decide_eq_true_eq, hnot, Bool.false_eq_true, or_false] at hc
    rcases hc with ((hc | hc) | hc) | hc
    · exact hi.halted.stopped hc
    · exact hc
    · exact hi.halted.stopping hc
    · exact hi.halted.token hc
  · cases hl

/-- Marking live succeeds only where no shutdown has been requested, and touches nothing outside. -/
theorem markLive_open {transport : TransportObservation} {generation : Nat} (hl : (s.markLive transport generation).1 = true) :
    s.coordinator.shutdownRequested = false ∧
      (s.markLive transport generation).2.coordinator.shutdownRequested = s.coordinator.shutdownRequested ∧
      (s.markLive transport generation).2.outside = s.outside ∧
      (s.markLive transport generation).2.calls = .markedLive generation :: s.calls ∧
      ((s.markLive transport generation).2.coordinator.observation.terminal = s.coordinator.observation.terminal ∧
        (s.markLive transport generation).2.coordinator.observation.exhausted = s.coordinator.observation.exhausted ∧
          (s.markLive transport generation).2.coordinator.threadCreated = s.coordinator.threadCreated) := by
  unfold World.markLive at hl ⊢
  split at hl
  · cases hl
  · rename_i hc
    rw [if_neg hc]
    simp only [Bool.or_eq_true, not_or, Bool.not_eq_true] at hc
    exact ⟨hc.1.1.1.2, rfl, rfl, rfl, rfl, rfl, rfl⟩

/-- The owner has been reset: the next attempt may come. -/
theorem Stands.reset (h : Stands reliable p s) (planned : Bool) (hphase : p.phase = .stopped) (hterminal : p.terminal = false)
    {f : RecoveryObservation L → RecoveryObservation L}
    (hcount : (f s.coordinator.observation).activeTransportCount = s.coordinator.observation.activeTransportCount)
    (hmax : (f s.coordinator.observation).maxActiveTransportCount = s.coordinator.observation.maxActiveTransportCount)
    (hconsecutive : (f s.coordinator.observation).consecutiveRecoveryAttempts =
      s.coordinator.observation.consecutiveRecoveryAttempts)
    (hterm : (f s.coordinator.observation).terminal = s.coordinator.observation.terminal)
    (hstate : (f s.coordinator.observation).state = .stopping → s.coordinator.observation.state = .stopping) :
    Stands reliable { p with phase := .ready }
      ((s.onCoordinator fun c => { c with generation := c.generation + 1, observation := f c.observation }).note (.ownerReset planned)) := by
  obtain ⟨hi, ha⟩ := h
  have hword : AttemptWord .ready p.made (attemptCalls (.ownerReset planned :: s.calls)) := by
    have := ha.attempts
    rw [hphase] at this
    exact .reset this
  have hnot : (f s.coordinator.observation).terminal = false := hterm.trans (ha.terminal.trans hterminal)
  refine ⟨⟨⟨hi.halted.token, hi.halted.stopped, fun hs => hi.halted.stopping (hstate hs)⟩, hi.created, hi.pending, fun hc => ?_,
    fun ht => ?_, hconsecutive.trans hi.consecutive, hconsecutive.le.trans hi.within, hi.attempts, ?_, ?_, ⟨_, _, hword⟩,
    ⟨?_, hi.stoppedFirst⟩, ?_, fun ht => ?_⟩,
    ⟨ha.created, ha.running, ?_, hword, ha.active, hcount.trans ha.counted, ha.opened, ha.quiesced, ha.source, ?_, ha.held,
      hterm.trans ha.terminal⟩⟩
  · exact absurd (ha.created.symm.trans hc) (by simp)
  · exact absurd (hnot.symm.trans ht) (by simp)
  · exact hi.delays_cons (by simp)
  · exact ⟨hcount.le.trans hi.counts.1, hmax.le.trans hi.counts.2⟩
  · intro g r he
    cases he
  · exact hi.source_cons rfl
  · exact absurd (hnot.symm.trans ht) (by simp)
  · have hg : s.coordinator.generation = p.generation := ha.generation
    rw [Place.generation, if_neg (by rw [hphase]; simp)] at hg
    simp [World.note, World.onCoordinator, Place.generation, hg]
  · show startedSinceLive s.calls ≤ (f s.coordinator.observation).consecutiveRecoveryAttempts + _
    rw [hconsecutive]
    exact ha.budget

/-- A recovery is counted while there is room in the budget. -/
theorem Stands.countRecovery (h : Stands reliable p s) (hterminal : p.terminal = false)
    (hroom : s.coordinator.observation.consecutiveRecoveryAttempts < kMaximumRecoveryAttempts) (cause : RecoveryCause) :
    Stands reliable { p with spent := false } (s.countRecovery cause).2 ∧
      1 ≤ (s.countRecovery cause).1 ∧ (s.countRecovery cause).1 ≤ kMaximumRecoveryAttempts := by
  obtain ⟨hi, ha⟩ := h
  have hnot : s.coordinator.observation.terminal = false := ha.terminal.trans hterminal
  refine ⟨⟨⟨⟨hi.halted.token, hi.halted.stopped, hi.halted.stopping⟩, hi.created, hi.pending, fun hc => ?_, hi.failed, ?_, hroom,
    hi.attempts, ?_, hi.counts, hi.word, ⟨?_, hi.stoppedFirst⟩, ?_, fun ht => ?_⟩,
    ⟨ha.created, ha.running, ha.generation, ha.attempts, ha.active, ha.counted, ha.opened, ha.quiesced, ha.source, ?_, ha.held,
      ha.terminal⟩⟩, Nat.le_add_left 1 _, hroom⟩
  · exact absurd (ha.created.symm.trans hc) (by simp)
  · show s.coordinator.observation.consecutiveRecoveryAttempts + 1 = backoffsSinceLive s.calls + 1
    rw [hi.consecutive]
  · intro n hn
    rcases List.mem_cons.mp hn with he | hn
    · cases he
      exact ⟨Nat.le_add_left 1 _, hroom⟩
    · exact hi.delays n hn
  · intro g r he
    cases he
  · exact hi.source_cons rfl
  · exact absurd (hnot.symm.trans ht) (by simp)
  · show startedSinceLive s.calls ≤ s.coordinator.observation.consecutiveRecoveryAttempts + 1 + 0
    have := ha.budget
    split at this <;> omega

/-! ## The end -/

/-- The recovery is over for good; no attempt is left, or an exception has escaped. -/
theorem Stands.terminal (h : Stands reliable p s) {f : RecoveryObservation L → RecoveryObservation L}
    (hcount : (f s.coordinator.observation).activeTransportCount = s.coordinator.observation.activeTransportCount)
    (hmax : (f s.coordinator.observation).maxActiveTransportCount = s.coordinator.observation.maxActiveTransportCount)
    (hconsecutive : (f s.coordinator.observation).consecutiveRecoveryAttempts =
      s.coordinator.observation.consecutiveRecoveryAttempts)
    (hterm : (f s.coordinator.observation).terminal = true) (hstate : (f s.coordinator.observation).state ≠ .stopping)
    (hquiet : (p.phase ≠ .active ∧ p.counted = false) ∨ Escaped s.calls) :
    Stands reliable { p with terminal := true } (s.onCoordinator (Coordinator.onObservation f)) := by
  obtain ⟨hi, ha⟩ := h
  have hcreated := hi.created ha.created
  refine ⟨⟨⟨hi.halted.token, hi.halted.stopped, fun hs => absurd hs hstate⟩, hi.created, hi.pending,
    fun hc => absurd (ha.created.symm.trans hc) (by simp), fun _ => hcreated, hconsecutive.trans hi.consecutive,
    hconsecutive.le.trans hi.within, hi.attempts, hi.delays, ⟨hcount.le.trans hi.counts.1, hmax.le.trans hi.counts.2⟩, hi.word,
    hi.stoppedFirst, hi.source, fun _ => ?_⟩,
    ⟨ha.created, ha.running, ha.generation, ha.attempts, ha.active, hcount.trans ha.counted, ha.opened, ha.quiesced, ha.source, ?_,
      ha.held, hterm⟩⟩
  · refine hquiet.imp (fun hq => ⟨hcount.trans ?_, ha.attempts.settled hq.1⟩) id
    rw [ha.counted, hq.2]
    rfl
  · show startedSinceLive s.calls ≤ (f s.coordinator.observation).consecutiveRecoveryAttempts + _
    rw [hconsecutive]
    exact ha.budget

/-- The recovery is ended when no attempt is under way, or an exception has escaped. -/
theorem Stands.setTerminal (h : Stands reliable p s) (hterminal : p.terminal = false) (cause : RecoveryCause) (error : NetworkError)
    (hquiet : (p.phase ≠ .active ∧ p.counted = false) ∨ Escaped s.calls) :
    ∃ b, Stands reliable { p with terminal := b } (s.setTerminal cause error) := by
  unfold World.setTerminal
  split
  · refine ⟨false, ?_⟩
    rw [← hterminal]
    exact h
  · exact ⟨true, h.terminal rfl rfl rfl rfl (by simp [RecoveryObservation.setTerminal]) hquiet⟩

/-- The thread is over; a reliable source generation is left open only where the cleanup after an exception has failed. -/
theorem Stands.exit (h : Stands reliable p s) (hopened : reliable → p.opened = none ∨ .cleanupFailed ∈ s.calls) :
    CoordinatorInv reliable s.exit := by
  obtain ⟨hi, ha⟩ := h
  refine { hi with halted := ⟨hi.halted.token, hi.halted.stopped, hi.halted.stopping⟩, source := fun hr => ?_ }
  refine ⟨(hi.source hr).1, _, _, ha.source hr, fun _ => (hopened hr).imp (fun ho => ?_) id⟩
  rw [Place.source, ho]
  cases p.ended
  · exact Or.inl rfl
  · exact Or.inr rfl

end MarketDataGateway.Recovery
