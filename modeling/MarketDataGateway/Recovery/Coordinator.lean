import MarketDataGateway.Lib.Exceptions
import MarketDataGateway.Lib.Loop
import MarketDataGateway.Recovery.Policy

/-!
# The recovery coordinator

One thread makes an attempt after the other, each with a transport of its own, opens and closes the source generation around it, and
decides what follows when the attempt ends. Whoever it calls (the attempts, the runtime, the clock, the lifecycle callbacks) is a
parameter: a program that reads the whole world and changes what is outside of the coordinator. An exception is a text, as it ends
up in the terminal error.

`calls` is a history, latest call first: nothing in the program reads it. `submissions` are those of the attempts.
-/

namespace MarketDataGateway.Recovery

open BinanceTransport MarketRuntime OrderBook Threads

/-- What the coordinator has done. The source calls note whether the callback returned true. `caught` notes the attempt and the
source generation that an exception found when it reached the handler of the loop, `failureRecorded` the failure of the transport. -/
inductive RecoveryCall where
  | attemptCreated (generation : Nat)
  | attemptStopped (generation : Nat)
  | sourceOpened (generation : Nat) (result : Bool)
  | sourceQuiesced (generation : Nat) (result : Bool)
  | sourceClosed (generation : Nat) (outcome : SourceGenerationCloseOutcome) (result : Bool)
  | markedLive (generation : Nat)
  | failureRecorded (generation : Nat) (decision : RecoveryDecision) (error : Option NetworkError)
  | backoffDelay (recoveryAttempt : Nat)
  | ownerReset (planned : Bool)
  | caught (active opened : Option Nat)
  | cleanupFailed
  deriving DecidableEq, Repr

/-- The coordinator: what its mutexes protect, the flags of its thread, and below them what only that thread touches. `mutexHeld` says
that the thread holds the mutex across calls. -/
structure Coordinator (L : ProjectionLibrary) where
  observation : RecoveryObservation L := {}
  started : Bool := false
  stopped : Bool := false
  shutdownRequested : Bool := false
  mutexHeld : Bool := false
  activeAttempt : Option Nat := none
  startPending : Bool := false
  threadCreated : Bool := false
  stopToken : Bool := false
  exited : Bool := false
  generation : Nat := 1
  sourceGenerationOpen : Option Nat := none
  sourceGenerationQuiesced : Bool := false

/-- A coordinator and everything around it. -/
structure World (L : ProjectionLibrary) (X : Type) where
  coordinator : Coordinator L := {}
  outside : X
  calls : List RecoveryCall := []
  submissions : List Nat := []

variable {L : ProjectionLibrary} {X ω : Type}

/-- The callbacks that the coordinator calls around an attempt whose transport has started. -/
structure SourceGenerationLifecycle (L : ProjectionLibrary) (X ω : Type) where
  openGeneration : Nat → Program (World L X) ω (Except String Bool)
  quiesce : Nat → Program (World L X) ω (Except String Bool)
  close : Nat → SourceGenerationCloseOutcome → Program (World L X) ω (Except String Bool)

/-- Whom the coordinator calls. An attempt is named by its generation. -/
structure Collaborators (L : ProjectionLibrary) (X ω : Type) where
  /-- False stands for a null attempt. -/
  createAttempt : Nat → Program (World L X) ω (Except String Bool)
  startAttempt : Nat → Program (World L X) ω (Except String TransportStartResult)
  stopAttempt : Nat → Program (World L X) ω Unit
  observeAttempt : Nat → Program (World L X) ω (Except String TransportObservation)
  monotonicClock : Program (World L X) ω (Except String Nat)
  waitUntilLiveOrRecoveryRequired : Program (World L X) ω (Except String (Option (RuntimeObservation L)))
  waitUntilRecoveryRequired : Program (World L X) ω (Except String (Option (RuntimeObservation L)))
  waitForRotation : Nat → Program (World L X) ω (Except String TimedRecoveryWaitResult)
  observeRuntime : Program (World L X) ω (Except String (RuntimeObservation L))
  submitTransportFailure : Program (World L X) ω (Except String AdmissionResult)
  resetForRebootstrap : Program (World L X) ω (Except String RebootstrapResetResult)
  resetLiveForPlannedRebootstrap : Program (World L X) ω (Except String RebootstrapResetResult)
  waitBackoff : Nat → Program (World L X) ω (Except String Bool)
  sourceGenerationLifecycle : Option (SourceGenerationLifecycle L X ω)
  /-- The age in nanoseconds at which a healthy attempt is replaced. -/
  plannedRotation : Option Nat

/-- A piece of the coordinator's code that may throw. -/
abbrev Recovering (L : ProjectionLibrary) (X ω α : Type) := Throwing (World L X) ω String α

namespace Coordinator

def stopping (s : Coordinator L) : Bool := s.stopToken || s.shutdownRequested

def onObservation (f : RecoveryObservation L → RecoveryObservation L) (s : Coordinator L) : Coordinator L :=
  { s with observation := f s.observation }

end Coordinator

namespace World

def onCoordinator (f : Coordinator L → Coordinator L) (s : World L X) : World L X := { s with coordinator := f s.coordinator }

def note (call : RecoveryCall) (s : World L X) : World L X := { s with calls := call :: s.calls }

/-! ## Sections -/

def attemptPublished (generation : Nat) (s : World L X) : World L X :=
  (s.onCoordinator fun c => { c with activeAttempt := some generation }).note (.attemptCreated generation)

def attemptCounted (generation : Nat) (transport : TransportObservation) : World L X → World L X :=
  onCoordinator <| Coordinator.onObservation fun o =>
    { o with
      connectionGeneration := generation
      connectionId := transport.connectionId
      activeTransportCount := 1
      maxActiveTransportCount := max o.maxActiveTransportCount 1 }

def generationStarted (started : Option Nat) : World L X → World L X :=
  onCoordinator <| Coordinator.onObservation fun o => { o with generationStartedMonotonicNs := started }

def persistLastEvent (transport : TransportObservation) : World L X → World L X :=
  onCoordinator <| Coordinator.onObservation fun o =>
    { o with lastEventUtcNs := if transport.lastEventUtcNs.isSome then transport.lastEventUtcNs else o.lastEventUtcNs }

def attemptReleased (generation : Nat) : World L X → World L X :=
  onCoordinator fun c => { c with activeAttempt := if c.activeAttempt = some generation then none else c.activeAttempt }

def attemptUncounted (transport : TransportObservation) : World L X → World L X :=
  onCoordinator <| Coordinator.onObservation fun o =>
    { o with
      activeTransportCount := 0
      connectionGeneration := transport.connectionGeneration
      connectionId := transport.connectionId }

/-- The last section of `try_mark_live`. -/
def markLive (transport : TransportObservation) (generation : Nat) (s : World L X) : Bool × World L X :=
  if s.coordinator.stopped || s.coordinator.shutdownRequested || s.coordinator.observation.terminal ||
      s.coordinator.observation.state = .stopping || s.coordinator.stopToken then (false, s)
  else
    (true,
      (s.onCoordinator <| Coordinator.onObservation fun o =>
        { o with
          state := .live
          connectionGeneration := transport.connectionGeneration
          connectionId := transport.connectionId
          consecutiveRecoveryAttempts := 0
          inBackoff := false
          terminalError := none }).note (.markedLive generation))

/-- At the deadline: true when a shutdown has come first. -/
def beginRotation (s : World L X) : Bool × World L X :=
  if s.coordinator.stopping then (true, s)
  else (false, s.onCoordinator <| Coordinator.onObservation fun o => { o with state := .rotating })

def rotated (transport : TransportObservation) (runtime : RuntimeObservation L) (s : World L X) : World L X :=
  (s.onCoordinator fun c =>
    { c with
      generation := c.generation + 1
      observation :=
        { c.observation with
          lastRotationGeneration := some c.generation
          lastPlannedRotationCut := some ⟨c.generation, transport, runtime⟩
          plannedRotationCount := c.observation.plannedRotationCount + 1
          state := .starting } }).note (.ownerReset true)

def recordFailure (generation : Nat) (decision : RecoveryDecision) (transport : TransportObservation)
    (runtime : RuntimeObservation L) (s : World L X) : World L X :=
  (s.onCoordinator <| Coordinator.onObservation <|
    RecoveryObservation.recordFailure (.of generation decision.cause transport runtime)).note
    (.failureRecorded generation decision transport.terminalError)

def exhaust (cause : RecoveryCause) (error : Option NetworkError) : World L X → World L X :=
  onCoordinator <| Coordinator.onObservation fun o =>
    { o with
      lastRecoveryCause := some cause
      state := .exhausted
      terminal := true
      exhausted := true
      inBackoff := false
      terminalError := error }

/-- One more recovery attempt, and the argument with which its delay is asked for. -/
def countRecovery (cause : RecoveryCause) (s : World L X) : Nat × World L X :=
  let recoveryAttempt := s.coordinator.observation.consecutiveRecoveryAttempts + 1
  (recoveryAttempt,
    (s.onCoordinator <| Coordinator.onObservation fun o =>
      { o with consecutiveRecoveryAttempts := recoveryAttempt, lastRecoveryCause := some cause }).note
      (.backoffDelay recoveryAttempt))

def enterBackoff (delay : Nat) : World L X → World L X :=
  onCoordinator <| Coordinator.onObservation fun o =>
    { o with lastRequestedDelay := delay, state := .backoff, inBackoff := true }

/-- After the delay: true when a shutdown has come first. -/
def leaveBackoff (s : World L X) : Bool × World L X :=
  if s.coordinator.stopping then (true, s)
  else (false, s.onCoordinator <| Coordinator.onObservation fun o => { o with state := .recovering, inBackoff := false })

def recovered (s : World L X) : World L X :=
  (s.onCoordinator fun c =>
    { c with
      generation := c.generation + 1
      observation := { c.observation with totalRecoveryCount := c.observation.totalRecoveryCount + 1 } }).note (.ownerReset false)

/-- Nothing is terminal once a shutdown has been requested. -/
def setTerminal (cause : RecoveryCause) (error : NetworkError) (s : World L X) : World L X :=
  if s.coordinator.shutdownRequested then s
  else s.onCoordinator <| Coordinator.onObservation <| RecoveryObservation.setTerminal cause error

def caught (s : World L X) : World L X := s.note (.caught s.coordinator.activeAttempt s.coordinator.sourceGenerationOpen)

def exit (s : World L X) : World L X := s.onCoordinator fun c => { c with exited := true }

end World

/-! ## The mutex -/

def lockMutex : Program (World L X) ω Unit :=
  Program.await (fun s => !s.coordinator.mutexHeld) fun _ s => ((), s.onCoordinator fun c => { c with mutexHeld := true })

def unlockMutex : Program (World L X) ω Unit := Program.modify (World.onCoordinator fun c => { c with mutexHeld := false })

/-- Run `p` with the mutex held. -/
def withMutex {α : Type} (p : Recovering L X ω α) : Recovering L X ω α := p.between lockMutex unlockMutex

def stopRequested : Recovering L X ω Bool := .lift (Program.read (·.coordinator.stopping))

def act (f : World L X → World L X) : Recovering L X ω Unit := .lift (Program.modify f)

/-! ## The source generation -/

/-- Invoke a callback; its success and what follows from it are one with its return. -/
def invoke (callback : Program (World L X) ω (Except String Bool)) (call : Bool → RecoveryCall) (message : String)
    (success : Coordinator L → Coordinator L) : Recovering L X ω Unit := do
  let result ← .lift callback
  match result with
  | .ok true => act fun s => (s.onCoordinator success).note (call true)
  | .ok false => do
    act (·.note (call false))
    throw message
  | .error error => do
    act (·.note (call false))
    throw error

def openSourceGeneration (c : Collaborators L X ω) (transport : TransportObservation) (expectedGeneration : Nat) :
    Recovering L X ω Unit :=
  match c.sourceGenerationLifecycle with
  | none => pure ()
  | some lifecycle => do
    let clear ← .lift (Program.read fun s =>
      s.coordinator.sourceGenerationOpen.isNone && !s.coordinator.sourceGenerationQuiesced)
    if clear && opens transport expectedGeneration then
      invoke (lifecycle.openGeneration expectedGeneration) (.sourceOpened expectedGeneration) "G9 source generation open invariant failed"
        fun c => { c with sourceGenerationOpen := some expectedGeneration }
    else throw "G9 source generation open invariant failed"

/-- The attempt has been stopped; the callback is due if its generation is open and not quiesced. -/
def quiesceSourceGeneration (c : Collaborators L X ω) (generation : Nat) : Recovering L X ω Unit := do
  let due ← .lift (Program.read fun s =>
    s.coordinator.sourceGenerationOpen = some generation && !s.coordinator.sourceGenerationQuiesced)
  match due, c.sourceGenerationLifecycle with
  | true, some lifecycle =>
    invoke (lifecycle.quiesce generation) (.sourceQuiesced generation) "G9 source generation quiesce invariant failed"
      fun c => { c with sourceGenerationQuiesced := true }
  | _, _ => pure ()

def closeSourceGeneration (c : Collaborators L X ω) (outcome : SourceGenerationCloseOutcome) : Recovering L X ω Unit := do
  let opened ← .lift (Program.read (·.coordinator.sourceGenerationOpen))
  match c.sourceGenerationLifecycle, opened with
  | some lifecycle, some generation => do
    let quiesced ← .lift (Program.read (·.coordinator.sourceGenerationQuiesced))
    if quiesced then
      invoke (lifecycle.close generation outcome) (.sourceClosed generation outcome) "G9 source generation close invariant failed"
        fun c => { c with sourceGenerationOpen := none, sourceGenerationQuiesced := false }
    else throw "G9 source generation close invariant failed"
  | _, _ => pure ()

/-! ## An attempt -/

/-- False when the factory returned null. -/
def createAttempt (c : Collaborators L X ω) (generation : Nat) : Recovering L X ω Bool := do
  let created ← .of (c.createAttempt generation)
  if created then do
    act (·.attemptPublished generation)
    let transport ← .of (c.observeAttempt generation)
    act (·.attemptCounted generation transport)
    pure true
  else pure false

def quiesceAttempt (c : Collaborators L X ω) (generation : Nat) : Recovering L X ω TransportObservation := do
  .lift (c.stopAttempt generation)
  act (·.note (.attemptStopped generation))
  let transport ← .of (c.observeAttempt generation)
  act (·.persistLastEvent transport)
  quiesceSourceGeneration c transport.connectionGeneration
  act (·.attemptReleased generation)
  act (·.attemptUncounted transport)
  pure transport

/-- The end of an attempt for a shutdown. -/
def leaveForShutdown (c : Collaborators L X ω) (generation : Nat) : Recovering L X ω Unit := do
  let _ ← quiesceAttempt c generation
  closeSourceGeneration c .globalShutdown

/-- When the attempt is to be replaced, with the time at which it began. -/
def rotationSchedule (c : Collaborators L X ω) (generation : Nat) : Recovering L X ω (Option (Nat × Nat)) :=
  match c.plannedRotation with
  | none => pure none
  | some age =>
    Throwing.onThrow
      (do
        let generationStarted ← .of c.monotonicClock
        match plannedRotationDeadline age generationStarted with
        | .ok deadline => pure (some (generationStarted, deadline))
        | .error error => throw error)
      (do
        let _ ← quiesceAttempt c generation
        pure ())

def waitForRotationOrRecovery (c : Collaborators L X ω) (generationStarted deadline : Nat) :
    Recovering L X ω TimedRecoveryWaitResult := do
  let now ← .of c.monotonicClock
  if now < generationStarted then throw "G6 monotonic clock moved backwards"
  else if deadline ≤ now then pure .deadlineReached
  else .of (c.waitForRotation (deadline - now))

def tryMarkLive (runtime : RuntimeObservation L) (transport : TransportObservation) (expectedGeneration : Nat) :
    Recovering L X ω Bool := do
  let requested ← .lift (Program.read (·.coordinator.stopToken))
  if !qualifies runtime transport expectedGeneration || requested then pure false
  else .lift (Program.atomic fun _ s => s.markLive transport expectedGeneration)

/-- What becomes of an attempt that has been marked live: whether its planned rotation is due, or `none` after a shutdown. -/
def awaitLiveEnd (c : Collaborators L X ω) (generation : Nat) (schedule : Option (Nat × Nat)) :
    Recovering L X ω (Option Bool) :=
  match schedule with
  | some (generationStarted, deadline) => do
    let result ← (waitForRotationOrRecovery c generationStarted deadline).onThrow (do
      let _ ← quiesceAttempt c generation
      closeSourceGeneration c .permanentFailure)
    match result with
    | .stopped => do
      leaveForShutdown c generation
      pure none
    | .recoveryRequired => pure (some false)
    | .deadlineReached => do
      let shutdownWon ← .lift (Program.atomic fun _ s => s.beginRotation)
      if shutdownWon then do
        leaveForShutdown c generation
        pure none
      else pure (some true)
  | none => do
    let runtime ← .of c.waitUntilRecoveryRequired
    match runtime with
    | none => do
      leaveForShutdown c generation
      pure none
    | some _ => pure (some false)

/-- What becomes of an attempt whose transport has started. -/
def awaitEnd (c : Collaborators L X ω) (generation : Nat) (schedule : Option (Nat × Nat)) : Recovering L X ω (Option Bool) := do
  let opening ← .of (c.observeAttempt generation)
  openSourceGeneration c opening generation
  let runtime ← .of c.waitUntilLiveOrRecoveryRequired
  match runtime with
  | none => do
    leaveForShutdown c generation
    pure none
  | some runtime =>
    if runtime.state = .live then do
      let qualified ← .of c.observeRuntime
      let transport ← .of (c.observeAttempt generation)
      let live ← tryMarkLive qualified transport generation
      if live then awaitLiveEnd c generation schedule else pure (some false)
    else pure (some false)

/-! ## After an attempt -/

/-- The planned replacement of a healthy attempt. -/
def rotate (c : Collaborators L X ω) (transport : TransportObservation) (runtime : RuntimeObservation L) : Recovering L X ω Bool := do
  let result ← withMutex do
    let stopping ← stopRequested
    if stopping then do
      closeSourceGeneration c .globalShutdown
      pure none
    else do
      closeSourceGeneration c .replacement
      let result ← .of c.resetLiveForPlannedRebootstrap
      if result = .reset then do
        act (·.rotated transport runtime)
        pure (some true)
      else pure (some false)
  match result with
  | none => pure false
  | some true => pure true
  | some false => do
    act (·.setTerminal .internalFailure (internalError "owner-domain planned rebootstrap reset failed"))
    pure false

/-- The delay before the next attempt, unless there is none: a shutdown has come first or the budget is spent. -/
def commitBackoff (c : Collaborators L X ω) (decision : RecoveryDecision) (transport : TransportObservation) :
    Recovering L X ω (Option Nat) :=
  withMutex do
    let stopping ← stopRequested
    if stopping then do
      closeSourceGeneration c .globalShutdown
      pure none
    else do
      let spent ← .lift (Program.read (·.coordinator.observation.consecutiveRecoveryAttempts))
      if kMaximumRecoveryAttempts ≤ spent then do
        closeSourceGeneration c .permanentFailure
        act (·.exhaust decision.cause transport.terminalError)
        pure none
      else do
        closeSourceGeneration c .replacement
        let recoveryAttempt ← .lift (Program.atomic fun _ s => s.countRecovery decision.cause)
        match normalBackoffDelay recoveryAttempt with
        | .error error => throw error
        | .ok delay => do
          let delay := max delay (decision.minimumDelay.getD 0)
          act (·.enterBackoff delay)
          pure (some delay)

/-- The reset of the owner before the next attempt; `none` when a shutdown has come first. -/
def resetOwner (c : Collaborators L X ω) : Recovering L X ω (Option Bool) :=
  withMutex do
    let stopping ← stopRequested
    if stopping then pure none
    else do
      let result ← .of c.resetForRebootstrap
      if result = .reset then do
        act (·.recovered)
        pure (some true)
      else pure (some false)

/-- The replacement of an attempt that has failed. -/
def recover (c : Collaborators L X ω) (generation : Nat) (transport : TransportObservation) (runtime : RuntimeObservation L) :
    Recovering L X ω Bool := do
  let decision := classifyFailure runtime transport
  act (·.recordFailure generation decision transport runtime)
  if !decision.recoverable then do
    closeSourceGeneration c .permanentFailure
    act (·.setTerminal decision.cause (transport.terminalError.getD (internalError "nonrecoverable G5 failure")))
    pure false
  else do
    let delay ← commitBackoff c decision transport
    match delay with
    | none => pure false
    | some delay => do
      let waited ← .of (c.waitBackoff delay)
      if !waited then pure false
      else do
        let stopping ← .lift (Program.atomic fun _ s => s.leaveBackoff)
        if stopping then pure false
        else do
          let result ← resetOwner c
          match result with
          | none => pure false
          | some true => pure true
          | some false => do
            act (·.setTerminal .internalFailure (internalError "owner-domain rebootstrap reset failed"))
            pure false

def conclude (c : Collaborators L X ω) (generation : Nat) (plannedRotationDue : Bool) (transport : TransportObservation)
    (runtime : RuntimeObservation L) : Recovering L X ω Bool :=
  if plannedRotationDue && isCleanPlannedCut runtime transport then rotate c transport runtime
  else recover c generation transport runtime

/-- The attempt has been quiesced: look at the runtime, and let it know of a failure it has not seen. -/
def settle (c : Collaborators L X ω) (generation : Nat) (plannedRotationDue : Bool) (transport : TransportObservation) :
    Recovering L X ω Bool := do
  let stopping ← stopRequested
  if stopping then do
    closeSourceGeneration c .globalShutdown
    pure false
  else do
    let runtime ← .of c.observeRuntime
    if transport.terminalError.isSome && runtime.state = .live && runtime.faultReason.isNone then do
      let admitted ← .of c.submitTransportFailure
      if admitted = .accepted then do
        let runtime ← .of c.observeRuntime
        conclude c generation plannedRotationDue transport runtime
      else do
        closeSourceGeneration c .permanentFailure
        act (·.setTerminal .internalFailure (internalError "terminal transport fault admission failed"))
        pure false
    else conclude c generation plannedRotationDue transport runtime

/-! ## The loop -/

/-- One attempt from its creation on; true when another one follows. -/
def attemptRound (c : Collaborators L X ω) : Recovering L X ω Bool := do
  let stopping ← stopRequested
  if stopping then pure false
  else do
    let generation ← .lift (Program.read (·.coordinator.generation))
    let created ← createAttempt c generation
    if !created then do
      act (·.setTerminal .internalFailure (internalError "attempt factory returned null"))
      pure false
    else do
      let stopping ← stopRequested
      if stopping then do
        leaveForShutdown c generation
        pure false
      else do
        let schedule ← rotationSchedule c generation
        act (·.generationStarted (schedule.map (·.1)))
        let result ← .of (c.startAttempt generation)
        let stopping ← stopRequested
        if stopping then do
          leaveForShutdown c generation
          pure false
        else do
          let ended ← if result = .started then awaitEnd c generation schedule else pure (some false)
          match ended with
          | none => pure false
          | some plannedRotationDue => do
            let transport ← quiesceAttempt c generation
            settle c generation plannedRotationDue transport

/-- What the handlers of the loop do about the source generation; nothing escapes from them. -/
def closeSourceAfterException (c : Collaborators L X ω) : Program (World L X) ω Unit := do
  let opened ← Program.read (·.coordinator.sourceGenerationOpen)
  if opened.isNone then pure ()
  else do
    let quiesced ← Program.read (·.coordinator.sourceGenerationQuiesced)
    let active ← Program.read (·.coordinator.activeAttempt)
    let clean ← match quiesced, active with
      | false, some generation => do
        let result ← (quiesceAttempt c generation).run
        match result with
        | .ok _ => pure true
        | .error _ => do
          Program.modify (·.note .cleanupFailed)
          pure false
      | _, _ => pure true
    if clean then do
      let _ ← (closeSourceGeneration c .permanentFailure).run
      pure ()
    else pure ()

/-- One round of the coordinator's thread. -/
def coordinatorRound (c : Collaborators L X ω) : Program (World L X) ω Bool := do
  Program.await (fun s => s.coordinator.threadCreated) fun _ s => ((), s)
  let result ← (attemptRound c).run
  match result with
  | .ok true => pure true
  | .ok false => do
    Program.modify (·.exit)
    pure false
  | .error error => do
    Program.modify (·.caught)
    closeSourceAfterException c
    Program.modify (·.setTerminal .internalFailure (internalError error))
    Program.modify (·.exit)
    pure false

end MarketDataGateway.Recovery
