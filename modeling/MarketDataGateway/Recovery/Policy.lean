import MarketDataGateway.OrderBook.Channel
import MarketDataGateway.Transport.Network

/-!
# The recovery policy

What a coordinator remembers of its attempts, how it classifies the end of one, and how long it waits before the next. None of it
has a state of its own.
-/

namespace MarketDataGateway.Recovery

open BinanceTransport MarketRuntime OrderBook

inductive RecoveryState where
  | starting | live | rotating | backoff | recovering | exhausted | stopping | stopped
  deriving DecidableEq, Repr

inductive SourceGenerationCloseOutcome where
  | replacement | permanentFailure | globalShutdown
  deriving DecidableEq, Repr

inductive RecoveryCause where
  | needsResync | transportFailure | snapshotFailure | ingressOverflow | bootstrapBufferOverflow | protocol | serverShutdown
  | http429 | http418 | http5xx | terminalHttp4xx | internalFailure
  deriving DecidableEq, Repr

inductive RecoveryStartResult where
  | started | alreadyStarted | stopped | runtimeStartFailed
  deriving DecidableEq, Repr

inductive TimedRecoveryWaitResult where
  | recoveryRequired | deadlineReached | stopped
  deriving DecidableEq, Repr

def kMaximumRecoveryAttempts : Nat := 6

def kRecoveryFailureHistoryCapacity : Nat := kMaximumRecoveryAttempts + 1

/-- The largest number of seconds a duration holds. -/
def maxSeconds : Nat := 2 ^ 63 - 1

variable {L : ProjectionLibrary}

structure PlannedRotationCut (L : ProjectionLibrary) where
  generation : Nat
  transport : TransportObservation
  runtime : RuntimeObservation L

structure RecoveryFailureDiagnostic (L : ProjectionLibrary) where
  connectionGeneration : Nat
  cause : RecoveryCause
  networkError : Option NetworkError
  runtimeState : RuntimeState
  projectionStatus : ProjectionStatus
  lastGap : Option L.GapInfo
  faultReason : Option FaultReason
  adapterError : Option L.AdapterError

structure RecoveryObservation (L : ProjectionLibrary) where
  state : RecoveryState := .starting
  connectionGeneration : Nat := 0
  connectionId : String := ""
  lastEventUtcNs : Option Nat := none
  consecutiveRecoveryAttempts : Nat := 0
  totalRecoveryCount : Nat := 0
  plannedRotationCount : Nat := 0
  lastRotationGeneration : Option Nat := none
  lastPlannedRotationCut : Option (PlannedRotationCut L) := none
  generationStartedMonotonicNs : Option Nat := none
  lastRecoveryCause : Option RecoveryCause := none
  lastRequestedDelay : Nat := 0
  inBackoff : Bool := false
  terminal : Bool := false
  exhausted : Bool := false
  activeTransportCount : Nat := 0
  maxActiveTransportCount : Nat := 0
  terminalError : Option NetworkError := none
  failureHistory : List (RecoveryFailureDiagnostic L) := []

/-! ## Classification -/

structure RecoveryDecision where
  recoverable : Bool := false
  cause : RecoveryCause := .internalFailure
  minimumDelay : Option Nat := none
  deriving DecidableEq, Repr

/-- A whole number of seconds, in decimal digits and no more than a duration holds. -/
def parseRetryAfter (value : Option String) : Option Nat :=
  match value with
  | none => none
  | some text =>
    if text.toList.isEmpty || !text.toList.all Char.isDigit then none
    else
      let seconds := text.toList.foldl (fun n c => 10 * n + (c.toNat - '0'.toNat)) 0
      if seconds ≤ maxSeconds then some seconds else none

/-- What the runtime's state says of the failure; `none` when it says that it is not recoverable. -/
def classifyRuntime (runtime : RuntimeObservation L) (transport : TransportObservation) : Option RecoveryDecision :=
  if runtime.state = .needsResync then some { recoverable := true, cause := .needsResync }
  else
    match decide (runtime.state = .faulted), runtime.faultReason with
    | true, some .transportFailure => some { recoverable := true, cause := .transportFailure }
    | true, some .snapshotFailure => some { recoverable := true, cause := .snapshotFailure }
    | true, some .ingressOverflow => some { recoverable := true, cause := .ingressOverflow }
    | true, some .bootstrapBufferOverflow => some { recoverable := true, cause := .bootstrapBufferOverflow }
    | true, some .adapterError | true, some .projectionRejected | true, some .clockError | true, some .internalError => none
    | _, _ => if transport.terminalError.isSome then some { recoverable := true, cause := .transportFailure } else none

/-- What an HTTP status says of the failure. -/
def classifyStatus (decision : RecoveryDecision) (status : Nat) (retryAfter : Option String) : RecoveryDecision :=
  if status = 429 ∨ status = 418 then
    match parseRetryAfter retryAfter with
    | none => {}
    | some delay => { recoverable := true, cause := if status = 429 then .http429 else .http418, minimumDelay := some delay }
  else if 500 ≤ status ∧ status ≤ 599 then { decision with recoverable := true, cause := .http5xx }
  else if 400 ≤ status ∧ status ≤ 499 then { decision with recoverable := false, cause := .terminalHttp4xx }
  else {}

def classifyFailure (runtime : RuntimeObservation L) (transport : TransportObservation) : RecoveryDecision :=
  match classifyRuntime runtime transport with
  | none => {}
  | some decision =>
    match transport.terminalError with
    | none => decision
    | some error =>
      match error.code with
      | .internal => {}
      | .protocol => { decision with cause := .protocol }
      | .serverShutdown => { decision with cause := .serverShutdown }
      | .httpStatus =>
        match error.httpStatus with
        | none => {}
        | some status => classifyStatus decision status error.retryAfter
      | _ => decision

def internalError (message : String) : NetworkError := { code := .internal, stage := "g5-recovery", message := message }

/-! ## Delays -/

def backoffDelays : List Nat := [1, 2, 4, 8, 16, 30]

/-- The delay in seconds before the `n`th recovery attempt; any other argument throws. -/
def normalBackoffDelay (recoveryAttempt : Nat) : Except String Nat :=
  match recoveryAttempt with
  | 0 => .error "G5 recovery attempt is outside bounded policy"
  | n + 1 =>
    match backoffDelays[n]? with
    | some delay => .ok delay
    | none => .error "G5 recovery attempt is outside bounded policy"

/-- Every attempt of the budget has its delay. -/
theorem normalBackoffDelay_ok {n : Nat} (h : 1 ≤ n) (h' : n ≤ kMaximumRecoveryAttempts) :
    ∃ delay, normalBackoffDelay n = .ok delay := by
  obtain ⟨m, rfl⟩ : ∃ m, n = m + 1 := ⟨n - 1, by omega⟩
  have hm : m < backoffDelays.length := by
    simp only [kMaximumRecoveryAttempts] at h'
    simp only [backoffDelays, List.length_cons, List.length_nil]
    omega
  refine ⟨backoffDelays[m], ?_⟩
  simp [normalBackoffDelay, List.getElem?_eq_getElem hm]

/-! ## The observation -/

namespace RecoveryObservation

/-- The oldest diagnostic goes when there is no room for another one. -/
def recordFailure (diagnostic : RecoveryFailureDiagnostic L) (observation : RecoveryObservation L) : RecoveryObservation L :=
  { observation with
    failureHistory :=
      if observation.failureHistory.length = kRecoveryFailureHistoryCapacity then
        observation.failureHistory.tail ++ [diagnostic]
      else observation.failureHistory ++ [diagnostic] }

/-- A recovery that is not exhausted but cannot go on. -/
def setTerminal (cause : RecoveryCause) (error : NetworkError) (observation : RecoveryObservation L) : RecoveryObservation L :=
  { observation with
    lastRecoveryCause := some cause
    state := .exhausted
    terminal := true
    exhausted := false
    inBackoff := false
    terminalError := some error }

end RecoveryObservation

def RecoveryFailureDiagnostic.of (generation : Nat) (cause : RecoveryCause) (transport : TransportObservation)
    (runtime : RuntimeObservation L) : RecoveryFailureDiagnostic L where
  connectionGeneration := generation
  cause := cause
  networkError := transport.terminalError
  runtimeState := runtime.state
  projectionStatus := runtime.projectionStatus
  lastGap := runtime.lastGap
  faultReason := runtime.faultReason
  adapterError := runtime.adapterError

/-- The transport was stopped without a failure and the runtime is as it should be. -/
def isCleanPlannedCut (runtime : RuntimeObservation L) (transport : TransportObservation) : Bool :=
  transport.stopped && !transport.running && transport.terminalError.isNone && runtime.state = .live &&
    runtime.projectionStatus = .synchronized && runtime.faultReason.isNone

/-- What both observations have to say of an attempt before it may be marked live. -/
def qualifies (runtime : RuntimeObservation L) (transport : TransportObservation) (expectedGeneration : Nat) : Bool :=
  runtime.state = .live && runtime.projectionStatus = .synchronized && runtime.faultReason.isNone && transport.running &&
    !transport.stopped && transport.terminalError.isNone && transport.websocketHandshake && transport.restDepthFetched &&
    transport.connectionGeneration = expectedGeneration

/-- What the transport has to look like when its source generation is opened. -/
def opens (transport : TransportObservation) (expectedGeneration : Nat) : Bool :=
  transport.started && transport.running && !transport.stopped && transport.websocketHandshake &&
    transport.connectionGeneration = expectedGeneration

/-- The monotonic time of the planned rotation. -/
def plannedRotationDeadline (age generationStarted : Nat) : Except String Nat :=
  if maxUInt64 - age < generationStarted then .error "G6 planned rotation deadline overflow" else .ok (generationStarted + age)

end MarketDataGateway.Recovery
