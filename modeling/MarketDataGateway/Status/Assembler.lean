import MarketDataGateway.Events.Publication
import MarketDataGateway.Recovery.Runs
import MarketDataGateway.Runtime.Freshness
import MarketDataGateway.Status.Key

/-!
# The gateway's status

A status is put together from what each market's runtime, recovery and event publication say of themselves, one after the other and
while all of them go on. A market is named by its place in the registry; what goes on in the gateway is any interleaving of the runs
of all components, whether they have anything to do with each other or not.
-/

namespace MarketDataGateway.Status

open BinanceTransport Events MarketRuntime OrderBook Recovery Threads

inductive StreamLifecycleState where
  | accepted | snapshotPending | live | resyncInProgress | degraded | closing | closed
  deriving DecidableEq, Repr

inductive StatusSnapshotError where
  | startBaselineUnavailable | clockError | monotonicClockRegression | invalidObservation | observationTimeout
  deriving DecidableEq, Repr

def kStatusSnapshotSchema : String := "gateway-status-snapshot.v1"

def kMaximumConfiguredProducts : Nat := 8

def kMaximumActiveSubscriptions : Nat := 8

variable {L : ProjectionLibrary} {T : EventTypes} {X ω : Type}

/-- A market: its name, and what its runtime and its recovery were made with. -/
structure MarketServices (L : ProjectionLibrary) (X ω : Type) where
  key : MarketKey
  setup : Setup L
  collaborators : Collaborators L X ω
  around : World L X → X → Prop

/-- The constructor refuses anything else. -/
structure MarketRuntimeRegistry (L : ProjectionLibrary) (X ω : Type) where
  entries : List (MarketServices L X ω)
  size : 0 < entries.length ∧ entries.length ≤ kMaximumConfiguredProducts
  unique : (entries.map (·.key)).Nodup

/-- What an assembler observes: one market, which it takes for the spot market, or those of a registry. -/
inductive StatusSource (L : ProjectionLibrary) (X ω : Type) where
  | product (services : MarketServices L X ω)
  | registry (registry : MarketRuntimeRegistry L X ω)

def StatusSource.entries : StatusSource L X ω → List (MarketServices L X ω)
  | .product services => [{ services with key := spotBtcusdtKey }]
  | .registry r => r.entries

structure GatewayStatusAssembler (L : ProjectionLibrary) (X ω : Type) where
  source : StatusSource L X ω
  gatewayInstanceId : String

/-! ## The gateway -/

structure MarketState (L : ProjectionLibrary) (T : EventTypes) (X ω : Type) where
  runtime : Phase (Impl L) (Outcome L) × Impl L
  recovery : Phase (World L X) ω × World L X
  eventPublication : EventPublication T

structure Gateway (L : ProjectionLibrary) (T : EventTypes) (X ω : Type) where
  markets : Nat → MarketState L T X ω
  startBaselineMonotonicNs : Option Nat := none

namespace Gateway

def onMarket (i : Nat) (f : MarketState L T X ω → MarketState L T X ω) (g : Gateway L T X ω) : Gateway L T X ω :=
  { g with markets := Function.update g.markets i (f (g.markets i)) }

/-- A caller's section of a runtime. -/
def onRuntime (i : Nat) (f : Impl L → Impl L) : Gateway L T X ω → Gateway L T X ω :=
  onMarket i fun m => { m with runtime := (m.runtime.1, f m.runtime.2) }

end Gateway

/-- One section of any component. An event publication may do anything, and so may whoever prepares or clears the baseline. -/
inductive GatewayStep (entries : List (MarketServices L X ω)) : Gateway L T X ω → Gateway L T X ω → Prop where
  | runtime {g i entry ph s} (he : entries[i]? = some entry)
      (h : MarketRuntime.RunStep entry.setup (g.markets i).runtime.1 (g.markets i).runtime.2 ph s) :
      GatewayStep entries g (g.onMarket i fun m => { m with runtime := (ph, s) })
  | recovery {g i entry ph s} (he : entries[i]? = some entry)
      (h : Recovery.RunStep entry.around entry.collaborators (g.markets i).recovery.1 (g.markets i).recovery.2 ph s) :
      GatewayStep entries g (g.onMarket i fun m => { m with recovery := (ph, s) })
  | eventPublication {g} (i : Nat) (publication : EventPublication T) :
      GatewayStep entries g (g.onMarket i fun m => { m with eventPublication := publication })
  | baseline {g} (monotonicNs : Option Nat) : GatewayStep entries g { g with startBaselineMonotonicNs := monotonicNs }

/-! ## Observations -/

/-- What the environment chooses: whether a wait is given up, what a transport says of itself, and the time on the assembler's clock
unless it throws. -/
structure StatusOutcome where
  gaveUp : Bool := false
  transport : TransportObservation := {}
  clock : Option ClockSample := none

abbrev StatusProgram (L : ProjectionLibrary) (T : EventTypes) (X ω α : Type) := Program (Gateway L T X ω) StatusOutcome α

structure EventPublicationObservation where
  sourceState : EventSourceState
  sourceGeneration : Option Nat
  activeSubscriptions : Nat
  deriving DecidableEq, Repr

def observeEventPublication (publication : EventPublication T) : EventPublicationObservation :=
  ⟨publication.sourceState, publication.sourceGeneration, publication.channels.length⟩

structure CollectedMarket (L : ProjectionLibrary) where
  key : MarketKey
  runtime : RuntimeObservation L
  recovery : RecoveryObservation L
  eventPublication : EventPublicationObservation

/-- How a call of `observe_until` goes on after its first section. -/
inductive ObserveEntry (L : ProjectionLibrary) where
  | stopRequested
  | returned (observation : RuntimeObservation L)
  | waits (call : ObserveCall)

/-- The first section of the runtime's `observe_until`. -/
def enterObserve (i : Nat) (w : StatusOutcome) (g : Gateway L T X ω) : ObserveEntry L × Gateway L T X ω :=
  let s := (g.markets i).runtime.2
  let entered := g.onRuntime i (·.observe)
  if w.gaveUp then (.stopRequested, g)
  else if s.mail.started && !s.mail.stopped then (.waits ⟨s.callers.nextObserver, s.mail.lastAdmittedTicket⟩, entered)
  else (.returned (entered.markets i).runtime.2.mail.observation, entered)

/-- The call is over, whether or not it has got what it waited for. -/
def leaveObserve (call : ObserveCall) (s : Impl L) : Impl L := s.forgetObserver (s.callers.observers.idxOf call)

def observeReturns (i : Nat) (call : ObserveCall) (g : Gateway L T X ω) : Option (RuntimeObservation L) × Gateway L T X ω :=
  let returned := g.onRuntime i fun s => leaveObserve call (s.returnObservation call.id call.target)
  (some (returned.markets i).runtime.2.mail.observation, returned)

def observeRuntimeUntil (i : Nat) : StatusProgram L T X ω (Option (RuntimeObservation L)) := do
  let entry ← Program.atomic (enterObserve i)
  match entry with
  | .stopRequested => pure none
  | .returned observation => pure (some observation)
  | .waits call => do
    let gaveUp ← Program.choose (·.gaveUp)
    if gaveUp then do
      Program.modify (Gateway.onRuntime i (leaveObserve call))
      pure none
    else
      Program.await
        (fun g => decide (call ∈ (g.markets i).runtime.2.callers.observers) && (g.markets i).runtime.2.observeReady call)
        fun _ => observeReturns i call

/-- The recovery's own observation is read under its mutex; the time of the last event is the active transport's, if it has one. -/
def observeRecoveryUntil (i : Nat) : StatusProgram L T X ω (Option (RecoveryObservation L)) := do
  let gaveUp ← Program.choose (·.gaveUp)
  if gaveUp then pure none
  else do
    let copy ← Program.await (fun g => !(g.markets i).recovery.2.coordinator.mutexHeld)
      fun _ g => ((g.markets i).recovery.2.coordinator.observation, g)
    let attempt ← Program.read fun g => (g.markets i).recovery.2.coordinator.activeAttempt
    if attempt.isNone || copy.activeTransportCount ≠ 1 || copy.connectionGeneration = 0 then pure (some copy)
    else do
      let transport ← Program.choose (·.transport)
      if transport.connectionGeneration = copy.connectionGeneration && transport.lastEventUtcNs.isSome then
        pure (some { copy with lastEventUtcNs := transport.lastEventUtcNs })
      else pure (some copy)

/-- `none` when an observation has taken too long. -/
def collectMarkets : List (MarketServices L X ω × Nat) → StatusProgram L T X ω (Option (List (CollectedMarket L)))
  | [] => pure (some [])
  | (entry, i) :: rest => do
    let runtime ← observeRuntimeUntil i
    match runtime with
    | none => pure none
    | some runtime => do
      let recovery ← observeRecoveryUntil i
      match recovery with
      | none => pure none
      | some recovery => do
        let eventPublication ← Program.read fun g => observeEventPublication (g.markets i).eventPublication
        let others ← collectMarkets rest
        pure (others.map (⟨entry.key, runtime, recovery, eventPublication⟩ :: ·))

/-! ## The status -/

/-- Every state has its lifecycle state. -/
def mapRuntimeState : RuntimeState → StreamLifecycleState
  | .constructed => .accepted
  | .buffering | .awaitingBridge => .snapshotPending
  | .live => .live
  | .needsResync => .resyncInProgress
  | .faulted => .degraded
  | .stopping => .closing
  | .stopped => .closed

def validRecoveryObservation (observation : RecoveryObservation L) : Bool :=
  observation.activeTransportCount ≤ 1 && (observation.activeTransportCount = 0 || observation.connectionGeneration ≠ 0)

structure MarketStatus where
  key : MarketKey
  state : StreamLifecycleState
  lastEventUtcNs : Option Nat
  connectionGeneration : Option Nat
  activeSubscriptionCount : Nat
  deriving DecidableEq, Repr

structure GatewayStatusSnapshot where
  schemaVersion : String
  gatewayInstanceId : String
  observedTimeUtcNs : Nat
  uptimeSeconds : Nat
  markets : List MarketStatus
  totalActiveSubscriptions : Nat
  deriving DecidableEq, Repr

namespace CollectedMarket

def valid (m : CollectedMarket L) : Bool :=
  validRecoveryObservation m.recovery && m.runtime.residentSubscriptionCount ≤ kMaximumActiveSubscriptions &&
    m.eventPublication.activeSubscriptions ≤ kMaximumActiveEventSubscriptions

/-- At most sixteen, so no counter of the status overflows. -/
def activeSubscriptions (m : CollectedMarket L) : Nat :=
  m.runtime.residentSubscriptionCount + m.eventPublication.activeSubscriptions

/-- Only the applied order book speaks for the freshness of a market. -/
def lastEventUtcNs (m : CollectedMarket L) : Option Nat :=
  match m.runtime.lastAppliedDepth with
  | none => none
  | some depth =>
    if m.runtime.state = .live ∧ m.runtime.projectionStatus = .synchronized ∧ m.recovery.state = .live ∧
        m.recovery.activeTransportCount = 1 ∧ depth.connectionGeneration = some m.recovery.connectionGeneration then
      depth.receiveTimeUtcNs
    else none

def status (m : CollectedMarket L) : MarketStatus where
  key := m.key
  state := mapRuntimeState m.runtime.state
  lastEventUtcNs := m.lastEventUtcNs
  connectionGeneration := if m.recovery.activeTransportCount = 1 then some m.recovery.connectionGeneration else none
  activeSubscriptionCount := m.activeSubscriptions

end CollectedMarket

def snapshot (gatewayInstanceId : String) (markets : List (CollectedMarket L)) (observedAt : ClockSample) (baselineMonotonicNs : Nat) :
    GatewayStatusSnapshot where
  schemaVersion := kStatusSnapshotSchema
  gatewayInstanceId := gatewayInstanceId
  observedTimeUtcNs := observedAt.utcNs
  uptimeSeconds := (observedAt.monotonicNs - baselineMonotonicNs) / 1000000000
  markets := markets.map (·.status)
  totalActiveSubscriptions := markets.foldl (fun total m => total + m.activeSubscriptions) 0

def collect (assembler : GatewayStatusAssembler L X ω) :
    StatusProgram L T X ω (Except StatusSnapshotError GatewayStatusSnapshot) := do
  let collected ← collectMarkets assembler.source.entries.zipIdx
  match collected with
  | none => pure (.error .observationTimeout)
  | some markets =>
    if !markets.all (·.valid) then pure (.error .invalidObservation)
    else do
      let baseline ← Program.read (·.startBaselineMonotonicNs)
      match baseline with
      | none => pure (.error .startBaselineUnavailable)
      | some baseline => do
        let sampled ← Program.choose (·.clock)
        match sampled with
        | none => pure (.error .clockError)
        | some observedAt =>
          if observedAt.monotonicNs < baseline then pure (.error .monotonicClockRegression)
          else pure (.ok (snapshot assembler.gatewayInstanceId markets observedAt baseline))

end MarketDataGateway.Status
