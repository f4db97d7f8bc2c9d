import MarketDataGateway.Lib.Focus
import MarketDataGateway.Recovery.Coverage
import MarketDataGateway.Runtime.Api

/-!
# A product of the gateway

A product has a recovery coordinator, and around it a runtime and everything else. Here are the calls with which the gateway starts,
observes and stops one, section by section: `RecoveryCoordinator::start` and `stop`, and within them `MarketRuntime::start` and
`stop`. What the coordinator calls is a parameter.

`stopped` and `taken` are history: the attempts that a call of `stop` has stopped, and whether one has taken the last attempt.
-/

namespace MarketDataGateway.Production

open BinanceTransport MarketRuntime OrderBook Recovery Threads

/-- What a coordinator has around it. -/
structure Premises (L : ProjectionLibrary) (Y : Type) where
  runtime : Impl L
  elsewhere : Y

/-- `thread` is that of the coordinator, once there is one. -/
structure Product (L : ProjectionLibrary) (Y ω : Type) where
  world : World L (Premises L Y)
  thread : Option (Phase (World L (Premises L Y)) ω) := none
  stopped : List Nat := []
  taken : Bool := false

/-- What the environment chooses in a call: what goes on in a product's own code, whether a call throws, whether an observation comes
back in time. -/
structure ProductOutcome (ω : Type) where
  rest : ω
  throws : Bool := false
  observed : Bool := true

variable {L : ProjectionLibrary} {Y ω α : Type}

namespace Product

/-- A product that has just been constructed. -/
def initial (setup : Setup L) (elsewhere : Y) : Product L Y ω where
  world := { outside := { runtime := .initial setup, elsewhere := elsewhere } }

def coordinator (p : Product L Y ω) : Coordinator L := p.world.coordinator

def runtime (p : Product L Y ω) : Impl L := p.world.outside.runtime

def onWorld (f : World L (Premises L Y) → World L (Premises L Y)) (p : Product L Y ω) : Product L Y ω :=
  { p with world := f p.world }

def onCoordinator (f : Coordinator L → Coordinator L) : Product L Y ω → Product L Y ω := onWorld (World.onCoordinator f)

def onRuntime (f : Impl L → Impl L) : Product L Y ω → Product L Y ω :=
  onWorld fun s => { s with outside := { s.outside with runtime := f s.outside.runtime } }

def createThread (p : Product L Y ω) : Product L Y ω := { p.onCoordinator (·.createThread) with thread := some .head }

/-- The coordinator's thread may be joined at once, or there is none. -/
def joined (p : Product L Y ω) : Bool :=
  match p.thread with
  | none | some .exited => true
  | some _ => false

/-- The last attempt is taken out of the coordinator. -/
def takeAttempt (p : Product L Y ω) : Option Nat × Product L Y ω :=
  (p.coordinator.activeAttempt, { p.onCoordinator (·.takeAttempt none) with taken := true })

end Product

abbrev ProductProgram (L : ProjectionLibrary) (Y ω α : Type) := Program (Product L Y ω) (ProductOutcome ω) α

open Program

/-- A program of one of the coordinator's collaborators, run by somebody else. -/
def call (p : Program (World L (Premises L Y)) ω α) : ProductProgram L Y ω α :=
  p.focus Product.world (fun s p => { p with world := s }) ProductOutcome.rest

/-- A section with the coordinator's mutex. -/
def locked (f : Product L Y ω → α × Product L Y ω) : ProductProgram L Y ω α :=
  await (fun p => !p.coordinator.mutexHeld) fun _ p => f p

/-- `std::terminate`: nothing comes back. -/
def terminate : ProductProgram L Y ω Unit := await (fun _ => false) fun _ p => ((), p)

/-! ## The runtime -/

/-- `MarketRuntime::start`. Creating the owner's thread may throw; a thread that has been created is waited for until it is ready. -/
def startRuntime : ProductProgram L Y ω (Except String MarketRuntime.StartResult) := do
  let answer ← atomic fun w p =>
    match p.runtime.start.1 with
    | .started => if w.throws then (some (.error "owner thread"), p) else (none, p.onRuntime (·.start.2))
    | result => (some (.ok result), p)
  match answer with
  | some answer => pure answer
  | none => await (·.runtime.mail.ownerReady) fun _ p => (.ok .started, p)

/-- `MarketRuntime::stop`. -/
def stopRuntime : ProductProgram L Y ω Unit := do
  let waits ← atomic fun _ p => (p.runtime.mail.started && !p.runtime.mail.stopped, p.onRuntime (·.requestStop))
  if waits then await (·.runtime.ownerExited) fun _ p => ((), p.onRuntime (·.finishStop))
  else pure ()

/-! ## The coordinator -/

/-- `RecoveryCoordinator::start`. -/
def start : Throwing (Product L Y ω) (ProductOutcome ω) String RecoveryStartResult := do
  let entry ← .lift (locked fun p => (p.coordinator.start.1, p.onCoordinator (·.start.2)))
  match entry with
  | some result => pure result
  | none => do
    let result ← .of startRuntime
    if result = .started then do
      let created ← .lift (atomic fun w p => if w.throws then (false, p) else (true, p.createThread))
      if created then pure .started else throw "coordinator thread"
    else do
      .lift (locked fun p => ((), p.onCoordinator (·.failStart)))
      pure .runtimeStartFailed

variable (c : Collaborators L (Premises L Y) ω)

def stopAttempt (attempt : Option Nat) : ProductProgram L Y ω Unit :=
  match attempt with
  | none => pure ()
  | some generation => do
    call (c.stopAttempt generation)
    modify fun p => { p with stopped := generation :: p.stopped }

/-- The last event of the attempt that has been taken. `stop` is `noexcept`. -/
def keepLastEvent (attempt : Option Nat) : ProductProgram L Y ω Unit :=
  match attempt with
  | none => pure ()
  | some generation => do
    let transport ← call (c.observeAttempt generation)
    match transport with
    | .ok transport => locked fun p => ((), p.onWorld (·.persistLastEvent transport))
    | .error _ => terminate

/-- `RecoveryCoordinator::stop`, with the stop of the runtime in it. -/
def stop : ProductProgram L Y ω Unit := do
  let returns ← locked fun p => (p.coordinator.stopped || !p.coordinator.started, p.onCoordinator (·.requestStop))
  if returns then pure ()
  else do
    modify (·.onCoordinator (·.requestStopToken))
    let attempt ← read (·.coordinator.activeAttempt)
    stopAttempt c attempt
    await (·.joined) fun _ p => ((), p)
    let finalAttempt ← atomic fun _ p => p.takeAttempt
    stopAttempt c finalAttempt
    keepLastEvent c finalAttempt
    stopRuntime
    locked fun p => ((), p.onCoordinator (·.finishStop))

/-! ## Shutting down publications -/

def closePublicationAdmission : ProductProgram L Y ω Unit := modify (·.onRuntime (·.closePublicationAdmission))

def shutdownPublication : ProductProgram L Y ω Unit := do
  let result ← atomic fun _ p => (p.runtime.shutdownPublication.1, p.onRuntime (·.shutdownPublication.2))
  if result.isSome then pure () else await (·.runtime.shutdownReturns) fun _ p => ((), p)

/-- The shutdown of the event publication, which is elsewhere. -/
def shutdownEvents (shutdown : Y → Y) : ProductProgram L Y ω Unit :=
  modify (·.onWorld fun s => { s with outside := { s.outside with elsewhere := shutdown s.outside.elsewhere } })

/-! ## Observing -/

/-- `RecoveryCoordinator::observe_until` with a deadline that has come: nothing comes back when the mutex is not free. -/
def observeRecovery : Throwing (Product L Y ω) (ProductOutcome ω) String (Option (RecoveryObservation L)) := do
  let copy ← .lift (atomic fun w p =>
    (if w.observed && !p.coordinator.mutexHeld then some p.coordinator.observation else none, p))
  let attempt ← .lift (read (·.coordinator.activeAttempt))
  match copy, attempt with
  | some copy, some generation =>
    if copy.activeTransportCount ≠ 1 || copy.connectionGeneration = 0 then pure (some copy)
    else do
      let transport ← .of (call (c.observeAttempt generation))
      if transport.connectionGeneration = copy.connectionGeneration && transport.lastEventUtcNs.isSome then
        pure (some { copy with lastEventUtcNs := transport.lastEventUtcNs })
      else pure (some copy)
  | copy, _ => pure copy

/-- `MarketRuntime::observe_until` with a deadline that has come; with it, whether the observation has an owner's thread in it. -/
def observeRuntime : ProductProgram L Y ω (Option (RuntimeObservation L × Bool)) :=
  atomic fun w p =>
    if w.observed then
      let returned : Product L Y ω := p.onRuntime fun s =>
        ({ s with mail.observation.ingressOccupancy := s.mail.ingress.length } : Impl L).publishTicketsLocked
      (some (returned.runtime.mail.observation, returned.runtime.mail.ownerReady), returned)
    else (none, p)

/-- What the gateway takes for a product that is live. -/
def isLive (recovery : Option (RecoveryObservation L)) (runtime : Option (RuntimeObservation L × Bool)) : Bool :=
  match recovery, runtime with
  | some recovery, some (runtime, ownerThread) =>
    recovery.state = .live && !recovery.terminal && 1 ≤ recovery.connectionGeneration && recovery.activeTransportCount = 1 &&
      runtime.state = .live && runtime.projectionStatus = .synchronized && ownerThread
  | _, _ => false

/-- What the gateway takes for one that has failed. -/
def hasFailed (recovery : Option (RecoveryObservation L)) (runtime : Option (RuntimeObservation L × Bool)) : Bool :=
  recovery.any (fun r => r.terminal || r.exhausted || r.state = .stopped) ||
    runtime.any fun r => r.1.state = .faulted || r.1.state = .stopped

def initialLive : Throwing (Product L Y ω) (ProductOutcome ω) String Bool := do
  let recovery ← observeRecovery c
  let runtime ← .lift observeRuntime
  pure (isLive recovery runtime)

def initialFailure : Throwing (Product L Y ω) (ProductOutcome ω) String Bool := do
  let recovery ← observeRecovery c
  let runtime ← .lift observeRuntime
  pure (hasFailed recovery runtime)

/-! ## What goes on besides -/

/-- Whatever changes around a coordinator, the owner of its runtime is not started or stopped by it; an owner that has exited stays so. -/
structure Besides (x y : Premises L Y) : Prop where
  started : y.runtime.mail.started = x.runtime.mail.started
  stopped : y.runtime.mail.stopped = x.runtime.mail.stopped
  ownerJoined : y.runtime.mail.observation.ownerJoined = x.runtime.mail.observation.ownerJoined
  ownerExited : x.runtime.ownerExited = true → y.runtime.ownerExited = true

/-- A section of one of the coordinator's collaborators. -/
def Bystanding (s t : World L (Premises L Y)) : Prop := ∃ x, Besides s.outside x ∧ t = { s with outside := x }

/-- One section of any thread but the gateway's. -/
inductive ProductStep : Product L Y ω → Product L Y ω → Prop where
  | thread {p ph ph' s} (ht : p.thread = some ph) (hs : LoopStep (fun _ _ => False) (coordinatorRound c) ph p.world ph' s) :
      ProductStep p { p with thread := some ph', world := s }
  | around {p x} (h : Besides p.world.outside x) : ProductStep p (p.onWorld fun s => { s with outside := x })

end MarketDataGateway.Production
