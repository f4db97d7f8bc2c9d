import MarketDataGateway.Runtime.Library

/-!
# The state of a market runtime

One owner thread works on the projection; any number of client threads talk to it through fields under one mutex. The fields the
owner keeps to itself are `book` and the subscriber list; what the mutex protects is `Mailbox`; the channels of the subscribers have
mutexes of their own and live on a heap, next to what their writers have been handed and have acknowledged.

`ticketLog` and `bookLog` are histories, latest event first: nothing in the program reads them.
-/

namespace MarketDataGateway.MarketRuntime

open OrderBook

inductive RuntimeState where
  | constructed | buffering | awaitingBridge | live | needsResync | faulted | stopping | stopped
  deriving DecidableEq, Repr

inductive FaultReason where
  | ingressOverflow | bootstrapBufferOverflow | adapterError | transportFailure | snapshotFailure | projectionRejected
  | clockError | internalError
  deriving DecidableEq, Repr

inductive AdmissionResult where
  | accepted | full | notStarted | stopping | stopped | faulted
  deriving DecidableEq, Repr

inductive RebootstrapResetResult where
  | reset | notStarted | invalidState | busy | stopping | stopped | internalError
  deriving DecidableEq, Repr

inductive SnapshotRequestError where
  | notStarted | notLive | busy | faulted | stopping | stopped | clockError | internalError
  deriving DecidableEq, Repr

inductive SubscriptionAdmissionError where
  | notStarted | notLive | pendingLimit | activeLimit | invalidDepthLimit | shuttingDown | clockError | idExhausted
  | internalError | stopped
  deriving DecidableEq, Repr

inductive PublicationShutdownResult where
  | shutDown | alreadyShutDown | notStarted | stopped
  deriving DecidableEq, Repr

inductive ResetKind where
  | recovery | planned
  deriving DecidableEq, Repr

inductive InjectedFailure where
  | transport | snapshot
  deriving DecidableEq, Repr

/-- The connection a source message came over. -/
structure SourceProvenance where
  connectionGeneration : Option Nat := none
  deriving DecidableEq, Repr

structure AppliedDepthObservation where
  receiveTimeUtcNs : Option Nat
  receiveMonotonicNs : Option Nat
  connectionGeneration : Option Nat
  deriving DecidableEq, Repr

structure DepthUpdateInput (L : ProjectionLibrary) where
  update : L.DepthUpdate
  provenance : SourceProvenance

structure SnapshotInput (L : ProjectionLibrary) where
  snapshot : L.ExchangeDepthSnapshot
  provenance : SourceProvenance

inductive RuntimeInput (L : ProjectionLibrary) where
  | depthUpdate (input : DepthUpdateInput L)
  | snapshot (input : SnapshotInput L)
  | failure (failure : InjectedFailure)

structure IngressItem (L : ProjectionLibrary) where
  ticket : Nat
  input : RuntimeInput L

structure CapturedSnapshot (L : ProjectionLibrary) where
  snapshot : L.LocalSnapshot
  generatedAt : ClockSample

inductive SnapshotResult (L : ProjectionLibrary) where
  | captured (snapshot : CapturedSnapshot L)
  | adapterError (error : L.AdapterError)
  | error (error : SnapshotRequestError)

/-- An accepted subscription is the place of its channel on the heap. -/
inductive SubscriptionAdmissionResult where
  | accepted (channel : Nat)
  | error (error : SubscriptionAdmissionError)
  deriving DecidableEq, Repr

structure AdmissionRequest where
  target : Nat
  subscription : ValidatedOrderBookSubscription
  result : Option SubscriptionAdmissionResult := none

structure SnapshotRequest (L : ProjectionLibrary) where
  target : Nat
  result : Option (SnapshotResult L) := none

structure ResetRequest where
  target : Nat
  kind : ResetKind
  result : Option RebootstrapResetResult := none

/-- A call of `observe` that waits for its barrier. -/
structure ObserveCall where
  id : Nat
  target : Nat
  deriving DecidableEq, Repr

structure RuntimeObservation (L : ProjectionLibrary) where
  state : RuntimeState := .constructed
  projectionStatus : ProjectionStatus := .awaitingBaseline
  lastUpdateId : Option Nat := none
  lastGap : Option L.GapInfo := none
  lastInstall : Option L.InstallResult := none
  lastApply : Option L.ApplyResult := none
  lastAppliedDepth : Option AppliedDepthObservation := none
  adapterError : Option L.AdapterError := none
  faultReason : Option FaultReason := none
  ingressOccupancy : Nat := 0
  ingressCapacity : Nat := 0
  bootstrapOccupancy : Nat := 0
  bootstrapCapacity : Nat := 0
  resetCount : Nat := 0
  lastAdmittedTicket : Nat := 0
  processedTicket : Nat := 0
  currentProjectionGeneration : Option Nat := none
  residentSubscriptionCount : Nat := 0
  pendingAdmissionCount : Nat := 0
  publicationAdmissionOpen : Bool := false
  publicationShutdown : Bool := false
  ownerJoined : Bool := false

/-! ## The parts of the state -/

/-- What only the owner touches of the order book. -/
structure Book (L : ProjectionLibrary) where
  projection : L.Projection
  bootstrap : List (DepthUpdateInput L) := []
  currentProjectionGeneration : Option Nat := none

/-- What the runtime's mutex protects. Admission requests are shared with their callers: they live on a heap, and the queue holds
their places. The tickets are 64-bit counters that nothing ever takes back. -/
structure Mailbox (L : ProjectionLibrary) where
  ingress : List (IngressItem L) := []
  admissions : List AdmissionRequest := []
  admissionRequests : List Nat := []
  pendingFault : Option FaultReason := none
  snapshotRequest : Option (SnapshotRequest L) := none
  resetRequest : Option ResetRequest := none
  observation : RuntimeObservation L := {}
  lastAdmittedTicket : Nat := 0
  processedTicket : Nat := 0
  pendingAdmissionCount : Nat := 0
  started : Bool := false
  accepting : Bool := false
  publicationAdmissionOpen : Bool := false
  publicationShutdownRequested : Bool := false
  publicationShutdownCompleted : Bool := false
  publicationRemovalPending : Bool := false
  stopRequested : Bool := false
  stopped : Bool := false
  ownerReady : Bool := false

/-- A subscriber: its channel, what its writer has peeked, and what it has acknowledged, in order. -/
structure Subscriber (L : ProjectionLibrary) where
  channel : SubscriberChannel L.LocalSnapshot L.DepthUpdate
  peeked : List (PeekedPublication L.LocalSnapshot L.DepthUpdate) := []
  delivered : List (PublicationRecord L.LocalSnapshot L.DepthUpdate) := []
  deliveredTerminal : Option TerminalDescriptor := none

/-- The ordinary records of a session: those acknowledged, then those still queued. -/
def Subscriber.records {L : ProjectionLibrary} (s : Subscriber L) : List (PublicationRecord L.LocalSnapshot L.DepthUpdate) :=
  s.delivered ++ s.channel.queued.map (·.value)

/-- The owner's list of its subscribers and the counter of their names. -/
structure Roster where
  subscribers : List Nat := []
  nextSubscriptionId : Nat := 1

/-- What callers are in the middle of or have got back: observe calls that wait, and the snapshot and reset requests whose callers
have taken them out of the mailbox again. -/
structure Callers (L : ProjectionLibrary) where
  observers : List ObserveCall := []
  nextObserver : Nat := 0
  returnedSnapshots : List (SnapshotRequest L) := []
  returnedResets : List ResetRequest := []

/-- Calls that wait for a ticket barrier before the owner answers them. -/
inductive BarrierCall where
  | capture | admission | reset
  deriving DecidableEq, Repr

/-- What happened to tickets. A ticket is lost when it has been counted and its input could not be queued; a reset that throws notes
the tickets it leaves waiting. -/
inductive TicketEvent where
  | accepted (ticket : Nat)
  | lost (ticket : Nat)
  | full
  | taken (ticket : Nat)
  | finished (ticket : Nat)
  | discarded (tickets : List Nat) (state : RuntimeState) (status : ProjectionStatus)
  | observeStarted (id target : Nat)
  | observed (id target : Nat) (state : RuntimeState)
  | answered (call : BarrierCall) (target : Nat)
  | reset
  | resetThrew (waiting : List Nat)
  deriving DecidableEq, Repr

/-- What happened to the book and who saw it. A mismatch notes the book it found and the records of every session. -/
inductive BookEvent (L : ProjectionLibrary) where
  | received (input : DepthUpdateInput L)
  | installed (generation : Option Nat)
  | applied (input : DepthUpdateInput L)
  | published (channel : Nat) (input : DepthUpdateInput L)
  | mismatched (input : DepthUpdateInput L) (projection : L.Projection)
      (records : List (List (PublicationRecord L.LocalSnapshot L.DepthUpdate)))
  | admitted (channel : Nat) (projection : L.Projection)
  | reset
  | resetThrew

/-- The whole state, shared and private. -/
structure Impl (L : ProjectionLibrary) where
  book : Book L
  mail : Mailbox L := {}
  roster : Roster := {}
  channels : List (Subscriber L) := []
  nextAddress : Nat := 0
  callers : Callers L := {}
  ownerExited : Bool := false
  ticketLog : List TicketEvent := []
  bookLog : List (BookEvent L) := []

variable {L : ProjectionLibrary}

/-- A runtime that has just been constructed. -/
def Impl.initial (setup : Setup L) : Impl L where
  book := { projection := L.create setup.numericSpec setup.expectedIdentity }
  mail := { observation :=
    { ingressCapacity := setup.limits.ingressCapacity, bootstrapCapacity := setup.limits.bootstrapCapacity } }

/-- The owner's thread is under way. -/
def Impl.Running (s : Impl L) : Prop := s.mail.started = true ∧ s.ownerExited = false

end MarketDataGateway.MarketRuntime
