import MarketDataGateway.OrderBook.Channel

/-!
# The projection library and the runtime's options

The order-book projection, its wire types and their adapter are a package of their own. The runtime only calls them, so they are
a parameter here: the types it passes around and the functions it calls, each with the arguments the runtime gives it.
-/

namespace MarketDataGateway.MarketRuntime

open OrderBook

inductive ProjectionStatus where
  | awaitingBaseline | awaitingBridge | synchronized | needsResync
  deriving DecidableEq, Repr

inductive ApplyDisposition where
  | applied | ignoredStale | ignoredDuplicate | gapDetected | rejectedWrongState
  deriving DecidableEq, Repr

/-- What a local order-book snapshot is generated with, besides the identity of its market. -/
structure SnapshotContext where
  producer : String
  producerVersion : String
  utcNs : Nat
  monotonicNs : Option Nat
  deriving DecidableEq, Repr

/-- The projection core and its wire adapter, as the runtime calls them. A call that changes the projection returns the changed
one next to its result. -/
structure ProjectionLibrary where
  Projection : Type
  NumericSpec : Type
  ExpectedIdentity : Type
  DepthUpdate : Type
  ExchangeDepthSnapshot : Type
  DepthBatch : Type
  BookBaseline : Type
  LocalSnapshot : Type
  DepthLimit : Type
  AdapterError : Type
  GapInfo : Type
  InstallResult : Type
  ApplyResult : Type
  create : NumericSpec → ExpectedIdentity → Projection
  numericSpec : Projection → NumericSpec
  status : Projection → ProjectionStatus
  lastUpdateId : Projection → Option Nat
  lastGap : Projection → Option GapInfo
  reset : Projection → Projection
  adaptDepthUpdate : DepthUpdate → NumericSpec → ExpectedIdentity → Except AdapterError DepthBatch
  applyTo : DepthBatch → Projection → Except AdapterError ApplyResult × Projection
  applyDisposition : ApplyResult → ApplyDisposition
  adaptExchangeDepthSnapshot : ExchangeDepthSnapshot → NumericSpec → ExpectedIdentity → Except AdapterError BookBaseline
  installInto : BookBaseline → Projection → Except AdapterError InstallResult × Projection
  /-- The disposition of the install is `Installed`. -/
  installed : InstallResult → Bool
  createDepthLimit : Int → Except AdapterError DepthLimit
  makeLocalOrderBookSnapshot : Projection → ExpectedIdentity → SnapshotContext → Option DepthLimit →
    Except AdapterError LocalSnapshot
  /-- The error's code is `InvalidDepthLimit`. -/
  isInvalidDepthLimit : AdapterError → Bool
  receiveTimeUtcNs : DepthUpdate → Option Nat
  receiveMonotonicNs : DepthUpdate → Option Nat

/-- The capacities of a runtime. Its constructor refuses a zero among them. -/
structure RuntimeLimits where
  ingressCapacity : Nat := 64
  bootstrapCapacity : Nat := 64
  publication : PublicationLimits := {}
  ingress_pos : 0 < ingressCapacity := by decide
  bootstrap_pos : 0 < bootstrapCapacity := by decide
  subscriptions_pos : 0 < publication.maximumActiveSubscriptions := by decide
  queue_pos : 0 < publication.ordinaryQueueCapacity := by decide
  pending_pos : 0 < publication.pendingAdmissionCapacity := by decide

/-- What a runtime is constructed with, its clock apart. -/
structure Setup (L : ProjectionLibrary) where
  limits : RuntimeLimits
  numericSpec : L.NumericSpec
  expectedIdentity : L.ExpectedIdentity

structure ClockSample where
  utcNs : Nat
  monotonicNs : Nat
  deriving DecidableEq, Repr

/-- What the surroundings of one section of the owner decide: whether the clock gives a sample, whether an allocation or a call
into the library throws, and what a throwing call has made of the projection. -/
structure Outcome (L : ProjectionLibrary) where
  clock : Option ClockSample
  throws : Bool
  left : L.Projection

end MarketDataGateway.MarketRuntime
