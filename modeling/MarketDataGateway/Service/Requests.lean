import MarketDataGateway.Events.Channel
import MarketDataGateway.OrderBook.Channel
import MarketDataGateway.Status.Key

/-!
# Requests for an order book, and the items of its stream

What the service asks of a request before a runtime is asked for a session, and the wire item that it makes of what it peeks. The
numbers of the wire enumerations that have no name are left out; a request with one of them is refused like one without a value.
-/

namespace MarketDataGateway.GrpcService

open Ascii OrderBook Status

def kProtocolVersion : String := "gateway-stream.v1"

def kOrderBookRequestSchema : String := "order-book-subscription-request.v1"

def kSnapshotSchema : String := "local-order-book-snapshot.v1"

def kUpdateSchema : String := "depth-update.v1"

def kConsumerGapSchema : String := "consumer-gap-notice.v1"

/-! ## Requests -/

inductive InitialSnapshotMode where
  | unspecified | required
  deriving DecidableEq, Repr

structure OrderBookSubscriptionRequest where
  requestId : String
  schemaVersion : String
  venue : Venue
  market : Market
  symbol : Bytes
  initialSnapshotMode : InitialSnapshotMode
  depthLimit : Option Int
  supportedSnapshotSchemaVersions : List String
  supportedUpdateSchemaVersions : List String
  deriving DecidableEq, Repr

inductive RequestValidationError where
  | invalidArgument | failedPrecondition
  deriving DecidableEq, Repr

def isAsciiAlphanumeric (c : Char) : Bool :=
  ('A' ≤ c && c ≤ 'Z') || ('a' ≤ c && c ≤ 'z') || ('0' ≤ c && c ≤ '9')

/-- A short name of ASCII letters, digits and a few marks, that begins with a letter or a digit. -/
def identifierSafe (value : String) : Bool :=
  match value.toList with
  | [] => false
  | first :: rest =>
    value.utf8ByteSize ≤ 128 && isAsciiAlphanumeric first &&
      (first :: rest).all fun c => isAsciiAlphanumeric c || c = '.' || c = '_' || c = ':' || c = '/' || c = '-'

def containsVersion (versions : List String) (expected : String) : Bool := versions.any (· = expected)

/-- `std::isspace`. -/
def isSpace (c : Char) : Bool := c = ' ' || ('\t' ≤ c && c ≤ '\r')

/-- Not empty, and neither the first nor the last character a blank. -/
def validVersion (version : String) : Bool :=
  match version.toList with
  | [] => false
  | first :: rest => !isSpace first && !isSpace ((first :: rest).getLast (List.cons_ne_nil first rest))

/-- The versions from the first on, each against those before it. -/
def validVersionsAfter (earlier : List String) : List String → Bool
  | [] => true
  | version :: rest => validVersion version && !containsVersion earlier version && validVersionsAfter (earlier ++ [version]) rest

def validVersionList (versions : List String) : Bool := validVersionsAfter [] versions

def validateOrderBookRequestImpl (request : OrderBookSubscriptionRequest) (gatewayInstanceId : String)
    (allowUsdm requireLegacyBtcusdt : Bool) : Except RequestValidationError ValidatedOrderBookSubscription :=
  let supportedMarket := request.market = .spot || (allowUsdm && request.market = .usdMPerpetual)
  if !identifierSafe gatewayInstanceId then .error .invalidArgument
  else if !identifierSafe request.requestId || request.schemaVersion ≠ kOrderBookRequestSchema || request.venue ≠ .binance ||
      !supportedMarket || (requireLegacyBtcusdt && request.symbol ≠ bytes "BTCUSDT") ||
      request.initialSnapshotMode ≠ .required || request.depthLimit.any (· ≤ 0) ||
      !validVersionList request.supportedSnapshotSchemaVersions ||
      !validVersionList request.supportedUpdateSchemaVersions then .error .invalidArgument
  else if !containsVersion request.supportedSnapshotSchemaVersions kSnapshotSchema ||
      !containsVersion request.supportedUpdateSchemaVersions kUpdateSchema then .error .failedPrecondition
  else .ok ⟨request.requestId, gatewayInstanceId, request.depthLimit⟩

def validateOrderBookRequest (request : OrderBookSubscriptionRequest) (gatewayInstanceId : String) :
    Except RequestValidationError ValidatedOrderBookSubscription :=
  validateOrderBookRequestImpl request gatewayInstanceId false true

def validateG11OrderBookRequest (request : OrderBookSubscriptionRequest) (gatewayInstanceId : String) :
    Except RequestValidationError ValidatedOrderBookSubscription :=
  validateOrderBookRequestImpl request gatewayInstanceId true false

/-- What a validated request says, and what the request has for it. -/
theorem validateOrderBookRequestImpl_ok {request : OrderBookSubscriptionRequest} {gatewayInstanceId : String}
    {allowUsdm requireLegacyBtcusdt : Bool} {subscription : ValidatedOrderBookSubscription}
    (h : validateOrderBookRequestImpl request gatewayInstanceId allowUsdm requireLegacyBtcusdt = .ok subscription) :
    subscription = ⟨request.requestId, gatewayInstanceId, request.depthLimit⟩ ∧ identifierSafe request.requestId = true ∧
      (∀ depth, request.depthLimit = some depth → 0 < depth) ∧
      containsVersion request.supportedSnapshotSchemaVersions kSnapshotSchema = true ∧
      containsVersion request.supportedUpdateSchemaVersions kUpdateSchema = true := by
  unfold validateOrderBookRequestImpl at h
  dsimp only at h
  split at h
  · cases h
  · split at h
    · cases h
    · rename_i hvalid
      split at h
      · cases h
      · rename_i hoffered
        simp only [Bool.or_eq_true, not_or, Bool.not_eq_true, Bool.not_eq_eq_eq_not] at hvalid hoffered
        obtain ⟨⟨⟨⟨⟨⟨⟨⟨hid, -⟩, -⟩, -⟩, -⟩, -⟩, hdepth⟩, -⟩, -⟩ := hvalid
        refine ⟨(Except.ok.inj h).symm, by simpa using hid, fun depth hd => ?_, by simpa using hoffered.1, by simpa using hoffered.2⟩
        simpa [hd] using hdepth

/-- The request of a service with one runtime is for its market. -/
theorem validateOrderBookRequest_market {request : OrderBookSubscriptionRequest} {gatewayInstanceId : String}
    {subscription : ValidatedOrderBookSubscription} (h : validateOrderBookRequest request gatewayInstanceId = .ok subscription) :
    request.venue = .binance ∧ request.market = .spot ∧ request.symbol = bytes "BTCUSDT" := by
  unfold validateOrderBookRequest validateOrderBookRequestImpl at h
  dsimp only at h
  split at h
  · cases h
  · split at h
    · cases h
    · rename_i hvalid
      simp only [Bool.or_eq_true, not_or, Bool.not_eq_true, Bool.not_eq_eq_eq_not, Bool.false_and, Bool.or_false, Bool.true_and] at hvalid
      obtain ⟨⟨⟨⟨⟨⟨⟨-, hvenue⟩, hmarket⟩, hsymbol⟩, -⟩, -⟩, -⟩, -⟩ := hvalid
      exact ⟨by simpa using hvenue, by simpa using hmarket, by simpa using hsymbol⟩

/-! ## Stream items -/

structure DeliveryMetadata where
  protocolVersion : String
  gatewayInstanceId : String
  subscriptionId : String
  connectionGeneration : Option Nat
  sessionSequence : Nat
  publishTimeUtcNs : Nat
  publishMonotonicNs : Option Nat
  deriving DecidableEq, Repr

structure ConsumerGap where
  schemaVersion : String
  subscriptionId : String
  detectedTimeUtcNs : Nat
  reason : ConsumerGapReason
  recoveryAction : RecoveryAction
  market : Market
  symbol : Bytes
  stream : Events.Stream
  deriving DecidableEq, Repr

inductive StreamPayload (S U : Type) where
  | subscriptionAccepted (accepted : SubscriptionAccepted)
  | snapshot (snapshot : S)
  | depthUpdate (update : U)
  | consumerGap (gap : ConsumerGap)

structure OrderBookStreamItem (S U : Type) where
  deliveryMetadata : DeliveryMetadata
  payload : StreamPayload S U

variable {S U : Type}

def populateDeliveryMetadata (channel : SubscriberChannel S U) (sessionSequence : Nat) (connectionGeneration : Option Nat)
    (publishedAt : PublicationTime) : DeliveryMetadata where
  protocolVersion := kProtocolVersion
  gatewayInstanceId := channel.gatewayInstanceId
  subscriptionId := channel.subscriptionId
  connectionGeneration := connectionGeneration
  sessionSequence := sessionSequence
  publishTimeUtcNs := publishedAt.utcNs
  publishMonotonicNs := publishedAt.monotonicNs

/-- The payload of a record, as it goes on the wire. -/
def wirePayload : OrdinaryPayload S U → StreamPayload S U
  | .subscriptionAccepted accepted => .subscriptionAccepted accepted
  | .snapshot snapshot => .snapshot snapshot
  | .depthUpdate update => .depthUpdate update

def materializeRecord (channel : SubscriberChannel S U) (record : PublicationRecord S U) : OrderBookStreamItem S U where
  deliveryMetadata :=
    populateDeliveryMetadata channel record.sessionSequence record.connectionGeneration record.publishedAt
  payload := wirePayload record.payload

def materializeGap (channel : SubscriberChannel S U) (terminal : TerminalDescriptor) (market : Market) (symbol : Bytes) :
    OrderBookStreamItem S U where
  deliveryMetadata :=
    populateDeliveryMetadata channel terminal.sessionSequence terminal.connectionGeneration terminal.publishedAt
  payload := .consumerGap
    { schemaVersion := kConsumerGapSchema
      subscriptionId := channel.subscriptionId
      detectedTimeUtcNs := terminal.publishedAt.utcNs
      reason := terminal.reason
      recoveryAction := terminal.recoveryAction
      market := market
      symbol := symbol
      stream := .diffDepth }

/-- `none` when it throws: nothing is made of an empty publication. -/
def materializeStreamItemFor (channel : SubscriberChannel S U) (publication : PeekedPublication S U) (market : Market)
    (symbol : Bytes) : Option (OrderBookStreamItem S U) :=
  match publication.ordinary with
  | some record => some (materializeRecord channel record.value)
  | none => publication.terminal.map fun terminal => materializeGap channel terminal market symbol

/-- Only the names on the channel show in an item. -/
theorem materializeRecord_congr {channel channel' : SubscriberChannel S U} (hid : channel'.subscriptionId = channel.subscriptionId)
    (hgateway : channel'.gatewayInstanceId = channel.gatewayInstanceId) :
    materializeRecord channel' = (materializeRecord channel : PublicationRecord S U → OrderBookStreamItem S U) := by
  funext record
  simp only [materializeRecord, populateDeliveryMetadata, hid, hgateway]

/-- A gap depends on the names of its channel only. -/
theorem materializeGap_congr {channel channel' : SubscriberChannel S U} (hid : channel'.subscriptionId = channel.subscriptionId)
    (hgateway : channel'.gatewayInstanceId = channel.gatewayInstanceId) (terminal : TerminalDescriptor) (market : Market)
    (symbol : Bytes) : materializeGap channel' terminal market symbol = materializeGap channel terminal market symbol := by
  simp only [materializeGap, populateDeliveryMetadata, hid, hgateway]

end MarketDataGateway.GrpcService
