import MarketDataGateway.Runtime.Acceptance
import MarketDataGateway.Service.Requests

/-!
# Order-book streams

The handler of a `SubscribeOrderBook` call, from the check of its request to its return, in separate sections: the runtimes of all
products, their callers and the other handlers go on in between. Whether the client has cancelled the call, whether a write succeeds
and whether memory gives out is up to the surroundings, at every section anew. The context of the call has been tracked before.
-/

namespace MarketDataGateway.GrpcService

open Ascii MarketRuntime OrderBook Status Threads

variable {L : ProjectionLibrary}

/-! ## The service -/

structure OrderBookProduct (L : ProjectionLibrary) where
  key : MarketKey
  setup : Setup L

/-- What a service is constructed for: one runtime, which it takes for the spot market's, or those of a registry. -/
inductive OrderBookSource (L : ProjectionLibrary) where
  | runtime (setup : Setup L)
  | registry (products : List (OrderBookProduct L))

structure OrderBookConfig (L : ProjectionLibrary) where
  source : OrderBookSource L
  gatewayInstanceId : String

namespace OrderBookConfig

def products (config : OrderBookConfig L) : List (OrderBookProduct L) :=
  match config.source with
  | .runtime setup => [⟨spotBtcusdtKey, setup⟩]
  | .registry products => products

def validate (config : OrderBookConfig L) (request : OrderBookSubscriptionRequest) :
    Except RequestValidationError ValidatedOrderBookSubscription :=
  match config.source with
  | .runtime _ => validateOrderBookRequest request config.gatewayInstanceId
  | .registry _ => validateG11OrderBookRequest request config.gatewayInstanceId

/-- The place of the product that is asked for. -/
def select (config : OrderBookConfig L) (request : OrderBookSubscriptionRequest) : Option Nat :=
  match config.source with
  | .runtime _ => some 0
  | .registry products => products.findIdx? (·.key = ⟨request.venue, request.market, request.symbol⟩)

end OrderBookConfig

/-! ## How a call ends -/

inductive CallCode where
  | ok | cancelled | invalidArgument | failedPrecondition | resourceExhausted | unavailable | internal
  deriving DecidableEq, Repr

structure CallStatus where
  code : CallCode
  message : String := ""
  deriving DecidableEq, Repr

def mapAdmissionError : SubscriptionAdmissionError → CallStatus
  | .notLive => ⟨.unavailable, "market runtime is not Live/Synchronized"⟩
  | .pendingLimit | .activeLimit => ⟨.resourceExhausted, "bounded order-book subscription capacity is full"⟩
  | .invalidDepthLimit => ⟨.invalidArgument, "invalid depth_limit"⟩
  | .shuttingDown | .stopped | .notStarted => ⟨.unavailable, "order-book publication is unavailable"⟩
  | .clockError | .idExhausted | .internalError => ⟨.internal, "order-book subscription admission failed"⟩

/-- Where the handler leaves, in the order of its text. -/
inductive StreamEnd where
  | invalidRequest
  | schemaUnavailable
  | unsupportedMarket
  | refused (error : SubscriptionAdmissionError)
  | clientCancelled
  | channelClosed
  | notMaterialized
  | writerThrew
  | writeEnded (cancelled : Bool)
  | mismatch
  | acknowledgedClosed
  | terminalAcknowledged
  deriving DecidableEq, Repr

/-- The status the handler proposes. -/
def StreamEnd.status : StreamEnd → CallStatus
  | .invalidRequest => ⟨.invalidArgument, "unsupported or malformed order-book request"⟩
  | .schemaUnavailable => ⟨.failedPrecondition, "required payload schema negotiation unavailable"⟩
  | .unsupportedMarket => ⟨.invalidArgument, "unsupported order-book market"⟩
  | .refused error => mapAdmissionError error
  | .clientCancelled | .writeEnded true => ⟨.cancelled, "client cancelled"⟩
  | .channelClosed | .writeEnded false | .acknowledgedClosed | .terminalAcknowledged => { code := .ok }
  | .notMaterialized => ⟨.internal, "failed to materialize order-book stream item"⟩
  | .writerThrew => ⟨.internal, "subscriber writer test seam failed"⟩
  | .mismatch => ⟨.internal, "subscriber peek/ack invariant failed"⟩

/-- The status that is reported: a shutdown that has selected the call replaces a proposed OK. -/
def reportedStatus (ended : StreamEnd) (selected : Bool) : CallStatus :=
  if ended.status.code = .ok ∧ selected then ⟨.cancelled, "server shutdown"⟩ else ended.status

/-! ## The loop -/

inductive WriteResult where
  | succeeded | failed | threw
  deriving DecidableEq, Repr

/-- What the surroundings decide: what the two looks at the context say, whether an item can be made and written, whether a shutdown
has selected the call, and whether memory gives out in an admission. -/
structure StreamOutcome where
  cancelled : Bool := false
  cancelledAgain : Bool := false
  materialized : Bool := true
  write : WriteResult := .succeeded
  selected : Bool := false
  throws : Bool := false

/-- Where a handler is in its loop. -/
inductive StreamPlace (L : ProjectionLibrary) where
  | looking
  | peeking
  | deciding
  | waiting
  | materializing (publication : PeekedPublication L.LocalSnapshot L.DepthUpdate)
  | writing (publication : PeekedPublication L.LocalSnapshot L.DepthUpdate)
      (item : OrderBookStreamItem L.LocalSnapshot L.DepthUpdate)
  | acknowledging (publication : PeekedPublication L.LocalSnapshot L.DepthUpdate)

/-- How a section of the loop goes on. -/
inductive Onward (L : ProjectionLibrary) where
  | goes (place : StreamPlace L)
  | ends (ended : StreamEnd)

/-- A section of the loop, for a session of the product `key`. -/
def serve (key : MarketKey) (w : StreamOutcome) (session : Subscriber L) : StreamPlace L → Subscriber L × Onward L
  | .looking => (session, if w.cancelled then .ends .clientCancelled else .goes .peeking)
  | .peeking =>
    (session.peek, .goes (if session.channel.peek.hasValue then .materializing session.channel.peek else .deciding))
  | .deciding => (session, if session.channel.state = .closed then .ends .channelClosed else .goes .waiting)
  | .waiting => (session, .goes .looking)
  | .materializing publication =>
    (session,
      match materializeStreamItemFor session.channel publication key.market key.symbol with
      | some item => if w.materialized then .goes (.writing publication item) else .ends .notMaterialized
      | none => .ends .notMaterialized)
  | .writing publication _ =>
    (session,
      match w.write with
      | .threw => .ends .writerThrew
      | .failed => .ends (.writeEnded w.cancelledAgain)
      | .succeeded => if w.cancelled then .ends (.writeEnded w.cancelledAgain) else .goes (.acknowledging publication))
  | .acknowledging publication =>
    (session.acknowledge publication,
      match (session.channel.acknowledge publication).1 with
      | .mismatch => .ends .mismatch
      | .closed => .ends .acknowledgedClosed
      | .acknowledged => if publication.isTerminal then .ends .terminalAcknowledged else .goes .looking)

/-- What the section has put on the wire. -/
def writtenAt (w : StreamOutcome) : StreamPlace L → List (OrderBookStreamItem L.LocalSnapshot L.DepthUpdate)
  | .writing _ item => if w.write = .succeeded then [item] else []
  | _ => []

/-! ## The handler -/

/-- A session, and the request it was the answer to. -/
structure SessionRef where
  product : Nat
  request : Nat
  channel : Nat
  deriving DecidableEq, Repr

/-- Where a handler is: before its loop, in it, or on its way out, with the end it has come to and the status it reports. -/
inductive StreamPoint (L : ProjectionLibrary) where
  | arrived
  | admitting (product : Nat) (subscription : ValidatedOrderBookSubscription)
  | awaiting (product request : Nat)
  | serving (session : SessionRef) (place : StreamPlace L)
  | closing (session : SessionRef) (ended : StreamEnd) (reported : CallStatus)
  | notifying (session : SessionRef) (ended : StreamEnd) (reported : CallStatus)
  | returned (session : Option SessionRef) (ended : StreamEnd) (reported : CallStatus)

/-- A handler, with all it has written. -/
structure OrderBookHandler (L : ProjectionLibrary) where
  request : OrderBookSubscriptionRequest
  point : StreamPoint L := .arrived
  written : List (OrderBookStreamItem L.LocalSnapshot L.DepthUpdate) := []

namespace OrderBookHandler

/-- A handler that leaves without a session. -/
def leave (w : StreamOutcome) (ended : StreamEnd) : StreamPoint L := .returned none ended (reportedStatus ended w.selected)

/-- The next section of a handler, among the states of the products' runtimes. -/
def step (config : OrderBookConfig L) (w : StreamOutcome) (states : Nat → Impl L) (handler : OrderBookHandler L) :
    (Nat → Impl L) × OrderBookHandler L :=
  match handler.point with
  | .arrived =>
    (states,
      { handler with point :=
          match config.validate handler.request with
          | .error .invalidArgument => leave w .invalidRequest
          | .error .failedPrecondition => leave w .schemaUnavailable
          | .ok subscription =>
            match config.select handler.request with
            | none => leave w .unsupportedMarket
            | some product => .admitting product subscription })
  | .admitting product subscription =>
    match config.products[product]? with
    | none => (states, handler)
    | some entry =>
      let result := (states product).admitOrderBookSubscription entry.setup subscription w.throws
      (Function.update states product result.2,
        { handler with point :=
            match result.1 with
            | some error => leave w (.refused error)
            | none => .awaiting product (states product).mail.admissions.length })
  | .awaiting product request =>
    if (states product).admissionReturns request then
      (states,
        { handler with point :=
            match (states product).mail.admissions[request]?.bind (·.result) with
            | none => leave w (.refused .stopped)
            | some (.error error) => leave w (.refused error)
            | some (.accepted channel) => .serving ⟨product, request, channel⟩ .looking })
    else (states, handler)
  | .serving session place =>
    match config.products[session.product]?, (states session.product).channels[session.channel]? with
    | some entry, some subscriber =>
      let next := serve entry.key w subscriber place
      (Function.update states session.product ((states session.product).onSubscriber session.channel fun _ => next.1),
        { handler with
          written := handler.written ++ writtenAt w place
          point :=
            match next.2 with
            | .goes place => .serving session place
            | .ends ended => .closing session ended (reportedStatus ended w.selected) })
    | _, _ => (states, handler)
  | .closing session ended reported =>
    (Function.update states session.product ((states session.product).onSubscriber session.channel (·.closeFromWriter)),
      { handler with point := .notifying session ended reported })
  | .notifying session ended reported =>
    (Function.update states session.product (states session.product).notifySubscriberClosed,
      { handler with point := .returned (some session) ended reported })
  | .returned _ _ _ => (states, handler)

end OrderBookHandler

/-! ## Runs -/

/-- The runtimes of the products, each with its owner, and the calls there have been. -/
structure OrderBookService (L : ProjectionLibrary) where
  phases : Nat → Phase (Impl L) (Outcome L)
  states : Nat → Impl L
  handlers : List (OrderBookHandler L) := []

/-- The next section of the `n`-th handler. -/
def OrderBookService.handle (config : OrderBookConfig L) (w : StreamOutcome) (n : Nat) (c : OrderBookService L) : OrderBookService L :=
  match c.handlers[n]? with
  | none => c
  | some handler =>
    let next := handler.step config w c.states
    { c with
      states := next.1
      handlers := c.handlers.set n next.2 }

/-- Callers of a runtime other than the handlers leave the sessions to their writers. -/
def Bystander (setup : Setup L) (s t : Impl L) : Prop := ClientStep setup s t ∧ t.channels = s.channels

/-- A call comes in, a handler takes a section, or the owner of a runtime or another of its callers does. -/
inductive StreamStep (config : OrderBookConfig L) : OrderBookService L → OrderBookService L → Prop where
  | call {c} (request : OrderBookSubscriptionRequest) :
      StreamStep config c { c with handlers := c.handlers ++ [{ request := request }] }
  | handle {c} (w : StreamOutcome) (n : Nat) : StreamStep config c (c.handle config w n)
  | runtime {c product entry ph s} (he : config.products[product]? = some entry)
      (h : LoopStep (Bystander entry.setup) (ownerRound entry.setup) (c.phases product) (c.states product) ph s) :
      StreamStep config c { c with
        phases := Function.update c.phases product ph
        states := Function.update c.states product s }

/-- Every run of a service whose runtimes have just been constructed. -/
inductive Streams (config : OrderBookConfig L) : OrderBookService L → Prop where
  | initial {c} (hp : ∀ (product : Nat) entry, config.products[product]? = some entry →
      c.phases product = .running ownerPrologue ∧ c.states product = Impl.initial entry.setup) (hh : c.handlers = []) :
      Streams config c
  | step {c c'} (h : Streams config c) (hs : StreamStep config c c') : Streams config c'

end MarketDataGateway.GrpcService
