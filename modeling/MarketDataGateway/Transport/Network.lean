import MarketDataGateway.Runtime.State

/-!
# One connection

A transport has one network thread, started once and joined by the first stop. What the mutex protects is the observation and the two
stop flags; `thread`, `task` and the flags below them say where the network thread is. A handler of the network thread that has more
than one section is a sequence of tasks, one section each. The socket's own states are left out: a frame, a response or a failure may
arrive as soon as the connection is read from.
-/

namespace MarketDataGateway.BinanceTransport

open MarketRuntime

inductive NetworkErrorCode where
  | timeout | dns | tcp | tls | webSocketHandshake | webSocketRead | httpWrite | httpRead | httpStatus | protocol
  | runtimeAdmission | serverShutdown | internal
  deriving DecidableEq, Repr

structure NetworkError where
  code : NetworkErrorCode
  stage : String
  message : String
  httpStatus : Option Nat := none
  retryAfter : Option String := none
  deriving DecidableEq, Repr

inductive TransportStartResult where
  | started | alreadyStarted | failed | stopped
  deriving DecidableEq, Repr

inductive BinanceTransportProfile where
  | depthOnly | spotCombinedEvents | depthWithEvents
  deriving DecidableEq, Repr

inductive NormalizedEventSinkResult where
  | proceed | invariantFailure
  deriving DecidableEq, Repr

structure TransportObservation where
  started : Bool := false
  running : Bool := false
  stopped : Bool := false
  tlsVerified : Bool := false
  websocketHandshake : Bool := false
  restDepthFetched : Bool := false
  serverPingObserved : Bool := false
  serverShutdownObserved : Bool := false
  depthFrameCount : Nat := 0
  aggTradeFrameCount : Nat := 0
  bookTickerFrameCount : Nat := 0
  lastEventUtcNs : Option Nat := none
  profile : BinanceTransportProfile := .depthOnly
  connectionId : String := ""
  connectionGeneration : Nat := 1
  terminalError : Option NetworkError := none
  deriving DecidableEq, Repr

/-- The kind of a frame that carries a market event. -/
inductive FrameKind where
  | depth | aggTrade | bookTicker
  deriving DecidableEq, Repr

/-- What the parser makes of a message. -/
inductive ParsedMessage where
  | serverShutdown
  | protocolError (message : String)
  | event (kind : FrameKind)
  deriving DecidableEq, Repr

/-- The depth request is answered: with a failure, a body that does not parse, or a snapshot. -/
inductive DepthResponse where
  | failure (error : NetworkError)
  | protocolError (message : String)
  | snapshot
  deriving DecidableEq, Repr

/-- What the network thread does in its next section. -/
inductive NetworkTask where
  | idle
  | allocating (kind : FrameKind)
  | publishing (kind : FrameKind)
  | submittingUpdate
  | counting (kind : FrameKind)
  | submittingSnapshot
  | fetched
  | failing (error : NetworkError) (snapshotFailure : Bool)
  | reporting (snapshotFailure : Bool)
  deriving DecidableEq, Repr

inductive NetworkThread where
  | notCreated | running | exited | joined
  deriving DecidableEq, Repr

/-- A thread object that has to be joined before it is destroyed. -/
def NetworkThread.joinable : NetworkThread → Bool
  | .running | .exited => true
  | .notCreated | .joined => false

structure Transport where
  observation : TransportObservation := {}
  stopRequested : Bool := false
  stopInProgress : Bool := false
  thread : NetworkThread := .notCreated
  task : NetworkTask := .idle
  /-- The connection is open and its messages are read. -/
  reading : Bool := false
  /-- The connection has failed or has been given up over a message. -/
  done : Bool := false
  /-- The depth request has been sent and has not been answered. -/
  depthRequested : Bool := false
  cleanShutdownPosted : Bool := false
  networkCleanCancelRequested : Bool := false
  workReleased : Bool := false
  deriving DecidableEq, Repr

namespace Transport

/-! ## Starting -/

/-- The first section of a start: refused, or the network thread is created and the caller waits. -/
def start (t : Transport) : Option TransportStartResult × Transport :=
  if t.observation.stopped then (some .stopped, t)
  else if t.observation.started then (some .alreadyStarted, t)
  else (none, { t with observation.started := true, thread := .running })

/-- What a start waits for. -/
def startReturns (t : Transport) : Bool :=
  t.observation.websocketHandshake || t.observation.terminalError.isSome || t.observation.stopped || t.stopRequested

def startResult (t : Transport) : TransportStartResult :=
  if t.observation.stopped || t.stopRequested then .stopped
  else if t.observation.websocketHandshake then .started
  else .failed

/-! ## Stopping -/

/-- What a stop is to do after its first section. -/
inductive StopEntry where
  | alreadyStopped
  | waits
  | wins (started : Bool)
  deriving DecidableEq, Repr

def enterStop (t : Transport) : StopEntry × Transport :=
  if t.observation.stopped then (.alreadyStopped, t)
  else if t.stopInProgress then (.waits, t)
  else (.wins t.observation.started, { t with stopInProgress := true, stopRequested := true, observation.running := false })

def postCleanShutdown (t : Transport) : Transport := { t with cleanShutdownPosted := true }

/-- The network thread can be joined, or there is none to be joined. -/
def joinReady (t : Transport) : Bool := t.thread = .exited || !t.thread.joinable

def join (t : Transport) : Transport := { t with thread := if t.thread.joinable then .joined else t.thread }

def finishStop (t : Transport) : Transport :=
  { t with stopInProgress := false, observation.stopped := true, observation.running := false }

/-! ## The network thread -/

def tlsVerified (t : Transport) : Transport := { t with observation.tlsVerified := true }

def serverPing (t : Transport) : Transport := { t with observation.serverPingObserved := true }

/-- The handshake is done: reading begins, and unless a stop has been requested the connection counts as active. -/
def websocketActive (t : Transport) : Transport :=
  if t.stopRequested then { t with reading := true }
  else
    { t with
      reading := true
      depthRequested := true
      observation.websocketHandshake := true
      observation.running := true }

def websocketServerShutdown : NetworkError :=
  { code := .serverShutdown, stage := "websocket-server-shutdown", message := "Binance announced serverShutdown" }

def websocketProtocol (message : String) : NetworkError := { code := .protocol, stage := "websocket-json", message := message }

def websocketEventAllocation : NetworkError :=
  { code := .internal, stage := "websocket-event-allocation", message := "normalized event allocation failed" }

def websocketEventPublication : NetworkError :=
  { code := .internal, stage := "websocket-event-publication", message := "normalized event sink failed closed" }

def websocketRuntimeAdmission : NetworkError :=
  { code := .runtimeAdmission, stage := "websocket-runtime-admission", message := "MarketRuntime rejected a depth frame" }

def depthSnapshotProtocol (message : String) : NetworkError :=
  { code := .protocol, stage := "depth-snapshot-json", message := message }

def snapshotRuntimeAdmission : NetworkError :=
  { code := .runtimeAdmission, stage := "snapshot-runtime-admission", message := "MarketRuntime rejected the REST snapshot" }

/-- The socket, its timers or the receive clock have failed. -/
def networkFailure (error : NetworkError) (t : Transport) : Transport := { t with done := true, task := .failing error false }

/-- A transport without events takes depth updates straight to the runtime. -/
def receiveWebsocketMessage (message : ParsedMessage) (receivedAtUtcNs : Nat) (t : Transport) : Transport :=
  match message with
  | .serverShutdown =>
    { t with done := true, observation.serverShutdownObserved := true, task := .failing websocketServerShutdown false }
  | .protocolError message => { t with done := true, task := .failing (websocketProtocol message) false }
  | .event kind =>
    { t with
      observation.lastEventUtcNs := some receivedAtUtcNs
      task := if t.observation.profile = .depthOnly then .submittingUpdate else .allocating kind }

/-- The event is made that is going to be published. -/
def allocateEvent (kind : FrameKind) (throws : Bool) (t : Transport) : Transport :=
  { t with done := t.done || throws, task := if throws then .failing websocketEventAllocation false else .publishing kind }

/-- The sink has taken the event or failed. A transport of depth updates has no other frames. -/
def publishNormalizedEvent (kind : FrameKind) (result : NormalizedEventSinkResult) (t : Transport) : Transport :=
  { t with
    done := t.done || result = .invariantFailure
    task :=
      if result = .invariantFailure then .failing websocketEventPublication false
      else if t.observation.profile ≠ .spotCombinedEvents ∨ kind = .depth then .submittingUpdate
      else .counting kind }

def submitDepthUpdate (admitted : AdmissionResult) (t : Transport) : Transport :=
  { t with
    done := t.done || admitted ≠ .accepted
    task := if admitted = .accepted then .counting .depth else .failing websocketRuntimeAdmission false }

def countFrame (kind : FrameKind) (t : Transport) : Transport :=
  match kind with
  | .depth => { t with observation.depthFrameCount := t.observation.depthFrameCount + 1, task := .idle }
  | .aggTrade => { t with observation.aggTradeFrameCount := t.observation.aggTradeFrameCount + 1, task := .idle }
  | .bookTicker => { t with observation.bookTickerFrameCount := t.observation.bookTickerFrameCount + 1, task := .idle }

def receiveDepthResponse (response : DepthResponse) (t : Transport) : Transport :=
  { t with
    depthRequested := false
    task := match response with
      | .failure error => .failing error true
      | .protocolError message => .failing (depthSnapshotProtocol message) true
      | .snapshot => .submittingSnapshot }

def submitSnapshot (admitted : AdmissionResult) (t : Transport) : Transport :=
  { t with task := if admitted = .accepted then .fetched else .failing snapshotRuntimeAdmission true }

def markFetched (t : Transport) : Transport := { t with observation.restDepthFetched := true, task := .idle }

/-- The first failure is the one that is kept. -/
def terminalFailure (error : NetworkError) (snapshotFailure : Bool) (t : Transport) : Transport :=
  if t.observation.terminalError.isSome then { t with task := .idle }
  else
    { t with
      observation.terminalError := some error
      observation.running := false
      task := .reporting snapshotFailure }

/-- The failure has been submitted; what is under way is cancelled. -/
def failureReported (t : Transport) : Transport := { t with workReleased := true, task := .idle }

def beginCleanShutdown (t : Transport) : Transport := { t with networkCleanCancelRequested := true }

/-- The cut of a clean shutdown, one turn of the reactor later. -/
def cleanShutdownBarrier (t : Transport) : Transport := { t with workReleased := true }

def exitThread (t : Transport) : Transport := { t with thread := .exited }

end Transport

/-! ## What the network thread submits -/

inductive Submission where
  | event (kind : FrameKind)
  | depthUpdate
  | snapshot
  | failure (snapshotFailure : Bool)
  deriving DecidableEq, Repr

/-- One section of the network thread, with what it submits. What becomes of a submission is up to those who take it. -/
inductive NetworkStep : Transport → Option Submission → Transport → Prop where
  | tlsVerified {t} (hr : t.thread = .running) (hi : t.task = .idle) : NetworkStep t none t.tlsVerified
  | websocketActive {t} (hr : t.thread = .running) (hi : t.task = .idle) (hfirst : t.reading = false)
      (hopen : t.done = false) : NetworkStep t none t.websocketActive
  | ping {t} (hr : t.thread = .running) (hi : t.task = .idle) (hread : t.reading = true) : NetworkStep t none t.serverPing
  | message {t} (hr : t.thread = .running) (hi : t.task = .idle) (hread : t.reading = true) (hopen : t.done = false)
      (message : ParsedMessage) (receivedAtUtcNs : Nat) : NetworkStep t none (t.receiveWebsocketMessage message receivedAtUtcNs)
  | response {t} (hr : t.thread = .running) (hi : t.task = .idle) (hasked : t.depthRequested = true)
      (response : DepthResponse) : NetworkStep t none (t.receiveDepthResponse response)
  | networkFailure {t} (hr : t.thread = .running) (hi : t.task = .idle) (hopen : t.done = false) (error : NetworkError) :
      NetworkStep t none (t.networkFailure error)
  | allocate {t kind} (hr : t.thread = .running) (ht : t.task = .allocating kind) (throws : Bool) :
      NetworkStep t none (t.allocateEvent kind throws)
  | publish {t kind} (hr : t.thread = .running) (ht : t.task = .publishing kind) (result : NormalizedEventSinkResult) :
      NetworkStep t (some (.event kind)) (t.publishNormalizedEvent kind result)
  | submitUpdate {t} (hr : t.thread = .running) (ht : t.task = .submittingUpdate) (admitted : AdmissionResult) :
      NetworkStep t (some .depthUpdate) (t.submitDepthUpdate admitted)
  | count {t kind} (hr : t.thread = .running) (ht : t.task = .counting kind) : NetworkStep t none (t.countFrame kind)
  | submitSnapshot {t} (hr : t.thread = .running) (ht : t.task = .submittingSnapshot) (admitted : AdmissionResult) :
      NetworkStep t (some .snapshot) (t.submitSnapshot admitted)
  | fetched {t} (hr : t.thread = .running) (ht : t.task = .fetched) : NetworkStep t none t.markFetched
  | fail {t error snapshotFailure} (hr : t.thread = .running) (ht : t.task = .failing error snapshotFailure) :
      NetworkStep t none (t.terminalFailure error snapshotFailure)
  | report {t snapshotFailure} (hr : t.thread = .running) (ht : t.task = .reporting snapshotFailure) :
      NetworkStep t (some (.failure snapshotFailure)) t.failureReported
  | cleanShutdown {t} (hr : t.thread = .running) (hi : t.task = .idle) (hp : t.cleanShutdownPosted = true) :
      NetworkStep t none t.beginCleanShutdown
  | barrier {t} (hr : t.thread = .running) (hi : t.task = .idle) (hc : t.networkCleanCancelRequested = true) :
      NetworkStep t none t.cleanShutdownBarrier
  | exit {t} (hr : t.thread = .running) (hi : t.task = .idle) (hw : t.workReleased = true) : NetworkStep t none t.exitThread

/-- A transport before its start. -/
def Transport.fresh (connectionGeneration : Nat) (connectionId : String) (profile : BinanceTransportProfile) : Transport where
  observation := { connectionGeneration := connectionGeneration, connectionId := connectionId, profile := profile }

end MarketDataGateway.BinanceTransport
