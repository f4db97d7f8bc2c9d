import MarketDataGateway.Production.Product
import MarketDataGateway.Service.Server

/-!
# The gateway

Several products and a server. A start brings the products up, waits until each of them is live and then opens the server; whatever
goes wrong on the way, it takes everything down again, as a stop does. Both hold the lifecycle mutex from their beginning to their end:
`lifecycleRound` is a call of one or the other, or the next pass of a start that waits.

`log` is a history, latest event first: nothing in the program reads it.
-/

namespace MarketDataGateway.Production

open BinanceTransport GrpcService MarketRuntime OrderBook Recovery Threads Program

inductive GatewayState where
  | constructed | starting | serving | stopping | stopped
  deriving DecidableEq, Repr

inductive StartCode where
  | serving | alreadyStarted | stopRequested | productStartFailed | productInitialFailure | initialStartupTimeout | grpcBindFailed
  deriving DecidableEq, Repr

/-- The answer of a start; `product` is the one to blame. -/
structure StartResult (κ : Type) where
  code : StartCode
  product : Option κ := none
  deriving DecidableEq, Repr

/-- What the gateway has done and seen. -/
inductive GatewayEvent (κ : Type) where
  | begun
  | stopSeen (requested : Bool)
  | deadline (time : Int)
  | productStarted (key : κ) (result : RecoveryStartResult)
  | failureSeen (key : κ) (failed : Bool)
  | liveSeen (key : κ) (live : Bool)
  | clockRead (time : Int)
  | bound (result : Bool)
  | stopped
  | returned (result : StartResult κ)
  | threw (error : String)
  | stopReturned
  deriving DecidableEq, Repr

/-- What a gateway is made with; its products have different keys. -/
structure Settings (κ : Type) (L : ProjectionLibrary) (Y ω : Type) where
  keys : List κ
  nodup : keys.Nodup
  collaborators : κ → Collaborators L (Premises L Y) ω
  shutdownEvents : κ → Y → Y
  initialStartupTimeout : Int

/-- `waiting` is the deadline of a start that waits for the products to be live. -/
structure ProductionGateway (κ : Type) (L : ProjectionLibrary) (Y ω : Type) where
  state : GatewayState := .constructed
  stopRequested : Bool := false
  waiting : Option Int := none
  server : OrderBookGrpcServer
  products : κ → Product L Y ω
  log : List (GatewayEvent κ) := []

inductive LifecycleCall where
  | start | stop
  deriving DecidableEq, Repr

/-- What the environment chooses: the call that gets the mutex, what the caller's functions return or throw, and what comes of building
the server. -/
structure GatewayOutcome (ω : Type) where
  call : LifecycleCall := .start
  externalStop : Except String Bool := .ok false
  clock : Except String Int := .ok 0
  build : BuildResult := .notPrepared
  product : ProductOutcome ω

variable {κ : Type} {L : ProjectionLibrary} {Y ω α : Type}

abbrev GatewayProgram (κ : Type) (L : ProjectionLibrary) (Y ω α : Type) := Program (ProductionGateway κ L Y ω) (GatewayOutcome ω) α

/-- A piece of the gateway's code that may throw. -/
abbrev GatewayThrowing (κ : Type) (L : ProjectionLibrary) (Y ω α : Type) :=
  Throwing (ProductionGateway κ L Y ω) (GatewayOutcome ω) String α

namespace ProductionGateway

def note (event : GatewayEvent κ) (s : ProductionGateway κ L Y ω) : ProductionGateway κ L Y ω := { s with log := event :: s.log }

def setProduct [DecidableEq κ] (key : κ) (p : Product L Y ω) (s : ProductionGateway κ L Y ω) : ProductionGateway κ L Y ω :=
  { s with products := Function.update s.products key p }

/-- The first section of a start: true when it goes on. -/
def enterStart (s : ProductionGateway κ L Y ω) : Bool × ProductionGateway κ L Y ω :=
  if s.state ≠ .constructed then (false, s) else (true, { s with state := .starting }.note .begun)

/-- The first section of a stop with the lifecycle mutex: true when there is nothing left to stop. -/
def enterStop (s : ProductionGateway κ L Y ω) : Bool × ProductionGateway κ L Y ω :=
  if s.state = .stopped then (true, s) else (false, { s with state := .stopping })

/-- `StartResult` or exception, a start is over. -/
def finishStart (event : GatewayEvent κ) (s : ProductionGateway κ L Y ω) : ProductionGateway κ L Y ω :=
  { s with waiting := none }.note event

end ProductionGateway

def onServer (p : ServerProgram (GatewayOutcome ω) α) : GatewayProgram κ L Y ω α :=
  p.focus ProductionGateway.server (fun t s => { s with server := t }) id

def noted (event : GatewayEvent κ) : GatewayThrowing κ L Y ω Unit := .lift (modify (·.note event))

/-- `stop_requested`: the gateway's own flag first, then the caller's. -/
def checkStop : GatewayThrowing κ L Y ω Bool := do
  let requested ← .of (atomic fun w s => (if s.stopRequested then .ok true else w.externalStop, s))
  noted (.stopSeen requested)
  pure requested

def startupNow : GatewayThrowing κ L Y ω Int := .of (choose (·.clock))

section Keys

variable [DecidableEq κ]

def onProduct (key : κ) (p : ProductProgram L Y ω α) : GatewayProgram κ L Y ω α :=
  p.focus (fun s => s.products key) (fun q s => s.setProduct key q) GatewayOutcome.product

def throwingProduct (key : κ) (p : Throwing (Product L Y ω) (ProductOutcome ω) String α) : GatewayThrowing κ L Y ω α :=
  .of (onProduct key p.run)

variable (g : Settings κ L Y ω)

/-! ## Taking everything down -/

/-- `ConfiguredProductRuntimeSet::shutdown_publications`, which the service does as well. -/
def shutdownPublications : GatewayProgram κ L Y ω Unit := do
  forEach g.keys fun k => onProduct k closePublicationAdmission
  forEach g.keys fun k => onProduct k shutdownPublication
  forEach g.keys fun k => onProduct k (shutdownEvents (g.shutdownEvents k))

/-- `OrderBookGrpcService::begin_shutdown`. -/
def beginShutdown : GatewayProgram κ L Y ω Unit := do
  let begun ← onServer (atomic fun _ t => t.beginShutdown)
  if begun then pure ()
  else do
    shutdownPublications g
    onServer cancelContexts

/-- `OrderBookGrpcServer::shutdown`. -/
def shutdownServer : GatewayProgram κ L Y ω Unit := do
  let shut ← onServer (atomic fun _ t => t.enterShutdown)
  if shut then pure ()
  else do
    beginShutdown g
    onServer waitForHandlers

/-- `ConfiguredProductRuntimeSet::stop`. -/
def stopProducts : GatewayProgram κ L Y ω Unit := do
  shutdownPublications g
  forEach g.keys fun k => onProduct k (Production.stop (g.collaborators k))

def shutdownGraph : GatewayProgram κ L Y ω Unit := do
  shutdownServer g
  stopProducts g

def setStopped : GatewayProgram κ L Y ω Unit := modify fun s => { s with state := .stopped }.note .stopped

def rollback : GatewayProgram κ L Y ω Unit := do
  modify fun s => { s with state := .stopping }
  shutdownGraph g
  setStopped

/-! ## Starting -/

/-- `ConfiguredProductRuntimeSet::start`: a failed start of one product does not keep the others from theirs. -/
def startProducts : List κ → GatewayThrowing κ L Y ω (List (κ × RecoveryStartResult))
  | [] => pure []
  | key :: rest => do
    let result ← throwingProduct key Production.start
    noted (.productStarted key result)
    let others ← startProducts rest
    pure ((key, result) :: others)

/-- The first product of which the look says `last`; none is looked at behind it. -/
def firstWith (look : κ → Throwing (Product L Y ω) (ProductOutcome ω) String Bool) (event : κ → Bool → GatewayEvent κ)
    (last : Bool) : List κ → GatewayThrowing κ L Y ω (Option κ)
  | [] => pure none
  | key :: rest => do
    let seen ← throwingProduct key (look key)
    noted (event key seen)
    if seen = last then pure (some key) else firstWith look event last rest

def firstFailure : GatewayThrowing κ L Y ω (Option κ) :=
  firstWith (fun key => initialFailure (g.collaborators key)) .failureSeen true g.keys

def allLive : GatewayThrowing κ L Y ω Bool := do
  let dull ← firstWith (fun key => initialLive (g.collaborators key)) .liveSeen false g.keys
  pure dull.isNone

/-- One pass of `wait_for_initial_live`, `none` when another one follows. -/
def waitPass (deadline : Int) : GatewayThrowing κ L Y ω (Option (StartResult κ)) := do
  let requested ← checkStop
  if requested then pure (some { code := .stopRequested })
  else do
    let failed ← firstFailure g
    match failed with
    | some key => pure (some { code := .productInitialFailure, product := some key })
    | none => do
      let live ← allLive g
      let now ← startupNow
      noted (.clockRead now)
      if deadline ≤ now then pure (some { code := .initialStartupTimeout })
      else if live then pure (some { code := .serving })
      else pure none

/-- Take everything down and answer. -/
def giveUp (result : StartResult κ) : GatewayThrowing κ L Y ω (Option (StartResult κ)) := do
  .lift (rollback g)
  pure (some result)

def startServer : GatewayThrowing κ L Y ω Bool := do
  let result ← .lift (onServer (atomic fun w t => t.start w.build))
  noted (.bound result)
  pure result

/-- The rest of `start`, once every product is live. -/
def serve : GatewayThrowing κ L Y ω (Option (StartResult κ)) := do
  let requested ← checkStop
  if requested then giveUp g { code := .stopRequested }
  else do
    let started ← startServer
    if !started then giveUp g { code := .grpcBindFailed }
    else do
      let requested ← checkStop
      if requested then giveUp g { code := .stopRequested }
      else do
        .lift (modify fun s => { s with state := .serving })
        pure (some { code := .serving })

/-- A start goes on with its next pass. -/
def resume (deadline : Int) : GatewayThrowing κ L Y ω (Option (StartResult κ)) :=
  Throwing.onThrow
    (do
      let result ← waitPass g deadline
      match result with
      | none => pure none
      | some result => if result.code = .serving then serve g else giveUp g result)
    (.lift (rollback g))

/-- The first product that has not started. -/
def notStarted (starts : List (κ × RecoveryStartResult)) : Option κ := (starts.find? (·.2 ≠ .started)).map (·.1)

/-- A start with its deadline, once every product has been asked to start. -/
def awaitProducts (deadline : Int) (starts : List (κ × RecoveryStartResult)) : GatewayThrowing κ L Y ω (Option (StartResult κ)) :=
  match notStarted starts with
  | some key => giveUp g { code := .productStartFailed, product := some key }
  | none => do
    .lift (modify fun s => { s with waiting := some deadline })
    pure none

/-- `start` up to where it waits. -/
def begin : GatewayThrowing κ L Y ω (Option (StartResult κ)) := do
  let entered ← .lift (atomic fun _ s => s.enterStart)
  if !entered then pure (some { code := .alreadyStarted })
  else
    Throwing.onThrow
      (do
        let requested ← checkStop
        if requested then giveUp g { code := .stopRequested }
        else do
          let now ← startupNow
          noted (.deadline (now + g.initialStartupTimeout))
          let starts ← startProducts g.keys
          awaitProducts g (now + g.initialStartupTimeout) starts)
      (.lift (rollback g))

/-! ## The lifecycle -/

/-- A start that is over lets go of the mutex. -/
def finish (p : GatewayThrowing κ L Y ω (Option (StartResult κ))) : GatewayProgram κ L Y ω Unit := do
  let result ← p.run
  match result with
  | .ok none => pure ()
  | .ok (some result) => modify (·.finishStart (.returned result))
  | .error error => modify (·.finishStart (.threw error))

def stopGateway : GatewayProgram κ L Y ω Unit := do
  modify fun s => { s with stopRequested := true }
  let done ← atomic fun _ s => s.enterStop
  if done then pure ()
  else do
    shutdownGraph g
    setStopped
  modify (·.note .stopReturned)

def lifecycleRound : GatewayProgram κ L Y ω Bool := do
  let (waiting, call) ← atomic fun w s => ((s.waiting, w.call), s)
  match waiting, call with
  | some deadline, _ => finish (resume g deadline)
  | none, .start => finish (begin g)
  | none, .stop => stopGateway g
  pure true

end Keys

/-! ## Runs -/

/-- One section of any thread that does not hold the lifecycle mutex. -/
inductive GatewayStep [DecidableEq κ] (g : Settings κ L Y ω) : ProductionGateway κ L Y ω → ProductionGateway κ L Y ω → Prop where
  | requestStop {s} : GatewayStep g s { s with stopRequested := true }
  | product {s q} (key : κ) (hs : ProductStep (g.collaborators key) (s.products key) q) : GatewayStep g s (s.setProduct key q)
  | server {s t} (hs : ServerStep s.server t) : GatewayStep g s { s with server := t }

/-- Whoever holds the lifecycle mutex, or anybody else, takes a step. -/
abbrev LifecycleStep [DecidableEq κ] (g : Settings κ L Y ω) := LoopStep (GatewayStep g) (lifecycleRound g)

/-- A gateway that has just been constructed. -/
def ProductionGateway.initial (limit : Nat) (setup : κ → Setup L) (elsewhere : κ → Y) : ProductionGateway κ L Y ω where
  server := { service := { maximumTrackedContexts := limit } }
  products key := .initial (setup key) (elsewhere key)

/-- Every run of a gateway from its construction on. -/
inductive GatewayReachable [DecidableEq κ] (g : Settings κ L Y ω) (limit : Nat) (setup : κ → Setup L) (elsewhere : κ → Y) :
    Phase (ProductionGateway κ L Y ω) (GatewayOutcome ω) → ProductionGateway κ L Y ω → Prop where
  | initial : GatewayReachable g limit setup elsewhere .head (.initial limit setup elsewhere)
  | step {ph ph' s s'} (h : GatewayReachable g limit setup elsewhere ph s) (hs : LifecycleStep g ph s ph' s') :
      GatewayReachable g limit setup elsewhere ph' s'

end MarketDataGateway.Production
