import MarketDataGateway.Events.Atomic
import MarketDataGateway.Recovery.Honesty
import MarketDataGateway.Transport.Network

/-!
# One product, wired

A recovery coordinator whose attempts are transports, whose lifecycle callbacks drive an event publication, and whose transports
publish their frames to it. A call of the publication is one section, since its mutex is held throughout. `stop` returns only when
the network thread is gone. Whatever else the coordinator calls (the runtime, the clocks, the waits) is a parameter.

`log` is a history, latest event first: nothing in the program reads it.
-/

namespace MarketDataGateway.ProductRuntime

open BinanceTransport Events Recovery Threads MarketRuntime

/-- What has happened to the source: a callback that returned true, one that found the publication shut down and returned false,
a frame with what became of it, a shutdown. `refused` notes whether the coordinator had been asked to stop, `frame` whether a
session's numbers had run out. -/
inductive WiringEvent where
  | opened (generation : Nat)
  | quiesced (generation : Nat)
  | refused (stopRequested : Bool)
  | frame (generation : Nat) (result : EventPublishResult) (runOut : Bool)
  | shutdown
  deriving DecidableEq, Repr

/-- The publication, the transports of all attempts by their generation, and what is of no concern to either. -/
structure Wired (T : EventTypes) (Y : Type) where
  publication : EventPublication T := {}
  transports : Nat → Option Transport := fun _ => none
  log : List WiringEvent := []
  elsewhere : Y

/-- What the environment chooses: whether a call throws and how far it has come by then, the identity of a new connection, the time on
the publication's clock unless it throws, and what the rest depends on. -/
structure WiringOutcome (Ω : Type) where
  throws : Bool := false
  threadCreated : Bool := false
  connectionId : String := ""
  sampled : Option EventPublicationTime := none
  rest : Ω

variable {L : ProjectionLibrary} {T : EventTypes} {Y Ω : Type}

namespace Wired

def onTransport (generation : Nat) (f : Transport → Transport) (x : Wired T Y) : Wired T Y :=
  { x with transports := Function.update x.transports generation ((x.transports generation).map f) }

/-! ## Attempts -/

def create (generation : Nat) (connectionId : String) (profile : BinanceTransportProfile) (x : Wired T Y) : Wired T Y :=
  { x with transports := Function.update x.transports generation (some (.fresh generation connectionId profile)) }

/-- The first section of `start`: its answer, or `none` and it waits. Creating the thread may throw, and so may what follows it. -/
def beginStart (generation : Nat) (throws threadCreated : Bool) (x : Wired T Y) :
    Option (Except String TransportStartResult) × Wired T Y :=
  match x.transports generation with
  | none => (some (.error "no attempt"), x)
  | some t =>
    match t.start.1 with
    | some result => (some (.ok result), x)
    | none =>
      if throws && !threadCreated then
        (some (.error "thread"), x.onTransport generation fun t => { t with observation.started := true })
      else (if throws then some (.error "post") else none, x.onTransport generation (·.start.2))

def startReturns (generation : Nat) (x : Wired T Y) : Bool := (x.transports generation).any (·.startReturns)

def startResult (generation : Nat) (x : Wired T Y) : TransportStartResult :=
  (x.transports generation).elim .failed (·.startResult)

def enterStop (generation : Nat) (x : Wired T Y) : Transport.StopEntry × Wired T Y :=
  ((x.transports generation).elim .alreadyStopped (·.enterStop.1), x.onTransport generation (·.enterStop.2))

def joinReady (generation : Nat) (x : Wired T Y) : Bool := (x.transports generation).all (·.joinReady)

/-- No network thread is left to be joined. -/
def joined (generation : Nat) (x : Wired T Y) : Bool := (x.transports generation).all (!·.thread.joinable)

def stopped (generation : Nat) (x : Wired T Y) : Bool := (x.transports generation).all (·.observation.stopped)

/-- A transport reports the generation it was made for. -/
def observe (generation : Nat) (throws : Bool) (x : Wired T Y) : Except String TransportObservation :=
  match throws, x.transports generation with
  | false, some t => .ok { t.observation with connectionGeneration := generation }
  | _, _ => .error "observe"

/-! ## The publication -/

/-- What a callback leaves behind that answers what the publication answers. -/
def answered (result : Bool × EventPublication T) (event : List WiringEvent) (stopRequested : Bool) (x : Wired T Y) : Wired T Y :=
  { x with
    publication := result.2
    log :=
      if result.1 then event ++ x.log
      else if x.publication.sourceState = .shutdown then .refused stopRequested :: x.log
      else x.log }

def shutDown (x : Wired T Y) : Wired T Y :=
  { x with
    publication := x.publication.shutDown
    log := if x.publication.sourceState = .shutdown then x.log else .shutdown :: x.log }

/-- The first section of the quiesce callback: it has nothing to do once the publication is shut down. -/
def quiesceAfterShutdown (generation : Nat) (x : Wired T Y) : Bool × Wired T Y :=
  if x.publication.sourceState = .shutdown then (true, { x with log := .quiesced generation :: x.log }) else (false, x)

/-- A frame has been given to the publication, and the transport has its answer. -/
def framed (generation : Nat) (t : Transport) (kind : FrameKind) (result : EventPublishResult) (publication : EventPublication T)
    (x : Wired T Y) : Wired T Y :=
  { x with
    publication := publication
    transports := Function.update x.transports generation
      (some (t.publishNormalizedEvent kind (if result = .invariantFailure then .invariantFailure else .proceed)))
    log := .frame generation result publication.numbersRunOut :: x.log }

end Wired

abbrev WiredProgram (L : ProjectionLibrary) (T : EventTypes) (Y Ω α : Type) := Program (World L (Wired T Y)) (WiringOutcome Ω) α

open Program

/-- A section on what is outside of the coordinator. -/
def wired {α : Type} (f : WiringOutcome Ω → Wired T Y → α × Wired T Y) : WiredProgram L T Y Ω α :=
  atomic fun w s => ((f w s.outside).1, { s with outside := (f w s.outside).2 })

def awaitWired {α : Type} (guard : Wired T Y → Bool) (f : Wired T Y → α × Wired T Y) : WiredProgram L T Y Ω α :=
  await (fun s => guard s.outside) fun _ s => ((f s.outside).1, { s with outside := (f s.outside).2 })

/-! ## Attempts -/

def createAttempt (profile : BinanceTransportProfile) (generation : Nat) : WiredProgram L T Y Ω (Except String Bool) :=
  wired fun w x => if w.throws then (.error "attempt", x) else (.ok true, x.create generation w.connectionId profile)

def startAttempt (generation : Nat) : WiredProgram L T Y Ω (Except String TransportStartResult) := do
  let answer ← wired fun w x => x.beginStart generation w.throws w.threadCreated
  match answer with
  | some answer => pure answer
  | none => awaitWired (·.startReturns generation) fun x => (.ok (x.startResult generation), x)

/-- The last section waits until the network thread is gone, whoever joins it. -/
def stopAttempt (generation : Nat) : WiredProgram L T Y Ω Unit := do
  let entry ← wired fun _ x => x.enterStop generation
  match entry with
  | .alreadyStopped => pure ()
  | .waits => awaitWired (·.stopped generation) fun x => ((), x)
  | .wins started => do
    if started then do
      wired fun _ x => ((), x.onTransport generation (·.postCleanShutdown))
      awaitWired (·.joinReady generation) fun x => ((), x.onTransport generation (·.join))
    else pure ()
    awaitWired (·.joined generation) fun x => ((), x.onTransport generation (·.finishStop))

def observeAttempt (generation : Nat) : WiredProgram L T Y Ω (Except String TransportObservation) :=
  wired fun w x => (x.observe generation w.throws, x)

/-! ## The lifecycle callbacks -/

/-- A callback that answers what the publication answers in one section. -/
def answer (call : EventPublication T → Bool × EventPublication T) (event : List WiringEvent) :
    WiredProgram L T Y Ω (Except String Bool) :=
  atomic fun _ s =>
    (.ok (call s.outside.publication).1,
      { s with outside := s.outside.answered (call s.outside.publication) event s.coordinator.shutdownRequested })

def openCallback (generation : Nat) : WiredProgram L T Y Ω (Except String Bool) :=
  answer (·.openGeneration generation) [.opened generation]

def quiesceCallback (generation : Nat) : WiredProgram L T Y Ω (Except String Bool) := do
  let isShutdown ← wired fun _ x => x.quiesceAfterShutdown generation
  if isShutdown then pure (.ok true)
  else answer (·.quiesceGeneration generation) [.quiesced generation]

def closeCallback (generation : Nat) (outcome : SourceGenerationCloseOutcome) : WiredProgram L T Y Ω (Except String Bool) :=
  match outcome with
  | .globalShutdown => wired fun _ x => (.ok true, x.shutDown)
  | .replacement => do
    let sampled ← choose (·.sampled)
    match sampled with
    | none => pure (.ok false)
    | some publishedAt => answer (·.closeReplaced generation publishedAt) []
  | .permanentFailure => answer (·.closePermanently generation) []

/-- A close does to the publication what the publication's own call does under its lock. -/
theorem closeCallback_is_call {V : WiringOutcome Ω → Prop} {generation : Nat} {outcome : SourceGenerationCloseOutcome}
    {s t : World L (Wired T Y)} {result : Bool} (h : Evaluates V (closeCallback generation outcome) s (.ok result) t) :
    match outcome with
    | .replacement => ∃ w, V w ∧ Evaluates (·.sampled = w.sampled) (closeGenerationReplaced generation) s.outside.publication result
        t.outside.publication
    | .permanentFailure => Evaluates (fun _ => True) (closeGenerationPermanently generation) s.outside.publication result
        t.outside.publication
    | .globalShutdown => result = true ∧ Evaluates (fun _ => True) Events.shutdown s.outside.publication () t.outside.publication := by
  have hany : ∃ w : EventOutcome T, (fun _ => True) w := ⟨⟨.shutdown, none, false⟩, trivial⟩
  cases outcome with
  | replacement =>
    obtain ⟨sampled, u, hchosen, hrest⟩ := evaluates_bind.mp h
    obtain ⟨⟨w, hw, rfl⟩, rfl⟩ := evaluates_choose.mp hchosen
    have hsame : ∃ v : EventOutcome T, v.sampled = w.sampled := ⟨⟨.shutdown, w.sampled, false⟩, rfl⟩
    refine ⟨w, hw, ?_⟩
    cases hsampled : w.sampled with
    | none =>
      rw [hsampled] at hrest hsame
      obtain ⟨hfalse, rfl⟩ := evaluates_pure.mp hrest
      obtain rfl := Except.ok.inj hfalse
      exact evaluates_bind.mpr ⟨none, _, evaluates_choose.mpr ⟨hsame.imp fun v hv => ⟨hv, hv⟩, rfl⟩, evaluates_pure.mpr ⟨rfl, rfl⟩⟩
    | some publishedAt =>
      rw [hsampled] at hrest hsame
      obtain ⟨_, -, hanswer⟩ := evaluates_atomic.mp hrest
      obtain ⟨hresult, rfl⟩ := Prod.mk.inj hanswer
      refine (evaluates_closeGenerationReplaced hsame fun v hv => hv).mpr ?_
      rw [← Except.ok.inj hresult]
      rfl
  | permanentFailure =>
    obtain ⟨_, -, hanswer⟩ := evaluates_atomic.mp h
    obtain ⟨hresult, rfl⟩ := Prod.mk.inj hanswer
    refine (evaluates_closeGenerationPermanently hany).mpr ?_
    rw [← Except.ok.inj hresult]
    rfl
  | globalShutdown =>
    obtain ⟨_, -, hanswer⟩ := evaluates_atomic.mp h
    obtain ⟨hresult, rfl⟩ := Prod.mk.inj hanswer
    exact ⟨(Except.ok.inj hresult).symm, (evaluates_shutdown hany).mpr rfl⟩

/-- The coordinator's collaborators as `coordinator_options` sets them up; the rest is as in `base`. -/
def coordinatorOptions (profile : BinanceTransportProfile) (base : Collaborators L (Wired T Y) (WiringOutcome Ω)) :
    Collaborators L (Wired T Y) (WiringOutcome Ω) :=
  { base with
    createAttempt := createAttempt profile
    startAttempt := startAttempt
    stopAttempt := stopAttempt
    observeAttempt := observeAttempt
    sourceGenerationLifecycle := some ⟨openCallback, quiesceCallback, closeCallback⟩ }

/-- What goes on besides: the network threads, the publication's other callers, whoever else stops an attempt, and everything
elsewhere. `W` says which outcomes the environment may choose while a frame is published. -/
inductive Around (setup : EventPublicationSetup) (W : EventOutcome T → Prop) : World L (Wired T Y) → Wired T Y → Prop where
  | network {s generation t submission t'} (ht : s.outside.transports generation = some t) (hn : NetworkStep t submission t')
      (hs : ∀ kind, submission ≠ some (.event kind)) : Around setup W s (s.outside.onTransport generation fun _ => t')
  | frame {s generation t kind event result publication} (ht : s.outside.transports generation = some t)
      (hr : t.thread = .running) (hk : t.task = .publishing kind)
      (hp : Evaluates W (publish (some event) generation) s.outside.publication result publication) :
      Around setup W s (s.outside.framed generation t kind result publication)
  | admission {s subscription result publication}
      (hp : Evaluates (fun _ => True) (admitSubscription setup subscription) s.outside.publication result publication) :
      Around setup W s { s.outside with publication := publication }
  | remove {s} (channel : Nat) : Around setup W s { s.outside with publication := s.outside.publication.remove channel }
  | writer {s publication} (hw : WriterStep s.outside.publication publication) :
      Around setup W s { s.outside with publication := publication }
  | shutdown {s} : Around setup W s s.outside.shutDown
  | enterStop {s} (generation : Nat) : Around setup W s (s.outside.enterStop generation).2
  | postCleanShutdown {s} (generation : Nat) : Around setup W s (s.outside.onTransport generation (·.postCleanShutdown))
  | join {s generation} (hj : s.outside.joinReady generation = true) :
      Around setup W s (s.outside.onTransport generation (·.join))
  | finishStop {s generation} (hj : s.outside.joined generation = true) :
      Around setup W s (s.outside.onTransport generation (·.finishStop))
  | elsewhere {s} (y : Y) : Around setup W s { s.outside with elsewhere := y }

/-- A call of one of the other collaborators changes only what is elsewhere. -/
def ElsewhereOnly (s t : World L (Wired T Y)) : Prop := ∃ y, t = { s with outside := { s.outside with elsewhere := y } }

/-- The collaborators that the wiring leaves as they are keep away from what it sets up. -/
structure Bystanders (base : Collaborators L (Wired T Y) (WiringOutcome Ω)) : Prop where
  monotonicClock : base.monotonicClock.All ElsewhereOnly
  waitUntilLiveOrRecoveryRequired : base.waitUntilLiveOrRecoveryRequired.All ElsewhereOnly
  waitUntilRecoveryRequired : base.waitUntilRecoveryRequired.All ElsewhereOnly
  waitForRotation : ∀ duration, (base.waitForRotation duration).All ElsewhereOnly
  observeRuntime : base.observeRuntime.All ElsewhereOnly
  submitTransportFailure : base.submitTransportFailure.All ElsewhereOnly
  resetForRebootstrap : base.resetForRebootstrap.All ElsewhereOnly
  resetLiveForPlannedRebootstrap : base.resetLiveForPlannedRebootstrap.All ElsewhereOnly
  waitBackoff : ∀ delay, (base.waitBackoff delay).All ElsewhereOnly

end MarketDataGateway.ProductRuntime
