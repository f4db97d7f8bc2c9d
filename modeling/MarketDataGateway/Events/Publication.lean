import MarketDataGateway.Events.Session
import MarketDataGateway.Lib.Loop

/-!
# The event publication

One source of events and its subscriptions. Every method runs under the publication's mutex, so whatever threads call them, their
bodies follow one another: the callers together are one thread that goes round and round, and each round is one call. Writers take
the mutex of their own channel only, so they come in between any two sections of a call.

`Reachable` has every run of a publication.
-/

namespace MarketDataGateway.Events

open Threads

inductive EventSourceState where
  | closed | opened | quiesced | permanentlyClosed | shutdown
  deriving DecidableEq, Repr

inductive EventSubscriptionAdmissionError where
  | sourceUnavailable | activeLimit | clockError | idExhausted | internalError | shuttingDown
  deriving DecidableEq, Repr

inductive EventPublishResult where
  | published | ignoredBeforeOpen | invariantFailure
  deriving DecidableEq, Repr

def kMaximumActiveEventSubscriptions : Nat := 8

def kEventOrdinaryQueueCapacity : Nat := 64

def kEventSubscriptionAcceptedSchema : String := "subscription-accepted.v1"

structure EventPublicationLimits where
  maximumActiveSubscriptions : Nat := kMaximumActiveEventSubscriptions
  ordinaryQueueCapacity : Nat := kEventOrdinaryQueueCapacity

/-- What a publication is constructed with; the constructor refuses anything else. -/
structure EventPublicationSetup where
  gatewayInstanceId : String
  limits : EventPublicationLimits
  named : gatewayInstanceId ≠ ""
  subscriptions : 0 < limits.maximumActiveSubscriptions ∧ limits.maximumActiveSubscriptions ≤ kMaximumActiveEventSubscriptions
  capacity : 0 < limits.ordinaryQueueCapacity ∧ limits.ordinaryQueueCapacity ≤ kEventOrdinaryQueueCapacity

structure ValidatedEventSubscription where
  requestId : String
  stream : Stream
  negotiatedPayloadSchemaVersion : String
  deriving DecidableEq, Repr

variable {T : EventTypes}

/-- What the publication has done. `failed` is an event that a channel could not take although it had room for it: the allocation
failed, or its sequence counter is at its largest value. -/
inductive EventSourceEvent (T : EventTypes) where
  | opened (generation : Nat)
  | subscribed (channel : Nat) (subscription : ValidatedEventSubscription) (generation : Nat)
  | published (event : NormalizedMarketEvent T) (generation : Nat)
  | failed (channel : Nat)
  | closedPermanently (generation : Nat)
  | shutdown

/-- The state under the publication's mutex, the sessions of all channels it ever made, and two records of the past: its history, and
the event that is being handed to the channels. Channels are numbered in the order of their admission. -/
structure EventPublication (T : EventTypes) where
  sourceState : EventSourceState := .closed
  sourceGeneration : Option Nat := none
  nextSubscriptionId : Nat := 1
  channels : List Nat := []
  sessions : List (EventSession T) := []
  nextAddress : Nat := 0
  publishing : Option (NormalizedMarketEvent T × Nat) := none
  log : List (EventSourceEvent T) := []

/-- The calls of a publication. A null event or channel is `none`. -/
inductive EventPublicationCall (T : EventTypes) where
  | openGeneration (generation : Nat)
  | quiesceGeneration (generation : Nat)
  | closeGenerationReplaced (generation : Nat)
  | closeGenerationPermanently (generation : Nat)
  | admitSubscription (subscription : ValidatedEventSubscription)
  | publish (event : Option (NormalizedMarketEvent T)) (generation : Nat)
  | remove (channel : Option Nat)
  | shutdown

/-- What the environment chooses: the next call, the time on the clock unless it throws, and whether an allocation throws. -/
structure EventOutcome (T : EventTypes) where
  call : EventPublicationCall T
  sampled : Option EventPublicationTime
  throws : Bool

abbrev EventProgram (T : EventTypes) := Program (EventPublication T) (EventOutcome T)

def makeAcceptedRecord (subscription : ValidatedEventSubscription) (subscriptionId gatewayInstanceId : String)
    (publishedAt : EventPublicationTime) : EventPublicationRecord T where
  sessionSequence := 1
  connectionGeneration := none
  publishedAt := publishedAt
  payload := .subscriptionAccepted
    { requestId := subscription.requestId
      subscriptionId := subscriptionId
      schemaVersion := kEventSubscriptionAcceptedSchema
      gatewayInstanceId := gatewayInstanceId
      acceptedTimeUtcNs := publishedAt.utcNs
      negotiatedPayloadSchemaVersions := [subscription.negotiatedPayloadSchemaVersion] }

namespace EventPublication

def onSession (channel : Nat) (f : EventSession T → EventSession T) (s : EventPublication T) : EventPublication T :=
  { s with sessions := s.sessions.modify channel f }

/-! ## Sections -/

def openGeneration (generation : Nat) (s : EventPublication T) : Bool × EventPublication T :=
  if generation = 0 ∨ s.sourceState = .shutdown ∨ s.sourceState = .permanentlyClosed ∨ s.sourceState = .opened ∨
      s.sourceState = .quiesced ∨ s.sourceGeneration.any (generation ≤ ·) then (false, s)
  else
    (true,
      { s with
        sourceGeneration := some generation
        sourceState := .opened
        log := .opened generation :: s.log })

def quiesceGeneration (generation : Nat) (s : EventPublication T) : Bool × EventPublication T :=
  if s.sourceState ≠ .opened ∨ s.sourceGeneration ≠ some generation then (false, s)
  else (true, { s with sourceState := .quiesced })

/-- Both closes take place on the quiesced current generation only. -/
def isQuiescedAt (generation : Nat) (s : EventPublication T) : Bool :=
  s.sourceState = .quiesced && s.sourceGeneration = some generation

/-- The section of a replacement on one channel. -/
def terminalizeReplaced (generation : Nat) (publishedAt : EventPublicationTime) (channel : Nat) (s : EventPublication T) :
    EventPublication T :=
  s.onSession channel fun session =>
    if session.channel.sourceGeneration = generation then
      { session with channel := (session.channel.terminalizeReplacement publishedAt).2 }
    else session

/-- The section of a permanent close on one channel. -/
def closeUnavailable (generation channel : Nat) (s : EventPublication T) : EventPublication T :=
  s.onSession channel fun session =>
    if session.channel.sourceGeneration = generation then { session with channel := session.channel.closeUnavailable.2 }
    else session

/-- The section of a shutdown on one channel. -/
def closeFromOwner (channel : Nat) (s : EventPublication T) : EventPublication T :=
  s.onSession channel fun session => { session with channel := session.channel.closeFromOwner }

/-- A new session joins the others. -/
def enroll (subscription : ValidatedEventSubscription) (generation : Nat) (session : EventSession T)
    (s : EventPublication T) : EventPublication T :=
  { s with
    channels := s.channels ++ [s.sessions.length]
    nextSubscriptionId := s.nextSubscriptionId + 1
    sessions := s.sessions ++ [session]
    nextAddress := s.nextAddress + 1
    log := .subscribed s.sessions.length subscription generation :: s.log }

/-- `admit` from its lock on; nobody else knows the new channel yet. -/
def admitLocked (setup : EventPublicationSetup) (subscription : ValidatedEventSubscription)
    (publishedAt : EventPublicationTime) (throws : Bool) (s : EventPublication T) :
    Except EventSubscriptionAdmissionError Nat × EventPublication T :=
  if s.sourceState = .shutdown then (.error .shuttingDown, s)
  else if s.sourceState ≠ .opened then (.error .sourceUnavailable, s)
  else
    match s.sourceGeneration with
    | none => (.error .sourceUnavailable, s)
    | some generation =>
      if s.channels.length = setup.limits.maximumActiveSubscriptions then (.error .activeLimit, s)
      else if s.nextSubscriptionId = maxUInt64 then (.error .idExhausted, s)
      else if throws then (.error .internalError, s)
      else
        let subscriptionId := "ev-" ++ toString s.nextSubscriptionId
        match EventSubscriberChannel.create subscriptionId setup.gatewayInstanceId subscription.stream generation
            setup.limits.ordinaryQueueCapacity with
        | none => (.error .internalError, s)
        | some channel =>
          let accepted := makeAcceptedRecord subscription subscriptionId setup.gatewayInstanceId publishedAt
          let staged := channel.stageAccepted ⟨s.nextAddress, accepted⟩
          if staged.1 then
            (.ok s.sessions.length, s.enroll subscription generation { channel := staged.2, admitted := [accepted] })
          else (.error .internalError, s)

/-- What `publish` finds when it has the lock: a refusal, or `none` and the event is on its way to the channels. -/
def beginPublish (event : NormalizedMarketEvent T) (generation : Nat) (s : EventPublication T) :
    Option EventPublishResult × EventPublication T :=
  if s.sourceState = .shutdown ∨
      (s.sourceState = .closed ∧ (s.sourceGeneration = none ∨ s.sourceGeneration.any (· < generation))) then
    (some .ignoredBeforeOpen, s)
  else if s.sourceState ≠ .opened ∨ s.sourceGeneration ≠ some generation then (some .invariantFailure, s)
  else (none, { s with publishing := some (event, generation) })

/-- The section of a publish on one channel; `none` for a channel that is passed over. -/
def publishTo (event : NormalizedMarketEvent T) (generation : Nat) (publishedAt : EventPublicationTime) (channel : Nat)
    (throws : Bool) (s : EventPublication T) : Option EventAdmissionResult × EventPublication T :=
  match s.sessions[channel]? with
  | none => (none, s)
  | some session =>
    if session.channel.stream ≠ normalizedEventStream event ∨ session.channel.sourceGeneration ≠ generation then (none, s)
    else
      let result := session.admitEvent event publishedAt (if throws then none else some s.nextAddress)
      let handed : EventPublication T :=
        { s with
          sessions := s.sessions.set channel result.2
          nextAddress := s.nextAddress + 1 }
      if result.1 = .allocationFailure then
        (some result.1, { handed with publishing := none, log := .failed channel :: s.log })
      else (some result.1, handed)

/-- The event has been handed to every channel. -/
def finishPublish (event : NormalizedMarketEvent T) (generation : Nat) (s : EventPublication T) : EventPublication T :=
  { s with
    publishing := none
    log := .published event generation :: s.log }

def remove (channel : Nat) (s : EventPublication T) : EventPublication T := { s with channels := s.channels.erase channel }

/-- The first section of a shutdown, which has nothing to do after the first one. -/
def beginShutdown (s : EventPublication T) : Bool × EventPublication T :=
  if s.sourceState = .shutdown then (false, s)
  else
    (true,
      { s with
        sourceState := .shutdown
        log := .shutdown :: s.log })

end EventPublication

/-! ## Calls -/

open Program EventPublication

def sampleTime : EventProgram T (Option EventPublicationTime) := choose (·.sampled)

def terminalizeReplacedLocked (generation : Nat) (publishedAt : EventPublicationTime) : EventProgram T Unit := do
  let channels ← read (·.channels)
  forEach channels fun channel => modify (terminalizeReplaced generation publishedAt channel)

def closeGenerationReplaced (generation : Nat) : EventProgram T Bool := do
  let sampled ← sampleTime
  match sampled with
  | none => pure false
  | some publishedAt => do
    let quiesced ← read (isQuiescedAt generation)
    if quiesced then do
      terminalizeReplacedLocked generation publishedAt
      modify fun s => { s with sourceState := .closed }
      pure true
    else pure false

def closeGenerationPermanently (generation : Nat) : EventProgram T Bool := do
  let quiesced ← read (isQuiescedAt generation)
  if quiesced then do
    let channels ← read (·.channels)
    forEach channels fun channel => modify (closeUnavailable generation channel)
    modify fun s =>
      { s with
        sourceState := .permanentlyClosed
        log := .closedPermanently generation :: s.log }
    pure true
  else pure false

def admitSubscription (setup : EventPublicationSetup) (subscription : ValidatedEventSubscription) :
    EventProgram T (Except EventSubscriptionAdmissionError Nat) := do
  let sampled ← sampleTime
  match sampled with
  | none => pure (.error .clockError)
  | some publishedAt => atomic fun w s => s.admitLocked setup subscription publishedAt w.throws

/-- Hand the event to one channel after the other, up to the first that fails. -/
def publishToAll (event : NormalizedMarketEvent T) (generation : Nat) (publishedAt : EventPublicationTime) :
    List Nat → EventProgram T EventPublishResult
  | [] => do
    modify (finishPublish event generation)
    pure .published
  | channel :: rest => do
    let result ← atomic fun w s => s.publishTo event generation publishedAt channel w.throws
    if result = some .allocationFailure then pure .invariantFailure
    else publishToAll event generation publishedAt rest

def publish (event : Option (NormalizedMarketEvent T)) (generation : Nat) : EventProgram T EventPublishResult :=
  match event with
  | none => pure .invariantFailure
  | some event => do
    let sampled ← sampleTime
    match sampled with
    | none => pure .invariantFailure
    | some publishedAt => do
      let refusal ← atomic fun _ s => s.beginPublish event generation
      match refusal with
      | some refusal => pure refusal
      | none => do
        let channels ← read (·.channels)
        publishToAll event generation publishedAt channels

def removeChannel (channel : Option Nat) : EventProgram T Unit :=
  match channel with
  | none => pure ()
  | some channel => modify (remove channel)

def shutdown : EventProgram T Unit := do
  let first ← atomic fun _ s => s.beginShutdown
  if first then do
    let channels ← read (·.channels)
    forEach channels fun channel => modify (closeFromOwner channel)
  else pure ()

/-- One call. -/
def perform (setup : EventPublicationSetup) : EventPublicationCall T → EventProgram T Bool
  | .openGeneration generation => do
    let _ ← atomic fun _ s => s.openGeneration generation
    pure true
  | .quiesceGeneration generation => do
    let _ ← atomic fun _ s => s.quiesceGeneration generation
    pure true
  | .closeGenerationReplaced generation => do
    let _ ← closeGenerationReplaced generation
    pure true
  | .closeGenerationPermanently generation => do
    let _ ← closeGenerationPermanently generation
    pure true
  | .admitSubscription subscription => do
    let _ ← admitSubscription setup subscription
    pure true
  | .publish event generation => do
    let _ ← publish event generation
    pure true
  | .remove channel => do
    removeChannel channel
    pure true
  | .shutdown => do
    shutdown
    pure true

/-- One round of the callers: somebody makes a call. -/
def callRound (setup : EventPublicationSetup) : EventProgram T Bool := do
  let call ← choose (·.call)
  perform setup call

/-! ## Runs -/

/-- One section of a writer. -/
inductive WriterStep : EventPublication T → EventPublication T → Prop where
  | peek {s} (channel : Nat) : WriterStep s (s.onSession channel (·.peek))
  | acknowledge {s channel session publication} (hs : s.sessions[channel]? = some session)
      (hp : publication ∈ session.peeked) : WriterStep s (s.onSession channel (·.acknowledge publication))
  | closeFromWriter {s} (channel : Nat) : WriterStep s (s.onSession channel (·.closeFromWriter))

/-- One section of a call or of a writer. -/
abbrev RunStep (setup : EventPublicationSetup) := LoopStep (@WriterStep T) (callRound setup)

/-- Where the callers are and what the state is, somewhere in a run from construction on. -/
inductive Reachable (setup : EventPublicationSetup) : Phase (EventPublication T) (EventOutcome T) → EventPublication T → Prop where
  | initial : Reachable setup .head {}
  | step {ph ph' s s'} (h : Reachable setup ph s) (hs : RunStep setup ph s ph' s') : Reachable setup ph' s'

/-- From one place of a run to a later one. -/
inductive Run (setup : EventPublicationSetup) (ph : Phase (EventPublication T) (EventOutcome T)) (s : EventPublication T) :
    Phase (EventPublication T) (EventOutcome T) → EventPublication T → Prop where
  | none : Run setup ph s ph s
  | step {ph' ph'' t t'} (h : Run setup ph s ph' t) (hs : RunStep setup ph' t ph'' t') : Run setup ph s ph'' t'

variable {setup : EventPublicationSetup} {ph ph' : Phase (EventPublication T) (EventOutcome T)} {s t : EventPublication T}

/-- What a run leads to from a reachable state is reachable. -/
theorem Run.reachable (h : Run setup ph s ph' t) (hr : Reachable setup ph s) : Reachable setup ph' t := by
  induction h with
  | none => exact hr
  | step _ hs ih => exact .step ih hs

/-- An invariant of the loop holds in every reachable state. -/
theorem Reachable.loopInv {E : Rely (EventPublication T)} {H : EventPublication T → Prop} (henv : E.env = WriterStep)
    (hH : E.Stable H) (hi : E.inv {} ∧ H {})
    (hbody : Triple E H (callRound setup) (afterRound H (fun _ => True))) (h : Reachable setup ph s) :
    LoopInv E H (fun _ => True) ph s := by
  induction h with
  | initial => exact hi
  | step _ hs ih => exact ih.step hH (Rely.Stable.const True) hbody (henv ▸ hs)

end MarketDataGateway.Events
