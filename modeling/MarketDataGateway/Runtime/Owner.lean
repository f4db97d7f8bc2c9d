import MarketDataGateway.Lib.Program
import MarketDataGateway.Runtime.State

/-!
# The owner thread

What the owner does with the book, the mailbox and its subscribers, one atomic section after another. A section is what happens
under the runtime's mutex, under one channel's mutex, or on data no other thread touches. Exceptions are values: `threw` is what a
call that lets one escape comes back with.
-/

namespace MarketDataGateway.MarketRuntime

open OrderBook Threads

variable {L : ProjectionLibrary}

/-- A piece of the owner's code. -/
abbrev OwnerProgram (L : ProjectionLibrary) (α : Type) := Program (Impl L) (Outcome L) α

inductive Completion where
  | returned | threw
  deriving DecidableEq, Repr

def stateForProjection : ProjectionStatus → RuntimeState
  | .awaitingBaseline => .buffering
  | .awaitingBridge => .awaitingBridge
  | .synchronized => .live
  | .needsResync => .needsResync

/-- A request keeps the first result it gets. -/
def AdmissionRequest.answer (result : SubscriptionAdmissionResult) (request : AdmissionRequest) : AdmissionRequest :=
  if request.result.isSome then request else { request with result := some result }

/-- Answer every request of a queue. -/
def answerAll (queue : List Nat) (result : SubscriptionAdmissionResult) (heap : List AdmissionRequest) :
    List AdmissionRequest :=
  queue.foldl (fun heap request => heap.modify request (·.answer result)) heap

/-! ## Under the runtime's mutex -/

namespace Impl

def publishTicketsLocked (s : Impl L) : Impl L :=
  { s with
    mail.observation.lastAdmittedTicket := s.mail.lastAdmittedTicket
    mail.observation.processedTicket := s.mail.processedTicket }

def refreshProjectionObservationLocked (s : Impl L) : Impl L :=
  { s with
    mail.observation.projectionStatus := L.status s.book.projection
    mail.observation.lastUpdateId := L.lastUpdateId s.book.projection
    mail.observation.lastGap := L.lastGap s.book.projection
    mail.observation.currentProjectionGeneration := s.book.currentProjectionGeneration }

/-- Every admitted input that is still in the ingress counts as processed. -/
def discardIngressLocked (s : Impl L) : Impl L :=
  match s.mail.ingress.getLast? with
  | none => s
  | some back =>
    { s with
      mail.processedTicket := max s.mail.processedTicket back.ticket
      mail.ingress := []
      mail.observation.ingressOccupancy := 0
      ticketLog := .discarded (s.mail.ingress.map (·.ticket)) s.mail.observation.state
        s.mail.observation.projectionStatus :: s.ticketLog }

/-- A snapshot request that has no result gets this one. -/
def answerSnapshotLocked (error : SnapshotRequestError) (s : Impl L) : Impl L :=
  match s.mail.snapshotRequest with
  | some ⟨target, none⟩ => { s with mail.snapshotRequest := some ⟨target, some (.error error)⟩ }
  | _ => s

def answerResetLocked (result : RebootstrapResetResult) (s : Impl L) : Impl L :=
  match s.mail.resetRequest with
  | some ⟨target, kind, none⟩ => { s with mail.resetRequest := some ⟨target, kind, some result⟩ }
  | _ => s

def snapshotReadyLocked (s : Impl L) : Bool :=
  match s.mail.snapshotRequest with
  | some ⟨target, none⟩ => target ≤ s.mail.processedTicket
  | _ => false

def resetReadyLocked (s : Impl L) : Bool :=
  match s.mail.resetRequest with
  | some ⟨target, _, none⟩ => target ≤ s.mail.processedTicket
  | _ => false

/-- The front of the admission queue, when its barrier has been reached. -/
def readyAdmission (s : Impl L) : Option (Nat × AdmissionRequest) :=
  match s.mail.admissionRequests with
  | [] => none
  | front :: _ =>
    match s.mail.admissions[front]? with
    | some request => if request.target ≤ s.mail.processedTicket then some (front, request) else none
    | none => none

def admissionReadyLocked (s : Impl L) : Bool := s.readyAdmission.isSome

def completeAllAdmissionsLocked (error : SubscriptionAdmissionError) (s : Impl L) : Impl L :=
  { s with
    mail.admissions := answerAll s.mail.admissionRequests (.error error) s.mail.admissions
    mail.admissionRequests := []
    mail.pendingAdmissionCount := 0
    mail.observation.pendingAdmissionCount := 0 }

/-- The count goes down with each request that gets its result, and stays at zero. -/
def completeAdmissionRequestUnlocked (request : Nat) (result : SubscriptionAdmissionResult) (s : Impl L) : Impl L :=
  match s.mail.admissions[request]? with
  | some ⟨target, _, none⟩ =>
    { s with
      mail.admissions := s.mail.admissions.modify request (·.answer result)
      mail.pendingAdmissionCount := s.mail.pendingAdmissionCount - 1
      mail.observation.pendingAdmissionCount := s.mail.pendingAdmissionCount - 1
      ticketLog := match result with
        | .accepted _ => .answered .admission target :: s.ticketLog
        | .error _ => s.ticketLog }
  | _ => s

/-- The state in which subscriptions are admitted and a planned reset is served. -/
def isLive (s : Impl L) : Bool :=
  s.mail.observation.state = .live && s.mail.observation.projectionStatus = .synchronized &&
    s.mail.observation.faultReason.isNone

/-- Publication takes no more subscribers. -/
def publicationClosing (s : Impl L) : Bool :=
  !s.mail.publicationAdmissionOpen || s.mail.publicationShutdownRequested || s.mail.stopRequested || s.mail.stopped

/-- Refuse an admission that comes too late; `true` when it may go on. -/
def gateAdmission (request : Nat) (s : Impl L) : Bool × Impl L :=
  if s.publicationClosing then (false, s.completeAdmissionRequestUnlocked request (.error .shuttingDown))
  else if !s.isLive then (false, s.completeAdmissionRequestUnlocked request (.error .notLive))
  else (true, s)

end Impl

/-! ## Subscribers -/

def samplePublicationTime : OwnerProgram L (Option PublicationTime) :=
  Program.choose (fun w => w.clock.map (fun sample => ⟨sample.utcNs, some sample.monotonicNs⟩))

/-- Run one operation of a channel. -/
def Impl.onChannel (channel : Nat)
    (f : SubscriberChannel L.LocalSnapshot L.DepthUpdate → SubscriberChannel L.LocalSnapshot L.DepthUpdate)
    (s : Impl L) : Impl L :=
  { s with channels := s.channels.modify channel (fun subscriber => { subscriber with channel := f subscriber.channel }) }

def Impl.channelState (channel : Nat) (s : Impl L) : Option SubscriberState :=
  s.channels[channel]?.map (·.channel.state)

/-- The subscribers whose channels are not closed, each read under its own mutex. -/
def openSubscribers : List Nat → OwnerProgram L (List Nat)
  | [] => pure []
  | subscriber :: rest => do
    let state ← Program.read (Impl.channelState subscriber)
    let others ← openSubscribers rest
    pure (if state = some .closed then others else subscriber :: others)

def sweepClosedSubscribers : OwnerProgram L Unit := do
  let subscribers ← Program.read (·.roster.subscribers)
  let remaining ← openSubscribers subscribers
  Program.modify fun s =>
    { s with
      roster.subscribers := remaining
      mail.observation.residentSubscriptionCount := remaining.length }

def closeAllSubscribersForShutdown : OwnerProgram L Unit := do
  let subscribers ← Program.read (·.roster.subscribers)
  Program.forEach subscribers (fun subscriber => Program.modify (Impl.onChannel subscriber (·.closeFromOwner)))
  Program.modify fun s =>
    { s with
      roster.subscribers := []
      mail.observation.residentSubscriptionCount := 0 }

/-- A clock failure does not keep a session open: its terminal then carries no time. -/
def terminalizeActiveSubscribers (reason : ConsumerGapReason) (recoveryAction : RecoveryAction)
    (connectionGeneration : Option Nat) : OwnerProgram L Unit := do
  sweepClosedSubscribers
  let sampled ← samplePublicationTime
  let subscribers ← Program.read (·.roster.subscribers)
  Program.forEach subscribers fun subscriber =>
    Program.modify (Impl.onChannel subscriber
      (fun channel => (channel.terminalize reason recoveryAction connectionGeneration (sampled.getD {})).2))

/-! ## Faults and the published state -/

def Impl.faultLocked (reason : FaultReason) (adapterError : Option L.AdapterError) (s : Impl L) : Impl L :=
  let faulted : Impl L :=
    { s with
      book.bootstrap := []
      mail.accepting := false
      mail.observation.bootstrapOccupancy := 0
      mail.observation.faultReason := some reason
      mail.observation.adapterError := adapterError }
  let refreshed := faulted.refreshProjectionObservationLocked
  let stated : Impl L := { refreshed with mail.observation.state := .faulted }
  (stated.discardIngressLocked).answerSnapshotLocked .faulted

def transitionToFault (reason : FaultReason) (adapterError : Option L.AdapterError) : OwnerProgram L Unit := do
  let generation ← Program.read (·.book.currentProjectionGeneration)
  terminalizeActiveSubscribers .resumeNotAvailable .requestNewSnapshot generation
  Program.modify (Impl.faultLocked reason adapterError)

def Impl.publishProjectionStateLocked (s : Impl L) : Impl L :=
  let refreshed := s.refreshProjectionObservationLocked
  let stated : Impl L :=
    { refreshed with
      mail.observation.bootstrapOccupancy := s.book.bootstrap.length
      mail.observation.state :=
        if s.mail.observation.state ≠ .faulted ∧ s.mail.observation.state ≠ .stopping ∧
            s.mail.observation.state ≠ .stopped then
          stateForProjection (L.status s.book.projection)
        else s.mail.observation.state }
  if L.status s.book.projection = .needsResync then
    { stated with mail.accepting := false }.discardIngressLocked
  else stated

def publishProjectionState : OwnerProgram L Unit := Program.modify Impl.publishProjectionStateLocked

/-! ## Depth updates -/

/-- Offer one applied update to one channel. -/
def Impl.admitUpdate (channel : Nat) (input : DepthUpdateInput L) (publishedAt : PublicationTime) (w : Outcome L)
    (s : Impl L) : OrdinaryAdmissionResult × Impl L :=
  match s.channels[channel]? with
  | none => (.inactive, s)
  | some subscriber =>
    let result := subscriber.channel.admitUpdate input.update input.provenance.connectionGeneration publishedAt
      (if w.throws then none else some s.nextAddress)
    (result.1,
      { s with
        channels := s.channels.set channel { subscriber with channel := result.2 }
        nextAddress := s.nextAddress + 1
        bookLog := if result.1 = .admitted then .published channel input :: s.bookLog else s.bookLog })

/-- Offer the update to every subscriber; a failed allocation ends the round in a fault. -/
def fanOut (input : DepthUpdateInput L) (publishedAt : PublicationTime) : List Nat → OwnerProgram L Unit
  | [] => pure ()
  | subscriber :: rest => do
    let result ← Program.atomic (Impl.admitUpdate subscriber input publishedAt)
    if result = .allocationFailure then transitionToFault .internalError none
    else fanOut input publishedAt rest

def publishAppliedUpdate (input : DepthUpdateInput L) : OwnerProgram L Unit := do
  let shutDown ← Program.read (·.mail.publicationShutdownCompleted)
  if shutDown then pure ()
  else do
    sweepClosedSubscribers
    let subscribers ← Program.read (·.roster.subscribers)
    if subscribers.isEmpty then pure ()
    else do
      let sampled ← samplePublicationTime
      match sampled with
      | none => transitionToFault .clockError none
      | some publishedAt => do
        let throws ← Program.choose (·.throws)
        if throws then transitionToFault .internalError none
        else fanOut input publishedAt subscribers

/-- How the projection took an update. -/
inductive ApplyCall (L : ProjectionLibrary) where
  | generationMismatch
  | threw
  | adapterError (error : L.AdapterError)
  | result (result : L.ApplyResult)

/-- Compare the generations, adapt the update and apply it. -/
def Impl.applyToProjection (setup : Setup L) (input : DepthUpdateInput L) (w : Outcome L) (s : Impl L) :
    ApplyCall L × Impl L :=
  if s.book.currentProjectionGeneration.isSome ∧ input.provenance.connectionGeneration.isSome ∧
      s.book.currentProjectionGeneration ≠ input.provenance.connectionGeneration then
    (.generationMismatch,
      { s with bookLog := .mismatched input s.book.projection (s.channels.map Subscriber.records) :: s.bookLog })
  else if w.throws then (.threw, { s with book.projection := w.left })
  else
    match L.adaptDepthUpdate input.update (L.numericSpec s.book.projection) setup.expectedIdentity with
    | .error error => (.adapterError error, s)
    | .ok batch =>
      match L.applyTo batch s.book.projection with
      | (.error error, projection) => (.adapterError error, { s with book.projection := projection })
      | (.ok result, projection) =>
        (.result result,
          { s with
            book.projection := projection
            bookLog := if L.applyDisposition result = .applied then .applied input :: s.bookLog else s.bookLog })

def Impl.recordApply (input : DepthUpdateInput L) (result : L.ApplyResult) (s : Impl L) : Impl L :=
  { s with
    mail.observation.lastApply := some result
    mail.observation.lastAppliedDepth :=
      if L.applyDisposition result = .applied then
        some ⟨L.receiveTimeUtcNs input.update, L.receiveMonotonicNs input.update, input.provenance.connectionGeneration⟩
      else s.mail.observation.lastAppliedDepth }

/-- What the sessions see of an update that the projection has taken: the update, or the gap it has uncovered. -/
def publishDisposition (input : DepthUpdateInput L) : ApplyDisposition → OwnerProgram L Unit
  | .applied => publishAppliedUpdate input
  | .gapDetected =>
    terminalizeActiveSubscribers .upstreamSequenceGap .requestNewSnapshot input.provenance.connectionGeneration
  | .ignoredStale | .ignoredDuplicate | .rejectedWrongState => pure ()

def applyUpdate (setup : Setup L) (input : DepthUpdateInput L) : OwnerProgram L Completion := do
  let call ← Program.atomic (Impl.applyToProjection setup input)
  match call with
  | .generationMismatch => do
    transitionToFault .internalError none
    pure .returned
  | .threw => pure .threw
  | .adapterError error => do
    transitionToFault .adapterError (some error)
    pure .returned
  | .result result => do
    Program.modify (Impl.recordApply input result)
    publishDisposition input (L.applyDisposition result)
    publishProjectionState
    pure .returned

/-- Where a depth update goes. -/
inductive BufferCall where
  | overflow | threw | buffered | apply
  deriving DecidableEq, Repr

/-- Before the baseline an update waits in the bootstrap buffer. -/
def Impl.bufferDepthUpdate (setup : Setup L) (input : DepthUpdateInput L) (w : Outcome L) (s : Impl L) :
    BufferCall × Impl L :=
  let received : Impl L := { s with bookLog := .received input :: s.bookLog }
  if L.status s.book.projection = .awaitingBaseline then
    if s.book.bootstrap.length = setup.limits.bootstrapCapacity then (.overflow, received)
    else if w.throws then (.threw, received)
    else (.buffered, { received with book.bootstrap := s.book.bootstrap ++ [input] })
  else (.apply, received)

def processDepthUpdate (setup : Setup L) (input : DepthUpdateInput L) : OwnerProgram L Completion := do
  let call ← Program.atomic (Impl.bufferDepthUpdate setup input)
  match call with
  | .overflow => do
    transitionToFault .bootstrapBufferOverflow none
    pure .returned
  | .threw => pure .threw
  | .buffered => do
    publishProjectionState
    pure .returned
  | .apply => applyUpdate setup input

/-! ## Snapshots -/

/-- How the projection took a baseline. -/
inductive InstallCall (L : ProjectionLibrary) where
  | threw
  | adapterError (error : L.AdapterError)
  | result (result : L.InstallResult)

def Impl.installBaseline (setup : Setup L) (input : SnapshotInput L) (w : Outcome L) (s : Impl L) :
    InstallCall L × Impl L :=
  if w.throws then (.threw, { s with book.projection := w.left })
  else
    match L.adaptExchangeDepthSnapshot input.snapshot (L.numericSpec s.book.projection) setup.expectedIdentity with
    | .error error => (.adapterError error, s)
    | .ok baseline =>
      match L.installInto baseline s.book.projection with
      | (.error error, projection) => (.adapterError error, { s with book.projection := projection })
      | (.ok result, projection) => (.result result, { s with book.projection := projection })

def Impl.setGeneration (generation : Option Nat) (s : Impl L) : Impl L :=
  { s with
    book.currentProjectionGeneration := generation
    mail.observation.currentProjectionGeneration := generation
    bookLog := .installed generation :: s.bookLog }

def Impl.popBootstrap (s : Impl L) : Option (DepthUpdateInput L) × Impl L :=
  match s.book.bootstrap with
  | [] => (none, s)
  | front :: rest => (some front, { s with book.bootstrap := rest })

/-- The replay stops at a gap or a fault. -/
def Impl.replayEnds (s : Impl L) : Bool :=
  L.status s.book.projection = .needsResync || s.mail.observation.state = .faulted

/-- Apply what was buffered, oldest first. The buffer only shrinks here, so its length at the start bounds the loop. -/
def replayBootstrap (setup : Setup L) : Nat → OwnerProgram L Completion
  | 0 => pure .returned
  | bound + 1 => do
    let front ← Program.atomic (fun _ => Impl.popBootstrap)
    match front with
    | none => pure .returned
    | some update => do
      let completion ← applyUpdate setup update
      match completion with
      | .threw => pure .threw
      | .returned => do
        let ends ← Program.read Impl.replayEnds
        if ends then do
          Program.modify (fun s => { s with book.bootstrap := [] })
          pure .returned
        else replayBootstrap setup bound

def processSnapshot (setup : Setup L) (input : SnapshotInput L) : OwnerProgram L Completion := do
  let call ← Program.atomic (Impl.installBaseline setup input)
  match call with
  | .threw => pure .threw
  | .adapterError error => do
    transitionToFault .adapterError (some error)
    pure .returned
  | .result result => do
    Program.modify (fun s => { s with mail.observation.lastInstall := some result })
    if !L.installed result then do
      transitionToFault .projectionRejected none
      pure .returned
    else do
      Program.modify (Impl.setGeneration input.provenance.connectionGeneration)
      let buffered ← Program.read (·.book.bootstrap.length)
      let completion ← replayBootstrap setup buffered
      match completion with
      | .threw => pure .threw
      | .returned => do
        publishProjectionState
        pure .returned

/-! ## Items -/

def processInput (setup : Setup L) : RuntimeInput L → OwnerProgram L Completion
  | .depthUpdate input => processDepthUpdate setup input
  | .snapshot input => processSnapshot setup input
  | .failure failure => do
    transitionToFault (if failure = .transport then .transportFailure else .snapshotFailure) none
    pure .returned

def Impl.finishTicket (ticket : Nat) (s : Impl L) : Impl L :=
  { s with
    mail.processedTicket := max s.mail.processedTicket ticket
    mail.observation.bootstrapOccupancy := s.book.bootstrap.length
    ticketLog := .finished ticket :: s.ticketLog }

/-- The loop's catch clause. -/
def faultOnThrow : Completion → OwnerProgram L Unit
  | .threw => transitionToFault .internalError none
  | .returned => pure ()

def processItem (setup : Setup L) (item : IngressItem L) : OwnerProgram L Unit := do
  let completion ← processInput setup item.input
  faultOnThrow completion
  Program.modify (Impl.finishTicket item.ticket)

/-! ## Requests -/

def completeAdmissionRequest (request : Nat) (result : SubscriptionAdmissionResult) : OwnerProgram L Unit :=
  Program.modify (Impl.completeAdmissionRequestUnlocked request result)

/-- How the staging of a session went. -/
inductive Staging (L : ProjectionLibrary) where
  | threw
  | adapterError (error : L.AdapterError)
  | notStaged
  | staged (channel : SubscriberChannel L.LocalSnapshot L.DepthUpdate)

/-- Take the snapshot and put it behind the acceptance into a new channel that nobody else sees yet. -/
def Impl.stageSession (setup : Setup L) (subscription : ValidatedOrderBookSubscription) (depthLimit : Option L.DepthLimit)
    (publishedAt : PublicationTime) (w : Outcome L) (s : Impl L) : Staging L × Impl L :=
  if w.throws then (.threw, s)
  else
    match L.makeLocalOrderBookSnapshot s.book.projection setup.expectedIdentity
        ⟨"gateway-g7-publication", "1.0.0", publishedAt.utcNs, publishedAt.monotonicNs⟩ depthLimit with
    | .error error => (.adapterError error, s)
    | .ok snapshot =>
      let subscriptionId := "ob-" ++ toString s.roster.nextSubscriptionId
      let channel := SubscriberChannel.create subscriptionId subscription.gatewayInstanceId
        setup.limits.publication.ordinaryQueueCapacity setup.limits.queue_pos
      let accepted := makeAcceptedRecord subscription.requestId subscriptionId subscription.gatewayInstanceId publishedAt
      let initialSnapshot := makeSnapshotRecord snapshot s.book.currentProjectionGeneration publishedAt
      let staged := channel.stageInitial ⟨s.nextAddress, accepted⟩ ⟨s.nextAddress + 1, initialSnapshot⟩
      (if staged.1 then .staged staged.2 else .notStaged, { s with nextAddress := s.nextAddress + 2 })

/-- Make the staged session one of the owner's subscribers, unless it comes too late by now. -/
def Impl.commitAdmission (request : Nat) (channel : SubscriberChannel L.LocalSnapshot L.DepthUpdate) (s : Impl L) :
    Impl L :=
  let gated := s.gateAdmission request
  let enrolled : Impl L :=
    { s with
      channels := s.channels ++ [{ channel := channel }]
      roster.subscribers := s.roster.subscribers ++ [s.channels.length]
      roster.nextSubscriptionId := s.roster.nextSubscriptionId + 1
      mail.observation.residentSubscriptionCount := s.roster.subscribers.length + 1
      bookLog := .admitted s.channels.length s.book.projection :: s.bookLog }
  if gated.1 then enrolled.completeAdmissionRequestUnlocked request (.accepted s.channels.length) else gated.2

/-- The same, unless the list of subscribers cannot grow: then nothing has happened, and the call has thrown. -/
def Impl.tryCommitAdmission (request : Nat) (channel : SubscriberChannel L.LocalSnapshot L.DepthUpdate) (w : Outcome L)
    (s : Impl L) : Completion × Impl L :=
  if w.throws ∧ (s.gateAdmission request).1 then (.threw, s) else (.returned, s.commitAdmission request channel)

def admitStaged (setup : Setup L) (request : Nat) (subscription : ValidatedOrderBookSubscription)
    (depthLimit : Option L.DepthLimit) : OwnerProgram L Unit := do
  let sampled ← samplePublicationTime
  match sampled with
  | none => completeAdmissionRequest request (.error .clockError)
  | some publishedAt => do
    let next ← Program.read (·.roster.nextSubscriptionId)
    if next = maxUInt64 then completeAdmissionRequest request (.error .idExhausted)
    else do
      let staging ← Program.atomic (Impl.stageSession setup subscription depthLimit publishedAt)
      match staging with
      | .threw => completeAdmissionRequest request (.error .internalError)
      | .adapterError error =>
        completeAdmissionRequest request
          (.error (if L.isInvalidDepthLimit error then .invalidDepthLimit else .internalError))
      | .notStaged => completeAdmissionRequest request (.error .activeLimit)
      | .staged channel => do
        let completion ← Program.atomic (Impl.tryCommitAdmission request channel)
        match completion with
        | .threw => completeAdmissionRequest request (.error .internalError)
        | .returned => pure ()

def performAdmissionRequest (setup : Setup L) (request : Nat) (subscription : ValidatedOrderBookSubscription) :
    OwnerProgram L Unit := do
  sweepClosedSubscribers
  let mayGoOn ← Program.atomic (fun _ => Impl.gateAdmission request)
  if !mayGoOn then pure ()
  else do
    let subscribers ← Program.read (·.roster.subscribers)
    if setup.limits.publication.maximumActiveSubscriptions ≤ subscribers.length then
      completeAdmissionRequest request (.error .activeLimit)
    else
      match subscription.depthLimit with
      | none => admitStaged setup request subscription none
      | some depth =>
        match L.createDepthLimit depth with
        | .error _ => completeAdmissionRequest request (.error .invalidDepthLimit)
        | .ok depthLimit => admitStaged setup request subscription (some depthLimit)

def Impl.completeSnapshotLocked (result : SnapshotResult L) (s : Impl L) : Impl L :=
  match s.mail.snapshotRequest with
  | none => s
  | some request =>
    { s with
      mail.snapshotRequest := some { request with result := some result }
      ticketLog := match result with
        | .captured _ => .answered .capture request.target :: s.ticketLog
        | _ => s.ticketLog }

def completeSnapshotRequest (result : SnapshotResult L) : OwnerProgram L Unit :=
  Program.modify (Impl.completeSnapshotLocked result)

def Impl.captureBook (setup : Setup L) (sample : ClockSample) (w : Outcome L) (s : Impl L) : SnapshotResult L :=
  if w.throws then .error .internalError
  else
    match L.makeLocalOrderBookSnapshot s.book.projection setup.expectedIdentity
        ⟨"gateway-g3-runtime", "1.0.0", sample.utcNs, some sample.monotonicNs⟩ none with
    | .error error => .adapterError error
    | .ok snapshot => .captured ⟨snapshot, sample⟩

def performSnapshotRequest (setup : Setup L) : OwnerProgram L Unit := do
  let live ← Program.read (fun s => decide (s.mail.observation.state = .live))
  if !live then completeSnapshotRequest (.error .notLive)
  else do
    let sampled ← Program.choose (·.clock)
    match sampled with
    | none => completeSnapshotRequest (.error .clockError)
    | some sample => do
      let result ← Program.atomic (fun w s => (s.captureBook setup sample w, s))
      completeSnapshotRequest result

/-- The kind of the reset to perform; a request that does not fit the state is answered here. -/
def Impl.checkReset (s : Impl L) : Option ResetKind × Impl L :=
  match s.mail.resetRequest with
  | none => (none, s)
  | some request =>
    let validRecovery := s.mail.observation.state = .faulted ∨ s.mail.observation.state = .needsResync
    if (request.kind = .recovery ∧ ¬validRecovery) ∨ (request.kind = .planned ∧ ¬s.isLive) then
      (none, { s with mail.resetRequest := some { request with result := some .invalidState } })
    else (some request.kind, s)

def Impl.resetLocked (s : Impl L) : Impl L :=
  let cleared : Impl L :=
    { s with
      book := { projection := L.reset s.book.projection }
      mail.observation.lastInstall := none
      mail.observation.lastApply := none
      mail.observation.lastAppliedDepth := none
      mail.observation.adapterError := none
      mail.observation.faultReason := none
      mail.observation.bootstrapOccupancy := 0
      mail.observation.resetCount := s.mail.observation.resetCount + 1 }
  let refreshed := cleared.refreshProjectionObservationLocked
  let opened : Impl L :=
    { refreshed with
      mail.observation.state := .buffering
      mail.accepting := true
      ticketLog := .reset :: s.ticketLog
      bookLog := .reset :: s.bookLog }
  opened.publishTicketsLocked

/-- The projection's own reset throws and leaves this one behind; nothing after that call happens. -/
def Impl.abandonReset (left : L.Projection) (s : Impl L) : Impl L :=
  { s with
    book.projection := left
    bookLog := .resetThrew :: s.bookLog }

def Impl.tryReset (w : Outcome L) (s : Impl L) : Completion × Impl L :=
  if w.throws then (.threw, s.abandonReset w.left) else (.returned, s.resetLocked)

/-- The catch clause of a reset. The ingress, the buffered updates and the generation stay. -/
def Impl.failResetLocked (s : Impl L) : Impl L :=
  { s with
    mail.accepting := false
    mail.observation.faultReason := some .internalError
    mail.observation.state := .faulted
    ticketLog := .resetThrew (s.mail.ingress.map (·.ticket)) :: s.ticketLog }

def Impl.completeResetLocked (result : RebootstrapResetResult) (s : Impl L) : Impl L :=
  match s.mail.resetRequest with
  | none => s
  | some request =>
    { s with
      mail.resetRequest := some { request with result := some result }
      ticketLog := if result = .reset then .answered .reset request.target :: s.ticketLog else s.ticketLog }

/-- The terminal the sessions of the old book get. -/
def terminalizeForReset (kind : ResetKind) (generation : Option Nat) : OwnerProgram L Unit :=
  match kind with
  | .planned => terminalizeActiveSubscribers .connectionGenerationChanged .resubscribe generation
  | .recovery => terminalizeActiveSubscribers .resumeNotAvailable .requestNewSnapshot generation

def performResetRequest : OwnerProgram L Unit := do
  let kind ← Program.atomic (fun _ => Impl.checkReset)
  match kind with
  | none => pure ()
  | some kind => do
    let generation ← Program.read (·.book.currentProjectionGeneration)
    terminalizeForReset kind generation
    let completion ← Program.atomic Impl.tryReset
    match completion with
    | .returned => Program.modify (Impl.completeResetLocked .reset)
    | .threw => do
      Program.modify Impl.failResetLocked
      Program.modify (Impl.completeResetLocked .internalError)

def Impl.completeShutdownLocked (s : Impl L) : Impl L :=
  let closed : Impl L := { s with mail.publicationAdmissionOpen := false }
  let completed := closed.completeAllAdmissionsLocked .shuttingDown
  { completed with
    mail.publicationShutdownCompleted := true
    mail.observation.publicationAdmissionOpen := false
    mail.observation.publicationShutdown := true }

def performPublicationShutdownControl : OwnerProgram L Unit := do
  closeAllSubscribersForShutdown
  Program.modify Impl.completeShutdownLocked

/-! ## The owner's loop -/

/-- What one round of the loop has taken on. -/
inductive Work (L : ProjectionLibrary) where
  | publicationShutdown
  | fault (reason : FaultReason)
  | reset
  | admission (request : Nat) (subscription : ValidatedOrderBookSubscription)
  | snapshot
  | removalSweep
  | item (item : IngressItem L)
  | exit
  | nothing

/-- What the owner waits for. -/
def Impl.hasWork (s : Impl L) : Bool :=
  s.mail.stopRequested || (s.mail.publicationShutdownRequested && !s.mail.publicationShutdownCompleted) ||
    s.mail.pendingFault.isSome || s.resetReadyLocked || s.admissionReadyLocked || s.snapshotReadyLocked ||
    s.mail.publicationRemovalPending || !s.mail.ingress.isEmpty

/-- Take the most urgent piece of work. -/
def Impl.takeWork (s : Impl L) : Work L × Impl L :=
  if s.mail.publicationShutdownRequested ∧ !s.mail.publicationShutdownCompleted then (.publicationShutdown, s)
  else
    match s.mail.pendingFault with
    | some reason => (.fault reason, { s with mail.pendingFault := none })
    | none =>
      if s.resetReadyLocked then (.reset, s)
      else
        match s.readyAdmission with
        | some (front, request) =>
          (.admission front request.subscription,
            { s with mail.admissionRequests := s.mail.admissionRequests.tail })
        | none =>
          if s.snapshotReadyLocked then (.snapshot, s)
          else if s.mail.publicationRemovalPending then
            (.removalSweep, { s with mail.publicationRemovalPending := false })
          else
            match s.mail.ingress with
            | front :: rest =>
              (.item front,
                { s with
                  mail.ingress := rest
                  mail.observation.ingressOccupancy := rest.length
                  ticketLog := .taken front.ticket :: s.ticketLog })
            | [] => if s.mail.stopRequested then (.exit, s) else (.nothing, s)

/-- Whoever still waits when the owner leaves is told so. -/
def Impl.leaveLocked (s : Impl L) : Impl L :=
  let refreshed := s.refreshProjectionObservationLocked
  let stated : Impl L := { refreshed with mail.observation.state := .stopped }
  ((stated.answerSnapshotLocked .stopped).answerResetLocked .stopped).completeAllAdmissionsLocked .stopped

/-- What the owner does once the loop has ended. -/
def ownerEpilogue : OwnerProgram L Unit := do
  Program.modify Impl.leaveLocked
  closeAllSubscribersForShutdown
  Program.modify (fun s => { s with ownerExited := true })

/-- What one round of the loop does with what it took; `false` when the loop has ended. -/
def perform (setup : Setup L) : Work L → OwnerProgram L Bool
  | .publicationShutdown => do
    performPublicationShutdownControl
    pure true
  | .fault reason => do
    transitionToFault reason none
    pure true
  | .reset => do
    performResetRequest
    pure true
  | .admission request subscription => do
    performAdmissionRequest setup request subscription
    pure true
  | .snapshot => do
    performSnapshotRequest setup
    pure true
  | .removalSweep => do
    sweepClosedSubscribers
    pure true
  | .item item => do
    processItem setup item
    pure true
  | .exit => do
    ownerEpilogue
    pure false
  | .nothing => pure true

/-- One round of the loop. -/
def ownerRound (setup : Setup L) : OwnerProgram L Bool := do
  let work ← Program.await Impl.hasWork (fun _ => Impl.takeWork)
  perform setup work

/-- The owner publishes its first state. -/
def Impl.beginLocked (s : Impl L) : Impl L :=
  let stated : Impl L := { s with mail.observation.state := .buffering }
  let refreshed := stated.refreshProjectionObservationLocked
  { refreshed with mail.ownerReady := true }

/-- What the owner does before its loop. -/
def ownerPrologue : OwnerProgram L Bool := do
  Program.await (·.mail.started) (fun _ s => ((), s.beginLocked))
  pure true

end MarketDataGateway.MarketRuntime
