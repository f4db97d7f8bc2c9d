import MarketDataGateway.Lib.Loop
import MarketDataGateway.Runtime.Owner

/-!
# The callers of a runtime

The public calls, section by section: a call that waits is one section that leaves a request or a barrier behind and one that comes
back. Any number of threads make them, in any order, between any two sections of the owner. Starting and stopping is left to one
thread, as the runtime's header asks for.

`Reachable` has every run of a runtime.
-/

namespace MarketDataGateway.MarketRuntime

open OrderBook Threads

variable {L : ProjectionLibrary}

inductive StartResult where
  | started | alreadyStarted | stopped
  deriving DecidableEq, Repr

namespace Impl

/-! ## Lifecycle -/

/-- The owner thread is created here; it then waits for the mutex. -/
def start (s : Impl L) : StartResult × Impl L :=
  if s.mail.stopped then (.stopped, s)
  else if s.mail.started then (.alreadyStarted, s)
  else
    (.started,
      { s with
        mail.started := true
        mail.accepting := true
        mail.publicationAdmissionOpen := !s.mail.publicationShutdownCompleted
        mail.observation.publicationAdmissionOpen := !s.mail.publicationShutdownCompleted })

/-- The first section of `stop`. -/
def requestStop (s : Impl L) : Impl L :=
  if s.mail.stopped then s
  else if !s.mail.started then
    { s with
      mail.accepting := false
      mail.stopped := true
      mail.observation.state := .stopped
      mail.observation.ownerJoined := true }
  else
    { s with
      mail.accepting := false
      mail.publicationAdmissionOpen := false
      mail.observation.publicationAdmissionOpen := false
      mail.publicationShutdownRequested := true
      mail.stopRequested := true
      mail.observation.state :=
        if s.mail.observation.state ≠ .faulted ∧ s.mail.observation.state ≠ .needsResync then .stopping
        else s.mail.observation.state }

/-- The last section of `stop`, once the owner has been joined. -/
def finishStop (s : Impl L) : Impl L :=
  let stated : Impl L :=
    { s with
      mail.stopped := true
      mail.observation.state := .stopped
      mail.observation.ownerJoined := true }
  (stated.answerSnapshotLocked .stopped).completeAllAdmissionsLocked .stopped

/-! ## Submissions -/

/-- The ticket counter has 64 bits. -/
def nextTicket (s : Impl L) : Nat := (s.mail.lastAdmittedTicket + 1) % 2 ^ 64

/-- `throws` is an ingress that cannot grow: the exception leaves the call, and the ticket has been counted by then. -/
def submit (setup : Setup L) (input : RuntimeInput L) (throws : Bool) (s : Impl L) : Option AdmissionResult × Impl L :=
  if s.mail.stopped then (some .stopped, s)
  else if !s.mail.started then (some .notStarted, s)
  else if s.mail.stopRequested then (some .stopping, s)
  else if !s.mail.accepting then (some .faulted, s)
  else if s.mail.ingress.length = setup.limits.ingressCapacity then
    (some .full,
      { s with
        mail.accepting := false
        mail.pendingFault := some .ingressOverflow
        ticketLog := .full :: s.ticketLog })
  else if throws then
    (none,
      { s with
        mail.lastAdmittedTicket := s.nextTicket
        ticketLog := .lost s.nextTicket :: s.ticketLog })
  else
    (some .accepted,
      { s with
        mail.lastAdmittedTicket := s.nextTicket
        mail.ingress := s.mail.ingress ++ [⟨s.nextTicket, input⟩]
        mail.observation.ingressOccupancy := s.mail.ingress.length + 1
        ticketLog := .accepted s.nextTicket :: s.ticketLog })

/-! ## Observations -/

/-- An observation is handed out. -/
def returnObservation (id target : Nat) (s : Impl L) : Impl L :=
  let counted : Impl L := { s with mail.observation.ingressOccupancy := s.mail.ingress.length }
  { counted.publishTicketsLocked with
    ticketLog := .observed id target s.mail.observation.state :: s.ticketLog }

/-- The call records its barrier, unless no owner is there to wait for. -/
def observe (s : Impl L) : Impl L :=
  let entered : Impl L :=
    { s with
      callers.nextObserver := s.callers.nextObserver + 1
      ticketLog := .observeStarted s.callers.nextObserver s.mail.lastAdmittedTicket :: s.ticketLog }
  if s.mail.started && !s.mail.stopped then
    { entered with callers.observers := s.callers.observers ++ [⟨s.callers.nextObserver, s.mail.lastAdmittedTicket⟩] }
  else entered.returnObservation s.callers.nextObserver s.mail.lastAdmittedTicket

def observeReady (call : ObserveCall) (s : Impl L) : Bool := call.target ≤ s.mail.processedTicket || s.mail.stopped

def forgetObserver (i : Nat) (s : Impl L) : Impl L :=
  { s with callers.observers := s.callers.observers.eraseIdx i }

def recoveryRequiredLocked (s : Impl L) : Bool :=
  s.mail.observation.state = .faulted || s.mail.observation.state = .needsResync ||
    s.mail.observation.state = .stopping || s.mail.observation.state = .stopped

/-- What `wait_until_live_or_recovery_required` waits for. -/
def liveOrRecoveryRequired (s : Impl L) : Bool :=
  s.mail.observation.state = .live || s.recoveryRequiredLocked || s.mail.stopRequested || s.mail.stopped

/-! ## Resets -/

/-- Both reset calls: what their check refuses, or `none` when the request has been queued. -/
def requestReset (kind : ResetKind) (s : Impl L) : Option RebootstrapResetResult × Impl L :=
  if s.mail.stopped then (some .stopped, s)
  else if !s.mail.started then (some .notStarted, s)
  else if s.mail.stopRequested then (some .stopping, s)
  else if (kind = .recovery ∧ s.mail.observation.state ≠ .faulted ∧ s.mail.observation.state ≠ .needsResync) ∨
      (kind = .planned ∧ !s.isLive) then (some .invalidState, s)
  else if s.mail.resetRequest.isSome then (some .busy, s)
  else (none, { s with mail.resetRequest := some { target := s.mail.lastAdmittedTicket, kind := kind } })

/-- What the caller of a reset waits for. -/
def resetReturns (s : Impl L) : Bool :=
  match s.mail.resetRequest with
  | some request => request.result.isSome || s.mail.stopped
  | none => false

def returnReset (s : Impl L) : Impl L :=
  match s.mail.resetRequest with
  | some request =>
    { s with
      mail.resetRequest := none
      callers.returnedResets := request :: s.callers.returnedResets }
  | none => s

/-! ## Snapshots -/

def captureSnapshot (s : Impl L) : Option SnapshotRequestError × Impl L :=
  if s.mail.stopped then (some .stopped, s)
  else if !s.mail.started then (some .notStarted, s)
  else if s.mail.stopRequested then (some .stopping, s)
  else if s.mail.observation.state = .faulted ∨ s.mail.observation.state = .needsResync then (some .faulted, s)
  else if s.mail.snapshotRequest.isSome then (some .busy, s)
  else (none, { s with mail.snapshotRequest := some { target := s.mail.lastAdmittedTicket } })

def snapshotReturns (s : Impl L) : Bool :=
  match s.mail.snapshotRequest with
  | some request => request.result.isSome || s.mail.stopped
  | none => false

def returnSnapshot (s : Impl L) : Impl L :=
  match s.mail.snapshotRequest with
  | some request =>
    { s with
      mail.snapshotRequest := none
      callers.returnedSnapshots := request :: s.callers.returnedSnapshots }
  | none => s

/-! ## Subscriptions -/

/-- The request is queued, or refused at once. `throws` is a failed allocation. -/
def admitOrderBookSubscription (setup : Setup L) (subscription : ValidatedOrderBookSubscription) (throws : Bool)
    (s : Impl L) : Option SubscriptionAdmissionError × Impl L :=
  if s.mail.stopped then (some .stopped, s)
  else if !s.mail.started then (some .notStarted, s)
  else if !s.mail.publicationAdmissionOpen || s.mail.publicationShutdownRequested ||
      s.mail.publicationShutdownCompleted || s.mail.stopRequested then (some .shuttingDown, s)
  else if !s.isLive then (some .notLive, s)
  else if s.mail.pendingAdmissionCount = setup.limits.publication.pendingAdmissionCapacity then (some .pendingLimit, s)
  else if throws then (some .internalError, s)
  else
    (none,
      { s with
        mail.admissions := s.mail.admissions ++ [{ target := s.mail.lastAdmittedTicket, subscription := subscription }]
        mail.admissionRequests := s.mail.admissionRequests ++ [s.mail.admissions.length]
        mail.pendingAdmissionCount := s.mail.pendingAdmissionCount + 1
        mail.observation.pendingAdmissionCount := s.mail.pendingAdmissionCount + 1 })

/-- What the caller of an admission waits for. -/
def admissionReturns (request : Nat) (s : Impl L) : Bool :=
  match s.mail.admissions[request]? with
  | some r => r.result.isSome || s.mail.stopped
  | none => false

def notifySubscriberClosed (s : Impl L) : Impl L := { s with mail.publicationRemovalPending := true }

def closePublicationAdmission (s : Impl L) : Impl L :=
  { s with
    mail.publicationAdmissionOpen := false
    mail.observation.publicationAdmissionOpen := false }

/-- `none` when the call waits for the owner. -/
def shutdownPublication (s : Impl L) : Option PublicationShutdownResult × Impl L :=
  let closed := s.closePublicationAdmission
  if s.mail.publicationShutdownCompleted then (some .alreadyShutDown, closed)
  else if s.mail.stopped then (some .stopped, closed)
  else if !s.mail.started then
    (some .notStarted,
      { closed with
        mail.publicationShutdownRequested := true
        mail.publicationShutdownCompleted := true
        mail.observation.publicationShutdown := true })
  else (none, { closed with mail.publicationShutdownRequested := true })

/-- What the caller of a publication shutdown waits for. -/
def shutdownReturns (s : Impl L) : Bool := s.mail.publicationShutdownCompleted || s.mail.stopped

end Impl

/-! ## Writers -/

namespace Subscriber

/-- The writer is handed the publication at the front. -/
def peek (s : Subscriber L) : Subscriber L := { s with peeked := s.channel.peek :: s.peeked }

/-- The writer acknowledges what it has written; only what the channel takes back counts as delivered. -/
def acknowledge (publication : PeekedPublication L.LocalSnapshot L.DepthUpdate) (s : Subscriber L) : Subscriber L :=
  let result := s.channel.acknowledge publication
  { s with
    channel := result.2
    delivered :=
      match result.1, publication.ordinary with
      | .acknowledged, some record => s.delivered ++ [record.value]
      | _, _ => s.delivered
    deliveredTerminal :=
      if result.1 = .closed ∧ s.channel.state ≠ .closed then publication.terminal else s.deliveredTerminal }

def closeFromWriter (s : Subscriber L) : Subscriber L := { s with channel := s.channel.closeFromWriter }

end Subscriber

def Impl.onSubscriber (channel : Nat) (f : Subscriber L → Subscriber L) (s : Impl L) : Impl L :=
  { s with channels := s.channels.modify channel f }

/-! ## Runs -/

/-- One section of any thread but the owner. -/
inductive ClientStep (setup : Setup L) : Impl L → Impl L → Prop where
  | start {s} : ClientStep setup s s.start.2
  | requestStop {s} (h : s.mail.stopRequested = false ∨ s.mail.stopped = true) : ClientStep setup s s.requestStop
  | finishStop {s} (hr : s.mail.stopRequested = true) (hs : s.mail.stopped = false) (hj : s.ownerExited = true) :
      ClientStep setup s s.finishStop
  | submit {s} (input : RuntimeInput L) (throws : Bool) : ClientStep setup s (s.submit setup input throws).2
  | observe {s} : ClientStep setup s s.observe
  | observeReturns {s i call} (hc : s.callers.observers[i]? = some call) (h : s.observeReady call = true) :
      ClientStep setup s ((s.returnObservation call.id call.target).forgetObserver i)
  | observeTimesOut {s} (i : Nat) : ClientStep setup s (s.forgetObserver i)
  | waitReturns {s} (h : s.liveOrRecoveryRequired = true) : ClientStep setup s s.publishTicketsLocked
  | requestReset {s} (kind : ResetKind) : ClientStep setup s (s.requestReset kind).2
  | returnReset {s} (h : s.resetReturns = true) : ClientStep setup s s.returnReset
  | captureSnapshot {s} : ClientStep setup s s.captureSnapshot.2
  | returnSnapshot {s} (h : s.snapshotReturns = true) : ClientStep setup s s.returnSnapshot
  | admitSubscription {s} (subscription : ValidatedOrderBookSubscription) (throws : Bool) :
      ClientStep setup s (s.admitOrderBookSubscription setup subscription throws).2
  | notifySubscriberClosed {s} : ClientStep setup s s.notifySubscriberClosed
  | closePublicationAdmission {s} : ClientStep setup s s.closePublicationAdmission
  | shutdownPublication {s} : ClientStep setup s s.shutdownPublication.2
  | peek {s} (channel : Nat) : ClientStep setup s (s.onSubscriber channel (·.peek))
  | acknowledge {s channel subscriber publication} (hs : s.channels[channel]? = some subscriber)
      (hp : publication ∈ subscriber.peeked) :
      ClientStep setup s (s.onSubscriber channel (·.acknowledge publication))
  | closeFromWriter {s} (channel : Nat) : ClientStep setup s (s.onSubscriber channel (·.closeFromWriter))

/-- One section of the owner or of any other thread. -/
abbrev RunStep (setup : Setup L) := LoopStep (ClientStep setup) (ownerRound setup)

/-- Where the owner is and what the state is, somewhere in a run from construction on. -/
inductive Reachable (setup : Setup L) : Phase (Impl L) (Outcome L) → Impl L → Prop where
  | initial : Reachable setup (.running ownerPrologue) (Impl.initial setup)
  | step {ph ph' s s'} (h : Reachable setup ph s) (hs : RunStep setup ph s ph' s') : Reachable setup ph' s'

/-- An invariant of the owner's loop holds in every reachable state. -/
theorem Reachable.loopInv {setup : Setup L} {E : Rely (Impl L)} {H X : Impl L → Prop} (henv : E.env = ClientStep setup)
    (hH : E.Stable H) (hX : E.Stable X) (hi : Safe E (afterRound H X) ownerPrologue (Impl.initial setup))
    (hbody : Triple E H (ownerRound setup) (afterRound H X)) {ph : Phase (Impl L) (Outcome L)} {s : Impl L}
    (h : Reachable setup ph s) : LoopInv E H X ph s := by
  induction h with
  | initial => exact hi
  | step _ hs ih => exact ih.step hH hX hbody (henv ▸ hs)

/-- A reachable state is reached still after the owner has run for a while. -/
theorem Reachable.advances {setup : Setup L} (w : Outcome L) (n : Nat) {p : Phase (Impl L) (Outcome L) × Impl L}
    (h : Reachable setup p.1 p.2) :
    Reachable setup (Phase.advances (ownerRound setup) w n p).1 (Phase.advances (ownerRound setup) w n p).2 := by
  induction n generalizing p with
  | zero => exact h
  | succ n ih =>
    apply ih
    rcases Phase.advance_step (ClientStep setup) (ownerRound setup) w p with hs | he
    · exact .step h hs
    · rw [he]; exact h

end MarketDataGateway.MarketRuntime
