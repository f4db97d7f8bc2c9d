import MarketDataGateway.Recovery.Coordinator

/-!
# The callers of a coordinator

The public calls, section by section, and whatever goes on outside. Starting is left to one thread. A caller that has joined the
coordinator's thread takes the last attempt and finishes; one that cannot get the mutex waits.

`Reachable` has every run of a coordinator.
-/

namespace MarketDataGateway.Recovery

open BinanceTransport MarketRuntime OrderBook Threads

variable {L : ProjectionLibrary} {X ω : Type}

namespace Coordinator

/-- The first section of `start`; the runtime is started next. -/
def start (s : Coordinator L) : Option RecoveryStartResult × Coordinator L :=
  if s.stopped then (some .stopped, s)
  else if s.started then (some .alreadyStarted, s)
  else (none, { s with started := true, startPending := true, observation := { s.observation with state := .starting } })

/-- The runtime did not start. -/
def failStart (s : Coordinator L) : Coordinator L :=
  { s with
    startPending := false
    observation :=
      { s.observation with
        terminal := true
        state := .exhausted
        terminalError := some (internalError "MarketRuntime did not start for G5") } }

def createThread (s : Coordinator L) : Coordinator L := { s with startPending := false, threadCreated := true }

/-- The first section of `stop`. -/
def requestStop (s : Coordinator L) : Coordinator L :=
  if s.stopped then s
  else if !s.started then
    { s with shutdownRequested := true, stopped := true, observation := { s.observation with state := .stopped } }
  else
    { s with shutdownRequested := true, observation := { s.observation with state := .stopping, inBackoff := false } }

/-- The first section of `quiesce_for_acceptance`. -/
def beginAcceptance (s : Coordinator L) : Coordinator L :=
  if !s.started || s.stopped || s.observation.terminal || s.observation.state ≠ .live || s.shutdownRequested then s
  else { s with shutdownRequested := true, observation := { s.observation with state := .stopping, inBackoff := false } }

def requestStopToken (s : Coordinator L) : Coordinator L := { s with stopToken := true }

/-- The thread is over, or there is none. -/
def joined (s : Coordinator L) : Bool := s.exited || (!s.threadCreated && !s.startPending)

/-- The last attempt is taken; its last event is kept. -/
def takeAttempt (lastEventUtcNs : Option Nat) (s : Coordinator L) : Coordinator L :=
  { s with
    activeAttempt := none
    observation :=
      { s.observation with
        lastEventUtcNs := if lastEventUtcNs.isSome then lastEventUtcNs else s.observation.lastEventUtcNs } }

def finishStop (s : Coordinator L) : Coordinator L :=
  { s with
    stopped := true
    observation := { s.observation with state := .stopped, inBackoff := false, activeTransportCount := 0 } }

/-- The last sections of `quiesce_for_acceptance`. -/
def finishAcceptance (transport : TransportObservation) (s : Coordinator L) : Coordinator L :=
  { s with
    observation :=
      { s.observation with
        activeTransportCount := 0
        connectionGeneration := transport.connectionGeneration
        connectionId := transport.connectionId } }

end Coordinator

/-- One section of any thread but the coordinator's. What goes on outside is `around`; an attempt submits from its creation until its
stop has returned. -/
inductive ClientStep (around : World L X → X → Prop) : World L X → World L X → Prop where
  | outside {s x} (h : around s x) : ClientStep around s { s with outside := x }
  | start {s} (hm : s.coordinator.mutexHeld = false) :
      ClientStep around s { s with coordinator := s.coordinator.start.2 }
  | failStart {s} (hp : s.coordinator.startPending = true) (hm : s.coordinator.mutexHeld = false) :
      ClientStep around s { s with coordinator := s.coordinator.failStart }
  | createThread {s} (hp : s.coordinator.startPending = true) :
      ClientStep around s { s with coordinator := s.coordinator.createThread }
  | requestStop {s} (hm : s.coordinator.mutexHeld = false) :
      ClientStep around s { s with coordinator := s.coordinator.requestStop }
  | beginAcceptance {s} (hm : s.coordinator.mutexHeld = false) :
      ClientStep around s { s with coordinator := s.coordinator.beginAcceptance }
  | requestStopToken {s} (hr : s.coordinator.shutdownRequested = true) :
      ClientStep around s { s with coordinator := s.coordinator.requestStopToken }
  | takeAttempt {s} (hr : s.coordinator.shutdownRequested = true) (hj : s.coordinator.joined = true)
      (lastEventUtcNs : Option Nat) : ClientStep around s { s with coordinator := s.coordinator.takeAttempt lastEventUtcNs }
  | finishStop {s} (hr : s.coordinator.shutdownRequested = true) (hj : s.coordinator.joined = true)
      (ha : s.coordinator.activeAttempt = none) (hm : s.coordinator.mutexHeld = false) :
      ClientStep around s { s with coordinator := s.coordinator.finishStop }
  | finishAcceptance {s} (hr : s.coordinator.shutdownRequested = true) (hj : s.coordinator.joined = true)
      (hm : s.coordinator.mutexHeld = false) (transport : TransportObservation) :
      ClientStep around s { s with coordinator := s.coordinator.finishAcceptance transport }
  | submit {s generation} (hc : .attemptCreated generation ∈ s.calls) (hs : .attemptStopped generation ∉ s.calls) :
      ClientStep around s { s with submissions := generation :: s.submissions }

/-- One section of the coordinator's thread or of any other. -/
abbrev RunStep (around : World L X → X → Prop) (c : Collaborators L X ω) := LoopStep (ClientStep around) (coordinatorRound c)

/-- Where the coordinator's thread is and what the world is like, somewhere in a run from construction on. -/
inductive Reachable (around : World L X → X → Prop) (c : Collaborators L X ω) (x : X) :
    Phase (World L X) ω → World L X → Prop where
  | initial : Reachable around c x .head { outside := x }
  | step {ph ph' s s'} (h : Reachable around c x ph s) (hs : RunStep around c ph s ph' s') : Reachable around c x ph' s'

/-- The coordinator's thread may run on by itself. -/
theorem Reachable.advances {around : World L X → X → Prop} {c : Collaborators L X ω} {x : X} (w : ω) (n : Nat)
    {p : Phase (World L X) ω × World L X} (h : Reachable around c x p.1 p.2) :
    Reachable around c x (Phase.advances (coordinatorRound c) w n p).1 (Phase.advances (coordinatorRound c) w n p).2 := by
  induction n generalizing p with
  | zero => exact h
  | succ n ih =>
    apply ih
    rcases Phase.advance_step (ClientStep around) (coordinatorRound c) w p with hs | he
    · exact h.step hs
    · rw [he]
      exact h

/-- A coordinator that has been started and whose thread has not run yet. -/
theorem Reachable.begun (around : World L X → X → Prop) (c : Collaborators L X ω) (x : X) :
    Reachable around c x .head { outside := x, coordinator := ((Coordinator.start {}).2).createThread } := by
  have h : Reachable around c x .head { outside := x } := .initial
  have h := h.step (.env (.start rfl))
  exact h.step (.env (.createThread rfl))

/-- An invariant of the coordinator's loop holds in every reachable state. -/
theorem Reachable.loopInv {around : World L X → X → Prop} {c : Collaborators L X ω} {x : X} {E : Rely (World L X)}
    {H O : World L X → Prop} (henv : E.env = ClientStep around) (hH : E.Stable H) (hO : E.Stable O)
    (hi : E.inv { outside := x } ∧ H { outside := x }) (hbody : Triple E H (coordinatorRound c) (afterRound H O))
    {ph : Phase (World L X) ω} {s : World L X} (h : Reachable around c x ph s) : LoopInv E H O ph s := by
  induction h with
  | initial => exact hi
  | step _ hs ih => exact ih.step hH hO hbody (henv ▸ hs)

end MarketDataGateway.Recovery
