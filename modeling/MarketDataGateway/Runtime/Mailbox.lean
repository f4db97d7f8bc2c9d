import MarketDataGateway.Runtime.Requests
import MarketDataGateway.Runtime.States

/-!
# The mailbox invariant

What always holds of the state behind the runtime's mutex, and that no caller breaks it.
-/

namespace MarketDataGateway.MarketRuntime

open OrderBook Threads

variable {L : ProjectionLibrary}

/-- Everything is dealt with: the state the owner leaves behind. -/
def Impl.Left (s : Impl L) : Prop :=
  s.mail.stopRequested = true ∧ s.mail.publicationShutdownCompleted = true ∧ s.mail.observation.state = .stopped ∧
  s.mail.ingress = [] ∧
  (InRange s.ticketLog → ∀ t, .accepted t ∈ s.ticketLog → Done t s.ticketLog ∧ t ≤ s.mail.processedTicket) ∧
  (∀ r ∈ s.mail.admissions, r.result.isSome = true) ∧
  (∀ r, s.mail.snapshotRequest = some r → r.result.isSome = true) ∧
  (∀ r, s.mail.resetRequest = some r → r.result.isSome = true)

/-- Nothing has happened before the start. -/
def Impl.Unstarted (s : Impl L) : Prop :=
  (s.mail.observation.state = .constructed ∨ s.mail.observation.state = .stopped) ∧ s.mail.snapshotRequest = none ∧
  s.mail.resetRequest = none ∧ s.mail.admissions = [] ∧ s.mail.lastAdmittedTicket = 0 ∧ s.mail.stopRequested = false ∧
  s.ownerExited = false ∧ s.mail.ingress = [] ∧ fullSinceReset s.ticketLog = false

/-- What the lifecycle flags stand for. -/
structure Lifecycle (s : Impl L) : Prop where
  unstarted : s.mail.started = false → s.Unstarted
  stopped : s.mail.stopped = true → s.mail.observation.state = .stopped ∧ (s.mail.started = false ∨ s.ownerExited = true)
  stopRequested : s.mail.stopRequested = true → s.mail.publicationShutdownRequested = true
  stateStopped : s.mail.observation.state = .stopped → s.mail.stopRequested = true ∨ s.mail.stopped = true
  exited : s.ownerExited = true → s.Left

/-- While the runtime runs, whatever leaves the flags and the state alone keeps what they stand for. -/
theorem Lifecycle.running {s t : Impl L} (h : Lifecycle s) (hstarted : s.mail.started = true) (hrequested : ¬s.mail.stopRequested = true)
    (hs : t.mail.started = s.mail.started) (hd : t.mail.stopped = s.mail.stopped) (hr : t.mail.stopRequested = s.mail.stopRequested)
    (hp : t.mail.publicationShutdownRequested = s.mail.publicationShutdownRequested)
    (ho : t.mail.observation.state = s.mail.observation.state) (he : t.ownerExited = s.ownerExited) : Lifecycle t where
  unstarted hn := by rw [hs, hstarted] at hn; cases hn
  stopped := by rw [hs, hd, ho, he]; exact h.stopped
  stopRequested := by rw [hr, hp]; exact h.stopRequested
  stateStopped := by rw [ho, hr, hd]; exact h.stateStopped
  exited hx := absurd (h.exited (he ▸ hx)).1 hrequested

/-- The mailbox invariant. -/
structure MailboxInv (setup : Setup L) (s : Impl L) : Prop where
  tickets : TicketFacts s.mail.ingress s.mail.lastAdmittedTicket s.mail.processedTicket s.ticketLog
  requests : RequestFacts s.mail.admissions s.mail.admissionRequests s.mail.snapshotRequest s.mail.resetRequest
    s.mail.pendingAdmissionCount s.mail.observation.pendingAdmissionCount (Known s.mail.lastAdmittedTicket s.ticketLog)
  states : StateFacts s.mail.observation.state s.mail.observation.projectionStatus s.mail.observation.faultReason
    s.mail.accepting s.mail.ingress s.ticketLog
  occupancy : Occupancy setup.limits s.mail.ingress.length s.book.bootstrap.length s.mail.observation.ingressOccupancy
    s.mail.observation.bootstrapOccupancy
  observers : ObserverFacts s.callers.observers s.callers.nextObserver s.mail.lastAdmittedTicket s.ticketLog
  lifecycle : Lifecycle s
  returnedSnapshots : ∀ r ∈ s.callers.returnedSnapshots, r.result.isSome = true
  returnedResets : ∀ r ∈ s.callers.returnedResets, r.result.isSome = true
  idle : IdleFacts s.mail.observation.state s.book.bootstrap s.ticketLog

/-- What the owner knows between two sections: the tickets with the item it has in hand, the requests with the one it serves, and
that an overflow that has not become a fault yet is still flagged, unless it is the flag it is acting on. -/
structure OwnerHas (item service : Option Nat) (flagged : Bool) (s : Impl L) : Prop where
  running : s.ownerExited = false
  tickets : TicketsInHand item s.mail.ingress s.mail.processedTicket s.ticketLog
  waiting : Waiting service s.mail.admissions s.mail.admissionRequests
  full : flagged = true → fullSinceReset s.ticketLog = true → s.mail.ingress ≠ [] → s.mail.pendingFault ≠ none

namespace MailboxInv

variable {setup : Setup L} {s : Impl L}

/-- A runtime that has not been started has accepted nothing. -/
theorem not_accepted_of_unstarted (h : MailboxInv setup s) (hs : s.mail.started = false) (hr : InRange s.ticketLog) (t : Nat) :
    .accepted t ∉ s.ticketLog := fun hm => by
  have hlast := (h.lifecycle.unstarted hs).2.2.2.2.1
  have hgiven := ((h.tickets hr).given t).mp (Or.inl hm)
  omega

/-- A stopped runtime has dealt with everything it has accepted. -/
theorem done_of_stopped (h : MailboxInv setup s) (hs : s.mail.stopped = true) (hr : InRange s.ticketLog) {t : Nat}
    (ht : .accepted t ∈ s.ticketLog) : Done t s.ticketLog := by
  rcases (h.lifecycle.stopped hs).2 with hst | hex
  · exact absurd ht (h.not_accepted_of_unstarted hst hr t)
  · exact ((h.lifecycle.exited hex).2.2.2.2.1 hr t ht).1

/-! ## The callers keep it -/

/-- What a caller's section does to the invariant and to whatever the owner knows. -/
def Kept (setup : Setup L) (s t : Impl L) : Prop :=
  MailboxInv setup t ∧ ∀ item service flagged, OwnerHas item service flagged s → OwnerHas item service flagged t

/-- A section that changes nothing. -/
theorem kept_refl (h : MailboxInv setup s) : Kept setup s s := ⟨h, fun _ _ _ ho => ho⟩

/-- Starting keeps the invariant. -/
theorem kept_start (h : MailboxInv setup s) : Kept setup s s.start.2 := by
  unfold Impl.start
  split
  · exact kept_refl h
  · rename_i hstopped
    split
    · exact kept_refl h
    · rename_i hstarted
      obtain ⟨hst, -, -, -, -, -, hex, -, hfull⟩ := h.lifecycle.unstarted (by simpa using hstarted)
      refine ⟨⟨h.tickets, h.requests, ?_, h.occupancy, h.observers, ?_, h.returnedSnapshots, h.returnedResets, h.idle⟩, ?_⟩
      · exact
          { h.states with
            shut := fun hs => by rcases hst with hst | hst <;> rcases hs with hs | hs <;> simp_all
            full := fun hf => by have : fullSinceReset s.ticketLog = true := hf; simp_all }
      · exact
          { unstarted := fun hs => by cases hs
            stopped := fun hs => absurd hs hstopped
            stopRequested := h.lifecycle.stopRequested
            stateStopped := h.lifecycle.stateStopped
            exited := fun hs => by have : s.ownerExited = true := hs; simp_all }
      · exact fun item service flagged ho => ⟨ho.running, ho.tickets, ho.waiting, ho.full⟩

/-- The state a stop publishes. -/
theorem states_of_stop {state : RuntimeState} {status : ProjectionStatus} {fault : Option FaultReason} {accepting : Bool}
    {ingress : List (IngressItem L)} {log : List TicketEvent} (h : StateFacts state status fault accepting ingress log)
    (hs : state ≠ .stopped) :
    StateFacts (if state ≠ .faulted ∧ state ≠ .needsResync then .stopping else state) status fault false ingress log := by
  split
  · rename_i hn
    exact
      { live := fun he => by cases he
        faulted := fun he => by cases he
        fault := fun hf => ((h.fault hf).elim (fun he => absurd he hn.1) (fun he => absurd he hs))
        needsResync := fun he => by cases he
        shut := fun he => by rcases he with he | he <;> cases he
        full := fun _ => ⟨rfl, Or.inr (Or.inr (Or.inr (Or.inl rfl)))⟩ }
  · exact { h with shut := fun he => ⟨rfl, (h.shut he).2⟩, full := fun hf => ⟨rfl, (h.full hf).2⟩ }

/-- The first section of a stop keeps the invariant. -/
theorem kept_requestStop (h : MailboxInv setup s) (hg : s.mail.stopRequested = false ∨ s.mail.stopped = true) :
    Kept setup s s.requestStop := by
  unfold Impl.requestStop
  split
  · exact kept_refl h
  · rename_i hstopped
    have hreq : s.mail.stopRequested = false := hg.resolve_right hstopped
    have hopen : s.ownerExited = false := by
      cases hex : s.ownerExited with
      | false => rfl
      | true => have := (h.lifecycle.exited hex).1; simp_all
    split
    · rename_i hstarted
      have hun := h.lifecycle.unstarted (by simpa using hstarted)
      refine ⟨⟨h.tickets, h.requests, ?_, h.occupancy, h.observers, ?_, h.returnedSnapshots, h.returnedResets,
        fun _ _ _ hs => (by rcases hs with hs | hs <;> cases hs)⟩, ?_⟩
      · exact { h.states.stopped with
          shut := fun hs => by rcases hs with hs | hs <;> cases hs
          full := fun hf => ⟨rfl, (h.states.stopped.full hf).2⟩ }
      · exact
          { unstarted := fun _ => ⟨Or.inr rfl, hun.2⟩
            stopped := fun _ => ⟨rfl, Or.inl (by simpa using hstarted)⟩
            stopRequested := h.lifecycle.stopRequested
            stateStopped := fun _ => Or.inr rfl
            exited := fun hs => by have : s.ownerExited = true := hs; simp_all }
      · exact fun item service flagged ho => ⟨ho.running, ho.tickets, ho.waiting, ho.full⟩
    · rename_i hstarted
      refine ⟨⟨h.tickets, h.requests, ?_, h.occupancy, h.observers, ?_, h.returnedSnapshots, h.returnedResets, ?_⟩, ?_⟩
      · refine states_of_stop h.states (fun hs => ?_)
        rcases h.lifecycle.stateStopped hs with hr | hs <;> simp_all
      · exact
          { unstarted := fun hs => by have : s.mail.started = false := hs; simp_all
            stopped := fun hs => absurd hs hstopped
            stopRequested := fun _ => rfl
            stateStopped := fun _ => Or.inl rfl
            exited := fun hs => by have : s.ownerExited = true := hs; simp_all }
      · intro hr hb hf hs
        refine h.idle hr hb hf ?_
        dsimp only at hs
        split at hs
        · rcases hs with hs | hs <;> cases hs
        · exact hs
      · exact fun item service flagged ho => ⟨ho.running, ho.tickets, ho.waiting, ho.full⟩

/-- A ticket is given out only while no refusal has shut the gate. -/
theorem not_full_of_accepting (h : MailboxInv setup s) (ha : s.mail.accepting = true) : fullSinceReset s.ticketLog = false := by
  cases hf : fullSinceReset s.ticketLog with
  | false => rfl
  | true => have := (h.states.full hf).1; simp_all

/-- A barrier that was known is known when the next ticket has been given out. -/
theorem known_next (h : MailboxInv setup s) {e : TicketEvent} (he : counted (e :: s.ticketLog) = counted s.ticketLog + 1)
    (target : Nat) (hk : Known s.mail.lastAdmittedTicket s.ticketLog target) : Known s.nextTicket (e :: s.ticketLog) target :=
  fun hr => by
    have hnext : s.nextTicket = s.mail.lastAdmittedTicket + 1 :=
      succ_mod_of_inRange (h.tickets hr.past).total (he ▸ hr)
    rw [hnext]
    exact Nat.le_succ_of_le (hk hr.past)

/-- A submission keeps the invariant, also when it throws. -/
theorem kept_submit (h : MailboxInv setup s) (input : RuntimeInput L) (throws : Bool) :
    Kept setup s (s.submit setup input throws).2 := by
  unfold Impl.submit
  split_ifs with h1 h2 h3 h4 h5 h6
  iterate 4 exact kept_refl h
  all_goals
    have hstarted : s.mail.started = true := by simpa using h2
  · -- the refusal that turns into a fault
    refine ⟨⟨?_, h.requests, ?_, h.occupancy, ?_, ?_, h.returnedSnapshots, h.returnedResets, h.idle.cons (by simp) rfl⟩, ?_⟩
    · exact h.tickets.log_cons (fun _ => trivial) rfl (by simp) (by simp) (by simp) (by simp) (by simp)
    · have hne : s.mail.ingress ≠ [] := by
        have := setup.limits.ingress_pos
        intro he
        rw [he, List.length_nil] at h5
        omega
      exact { h.states with
        shut := fun hs => ⟨rfl, (h.states.shut hs).2⟩
        full := fun _ => ⟨rfl, Or.inl hne⟩ }
    · exact h.observers.log_cons (fun _ => trivial) (fun id hs => hs)
    · exact h.lifecycle.running hstarted h3 rfl rfl rfl rfl rfl rfl
    · exact fun item service flagged ho =>
        ⟨ho.running, ho.tickets.log_cons (by simp) (by simp), ho.waiting, fun _ _ _ => by simp⟩
  all_goals
    have hacc : s.mail.accepting = true := by simpa using h4
    have hnf := h.not_full_of_accepting hacc
  · -- a ticket that is lost
    refine ⟨⟨h.tickets.lose, h.requests.mono (h.known_next rfl), ?_, h.occupancy,
      h.observers.count hnf _ trivial (fun _ => rfl), ?_, h.returnedSnapshots, h.returnedResets, h.idle.cons (by simp) rfl⟩, ?_⟩
    · exact h.states.log_cons (fun hs => hs) rfl
    · exact h.lifecycle.running hstarted h3 rfl rfl rfl rfl rfl rfl
    · exact fun item service flagged ho =>
        ⟨ho.running, ho.tickets.log_cons (by simp) (by simp), ho.waiting, ho.full⟩
  · -- the next ticket
    refine ⟨⟨h.tickets.accept input, h.requests.mono (h.known_next rfl), ?_, ?_,
      h.observers.count hnf _ trivial (fun _ => rfl), ?_, h.returnedSnapshots, h.returnedResets, h.idle.cons (by simp) rfl⟩, ?_⟩
    · exact { h.states with
        shut := fun hs => by have := (h.states.shut hs).1; simp_all
        full := fun hf => by have : fullSinceReset s.ticketLog = true := hf; simp_all }
    · have hle := h.occupancy.ingress
      have hlt : s.mail.ingress.length + 1 ≤ setup.limits.ingressCapacity := by omega
      exact ⟨by simpa using hlt, h.occupancy.bootstrap, hlt, h.occupancy.observedBootstrap⟩
    · exact h.lifecycle.running hstarted h3 rfl rfl rfl rfl rfl rfl
    · exact fun item service flagged ho => ⟨ho.running, .accept h.tickets ho.tickets input, ho.waiting,
        fun _ hf => by have : fullSinceReset s.ticketLog = true := hf; simp_all⟩

/-- A later history in which nothing more is accepted leaves the owner's last state as it is. -/
theorem left_cons (h : s.Left) (e : TicketEvent) (he : ∀ t, e ≠ .accepted t) :
    Impl.Left { s with ticketLog := e :: s.ticketLog } := by
  obtain ⟨h1, h2, h3, h4, hd, h5⟩ := h
  refine ⟨h1, h2, h3, h4, fun hr t ht => ?_, h5⟩
  obtain ⟨hdone, hle⟩ := hd hr.past t ((List.mem_cons.mp ht).resolve_left (he t).symm)
  exact ⟨hdone.cons e, hle⟩

/-- An observation is handed out to a call that keeps its promises. -/
theorem kept_returnObservation (h : MailboxInv setup s) {id target : Nat}
    (ha : InRange s.ticketLog → (TicketEvent.observed id target s.mail.observation.state).Allowed s.ticketLog)
    (hf : InRange s.ticketLog → (TicketEvent.observed id target s.mail.observation.state).Fresh s.ticketLog) :
    Kept setup s (s.returnObservation id target) := by
  refine ⟨⟨?_, h.requests, ?_, ?_, ?_, ?_, h.returnedSnapshots, h.returnedResets, h.idle.cons (by simp) rfl⟩, ?_⟩
  · exact h.tickets.log_cons ha rfl (by simp) (by simp) (by simp) (by simp) (by simp)
  · exact h.states.log_cons (fun hs => hs) rfl
  · exact ⟨h.occupancy.ingress, h.occupancy.bootstrap, h.occupancy.ingress, h.occupancy.observedBootstrap⟩
  · exact h.observers.log_cons hf (fun _ hs => hs)
  · exact ⟨h.lifecycle.unstarted, h.lifecycle.stopped, h.lifecycle.stopRequested, h.lifecycle.stateStopped,
      fun hs => left_cons (h.lifecycle.exited hs) _ (by simp)⟩
  · exact fun item service flagged ho => ⟨ho.running, ho.tickets.log_cons (by simp) (by simp), ho.waiting, ho.full⟩

/-- A runtime that was never started, or has been stopped, has nothing to wait for. -/
theorem kept_returnObservation_of_dead (h : MailboxInv setup s) (hs : s.mail.started = false ∨ s.mail.stopped = true)
    (id target : Nat) : Kept setup s (s.returnObservation id target) := by
  refine h.kept_returnObservation (fun hr t _ ha => ?_) fun _ _ hl => ?_
  · rcases hs with hs | hs
    · exact absurd ha (h.not_accepted_of_unstarted hs hr t)
    · exact Or.inl (h.done_of_stopped hs hr ha)
  · rcases hs with hs | hs
    · rcases (h.lifecycle.unstarted hs).1 with hc | hc <;> rw [hl] at hc <;> cases hc
    · have := (h.lifecycle.stopped hs).1; rw [hl] at this; cases this

/-- A call of observe keeps the invariant. -/
theorem kept_observe (h : MailboxInv setup s) : Kept setup s s.observe := by
  unfold Impl.observe
  have hlog : TicketFacts s.mail.ingress s.mail.lastAdmittedTicket s.mail.processedTicket
      (.observeStarted s.callers.nextObserver s.mail.lastAdmittedTicket :: s.ticketLog) :=
    h.tickets.log_cons (fun _ => trivial) rfl (by simp) (by simp) (by simp) (by simp) (by simp)
  have hcycle : s.ownerExited = true → Impl.Left { s with
      ticketLog := .observeStarted s.callers.nextObserver s.mail.lastAdmittedTicket :: s.ticketLog } :=
    fun hs => left_cons (h.lifecycle.exited hs) _ (by simp)
  have hstart := h.observers.start
  split
  · exact ⟨⟨hlog, h.requests, h.states.log_cons (fun hs => hs) rfl, h.occupancy, hstart,
      ⟨h.lifecycle.unstarted, h.lifecycle.stopped, h.lifecycle.stopRequested, h.lifecycle.stateStopped, hcycle⟩,
      h.returnedSnapshots, h.returnedResets, h.idle.cons (by simp) rfl⟩,
      fun item service flagged ho => ⟨ho.running, ho.tickets.log_cons (by simp) (by simp), ho.waiting, ho.full⟩⟩
  · rename_i hidle
    have hdead : s.mail.started = false ∨ s.mail.stopped = true := by
      cases hst : s.mail.started with
      | false => exact Or.inl rfl
      | true => exact Or.inr (by simpa [hst] using hidle)
    have hentered : MailboxInv setup { s with
        callers.nextObserver := s.callers.nextObserver + 1
        ticketLog := .observeStarted s.callers.nextObserver s.mail.lastAdmittedTicket :: s.ticketLog } :=
      ⟨hlog, h.requests, h.states.log_cons (fun hs => hs) rfl, h.occupancy,
        ⟨fun o ho => hstart.known o (List.mem_append_left _ ho), fun o ho => hstart.full o (List.mem_append_left _ ho),
          hstart.fresh⟩,
        ⟨h.lifecycle.unstarted, h.lifecycle.stopped, h.lifecycle.stopRequested, h.lifecycle.stateStopped, hcycle⟩,
        h.returnedSnapshots, h.returnedResets, h.idle.cons (by simp) rfl⟩
    have hkept := hentered.kept_returnObservation_of_dead hdead s.callers.nextObserver s.mail.lastAdmittedTicket
    exact ⟨hkept.1, fun item service flagged ho => hkept.2 item service flagged
      ⟨ho.running, ho.tickets.log_cons (by simp) (by simp), ho.waiting, ho.full⟩⟩

/-- An observe call comes back: behind an overflow it finds its barrier passed only once the state is dead. -/
theorem kept_observeReturns (h : MailboxInv setup s) {i : Nat} {call : ObserveCall}
    (hc : s.callers.observers[i]? = some call) (hr : s.observeReady call = true) :
    Kept setup s ((s.returnObservation call.id call.target).forgetObserver i) := by
  have hmem : call ∈ s.callers.observers := List.mem_of_getElem? hc
  have hkept : Kept setup s (s.returnObservation call.id call.target) := by
    simp only [Impl.observeReady, Bool.or_eq_true, decide_eq_true_eq] at hr
    rcases hr with hle | hs
    · refine h.kept_returnObservation (fun hrange t ht ha => (h.tickets hrange).barrier hle t ht ha) fun hrange hs hl => ?_
      have hnil : s.mail.ingress = [] := (h.tickets hrange).ingress_eq_nil (h.observers.full call hmem hs ▸ hle)
      rcases (h.states.full (fullSinceReset_of_started hs)).2 with hi | hd
      · exact hi hnil
      · rcases hd with hd | hd | hd | hd <;> rw [hl] at hd <;> cases hd
    · exact h.kept_returnObservation_of_dead (Or.inr hs) call.id call.target
  obtain ⟨h1, h2, h3, h4, h5, h6, h7, h8, h9⟩ := hkept.1
  exact ⟨⟨h1, h2, h3, h4, h5.forget i,
    ⟨h6.unstarted, h6.stopped, h6.stopRequested, h6.stateStopped, h6.exited⟩, h7, h8, h9⟩,
    fun item service flagged ho =>
      let ho' := hkept.2 item service flagged ho
      ⟨ho'.running, ho'.tickets, ho'.waiting, ho'.full⟩⟩

/-- An observer that goes away keeps the invariant. -/
theorem kept_forgetObserver (h : MailboxInv setup s) (i : Nat) : Kept setup s (s.forgetObserver i) :=
  ⟨⟨h.tickets, h.requests, h.states, h.occupancy, h.observers.forget i,
    ⟨h.lifecycle.unstarted, h.lifecycle.stopped, h.lifecycle.stopRequested, h.lifecycle.stateStopped, h.lifecycle.exited⟩,
    h.returnedSnapshots, h.returnedResets, h.idle⟩, fun _ _ _ ho => ⟨ho.running, ho.tickets, ho.waiting, ho.full⟩⟩

/-- Publishing the tickets keeps the invariant. -/
theorem kept_publishTickets (h : MailboxInv setup s) : Kept setup s s.publishTicketsLocked :=
  ⟨⟨h.tickets, h.requests, h.states, h.occupancy, h.observers,
    ⟨h.lifecycle.unstarted, h.lifecycle.stopped, h.lifecycle.stopRequested, h.lifecycle.stateStopped, h.lifecycle.exited⟩,
    h.returnedSnapshots, h.returnedResets, h.idle⟩, fun _ _ _ ho => ⟨ho.running, ho.tickets, ho.waiting, ho.full⟩⟩

/-- A runtime that has been left or never started takes no more requests. -/
theorem open_of_started (h : MailboxInv setup s) (hr : ¬s.mail.stopRequested = true) : s.ownerExited = false := by
  cases hex : s.ownerExited with
  | false => rfl
  | true => exact absurd (h.lifecycle.exited hex).1 hr

/-- A new request with a barrier that lies within the admitted tickets. -/
theorem kept_newRequests (h : MailboxInv setup s) (hs : s.mail.started = true) (hr : ¬s.mail.stopRequested = true)
    {admissions : List AdmissionRequest} {queue : List Nat} {snapshotRequest : Option (SnapshotRequest L)}
    {resetRequest : Option ResetRequest} {pending observed : Nat}
    (hreq : RequestFacts admissions queue snapshotRequest resetRequest pending observed
      (Known s.mail.lastAdmittedTicket s.ticketLog))
    (hwait : ∀ service, Waiting service s.mail.admissions s.mail.admissionRequests → Waiting service admissions queue) :
    Kept setup s { s with
      mail.admissions := admissions
      mail.admissionRequests := queue
      mail.snapshotRequest := snapshotRequest
      mail.resetRequest := resetRequest
      mail.pendingAdmissionCount := pending
      mail.observation.pendingAdmissionCount := observed } := by
  refine ⟨⟨h.tickets, hreq, h.states, h.occupancy, h.observers, ?_, h.returnedSnapshots, h.returnedResets, h.idle⟩,
    fun item service flagged ho => ⟨ho.running, ho.tickets, hwait service ho.waiting, ho.full⟩⟩
  exact
    { unstarted := fun hu => by have : s.mail.started = false := hu; simp_all
      stopped := h.lifecycle.stopped
      stopRequested := h.lifecycle.stopRequested
      stateStopped := h.lifecycle.stateStopped
      exited := fun hex => by have : s.ownerExited = true := hex; simp_all [h.open_of_started hr] }

/-- A call for a reset keeps the invariant. -/
theorem kept_requestReset (h : MailboxInv setup s) (kind : ResetKind) : Kept setup s (s.requestReset kind).2 := by
  have hreq := h.requests
  unfold Impl.requestReset
  split_ifs with h1 h2 h3 h4 h5
  iterate 5 exact kept_refl h
  exact h.kept_newRequests (by simpa using h2) h3
    ⟨hreq.queued, hreq.admissionTarget, hreq.snapshotTarget, fun r hr => by cases hr; exact fun _ => Nat.le_refl _,
      hreq.counted, hreq.observed⟩ (fun _ hw => hw)

/-- A call for a snapshot keeps the invariant. -/
theorem kept_captureSnapshot (h : MailboxInv setup s) : Kept setup s s.captureSnapshot.2 := by
  have hreq := h.requests
  unfold Impl.captureSnapshot
  split_ifs with h1 h2 h3 h4 h5
  iterate 5 exact kept_refl h
  exact h.kept_newRequests (by simpa using h2) h3
    ⟨hreq.queued, hreq.admissionTarget, fun r hr => by cases hr; exact fun _ => Nat.le_refl _, hreq.resetTarget,
      hreq.counted, hreq.observed⟩ (fun _ hw => hw)

/-- A call for a session keeps the invariant. -/
theorem kept_admit (h : MailboxInv setup s) (subscription : ValidatedOrderBookSubscription) (throws : Bool) :
    Kept setup s (s.admitOrderBookSubscription setup subscription throws).2 := by
  unfold Impl.admitOrderBookSubscription
  split_ifs with h1 h2 h3 h4 h5 h6
  iterate 6 exact kept_refl h
  exact h.kept_newRequests (by simpa using h2) (fun hr => h3 (by simp [hr]))
    (h.requests.push _ (fun _ => Nat.le_refl _) rfl) (fun _ hw => hw.push _)

/-- A request that leaves its slot has its result: a stopped runtime has answered them all. -/
theorem kept_returnReset (h : MailboxInv setup s) (hr : s.resetReturns = true) : Kept setup s s.returnReset := by
  unfold Impl.resetReturns at hr
  unfold Impl.returnReset
  split
  · rename_i request hslot
    rw [hslot] at hr
    have hres : request.result.isSome = true := by
      simp only [Bool.or_eq_true] at hr
      rcases hr with hr | hs
      · exact hr
      · rcases (h.lifecycle.stopped hs).2 with hst | hex
        · have := (h.lifecycle.unstarted hst).2.2.1; simp_all
        · exact (h.lifecycle.exited hex).2.2.2.2.2.2.2 request hslot
    refine ⟨⟨h.tickets, ?_, h.states, h.occupancy, h.observers, ?_, h.returnedSnapshots, ?_, h.idle⟩,
      fun _ _ _ ho => ⟨ho.running, ho.tickets, ho.waiting, ho.full⟩⟩
    · exact { h.requests with resetTarget := fun r hr => by cases hr }
    · refine ⟨fun hs => ?_, h.lifecycle.stopped, h.lifecycle.stopRequested, h.lifecycle.stateStopped, fun hs => ?_⟩
      · obtain ⟨h1, h2, -, h4⟩ := h.lifecycle.unstarted hs
        exact ⟨h1, h2, rfl, h4⟩
      · obtain ⟨h1, h2, h3, h4, h5, h6, h7, -⟩ := h.lifecycle.exited hs
        exact ⟨h1, h2, h3, h4, h5, h6, h7, fun r hr => by cases hr⟩
    · intro r hr
      rcases List.mem_cons.mp hr with he | hr
      · exact he ▸ hres
      · exact h.returnedResets r hr
  · exact kept_refl h

/-- A caller that comes back with its snapshot keeps the invariant. -/
theorem kept_returnSnapshot (h : MailboxInv setup s) (hr : s.snapshotReturns = true) :
    Kept setup s s.returnSnapshot := by
  unfold Impl.snapshotReturns at hr
  unfold Impl.returnSnapshot
  split
  · rename_i request hslot
    rw [hslot] at hr
    have hres : request.result.isSome = true := by
      simp only [Bool.or_eq_true] at hr
      rcases hr with hr | hs
      · exact hr
      · rcases (h.lifecycle.stopped hs).2 with hst | hex
        · have := (h.lifecycle.unstarted hst).2.1; simp_all
        · exact (h.lifecycle.exited hex).2.2.2.2.2.2.1 request hslot
    refine ⟨⟨h.tickets, ?_, h.states, h.occupancy, h.observers, ?_, ?_, h.returnedResets, h.idle⟩,
      fun _ _ _ ho => ⟨ho.running, ho.tickets, ho.waiting, ho.full⟩⟩
    · exact { h.requests with snapshotTarget := fun r hr => by cases hr }
    · refine ⟨fun hs => ?_, h.lifecycle.stopped, h.lifecycle.stopRequested, h.lifecycle.stateStopped, fun hs => ?_⟩
      · obtain ⟨h1, -, h3⟩ := h.lifecycle.unstarted hs
        exact ⟨h1, rfl, h3⟩
      · obtain ⟨h1, h2, h3, h4, h5, h6, -, h8⟩ := h.lifecycle.exited hs
        exact ⟨h1, h2, h3, h4, h5, h6, fun r hr => (by cases hr), h8⟩
    · intro r hr
      rcases List.mem_cons.mp hr with he | hr
      · exact he ▸ hres
      · exact h.returnedSnapshots r hr
  · exact kept_refl h

/-- The publication flags and the channels are no part of the invariant, but for the shutdown flags themselves. -/
theorem kept_publication (h : MailboxInv setup s) {t : Impl L} (hb : t.book = s.book) (hl : t.ticketLog = s.ticketLog)
    (hc : t.callers = s.callers) (hx : t.ownerExited = s.ownerExited)
    (hm : ∃ openGate openObserved requested completed shutdown removal resident,
      (s.mail.publicationShutdownRequested = true → requested = true) ∧
      (s.mail.publicationShutdownCompleted = true → completed = true) ∧
      t.mail = { s.mail with
        publicationAdmissionOpen := openGate
        observation.publicationAdmissionOpen := openObserved
        publicationShutdownRequested := requested
        publicationShutdownCompleted := completed
        observation.publicationShutdown := shutdown
        publicationRemovalPending := removal
        observation.residentSubscriptionCount := resident }) : Kept setup s t := by
  obtain ⟨_, _, _, _, _, _, _, hreq, hcomp, hm⟩ := hm
  cases t
  simp only at hb hl hc hx hm
  subst hb hl hc hx hm
  refine ⟨⟨h.tickets, h.requests, h.states, h.occupancy, h.observers, ?_, h.returnedSnapshots, h.returnedResets, h.idle⟩,
    fun _ _ _ ho => ⟨ho.running, ho.tickets, ho.waiting, ho.full⟩⟩
  refine ⟨h.lifecycle.unstarted, h.lifecycle.stopped, fun hs => hreq (h.lifecycle.stopRequested hs),
    h.lifecycle.stateStopped, fun hs => ?_⟩
  obtain ⟨h1, h2, h3⟩ := h.lifecycle.exited hs
  exact ⟨h1, hcomp h2, h3⟩

/-- A call for the publication's shutdown keeps the invariant. -/
theorem kept_shutdownPublication (h : MailboxInv setup s) : Kept setup s s.shutdownPublication.2 := by
  unfold Impl.shutdownPublication
  dsimp only
  split_ifs with h1 h2 h3 <;>
    exact h.kept_publication rfl rfl rfl rfl ⟨_, _, _, _, _, _, _, by first | exact id | exact fun _ => rfl,
      by first | exact id | exact fun _ => rfl, rfl⟩

/-- The last section of `stop` finds every request answered. -/
theorem kept_finishStop (h : MailboxInv setup s) (hx : s.ownerExited = true) : Kept setup s s.finishStop := by
  have hleft := h.lifecycle.exited hx
  obtain ⟨h1, h2, h3, h4, h5, h6, h7, h8⟩ := hleft
  have hwait := Waiting.of_answered h6 s.mail.admissionRequests
  have hsnap : Impl.answerSnapshotLocked .stopped
      { s with mail.stopped := true, mail.observation.state := .stopped, mail.observation.ownerJoined := true } =
      { s with mail.stopped := true, mail.observation.state := .stopped, mail.observation.ownerJoined := true } := by
    unfold Impl.answerSnapshotLocked
    split
    · rename_i target hslot
      have := h7 _ hslot
      cases this
    · rfl
  unfold Impl.finishStop
  dsimp only
  rw [hsnap]
  refine ⟨⟨h.tickets, h.requests.all hwait _, h.states.stopped, h.occupancy, h.observers, ?_, h.returnedSnapshots,
    h.returnedResets, fun _ _ _ hs => (by rcases hs with hs | hs <;> cases hs)⟩, fun item service flagged ho => ?_⟩
  · exact
      { unstarted := fun hs => by have := (h.lifecycle.unstarted hs).2.2.2.2.2.2.1; simp_all
        stopped := fun _ => ⟨rfl, Or.inr hx⟩
        stopRequested := h.lifecycle.stopRequested
        stateStopped := fun _ => Or.inr rfl
        exited := fun _ => ⟨h1, h2, rfl, h4, h5, hwait.answerAll _, h7, h8⟩ }
  · have := ho.running
    simp_all

end MailboxInv

/-- No caller breaks the invariant, and none takes away what the owner knows. -/
theorem ClientStep.kept {setup : Setup L} {s t : Impl L} (h : MailboxInv setup s) (hs : ClientStep setup s t) :
    MailboxInv.Kept setup s t := by
  cases hs with
  | start => exact h.kept_start
  | requestStop hg => exact h.kept_requestStop hg
  | finishStop _ _ hx => exact h.kept_finishStop hx
  | submit input throws => exact h.kept_submit input throws
  | observe => exact h.kept_observe
  | observeReturns hc hr => exact h.kept_observeReturns hc hr
  | observeTimesOut i => exact h.kept_forgetObserver i
  | waitReturns _ => exact h.kept_publishTickets
  | requestReset kind => exact h.kept_requestReset kind
  | returnReset hr => exact h.kept_returnReset hr
  | captureSnapshot => exact h.kept_captureSnapshot
  | returnSnapshot hr => exact h.kept_returnSnapshot hr
  | admitSubscription subscription throws => exact h.kept_admit subscription throws
  | shutdownPublication => exact h.kept_shutdownPublication
  | notifySubscriberClosed | closePublicationAdmission | peek _ | acknowledge _ _ | closeFromWriter _ =>
    exact h.kept_publication rfl rfl rfl rfl ⟨_, _, _, _, _, _, _, id, id, rfl⟩

end MarketDataGateway.MarketRuntime
