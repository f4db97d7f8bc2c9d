import MarketDataGateway.Runtime.Mailbox

/-!
# The owner keeps the mailbox invariant

Each piece of the owner's code, as a triple over the mailbox invariant: what the owner knows when it starts, and what it knows when it
is done. The pieces that only move channels and subscribers change nothing the invariant speaks of; `quiet_triple` covers them.
-/

namespace MarketDataGateway.MarketRuntime

open OrderBook Threads

variable {L : ProjectionLibrary}

/-- What the owner sees of its book, the published status and the published state, and whether a reset has thrown and left inputs
behind. -/
abbrev View (L : ProjectionLibrary) := Book L → ProjectionStatus → RuntimeState → Bool → Prop

/-- The only thing the callers do to the published state of a running owner is to turn a state that is neither `Faulted` nor
`NeedsResync` into `Stopping`. -/
def View.StopClosed (P : View L) : Prop :=
  ∀ b p st broken, st ≠ .faulted → st ≠ .needsResync → P b p st broken → P b p .stopping broken

/-- The owner's assertion at a point of its code. -/
def At (item service : Option Nat) (flagged : Bool) (P : View L) (s : Impl L) : Prop :=
  OwnerHas item service flagged s ∧ s.mail.started = true ∧
    P s.book s.mail.observation.projectionStatus s.mail.observation.state (brokenReset s.ticketLog)

/-- The environment of the owner. -/
def mailboxRely (setup : Setup L) : Rely (Impl L) where
  env := ClientStep setup
  inv := MailboxInv setup
  inv_env := fun _ _ h hs => (hs.kept h).1

variable {setup : Setup L}

/-- What a caller's section does to the fields the owner looks at without owning the mutex. -/
theorem ClientStep.calm {s t : Impl L} (h : MailboxInv setup s) (hs : ClientStep setup s t) (hst : s.mail.started = true)
    (hx : s.ownerExited = false) :
    t.mail.started = true ∧ t.book = s.book ∧ brokenReset t.ticketLog = brokenReset s.ticketLog ∧
      t.mail.observation.projectionStatus = s.mail.observation.projectionStatus ∧
      (t.mail.observation.state = s.mail.observation.state ∨
        (s.mail.observation.state ≠ .faulted ∧ s.mail.observation.state ≠ .needsResync ∧
          t.mail.observation.state = .stopping)) := by
  have hrun : s.mail.stopped = false := by
    cases hstop : s.mail.stopped with
    | false => rfl
    | true => rcases (h.lifecycle.stopped hstop).2 with h' | h' <;> simp_all
  cases hs with
  | start => simp [Impl.start, hst, hrun]
  | requestStop =>
    simp only [Impl.requestStop, hrun, hst]
    refine ⟨rfl, rfl, rfl, rfl, ?_⟩
    by_cases hc : s.mail.observation.state ≠ .faulted ∧ s.mail.observation.state ≠ .needsResync
    · exact Or.inr ⟨hc.1, hc.2, if_pos hc⟩
    · exact Or.inl (if_neg hc)
  | finishStop _ _ hj => rw [hx] at hj; cases hj
  | submit input throws => unfold Impl.submit; split_ifs <;> exact ⟨hst, rfl, rfl, rfl, Or.inl rfl⟩
  | observe => unfold Impl.observe; split <;> exact ⟨hst, rfl, rfl, rfl, Or.inl rfl⟩
  | requestReset kind => unfold Impl.requestReset; split_ifs <;> exact ⟨hst, rfl, rfl, rfl, Or.inl rfl⟩
  | returnReset _ => unfold Impl.returnReset; split <;> exact ⟨hst, rfl, rfl, rfl, Or.inl rfl⟩
  | captureSnapshot => unfold Impl.captureSnapshot; split_ifs <;> exact ⟨hst, rfl, rfl, rfl, Or.inl rfl⟩
  | returnSnapshot _ => unfold Impl.returnSnapshot; split <;> exact ⟨hst, rfl, rfl, rfl, Or.inl rfl⟩
  | admitSubscription subscription throws =>
    unfold Impl.admitOrderBookSubscription; split_ifs <;> exact ⟨hst, rfl, rfl, rfl, Or.inl rfl⟩
  | shutdownPublication =>
    unfold Impl.shutdownPublication; dsimp only; split_ifs <;> exact ⟨hst, rfl, rfl, rfl, Or.inl rfl⟩
  | observeReturns _ _ | observeTimesOut _ | waitReturns _ | notifySubscriberClosed | closePublicationAdmission | peek _
  | acknowledge _ _ | closeFromWriter _ => exact ⟨hst, rfl, rfl, rfl, Or.inl rfl⟩

/-- Callers leave the owner where it is at work. -/
theorem stable_at {item service : Option Nat} {flagged : Bool} {P : View L} (hP : P.StopClosed) :
    (mailboxRely setup).Stable (At item service flagged P) := by
  rintro s t hi ⟨ho, hst, hp⟩ he
  obtain ⟨hst', hb, hbroken, hstat, hstate⟩ := ClientStep.calm hi he hst ho.running
  refine ⟨(ClientStep.kept hi he).2 _ _ _ ho, hst', ?_⟩
  rw [hb, hbroken, hstat]
  rcases hstate with heq | ⟨hf, hn, heq⟩
  · rw [heq]; exact hp
  · rw [heq]; exact hP _ _ _ _ hf hn hp

/-! ## Quiet sections -/

/-- A section that only moves channels and the subscriber list. -/
def Quiet (s t : Impl L) : Prop :=
  t.book = s.book ∧ t.ticketLog = s.ticketLog ∧ t.callers = s.callers ∧ t.ownerExited = s.ownerExited ∧
    ∃ n, t.mail = { s.mail with observation.residentSubscriptionCount := n }

/-- An assertion that neither the callers nor a quiet section of the owner make false. -/
structure Steady (setup : Setup L) (A : Impl L → Prop) : Prop where
  env : (mailboxRely setup).Stable A
  quiet : ∀ s t, Quiet s t → A s → A t

/-- Two steady assertions are steady together. -/
theorem Steady.and {A B : Impl L → Prop} (hA : Steady setup A) (hB : Steady setup B) :
    Steady setup (fun s => A s ∧ B s) :=
  ⟨hA.env.and hB.env, fun s t hq h => ⟨hA.quiet s t hq h.1, hB.quiet s t hq h.2⟩⟩

/-- A quiet section keeps the invariant of the mailbox. -/
theorem inv_of_quiet {s t : Impl L} (h : MailboxInv setup s) (hq : Quiet s t) : MailboxInv setup t := by
  obtain ⟨hb, hl, hc, hx, n, hm⟩ := hq
  exact (h.kept_publication hb hl hc hx ⟨_, _, _, _, _, _, n, id, id, hm⟩).1

/-- Where the owner is at work neither callers nor quiet sections matter. -/
theorem steady_at {item service : Option Nat} {flagged : Bool} {P : View L} (hP : P.StopClosed) :
    Steady setup (At item service flagged P) := by
  refine ⟨stable_at hP, ?_⟩
  rintro s t ⟨hb, hl, hc, hx, n, hm⟩ ⟨ho, hst, hp⟩
  cases t
  simp only at hb hl hc hx hm
  subst hb hl hc hx hm
  exact ⟨⟨ho.running, ho.tickets, ho.waiting, ho.full⟩, hst, hp⟩

/-- Quiet code keeps every steady assertion. -/
theorem quiet_triple {α : Type} {p : OwnerProgram L α} (hp : p.All Quiet) {A : Impl L → Prop} (hA : Steady setup A) :
    Triple (mailboxRely setup) A p (fun _ => A) :=
  Triple.of_all hp hA.env (fun s t hi ha hq => ⟨inv_of_quiet hi hq, hA.quiet s t hq ha⟩)

/-- Doing nothing is quiet. -/
theorem quiet_refl (s : Impl L) : Quiet s s := ⟨rfl, rfl, rfl, rfl, _, rfl⟩

/-- A look at the state is quiet. -/
theorem quiet_read {α : Type} (f : Impl L → α) : (Program.read f : OwnerProgram L α).All Quiet :=
  Program.All.atomic (fun _ s => quiet_refl s)

/-- A choice of the surroundings is quiet. -/
theorem quiet_choose {α : Type} (f : Outcome L → α) : (Program.choose f : OwnerProgram L α).All Quiet :=
  Program.All.atomic (fun _ s => quiet_refl s)

/-- An operation on a channel is quiet. -/
theorem quiet_onChannel (channel : Nat)
    (f : SubscriberChannel L.LocalSnapshot L.DepthUpdate → SubscriberChannel L.LocalSnapshot L.DepthUpdate) :
    (Program.modify (Impl.onChannel channel f) : OwnerProgram L Unit).All Quiet :=
  Program.All.atomic (fun _ _ => ⟨rfl, rfl, rfl, rfl, _, rfl⟩)

/-- Looking for the subscribers that are still open is quiet. -/
theorem quiet_openSubscribers (subscribers : List Nat) : (openSubscribers subscribers : OwnerProgram L _).All Quiet := by
  induction subscribers with
  | nil => trivial
  | cons i rest ih =>
    exact Program.All.bind (quiet_read _) (fun _ => Program.All.bind ih (fun _ => trivial))

/-- The sweep is quiet. -/
theorem quiet_sweep : (sweepClosedSubscribers : OwnerProgram L Unit).All Quiet :=
  Program.All.bind (quiet_read _) fun subscribers =>
    Program.All.bind (quiet_openSubscribers subscribers) fun _ =>
      Program.All.atomic (fun _ _ => ⟨rfl, rfl, rfl, rfl, _, rfl⟩)

/-- Closing all channels is quiet. -/
theorem quiet_closeAll : (closeAllSubscribersForShutdown : OwnerProgram L Unit).All Quiet :=
  Program.All.bind (quiet_read _) fun _ =>
    Program.All.bind (Program.All.forEach (fun _ => quiet_onChannel _ _)) fun _ =>
      Program.All.atomic (fun _ _ => ⟨rfl, rfl, rfl, rfl, _, rfl⟩)

/-- Ending the sessions is quiet. -/
theorem quiet_terminalize (reason : ConsumerGapReason) (action : RecoveryAction) (generation : Option Nat) :
    (terminalizeActiveSubscribers reason action generation : OwnerProgram L Unit).All Quiet :=
  Program.All.bind quiet_sweep fun _ =>
    Program.All.bind (quiet_choose _) fun _ =>
      Program.All.bind (quiet_read _) fun _ => Program.All.forEach (fun _ => quiet_onChannel _ _)

/-! ## Faults and the published state -/

variable {item service : Option Nat} {flagged : Bool} {s : Impl L}

/-- A discard in a state that is shut: the mailbox and what the owner knows move to the end of the tickets. -/
theorem discard_kept (hf : TicketFacts s.mail.ingress s.mail.lastAdmittedTicket s.mail.processedTicket s.ticketLog)
    (ho : TicketsInHand item s.mail.ingress s.mail.processedTicket s.ticketLog)
    (hs : s.mail.observation.state = .faulted ∨ s.mail.observation.projectionStatus = .needsResync) :
    ∃ processed occupancy log, s.discardIngressLocked = { s with
        mail.processedTicket := processed
        mail.ingress := []
        mail.observation.ingressOccupancy := occupancy
        ticketLog := log } ∧
      TicketFacts ([] : List (IngressItem L)) s.mail.lastAdmittedTicket processed log ∧
      TicketsInHand item ([] : List (IngressItem L)) processed log ∧
      (occupancy = 0 ∨ occupancy = s.mail.observation.ingressOccupancy) ∧
      (∀ observers next, ObserverFacts observers next s.mail.lastAdmittedTicket s.ticketLog →
        ObserverFacts observers next s.mail.lastAdmittedTicket log) ∧
      counted log = counted s.ticketLog ∧ fullSinceReset log = fullSinceReset s.ticketLog ∧
      brokenReset log = brokenReset s.ticketLog := by
  unfold Impl.discardIngressLocked
  split
  · rename_i hnone
    have hnil : s.mail.ingress = [] := List.getLast?_eq_none_iff.mp hnone
    rw [hnil] at hf ho
    refine ⟨s.mail.processedTicket, s.mail.observation.ingressOccupancy, s.ticketLog, ?_, hf, ho, Or.inr rfl,
      fun _ _ h => h, rfl, rfl, rfl⟩
    rw [← hnil]
  · rename_i back hback
    obtain ⟨hf', ho'⟩ := hf.discard ho hback hs
    refine ⟨_, _, _, rfl, hf', ho', Or.inl rfl, fun observers next h => ?_, rfl, rfl, rfl⟩
    exact h.log_cons (fun _ => trivial) (fun _ hid => hid)

/-- Barriers stay known when nothing is given out. -/
theorem known_of_counted {log log' : List TicketEvent} (hc : counted log' = counted log) {last target : Nat}
    (h : Known last log target) : Known last log' target :=
  fun hr => h (show counted log ≤ maxUInt64 from hc ▸ hr)

/-- What the owner sees right after a fault. -/
def Faulted : View L := fun b p st _ => b.bootstrap = [] ∧ p = L.status b.projection ∧ st = .faulted

/-- Being faulted does not depend on a stop. -/
theorem stopClosed_faulted : (Faulted : View L).StopClosed := fun _ _ _ _ hf _ h => absurd h.2.2 hf

/-- The section that publishes a fault. -/
theorem fault_at (h : MailboxInv setup s) (ho : OwnerHas item service flagged s) (hst : s.mail.started = true)
    (reason : FaultReason) (adapterError : Option L.AdapterError) :
    MailboxInv setup (s.faultLocked reason adapterError) ∧
      At item service true Faulted (s.faultLocked reason adapterError) := by
  unfold Impl.faultLocked
  dsimp only
  obtain ⟨processed, occupancy, log, he, hf, hi, hocc, hobs, hcount, hfull, hbroken⟩ :=
    discard_kept (s :=
      { s with
        book.bootstrap := []
        mail.accepting := false
        mail.observation.bootstrapOccupancy := 0
        mail.observation.faultReason := some reason
        mail.observation.adapterError := adapterError
        mail.observation.projectionStatus := L.status s.book.projection
        mail.observation.lastUpdateId := L.lastUpdateId s.book.projection
        mail.observation.lastGap := L.lastGap s.book.projection
        mail.observation.currentProjectionGeneration := s.book.currentProjectionGeneration
        mail.observation.state := .faulted }) h.tickets ho.tickets (Or.inl rfl)
  have hx := ho.running
  refine ⟨?_, ?_⟩
  · rw [Impl.answerSnapshotLocked_eq]
    unfold Impl.refreshProjectionObservationLocked
    dsimp only
    rw [he]
    refine ⟨hf, (h.requests.answerSnapshot _).mono fun _ => known_of_counted hcount, StateFacts.ofFault reason _ _, ?_,
      hobs _ _ h.observers, ?_, h.returnedSnapshots, h.returnedResets, fun _ _ _ _ => rfl⟩
    · refine ⟨Nat.zero_le _, Nat.zero_le _, ?_, Nat.zero_le _⟩
      rcases hocc with hocc | hocc <;> rw [hocc]
      · exact Nat.zero_le _
      · exact h.occupancy.observedIngress
    · refine ⟨fun hs => ?_, fun hs => ?_, h.lifecycle.stopRequested, fun hs => (by cases hs), fun hs => ?_⟩
      · have : s.mail.started = false := hs
        simp_all
      · rcases (h.lifecycle.stopped hs).2 with h' | h' <;> simp_all
      · have : s.ownerExited = true := hs
        simp_all
  · rw [Impl.answerSnapshotLocked_eq]
    unfold Impl.refreshProjectionObservationLocked
    dsimp only
    rw [he]
    exact ⟨⟨hx, hi, ho.waiting, fun _ _ hn => absurd rfl hn⟩, hst, rfl, rfl, rfl⟩

/-- Nothing is known of the book. -/
def AnyView : View L := fun _ _ _ _ => True

/-- Knowing nothing does not depend on a stop. -/
theorem stopClosed_any : (AnyView : View L).StopClosed := fun _ _ _ _ _ _ _ => trivial

/-- A fault, from wherever the owner is. -/
theorem transitionToFault_triple {P : View L} (hP : P.StopClosed) (reason : FaultReason)
    (adapterError : Option L.AdapterError) :
    Triple (mailboxRely setup) (At item service flagged P) (transitionToFault reason adapterError)
      (fun _ => At item service true Faulted) := by
  refine Triple.bind (quiet_triple (quiet_read _) (steady_at hP)) fun generation => ?_
  refine Triple.bind (quiet_triple (quiet_terminalize _ _ generation) (steady_at hP)) fun _ => ?_
  exact Triple.modify (stable_at hP) (stable_at stopClosed_faulted)
    (fun s hi ha => fault_at hi ha.1 ha.2.1 reason adapterError)

/-- Before the projection's state is published: `K` holds of the book, a published `NeedsResync` is still the projection's status,
and a faulted runtime buffers nothing, unless a broken reset has left it inputs to work off. -/
def Ready (K : Book L → Bool → Prop) : View L := fun b _ st broken =>
  K b broken ∧ (st = .needsResync → L.status b.projection = .needsResync) ∧ (st = .faulted → broken = false → b.bootstrap = [])

/-- After it: the published status is the projection's. -/
def Shown (K : Book L → Bool → Prop) : View L := fun b p st broken =>
  K b broken ∧ (st ≠ .faulted → p = L.status b.projection) ∧ (st = .faulted → broken = false → b.bootstrap = [])

/-- Being ready for more of an item does not depend on a stop. -/
theorem stopClosed_ready (K : Book L → Bool → Prop) : (Ready K).StopClosed :=
  fun _ _ _ _ _ _ h => ⟨h.1, fun hs => (by cases hs), fun hs => (by cases hs)⟩

/-- Having published the state does not depend on a stop. -/
theorem stopClosed_shown (K : Book L → Bool → Prop) : (Shown K).StopClosed :=
  fun _ _ _ _ hf _ h => ⟨h.1, fun _ => h.2.1 hf, fun hs => (by cases hs)⟩

/-- The published state follows the projection, unless the runtime has faulted or stops. -/
def shownState (state : RuntimeState) (status : ProjectionStatus) : RuntimeState :=
  if state ≠ .faulted ∧ state ≠ .stopping ∧ state ≠ .stopped then stateForProjection status else state

/-- The published state agrees with the published status and the gate. -/
theorem states_of_shown {state : RuntimeState} {status status' : ProjectionStatus} {fault : Option FaultReason}
    {accepting : Bool} {ingress : List (IngressItem L)} {log : List TicketEvent}
    (h : StateFacts state status fault accepting ingress log) (hr : state = .needsResync → status' = .needsResync)
    {accepting' : Bool} {ingress' : List (IngressItem L)}
    (hgate : (accepting' = accepting ∧ ingress' = ingress ∧ status' ≠ .needsResync) ∨
      (accepting' = false ∧ ingress' = [] ∧ status' = .needsResync)) :
    StateFacts (shownState state status') status' fault accepting' ingress' log := by
  have hnone : state ≠ .faulted → state ≠ .stopped → fault = none := fun hf hs => by
    cases hfault : fault with
    | none => rfl
    | some r => rcases h.fault (by simp [hfault]) with h' | h' <;> contradiction
  unfold shownState
  split
  · rename_i hc
    have hfault := hnone hc.1 hc.2.2
    cases status' with
    | needsResync =>
      rcases hgate with ⟨-, -, hne⟩ | ⟨ha, hi, -⟩
      · exact absurd rfl hne
      · exact ⟨fun hs => (by cases hs), fun hs => (by cases hs), fun hs => absurd hfault hs, fun _ => rfl,
          fun _ => ⟨ha, fun _ => hi⟩, fun _ => ⟨ha, Or.inr (Or.inr (Or.inl rfl))⟩⟩
    | _ =>
      rcases hgate with ⟨ha, hi, -⟩ | ⟨-, -, hn⟩
      · have hfull : fullSinceReset log = true → accepting' = false ∧ ingress' ≠ [] := fun hl => by
          obtain ⟨hacc, hor⟩ := h.full hl
          refine ⟨ha.trans hacc, hor.elim (fun hne => hi ▸ hne) (fun hd => ?_)⟩
          rcases hd with hd | hd | hd | hd
          · exact absurd hd hc.1
          · have := hr hd; cases this
          · exact absurd hd hc.2.1
          · exact absurd hd hc.2.2
        exact
          { live := fun hs => by first | exact ⟨rfl, hfault⟩ | cases hs
            faulted := fun hs => by cases hs
            fault := fun hs => absurd hfault hs
            needsResync := fun hs => by cases hs
            shut := fun hs => by rcases hs with hs | hs <;> cases hs
            full := fun hl => ⟨(hfull hl).1, Or.inl (hfull hl).2⟩ }
      · cases hn
  · rename_i hc
    have hstate : state = .faulted ∨ state = .stopping ∨ state = .stopped := by
      by_contra hn
      simp only [not_or] at hn
      exact hc ⟨hn.1, hn.2.1, hn.2.2⟩
    have hdead : state.isDead := hstate.elim Or.inl (fun h' => Or.inr (Or.inr h'))
    refine ⟨fun hs => ?_, h.faulted, h.fault, fun hs => hr hs, fun hs => ?_, fun hl => ⟨?_, Or.inr hdead⟩⟩
    · rcases hstate with h' | h' | h' <;> rw [hs] at h' <;> cases h'
    · rcases hgate with ⟨ha, hi, -⟩ | ⟨ha, hi, -⟩
      · exact ⟨ha.trans (h.shut hs).1, fun hb => hi.trans ((h.shut hs).2 hb)⟩
      · exact ⟨ha, fun _ => hi⟩
    · rcases hgate with ⟨ha, -, -⟩ | ⟨ha, -, -⟩
      · exact ha.trans (h.full hl).1
      · exact ha

/-- What is shown as faulted is faulted. -/
theorem shownState_faulted {state : RuntimeState} {status : ProjectionStatus} (h : shownState state status = .faulted) :
    state = .faulted := by
  unfold shownState at h
  split at h
  · cases status <;> cases h
  · exact h

/-- What is shown as stopped is stopped. -/
theorem shownState_stopped {state : RuntimeState} {status : ProjectionStatus} (h : shownState state status = .stopped) :
    state = .stopped := by
  unfold shownState at h
  split at h
  · cases status <;> cases h
  · exact h

/-- A running owner changes the published state: the lifecycle flags stay what they were. -/
theorem lifecycle_of_running {s t : Impl L} (h : Lifecycle s) (hx : s.ownerExited = false) (hst : s.mail.started = true)
    (hx' : t.ownerExited = s.ownerExited) (hst' : t.mail.started = s.mail.started)
    (hstop : t.mail.stopped = s.mail.stopped) (hreq : t.mail.stopRequested = s.mail.stopRequested)
    (hshut : s.mail.publicationShutdownRequested = true → t.mail.publicationShutdownRequested = true)
    (hstate : t.mail.observation.state = .stopped →
      s.mail.observation.state = .stopped ∨ s.mail.stopRequested = true) : Lifecycle t where
  unstarted hs := by simp_all
  stopped hs := by rcases (h.stopped (hstop ▸ hs)).2 with h' | h' <;> simp_all
  stopRequested hs := hshut (h.stopRequested (hreq ▸ hs))
  stateStopped hs := by
    rw [hreq, hstop]
    exact (hstate hs).elim h.stateStopped Or.inl
  exited hs := by simp_all

/-- The section that publishes the projection's state. -/
theorem publish_at {t₀ : Nat} {K : Book L → Bool → Prop} (h : MailboxInv setup s) (ho : OwnerHas (some t₀) service flagged s)
    (hst : s.mail.started = true)
    (hv : Ready K s.book s.mail.observation.projectionStatus s.mail.observation.state (brokenReset s.ticketLog)) :
    MailboxInv setup s.publishProjectionStateLocked ∧
      At (some t₀) service flagged (Shown K) s.publishProjectionStateLocked := by
  obtain ⟨hK, hr, hf⟩ := hv
  have hx := ho.running
  unfold Impl.publishProjectionStateLocked
  dsimp only
  split
  · rename_i hneeds
    obtain ⟨processed, occupancy, log, he, hfacts, hi, hocc, hobs, hcount, hfull, hbroken⟩ :=
      discard_kept (s :=
        { s with
          mail.accepting := false
          mail.observation.projectionStatus := L.status s.book.projection
          mail.observation.lastUpdateId := L.lastUpdateId s.book.projection
          mail.observation.lastGap := L.lastGap s.book.projection
          mail.observation.currentProjectionGeneration := s.book.currentProjectionGeneration
          mail.observation.bootstrapOccupancy := s.book.bootstrap.length
          mail.observation.state := shownState s.mail.observation.state (L.status s.book.projection) })
        h.tickets ho.tickets (Or.inr hneeds)
    have hstates : StateFacts _ (L.status s.book.projection) _ false ([] : List (IngressItem L)) _ :=
      states_of_shown h.states hr (Or.inr ⟨rfl, rfl, hneeds⟩)
    unfold Impl.refreshProjectionObservationLocked
    unfold shownState at he
    dsimp only
    rw [he]
    refine ⟨⟨hfacts, h.requests.mono fun _ => known_of_counted hcount, ?_, ?_, hobs _ _ h.observers, ?_, h.returnedSnapshots,
      h.returnedResets, IdleFacts.of_busy hi⟩, ?_⟩
    · exact { hstates with shut := fun hs => ⟨rfl, fun _ => rfl⟩, full := fun hl => hstates.full (hfull ▸ hl) }
    · refine ⟨Nat.zero_le _, h.occupancy.bootstrap, ?_, h.occupancy.bootstrap⟩
      rcases hocc with hocc | hocc <;> rw [hocc]
      · exact Nat.zero_le _
      · exact h.occupancy.observedIngress
    · exact lifecycle_of_running h.lifecycle hx hst rfl rfl rfl rfl id (fun hs => Or.inl (shownState_stopped hs))
    · refine ⟨⟨hx, hi, ho.waiting, fun _ _ hn => absurd rfl hn⟩, hst, ?_⟩
      dsimp only
      rw [hbroken]
      exact ⟨hK, fun _ => rfl, fun hs => hf (shownState_faulted hs)⟩
  · rename_i hneeds
    refine ⟨⟨h.tickets, h.requests, states_of_shown h.states hr (Or.inl ⟨rfl, rfl, hneeds⟩), ?_, h.observers, ?_,
      h.returnedSnapshots, h.returnedResets, IdleFacts.of_busy ho.tickets⟩, ?_⟩
    · exact ⟨h.occupancy.ingress, h.occupancy.bootstrap, h.occupancy.observedIngress, h.occupancy.bootstrap⟩
    · exact lifecycle_of_running h.lifecycle hx hst rfl rfl rfl rfl id (fun hs => Or.inl (shownState_stopped hs))
    · exact ⟨⟨hx, ho.tickets, ho.waiting, ho.full⟩, hst, hK, fun _ => rfl, fun hs => hf (shownState_faulted hs)⟩

/-- Publishing the projection's state shows it, and discards the ingress where it shows a gap. -/
theorem publishProjectionState_triple {t₀ : Nat} (K : Book L → Bool → Prop) :
    Triple (mailboxRely setup) (At (some t₀) service flagged (Ready K)) (publishProjectionState : OwnerProgram L Unit)
      (fun _ => At (some t₀) service flagged (Shown K)) :=
  Triple.modify (stable_at (stopClosed_ready K)) (stable_at (stopClosed_shown K))
    (fun _ hi ha => publish_at hi ha.1 ha.2.1 ha.2.2)

end MarketDataGateway.MarketRuntime
