import MarketDataGateway.Runtime.Items

/-!
# Control requests and the owner's round

Admissions, snapshots, resets and the publication shutdown are served between items. The request being served stays in its place
until the owner answers it, and its barrier stays passed. At the end of the module a round of the loop is put together, and
`Reachable.mailbox` has the invariant of every run.
-/

namespace MarketDataGateway.MarketRuntime

open OrderBook Threads

variable {L : ProjectionLibrary} {setup : Setup L}

/-- A runtime whose owner is under way is not stopped. -/
theorem MailboxInv.not_stopped {s : Impl L} (h : MailboxInv setup s) (hr : s.Running) : s.mail.stopped = false := by
  cases hs : s.mail.stopped with
  | false => rfl
  | true =>
    obtain ⟨hst, hx⟩ := hr
    rcases (h.lifecycle.stopped hs).2 with h' | h' <;> simp_all

/-- What the callers leave alone while the owner runs: the counter of processed tickets, every admission request that is on the heap,
a snapshot or reset request without a result, and the stop flags. -/
structure Leaves (s t : Impl L) : Prop where
  exited : t.ownerExited = s.ownerExited
  processed : t.mail.processedTicket = s.mail.processedTicket
  admissions : ∀ (i : Nat) r, s.mail.admissions[i]? = some r → t.mail.admissions[i]? = some r
  snapshot : ∀ r, s.mail.snapshotRequest = some r → r.result = none → t.mail.snapshotRequest = some r
  reset : ∀ r, s.mail.resetRequest = some r → r.result = none → t.mail.resetRequest = some r
  stop : s.mail.stopRequested = true → t.mail.stopRequested = true ∧ t.mail.ingress = s.mail.ingress
  shutdown : s.mail.publicationShutdownCompleted = true → t.mail.publicationShutdownCompleted = true

/-- A caller leaves the owner under way. -/
theorem ClientStep.leaves {s t : Impl L} (h : MailboxInv setup s) (hs : ClientStep setup s t) (hr : s.Running) :
    Leaves s t := by
  have hrun := h.not_stopped hr
  have hst := hr.1
  have hsame : ∀ u : Impl L, u.ownerExited = s.ownerExited → u.mail.processedTicket = s.mail.processedTicket →
      u.mail.admissions = s.mail.admissions → u.mail.snapshotRequest = s.mail.snapshotRequest →
      u.mail.resetRequest = s.mail.resetRequest →
      (s.mail.stopRequested = true → u.mail.stopRequested = true ∧ u.mail.ingress = s.mail.ingress) →
      (s.mail.publicationShutdownCompleted = true → u.mail.publicationShutdownCompleted = true) → Leaves s u :=
    fun u hx hp ha hsn hre hstop hc =>
      ⟨hx, hp, fun i r hi => ha ▸ hi, fun r hs _ => hsn ▸ hs, fun r hs _ => hre ▸ hs, hstop, hc⟩
  have hkeep : s.mail.stopRequested = true → s.mail.stopRequested = true ∧ s.mail.ingress = s.mail.ingress :=
    fun hs => ⟨hs, rfl⟩
  cases hs with
  | start => simp only [Impl.start, hst, hrun]; exact hsame _ rfl rfl rfl rfl rfl hkeep id
  | requestStop =>
    simp only [Impl.requestStop, hst, hrun]
    exact hsame _ rfl rfl rfl rfl rfl (fun _ => ⟨rfl, rfl⟩) id
  | finishStop _ _ hj => rw [hr.2] at hj; cases hj
  | submit input throws =>
    unfold Impl.submit
    split_ifs with h1 h2 h3 h4 h5 h6
    iterate 4 exact hsame _ rfl rfl rfl rfl rfl hkeep id
    · exact hsame _ rfl rfl rfl rfl rfl hkeep id
    · exact hsame _ rfl rfl rfl rfl rfl hkeep id
    · exact hsame _ rfl rfl rfl rfl rfl (fun hs => absurd hs h3) id
  | observe => unfold Impl.observe; split <;> exact hsame _ rfl rfl rfl rfl rfl hkeep id
  | requestReset kind =>
    unfold Impl.requestReset
    split_ifs with h1 h2 h3 h4 h5
    iterate 5 exact hsame _ rfl rfl rfl rfl rfl hkeep id
    refine ⟨rfl, rfl, fun _ _ hi => hi, fun _ hr _ => hr, fun r hr _ => ?_, hkeep, id⟩
    rw [hr] at h5
    simp at h5
  | returnReset hret =>
    unfold Impl.resetReturns at hret
    unfold Impl.returnReset
    split
    · rename_i request hslot
      refine ⟨rfl, rfl, fun _ _ hi => hi, fun _ hr _ => hr, fun r hr hn => ?_, hkeep, id⟩
      rw [hr] at hret
      simp [hn, hrun] at hret
    · exact hsame _ rfl rfl rfl rfl rfl hkeep id
  | captureSnapshot =>
    unfold Impl.captureSnapshot
    split_ifs with h1 h2 h3 h4 h5
    iterate 5 exact hsame _ rfl rfl rfl rfl rfl hkeep id
    refine ⟨rfl, rfl, fun _ _ hi => hi, fun r hr _ => ?_, fun _ hr _ => hr, hkeep, id⟩
    rw [hr] at h5
    simp at h5
  | returnSnapshot hret =>
    unfold Impl.snapshotReturns at hret
    unfold Impl.returnSnapshot
    split
    · rename_i request hslot
      refine ⟨rfl, rfl, fun _ _ hi => hi, fun r hr hn => ?_, fun _ hr _ => hr, hkeep, id⟩
      rw [hr] at hret
      simp [hn, hrun] at hret
    · exact hsame _ rfl rfl rfl rfl rfl hkeep id
  | admitSubscription subscription throws =>
    unfold Impl.admitOrderBookSubscription
    split_ifs with h1 h2 h3 h4 h5 h6
    iterate 6 exact hsame _ rfl rfl rfl rfl rfl hkeep id
    refine ⟨rfl, rfl, fun i r hi => ?_, fun _ hr _ => hr, fun _ hr _ => hr, hkeep, id⟩
    exact (List.getElem?_append_left (List.getElem?_eq_some_iff.mp hi).1).trans hi
  | shutdownPublication =>
    unfold Impl.shutdownPublication
    dsimp only
    split_ifs <;> exact hsame _ rfl rfl rfl rfl rfl hkeep (fun h => by first | exact h | rfl)
  | observeReturns _ _ | observeTimesOut _ | waitReturns _ | notifySubscriberClosed | closePublicationAdmission | peek _
  | acknowledge _ _ | closeFromWriter _ => exact hsame _ rfl rfl rfl rfl rfl hkeep id

/-- What a caller leaves under way is under way behind its step. -/
theorem Leaves.running {s t : Impl L} (hl : Leaves s t) (h : MailboxInv setup s) (hs : ClientStep setup s t)
    (hr : s.Running) : t.Running :=
  ⟨(ClientStep.calm h hs hr.1 hr.2).1, hl.exited.trans hr.2⟩

/-- A quiet section of the owner leaves it under way. -/
theorem Quiet.running {s t : Impl L} (hq : Quiet s t) (hr : s.Running) : t.Running := by
  obtain ⟨-, -, -, hx, n, hm⟩ := hq
  exact ⟨by rw [hm]; exact hr.1, hx.trans hr.2⟩

/-- The owner is under way wherever it is at work. -/
theorem At.run {item service : Option Nat} {flagged : Bool} {P : View L} {s : Impl L}
    (h : At item service flagged P s) : s.Running := ⟨h.2.1, h.1.running⟩

/-! ## What is being served -/

/-- An admission request on the heap, its barrier passed. -/
def AdmissionServed (request : Nat) (s : Impl L) : Prop :=
  s.Running ∧ ∃ r, s.mail.admissions[request]? = some r ∧ r.target ≤ s.mail.processedTicket

def SnapshotServed (s : Impl L) : Prop :=
  s.Running ∧ ∃ r, s.mail.snapshotRequest = some r ∧ r.result = none ∧ r.target ≤ s.mail.processedTicket

def ResetServed (s : Impl L) : Prop :=
  s.Running ∧ ∃ r, s.mail.resetRequest = some r ∧ r.result = none ∧ r.target ≤ s.mail.processedTicket

/-- Nothing is left to do, and nothing more comes. -/
def Leaving (s : Impl L) : Prop :=
  s.Running ∧ s.mail.stopRequested = true ∧ s.mail.ingress = [] ∧ s.mail.publicationShutdownCompleted = true

/-- The request that is served stays the one that is served. -/
theorem steady_admissionServed (request : Nat) : Steady setup (AdmissionServed request : Impl L → Prop) where
  env s t hi := fun ⟨hr, r, hs, hp⟩ he => by
    have hl := ClientStep.leaves hi he hr
    exact ⟨hl.running hi he hr, r, hl.admissions _ _ hs, hl.processed ▸ hp⟩
  quiet s t hq := fun ⟨hr, r, hs, hp⟩ => by
    have hr' := hq.running hr
    obtain ⟨-, -, -, -, n, hm⟩ := hq
    exact ⟨hr', r, by rw [hm]; exact hs, by rw [hm]; exact hp⟩

/-- The snapshot request that is served stays unanswered until the owner answers it. -/
theorem steady_snapshotServed : Steady setup (SnapshotServed : Impl L → Prop) where
  env s t hi := fun ⟨hr, r, hs, hn, hp⟩ he => by
    have hl := ClientStep.leaves hi he hr
    exact ⟨hl.running hi he hr, r, hl.snapshot _ hs hn, hn, hl.processed ▸ hp⟩
  quiet s t hq := fun ⟨hr, r, hs, hn, hp⟩ => by
    have hr' := hq.running hr
    obtain ⟨-, -, -, -, n, hm⟩ := hq
    exact ⟨hr', r, by rw [hm]; exact hs, hn, by rw [hm]; exact hp⟩

/-- The reset request that is served stays unanswered until the owner answers it. -/
theorem steady_resetServed : Steady setup (ResetServed : Impl L → Prop) where
  env s t hi := fun ⟨hr, r, hs, hn, hp⟩ he => by
    have hl := ClientStep.leaves hi he hr
    exact ⟨hl.running hi he hr, r, hl.reset _ hs hn, hn, hl.processed ▸ hp⟩
  quiet s t hq := fun ⟨hr, r, hs, hn, hp⟩ => by
    have hr' := hq.running hr
    obtain ⟨-, -, -, -, n, hm⟩ := hq
    exact ⟨hr', r, by rw [hm]; exact hs, hn, by rw [hm]; exact hp⟩

/-- An owner about to leave stays about to leave. -/
theorem steady_leaving : Steady setup (Leaving : Impl L → Prop) where
  env s t hi := fun ⟨hr, hs, hn, hc⟩ he => by
    have hl := ClientStep.leaves hi he hr
    exact ⟨hl.running hi he hr, (hl.stop hs).1, (hl.stop hs).2.trans hn, hl.shutdown hc⟩
  quiet s t hq := fun ⟨hr, hs, hn, hc⟩ => by
    have hr' := hq.running hr
    obtain ⟨-, -, -, -, n, hm⟩ := hq
    exact ⟨hr', by rw [hm]; exact hs, by rw [hm]; exact hn, by rw [hm]; exact hc⟩

/-! ## Admissions -/

variable {item service : Option Nat} {flagged : Bool} {P : View L} {s : Impl L}

/-- The owner between items. -/
def Head : Impl L → Prop := At none none true Idle

/-- Callers leave the owner at the head of its loop. -/
theorem stable_head : (mailboxRely setup).Stable (Head : Impl L → Prop) := stable_at stopClosed_idle

/-- Neither callers nor quiet sections take the owner from the head of its loop. -/
theorem steady_head : Steady setup (Head : Impl L → Prop) := steady_at stopClosed_idle

/-- Between items everything up to a passed barrier is dealt with, and the answer may say so. -/
theorem answered_at (h : MailboxInv setup s) (ha : At none service flagged P s) {target : Nat}
    (ht : target ≤ s.mail.processedTicket) (call : BarrierCall) :
    MailboxInv setup { s with ticketLog := .answered call target :: s.ticketLog } ∧
      At none service flagged P { s with ticketLog := .answered call target :: s.ticketLog } := by
  have hallowed : InRange s.ticketLog → (TicketEvent.answered call target).Allowed s.ticketLog := fun hr t hle hacc => by
    refine ((ha.1.tickets hr).2 t (by simp) hacc fun hm => ?_).1
    have := (h.tickets hr).ahead t hm
    omega
  refine ⟨⟨h.tickets.log_cons hallowed rfl (by simp) (by simp) (by simp) (by simp) (by simp), h.requests,
    h.states.log_cons (fun hf => hf) rfl, h.occupancy, h.observers.log_cons (fun _ => trivial) (fun _ hs => hs), ?_,
    h.returnedSnapshots, h.returnedResets, h.idle.cons (by simp) rfl⟩,
    ⟨ha.1.running, ha.1.tickets.log_cons (by simp) (by simp), ha.1.waiting, ha.1.full⟩, ha.2⟩
  exact lifecycle_of_running h.lifecycle ha.1.running ha.2.1 rfl rfl rfl rfl id Or.inl

/-- The request being served gets its result. -/
theorem complete_at {request : Nat} (h : MailboxInv setup s) (ha : At none (some request) flagged P s)
    (hs : AdmissionServed request s) (result : SubscriptionAdmissionResult) :
    MailboxInv setup (s.completeAdmissionRequestUnlocked request result) ∧
      At none none flagged P (s.completeAdmissionRequestUnlocked request result) := by
  obtain ⟨-, r, hr, ht⟩ := hs
  obtain ⟨target, subscription, _ | answer⟩ := r
  swap
  · -- a request that has its result keeps it
    unfold Impl.completeAdmissionRequestUnlocked
    rw [hr]
    refine ⟨h, ⟨ha.1.running, ha.1.tickets, ha.1.waiting.served fun r' hr' hn' => ?_, ha.1.full⟩, ha.2⟩
    rw [hr] at hr'
    cases hr'
    cases hn'
  have hone : ∀ u : Impl L, u.mail = s.mail → MailboxInv setup u → At none (some request) flagged P u →
      MailboxInv setup { u with
          mail.admissions := u.mail.admissions.modify request (·.answer result)
          mail.pendingAdmissionCount := u.mail.pendingAdmissionCount - 1
          mail.observation.pendingAdmissionCount := u.mail.pendingAdmissionCount - 1 } ∧
        At none none flagged P { u with
          mail.admissions := u.mail.admissions.modify request (·.answer result)
          mail.pendingAdmissionCount := u.mail.pendingAdmissionCount - 1
          mail.observation.pendingAdmissionCount := u.mail.pendingAdmissionCount - 1 } := by
    intro u hu hi hau
    have hru : u.mail.admissions[request]? = some ⟨target, subscription, none⟩ := hu ▸ hr
    refine ⟨⟨hi.tickets, hi.requests.one hru rfl result, hi.states, hi.occupancy, hi.observers, ?_,
      hi.returnedSnapshots, hi.returnedResets, hi.idle⟩, ⟨hau.1.running, hau.1.tickets, ?_, hau.1.full⟩, hau.2⟩
    · exact lifecycle_of_running hi.lifecycle hau.1.running hau.2.1 rfl rfl rfl rfl id Or.inl
    · refine (hau.1.waiting.one request result).served fun r' hr' hn' => ?_
      rw [List.getElem?_modify, hru] at hr'
      simp only [if_pos, Option.map_eq_map, Option.map_some, Option.some.injEq] at hr'
      have := AdmissionRequest.result_answer result ⟨target, subscription, none⟩
      rw [hr', hn'] at this
      cases this
  unfold Impl.completeAdmissionRequestUnlocked
  rw [hr]
  cases result with
  | accepted channel =>
    obtain ⟨hi', ha'⟩ := answered_at h ha ht .admission
    exact hone { s with ticketLog := .answered .admission target :: s.ticketLog } rfl hi' ha'
  | error e => exact hone s rfl h ha

/-- An admission request in service, the owner otherwise between items. -/
def Serving (request : Nat) (s : Impl L) : Prop := At none (some request) true Idle s ∧ AdmissionServed request s

/-- The owner stays in the middle of serving the request. -/
theorem steady_serving (request : Nat) : Steady setup (Serving request : Impl L → Prop) :=
  (steady_at stopClosed_idle).and (steady_admissionServed request)

/-- Completing the request that is served brings the owner back to its head. -/
theorem completeAdmissionRequest_triple (request : Nat) (result : SubscriptionAdmissionResult) :
    Triple (mailboxRely setup) (Serving request) (completeAdmissionRequest request result : OwnerProgram L Unit)
      (fun _ => Head) :=
  Triple.modify (steady_serving request).env stable_head fun _ hi hs => complete_at hi hs.1 hs.2 result

/-- What the gate leaves: a request still in service, or one that has been refused. -/
theorem gate_at {request : Nat} (h : MailboxInv setup s) (hs : Serving request s) :
    MailboxInv setup (s.gateAdmission request).2 ∧
      ((s.gateAdmission request).1 = true → (s.gateAdmission request).2 = s) ∧
      ((s.gateAdmission request).1 = false → Head (s.gateAdmission request).2) := by
  unfold Impl.gateAdmission
  split_ifs
  · obtain ⟨hi, ha⟩ := complete_at h hs.1 hs.2 (.error .shuttingDown)
    exact ⟨hi, fun hc => (by cases hc), fun _ => ha⟩
  · obtain ⟨hi, ha⟩ := complete_at h hs.1 hs.2 (.error .notLive)
    exact ⟨hi, fun hc => (by cases hc), fun _ => ha⟩
  · exact ⟨h, fun _ => rfl, fun hc => (by cases hc)⟩

/-- Staging a session touches nothing of the mailbox. -/
theorem quiet_stageSession (setup : Setup L) (subscription : ValidatedOrderBookSubscription)
    (depthLimit : Option L.DepthLimit) (publishedAt : PublicationTime) :
    (Program.atomic (Impl.stageSession setup subscription depthLimit publishedAt) : OwnerProgram L _).All Quiet := by
  refine Program.All.atomic (fun w s => ?_)
  unfold Impl.stageSession
  split
  · exact quiet_refl s
  · split
    · exact quiet_refl s
    · exact ⟨rfl, rfl, rfl, rfl, _, rfl⟩

/-- A commit answers the request and brings the owner back to its head. -/
theorem commit_at {request : Nat} (h : MailboxInv setup s) (hs : Serving request s)
    (channel : SubscriberChannel L.LocalSnapshot L.DepthUpdate) :
    MailboxInv setup (s.commitAdmission request channel) ∧ Head (s.commitAdmission request channel) := by
  obtain ⟨hi, -, hrefused⟩ := gate_at h hs
  unfold Impl.commitAdmission
  dsimp only
  split
  · have hq : Quiet s
        { s with
          channels := s.channels ++ [{ channel := channel }]
          roster.subscribers := s.roster.subscribers ++ [s.channels.length]
          roster.nextSubscriptionId := s.roster.nextSubscriptionId + 1
          mail.observation.residentSubscriptionCount := s.roster.subscribers.length + 1
          bookLog := .admitted s.channels.length s.book.projection :: s.bookLog } := ⟨rfl, rfl, rfl, rfl, _, rfl⟩
    have hserving : Steady setup (Serving request : Impl L → Prop) := steady_serving request
    have hs' := hserving.quiet _ _ hq hs
    exact complete_at (inv_of_quiet h hq) hs'.1 hs'.2 _
  · rename_i hg
    exact ⟨hi, hrefused (by simpa using hg)⟩

/-- An admission that is staged ends at the head, whatever becomes of it. -/
theorem admitStaged_triple (request : Nat) (subscription : ValidatedOrderBookSubscription)
    (depthLimit : Option L.DepthLimit) :
    Triple (mailboxRely setup) (Serving request) (admitStaged setup request subscription depthLimit)
      (fun _ => Head) := by
  have hsteady : Steady setup (Serving request : Impl L → Prop) := steady_serving request
  refine Triple.bind (quiet_triple (quiet_choose _) hsteady) fun sampled => ?_
  cases sampled with
  | none => exact completeAdmissionRequest_triple request _
  | some publishedAt =>
    refine Triple.bind (quiet_triple (quiet_read _) hsteady) fun next => ?_
    split
    · exact completeAdmissionRequest_triple request _
    · refine Triple.bind (quiet_triple (quiet_stageSession setup subscription depthLimit publishedAt) hsteady) ?_
      intro staging
      cases staging with
      | threw => exact completeAdmissionRequest_triple request _
      | adapterError error => exact completeAdmissionRequest_triple request _
      | notStaged => exact completeAdmissionRequest_triple request _
      | staged channel =>
        refine Triple.bind (Q := fun completion => if completion = .threw then Serving request else Head)
          (Triple.atomic hsteady.env (fun completion => ?_) fun w s hi hs => ?_) fun completion => ?_
        · cases completion
          · exact stable_head
          · exact hsteady.env
        · unfold Impl.tryCommitAdmission
          split
          · exact ⟨hi, hs⟩
          · exact commit_at hi hs channel
        · cases completion with
          | threw => exact completeAdmissionRequest_triple request _
          | returned => exact Triple.done stable_head fun _ _ h => h

/-- An admission request is served to its result. -/
theorem performAdmissionRequest_triple (request : Nat) (subscription : ValidatedOrderBookSubscription) :
    Triple (mailboxRely setup) (Serving request) (performAdmissionRequest setup request subscription)
      (fun _ => Head) := by
  have hsteady : Steady setup (Serving request : Impl L → Prop) := steady_serving request
  refine Triple.bind (quiet_triple quiet_sweep hsteady) fun _ => ?_
  refine Triple.bind (Q := fun mayGoOn => if mayGoOn then Serving request else Head)
    (Triple.atomic hsteady.env (fun mayGoOn => ?_) fun w s hi hs => ?_) fun mayGoOn => ?_
  · cases mayGoOn
    · exact stable_head
    · exact hsteady.env
  · obtain ⟨hi', hgo, hrefused⟩ := gate_at hi hs
    refine ⟨hi', ?_⟩
    cases hg : (s.gateAdmission request).1 with
    | true => rw [hgo hg]; exact hs
    | false => exact hrefused hg
  · cases mayGoOn with
    | false => exact Triple.done stable_head (fun _ _ h => h)
    | true =>
      refine Triple.bind (Q := fun _ => Serving request) (quiet_triple (quiet_read _) hsteady) fun subscribers => ?_
      split
      · exact completeAdmissionRequest_triple request _
      · split
        · exact admitStaged_triple request subscription none
        · split
          · exact completeAdmissionRequest_triple request _
          · exact admitStaged_triple request subscription _

/-! ## Snapshots, resets and the publication shutdown -/

/-- The slots of the mailbox change, the barriers in them do not move beyond the last ticket. -/
theorem slots_at {snapshotRequest : Option (SnapshotRequest L)} {resetRequest : Option ResetRequest} (h : MailboxInv setup s)
    (ha : At item service flagged P s)
    (hs : ∀ r, snapshotRequest = some r → Known s.mail.lastAdmittedTicket s.ticketLog r.target)
    (hr : ∀ r, resetRequest = some r → Known s.mail.lastAdmittedTicket s.ticketLog r.target) :
    MailboxInv setup { s with mail.snapshotRequest := snapshotRequest, mail.resetRequest := resetRequest } ∧
      At item service flagged P { s with mail.snapshotRequest := snapshotRequest, mail.resetRequest := resetRequest } :=
  ⟨⟨h.tickets, { h.requests with snapshotTarget := hs, resetTarget := hr }, h.states, h.occupancy, h.observers,
      lifecycle_of_running h.lifecycle ha.1.running ha.2.1 rfl rfl rfl rfl id Or.inl, h.returnedSnapshots,
      h.returnedResets, h.idle⟩, ⟨ha.1.running, ha.1.tickets, ha.1.waiting, ha.1.full⟩, ha.2⟩

/-- Answering the snapshot request that is served brings the owner back to its head. -/
theorem completeSnapshotRequest_triple (result : SnapshotResult L) :
    Triple (mailboxRely setup) (fun s => Head s ∧ SnapshotServed s) (completeSnapshotRequest result)
      (fun _ => Head) := by
  refine Triple.modify (steady_head.and steady_snapshotServed).env stable_head fun s hi hs => ?_
  obtain ⟨ha, -, r, hr, hn, ht⟩ := hs
  have hslot : ∀ r', some { r with result := some result } = some r' →
      Known s.mail.lastAdmittedTicket s.ticketLog r'.target :=
    fun r' he => by cases he; exact hi.requests.snapshotTarget r hr
  unfold Impl.completeSnapshotLocked
  rw [hr]
  cases result with
  | captured snapshot =>
    obtain ⟨hi', ha'⟩ := answered_at hi ha ht .capture
    exact slots_at hi' ha' hslot hi.requests.resetTarget
  | adapterError error => exact slots_at hi ha hslot hi.requests.resetTarget
  | error error => exact slots_at hi ha hslot hi.requests.resetTarget

/-- A snapshot request is served to its result. -/
theorem performSnapshotRequest_triple :
    Triple (mailboxRely setup) (fun s => Head s ∧ SnapshotServed s) (performSnapshotRequest setup)
      (fun _ => Head) := by
  have hsteady : Steady setup (fun s : Impl L => Head s ∧ SnapshotServed s) := steady_head.and steady_snapshotServed
  refine Triple.bind (quiet_triple (quiet_read _) hsteady) fun live => ?_
  split
  · exact completeSnapshotRequest_triple _
  · refine Triple.bind (quiet_triple (quiet_choose _) hsteady) fun sampled => ?_
    cases sampled with
    | none => exact completeSnapshotRequest_triple _
    | some sample =>
      refine Triple.bind (quiet_triple (Program.All.atomic (fun w s => quiet_refl s)) hsteady) fun result => ?_
      exact completeSnapshotRequest_triple result

/-- A reset is only begun with nothing buffered, unless an earlier one has broken. -/
def Resetting : View L := fun b p st broken => Idle b p st broken ∧ (broken = false → b.bootstrap = [])

/-- What is known before a reset does not depend on a stop. -/
theorem stopClosed_resetting : (Resetting : View L).StopClosed := fun _ _ _ _ hf hn h =>
  ⟨stopClosed_idle _ _ _ _ hf hn h.1, h.2⟩

/-- The projection's reset has thrown: of the book only the buffer is known. -/
def Abandoned : View L := fun b _ _ broken => broken = false → b.bootstrap = []

/-- What is known behind a reset that threw does not depend on a stop. -/
theorem stopClosed_abandoned : (Abandoned : View L).StopClosed := fun _ _ _ _ _ _ h => h

/-- A runtime that may be reset buffers nothing. -/
theorem resetting_at {kind : ResetKind} (h : MailboxInv setup s) (ha : At none none true Idle s)
    (hk : (s.checkReset).1 = some kind) : At none none true Resetting s := by
  refine ⟨ha.1, ha.2.1, ha.2.2, fun hbroken => ?_⟩
  unfold Impl.checkReset at hk
  split at hk
  · cases hk
  · rename_i request hslot
    dsimp only at hk
    split at hk
    · cases hk
    · rename_i hfits
      obtain ⟨target, kind', result⟩ := request
      cases kind' with
      | recovery => exact idle_bootstrap h ha hbroken (by simpa [or_iff_not_imp_left] using hfits)
      | planned =>
        have hlive : s.isLive = true := by simpa using hfits
        simp only [Impl.isLive, Bool.and_eq_true, decide_eq_true_eq] at hlive
        obtain ⟨hb, hp, -⟩ := ha.2.2
        by_contra hne
        have hstatus := hb hbroken hne
        rw [← hp (by rw [hlive.1.1]; simp), hlive.1.2] at hstatus
        cases hstatus

/-- The section that resets the book opens the gate again. -/
theorem reset_at {P : View L} (h : MailboxInv setup s) (ha : At none none true P s) (hs : ResetServed s) :
    MailboxInv setup s.resetLocked ∧ Head s.resetLocked ∧ ResetServed s.resetLocked := by
  refine ⟨⟨h.tickets.log_cons (fun _ => trivial) rfl (by simp) (by simp) (by simp) (by simp) (by simp), h.requests, ?_, ?_,
    h.observers.log_cons (fun _ => trivial) (fun _ hf => by cases hf), ?_, h.returnedSnapshots, h.returnedResets,
    fun _ _ _ _ => rfl⟩,
    ⟨⟨ha.1.running, ha.1.tickets.log_cons (by simp) (by simp), ha.1.waiting, fun _ hf => by cases hf⟩, ha.2.1, ?_⟩, hs⟩
  · exact
      { live := fun he => by cases he
        faulted := fun he => by cases he
        fault := fun he => absurd rfl he
        needsResync := fun he => by cases he
        shut := fun he => by rcases he with he | he <;> cases he
        full := fun he => by cases he }
  · exact ⟨h.occupancy.ingress, Nat.zero_le _, h.occupancy.observedIngress, Nat.zero_le _⟩
  · exact lifecycle_of_running h.lifecycle ha.1.running ha.2.1 rfl rfl rfl rfl id (fun he => by cases he)
  · exact ⟨fun _ hb => absurd rfl hb, fun _ => rfl, fun he => by cases he⟩

/-- The section in which the projection's reset throws only leaves another projection behind. -/
theorem abandon_at (h : MailboxInv setup s) (ha : At none none true Resetting s) (hs : ResetServed s)
    (left : L.Projection) :
    MailboxInv setup (s.abandonReset left) ∧ At none none true Abandoned (s.abandonReset left) ∧
      ResetServed (s.abandonReset left) :=
  ⟨⟨h.tickets, h.requests, h.states, h.occupancy, h.observers,
      ⟨h.lifecycle.unstarted, h.lifecycle.stopped, h.lifecycle.stopRequested, h.lifecycle.stateStopped,
        h.lifecycle.exited⟩, h.returnedSnapshots, h.returnedResets, h.idle⟩,
    ⟨⟨ha.1.running, ha.1.tickets, ha.1.waiting, ha.1.full⟩, ha.2.1, ha.2.2.2⟩, hs⟩

/-- The section that follows shuts the gate, and leaves the ingress as it is. -/
theorem failReset_at (h : MailboxInv setup s) (ha : At none none true Abandoned s) (hs : ResetServed s) :
    MailboxInv setup s.failResetLocked ∧ Head s.failResetLocked ∧ ResetServed s.failResetLocked := by
  have hbroken : brokenReset s.failResetLocked.ticketLog = false →
      s.mail.ingress = [] ∧ brokenReset s.ticketLog = false := fun hb => by
    simpa [Impl.failResetLocked, brokenReset] using hb
  refine ⟨⟨h.tickets.log_cons (fun _ => trivial) rfl (by simp) (by simp) (by simp) (by simp) (by simp), h.requests, ?_,
    h.occupancy, h.observers.log_cons (fun _ => trivial) (fun _ hf => hf), ?_, h.returnedSnapshots, h.returnedResets,
    fun _ hb _ _ => ha.2.2 (hbroken hb).2⟩,
    ⟨⟨ha.1.running, ha.1.tickets.log_cons (by simp) (by simp), ha.1.waiting, ha.1.full⟩, ha.2.1, ?_⟩, hs⟩
  · exact
      { live := fun he => by cases he
        faulted := fun _ => by simp [Impl.failResetLocked]
        fault := fun _ => Or.inl rfl
        needsResync := fun he => by cases he
        shut := fun _ => ⟨rfl, fun hb => (hbroken (hb rfl)).1⟩
        full := fun _ => ⟨rfl, Or.inr (Or.inl rfl)⟩ }
  · exact lifecycle_of_running h.lifecycle ha.1.running ha.2.1 rfl rfl rfl rfl id (fun he => by cases he)
  · exact ⟨fun hb hne => absurd (ha.2.2 (hbroken hb).2) hne, fun hs => absurd rfl hs, fun _ hb => ha.2.2 (hbroken hb).2⟩

/-- The request gets its result; the answer of a completed reset says that everything up to its barrier is dealt with. -/
theorem completeReset_at (result : RebootstrapResetResult) (h : MailboxInv setup s) (ha : Head s) (hs : ResetServed s) :
    MailboxInv setup (s.completeResetLocked result) ∧ Head (s.completeResetLocked result) := by
  obtain ⟨-, r, hr, hn, ht⟩ := hs
  have hslot : ∀ r', some { r with result := some result } = some r' →
      Known s.mail.lastAdmittedTicket s.ticketLog r'.target :=
    fun r' he => by cases he; exact h.requests.resetTarget r hr
  unfold Impl.completeResetLocked
  rw [hr]
  dsimp only
  split
  · obtain ⟨hi', ha'⟩ := answered_at h ha ht .reset
    exact slots_at hi' ha' h.requests.snapshotTarget hslot
  · exact slots_at h ha h.requests.snapshotTarget hslot

/-- The projection has been reset, or its reset has thrown and left the ingress to be dealt with; the request has its result to come. -/
def ResetTried : Completion → Impl L → Prop
  | .returned, s => Head s ∧ ResetServed s
  | .threw, s => At none none true Abandoned s ∧ ResetServed s

/-- A reset request is served to its result. -/
theorem performResetRequest_triple :
    Triple (mailboxRely setup) (fun s => Head s ∧ ResetServed s) (performResetRequest : OwnerProgram L Unit)
      (fun _ => Head) := by
  have hhead : Steady setup (fun s : Impl L => Head s ∧ ResetServed s) := steady_head.and steady_resetServed
  have hsteady : Steady setup (fun s : Impl L => At none none true Resetting s ∧ ResetServed s) :=
    (steady_at stopClosed_resetting).and steady_resetServed
  have habandoned : Steady setup (fun s : Impl L => At none none true Abandoned s ∧ ResetServed s) :=
    (steady_at stopClosed_abandoned).and steady_resetServed
  let checked : Option ResetKind → Impl L → Prop := fun kind =>
    kind.elim Head fun _ s => At none none true Resetting s ∧ ResetServed s
  refine Triple.bind (Q := checked) (Triple.atomic hhead.env (fun kind => ?_) fun w s hi hs => ?_) fun kind => ?_
  · cases kind with
    | none => exact stable_head
    | some _ => exact hsteady.env
  · obtain ⟨ha, hrun, r, hr, hn, ht⟩ := hs
    have hreset : ∀ kind, s.checkReset.1 = some kind → At none none true Resetting s := fun _ hk => resetting_at hi ha hk
    revert hreset
    unfold Impl.checkReset
    rw [hr]
    dsimp only
    split
    · intro _
      exact slots_at hi ha hi.requests.snapshotTarget
        (fun r' he => by cases he; exact hi.requests.resetTarget r hr)
    · intro hreset
      exact ⟨hi, hreset r.kind rfl, hrun, r, hr, hn, ht⟩
  · cases kind with
    | none => exact Triple.done stable_head (fun _ _ h => h)
    | some kind =>
      refine Triple.bind (quiet_triple (quiet_read _) hsteady) fun generation => ?_
      have hterm : (terminalizeForReset kind generation : OwnerProgram L Unit).All Quiet := by
        cases kind <;> exact quiet_terminalize _ _ _
      refine Triple.bind (quiet_triple hterm hsteady) fun _ => ?_
      refine Triple.bind (Q := ResetTried) (Triple.atomic hsteady.env (fun completion => ?_) fun w s hi hs => ?_)
        fun completion => ?_
      · cases completion with
        | returned => exact hhead.env
        | threw => exact habandoned.env
      · unfold Impl.tryReset
        split
        · exact abandon_at hi hs.1 hs.2 w.left
        · exact reset_at hi hs.1 hs.2
      · cases completion with
        | returned =>
          exact Triple.modify hhead.env stable_head fun s hi hs => completeReset_at .reset hi hs.1 hs.2
        | threw =>
          refine Triple.bind (Q := fun _ s => Head s ∧ ResetServed s)
            (Triple.modify habandoned.env hhead.env fun s hi hs => failReset_at hi hs.1 hs.2) fun _ => ?_
          exact Triple.modify hhead.env stable_head fun s hi hs => completeReset_at .internalError hi hs.1 hs.2

/-- The publication shutdown answers every admission request. -/
theorem performPublicationShutdownControl_triple :
    Triple (mailboxRely setup) Head (performPublicationShutdownControl : OwnerProgram L Unit) (fun _ => Head) := by
  refine Triple.bind (quiet_triple quiet_closeAll steady_head) fun _ => ?_
  refine Triple.modify stable_head stable_head fun s hi ha => ?_
  refine ⟨⟨hi.tickets, hi.requests.all ha.1.waiting _, hi.states, hi.occupancy, hi.observers, ?_, hi.returnedSnapshots,
    hi.returnedResets, hi.idle⟩, ⟨ha.1.running, ha.1.tickets, ?_, ha.1.full⟩, ha.2⟩
  · exact lifecycle_of_running hi.lifecycle ha.1.running ha.2.1 rfl rfl rfl rfl id Or.inl
  · exact Waiting.of_answered (ha.1.waiting.answerAll _) _

/-! ## Leaving -/

/-- Whatever a caller does once everything is dealt with, everything stays dealt with. -/
theorem left_of_client {t : Impl L} (h : MailboxInv setup s) (hr : s.Running) (hl : s.Left) (he : ClientStep setup s t) :
    t.Left := by
  have hst := hr.1
  have hrun := h.not_stopped hr
  obtain ⟨h1, h2, h3, h4, h5, h6, h7, h8⟩ := hl
  have hself : s.Left := ⟨h1, h2, h3, h4, h5, h6, h7, h8⟩
  cases he with
  | start => simpa [Impl.start, hst, hrun] using hself
  | requestStop hg => rw [h1, hrun] at hg; rcases hg with hg | hg <;> cases hg
  | finishStop _ _ hj => rw [hr.2] at hj; cases hj
  | submit input throws => simpa [Impl.submit, hst, hrun, h1] using hself
  | requestReset kind => simpa [Impl.requestReset, hst, hrun, h1] using hself
  | captureSnapshot => simpa [Impl.captureSnapshot, hst, hrun, h1] using hself
  | admitSubscription subscription throws => simpa [Impl.admitOrderBookSubscription, hst, hrun, h1] using hself
  | observe =>
    unfold Impl.observe
    split
    · exact MailboxInv.left_cons hself _ (by simp)
    · exact MailboxInv.left_cons (MailboxInv.left_cons hself _ (by simp)) _ (by simp)
  | observeReturns _ _ => exact MailboxInv.left_cons hself _ (by simp)
  | returnReset _ =>
    unfold Impl.returnReset
    split
    · exact ⟨h1, h2, h3, h4, h5, h6, h7, fun r hr => by cases hr⟩
    · exact hself
  | returnSnapshot _ =>
    unfold Impl.returnSnapshot
    split
    · exact ⟨h1, h2, h3, h4, h5, h6, fun r hr => (by cases hr), h8⟩
    · exact hself
  | shutdownPublication =>
    simp only [Impl.shutdownPublication, h2]
    exact ⟨h1, h2, h3, h4, h5, h6, h7, h8⟩
  | observeTimesOut _ | waitReturns _ | notifySubscriberClosed | closePublicationAdmission | peek _ | acknowledge _ _
  | closeFromWriter _ => exact ⟨h1, h2, h3, h4, h5, h6, h7, h8⟩

/-- The owner's last state, while the owner still closes its channels. -/
def LeftBehind (s : Impl L) : Prop := s.Running ∧ s.Left

/-- What the owner leaves behind stays dealt with while it closes its channels. -/
theorem steady_leftBehind : Steady setup (LeftBehind : Impl L → Prop) where
  env s t hi := fun ⟨hr, hl⟩ he => ⟨(ClientStep.leaves hi he hr).running hi he hr, left_of_client hi hr hl he⟩
  quiet s t hq := fun ⟨hr, hl⟩ => by
    refine ⟨hq.running hr, ?_⟩
    obtain ⟨-, hlog, -, -, n, hm⟩ := hq
    unfold Impl.Left
    rw [hm, hlog]
    exact hl

/-- The section with which the owner leaves answers whoever still waits. -/
theorem leave_at (h : MailboxInv setup s) (ha : Head s) (hl : Leaving s) :
    MailboxInv setup s.leaveLocked ∧ LeftBehind s.leaveLocked := by
  obtain ⟨hr, hstop, hnil, hshut⟩ := hl
  unfold Impl.leaveLocked
  dsimp only
  rw [Impl.answerSnapshotLocked_eq, Impl.answerResetLocked_eq]
  refine ⟨⟨h.tickets, ?_, ?_, h.occupancy, h.observers, ?_, h.returnedSnapshots, h.returnedResets,
    fun _ _ _ hs => (by rcases hs with hs | hs <;> cases hs)⟩, hr, hstop, hshut, rfl,
    hnil, ?_, ha.1.waiting.answerAll _, ?_, ?_⟩
  · have hreq := (h.requests.answerSnapshot (.error .stopped)).all ha.1.waiting (.error .stopped)
    refine { hreq with resetTarget := fun r hr => ?_ }
    obtain ⟨r₀, h₀, rfl⟩ := Option.map_eq_some_iff.mp hr
    rw [ResetRequest.target_answer]
    exact h.requests.resetTarget r₀ h₀
  · have hst := h.states.stopped
    exact ⟨fun he => (by cases he), hst.faulted, hst.fault, fun he => (by cases he),
      fun he => (by rcases he with he | he <;> cases he), hst.full⟩
  · exact lifecycle_of_running h.lifecycle ha.1.running ha.2.1 rfl rfl rfl rfl id (fun _ => Or.inr hstop)
  · intro hrange t ht
    refine (ha.1.tickets hrange).2 t (by simp) ht ?_
    rw [hnil]
    simp
  · intro r hr
    obtain ⟨r₀, h₀, rfl⟩ := Option.map_eq_some_iff.mp hr
    exact SnapshotRequest.result_answer _ r₀
  · intro r hr
    obtain ⟨r₀, h₀, rfl⟩ := Option.map_eq_some_iff.mp hr
    exact ResetRequest.result_answer _ r₀

/-- What holds once the owner's thread has ended. -/
def Gone (s : Impl L) : Prop := s.ownerExited = true

/-- Once the owner has left, callers find it gone. -/
theorem stable_gone : (mailboxRely setup).Stable (Gone : Impl L → Prop) := by
  intro s t hi hg he
  have hx : ∀ u : Impl L, u.ownerExited = s.ownerExited → Gone u := fun u hu => hu.trans hg
  cases he with
  | start => unfold Impl.start; split_ifs <;> exact hx _ rfl
  | requestStop => unfold Impl.requestStop; split_ifs <;> exact hx _ rfl
  | finishStop => unfold Impl.finishStop; dsimp only; rw [Impl.answerSnapshotLocked_eq]; exact hx _ rfl
  | submit input throws => unfold Impl.submit; split_ifs <;> exact hx _ rfl
  | observe => unfold Impl.observe; split <;> exact hx _ rfl
  | requestReset kind => unfold Impl.requestReset; split_ifs <;> exact hx _ rfl
  | returnReset _ => unfold Impl.returnReset; split <;> exact hx _ rfl
  | captureSnapshot => unfold Impl.captureSnapshot; split_ifs <;> exact hx _ rfl
  | returnSnapshot _ => unfold Impl.returnSnapshot; split <;> exact hx _ rfl
  | admitSubscription subscription throws => unfold Impl.admitOrderBookSubscription; split_ifs <;> exact hx _ rfl
  | shutdownPublication => unfold Impl.shutdownPublication; dsimp only; split_ifs <;> exact hx _ rfl
  | observeReturns _ _ | observeTimesOut _ | waitReturns _ | notifySubscriberClosed | closePublicationAdmission | peek _
  | acknowledge _ _ | closeFromWriter _ => exact hx _ rfl

/-- The end of the loop answers everybody and leaves. -/
theorem ownerEpilogue_triple :
    Triple (mailboxRely setup) (fun s => Head s ∧ Leaving s) (ownerEpilogue : OwnerProgram L Unit) (fun _ => Gone) := by
  refine Triple.bind (Q := fun _ => LeftBehind) (Triple.modify (steady_head.and steady_leaving).env steady_leftBehind.env
    fun s hi hs => leave_at hi hs.1 hs.2) fun _ => ?_
  refine Triple.bind (quiet_triple quiet_closeAll steady_leftBehind) fun _ => ?_
  refine Triple.modify steady_leftBehind.env stable_gone fun s hi hs => ⟨?_, rfl⟩
  obtain ⟨hr, hl⟩ := hs
  refine ⟨hi.tickets, hi.requests, hi.states, hi.occupancy, hi.observers, ?_, hi.returnedSnapshots, hi.returnedResets, hi.idle⟩
  exact
    { unstarted := fun hu => by have : s.mail.started = false := hu; rw [hr.1] at this; cases this
      stopped := fun hs => ⟨(hi.lifecycle.stopped hs).1, Or.inr rfl⟩
      stopRequested := hi.lifecycle.stopRequested
      stateStopped := hi.lifecycle.stateStopped
      exited := fun _ => hl }

/-! ## A round of the loop -/

/-- What the owner knows with a piece of work in hand. -/
def Taken : Work L → Impl L → Prop
  | .publicationShutdown | .removalSweep | .nothing => Head
  | .fault _ => At none none false Idle
  | .reset => fun s => Head s ∧ ResetServed s
  | .admission request _ => Serving request
  | .snapshot => fun s => Head s ∧ SnapshotServed s
  | .item item => At (some item.ticket) none true Starting
  | .exit => fun s => Head s ∧ Leaving s

/-- What was taken stays taken. -/
theorem stable_taken (work : Work L) : (mailboxRely setup).Stable (Taken work) := by
  cases work with
  | publicationShutdown | removalSweep | nothing => exact stable_head
  | fault _ => exact stable_at stopClosed_idle
  | reset => exact (steady_head.and steady_resetServed).env
  | admission request _ => exact (steady_serving request).env
  | snapshot => exact (steady_head.and steady_snapshotServed).env
  | item item => exact stable_at stopClosed_starting
  | exit => exact (steady_head.and steady_leaving).env

/-- A reset is ready when its request waits for a ticket that is passed. -/
theorem resetReady_iff (s : Impl L) : s.resetReadyLocked = true ↔
    ∃ r, s.mail.resetRequest = some r ∧ r.result = none ∧ r.target ≤ s.mail.processedTicket := by
  unfold Impl.resetReadyLocked
  split
  · rename_i target kind hslot; simp [hslot]
  · rename_i hslot
    simp only [Bool.false_eq_true, false_iff]
    rintro ⟨⟨target, kind, result⟩, hr, rfl, -⟩
    exact hslot target kind hr

/-- A snapshot is ready when its request waits for a ticket that is passed. -/
theorem snapshotReady_iff (s : Impl L) : s.snapshotReadyLocked = true ↔
    ∃ r, s.mail.snapshotRequest = some r ∧ r.result = none ∧ r.target ≤ s.mail.processedTicket := by
  unfold Impl.snapshotReadyLocked
  split
  · rename_i target hslot; simp [hslot]
  · rename_i hslot
    simp only [Bool.false_eq_true, false_iff]
    rintro ⟨⟨target, result⟩, hr, rfl, -⟩
    exact hslot target hr

/-- The admission that is ready is the first of the queue, and its ticket is passed. -/
theorem readyAdmission_some {s : Impl L} {front : Nat} {request : AdmissionRequest}
    (h : s.readyAdmission = some (front, request)) :
    ∃ rest, s.mail.admissionRequests = front :: rest ∧ s.mail.admissions[front]? = some request ∧
      request.target ≤ s.mail.processedTicket := by
  unfold Impl.readyAdmission at h
  split at h
  · cases h
  · rename_i i rest hq
    split at h
    · rename_i r hr
      split at h
      · cases h; exact ⟨rest, hq, hr, by assumption⟩
      · cases h
    · cases h

/-- Taking an item: an overflow that is not a fault yet would have been taken first. -/
theorem takeItem_at {front : IngressItem L} {rest : List (IngressItem L)} (h : MailboxInv setup s) (ha : Head s)
    (hf : s.mail.pendingFault = none) (hi : s.mail.ingress = front :: rest) :
    MailboxInv setup { s with
        mail.ingress := rest
        mail.observation.ingressOccupancy := rest.length
        ticketLog := .taken front.ticket :: s.ticketLog } ∧
      At (some front.ticket) none true Starting { s with
        mail.ingress := rest
        mail.observation.ingressOccupancy := rest.length
        ticketLog := .taken front.ticket :: s.ticketLog } := by
  have hfacts := h.tickets
  have hhand := ha.1.tickets
  rw [hi] at hfacts hhand
  obtain ⟨hfacts', hhand'⟩ := hfacts.take hhand
  have hnf : fullSinceReset s.ticketLog = false := by
    cases hfull : fullSinceReset s.ticketLog with
    | false => rfl
    | true => exact absurd hf (ha.1.full rfl hfull (by rw [hi]; simp))
  have hcons : s.mail.ingress ≠ [] := by simp [hi]
  have hsync : s.mail.observation.state ≠ .needsResync := fun hs =>
    hcons ((h.states.shut (Or.inr hs)).2 fun hf => by rw [hs] at hf; cases hf)
  -- only a broken reset leaves a faulted runtime something to take
  have hbroken : s.mail.observation.state = .faulted → brokenReset s.ticketLog = true := fun hs => by
    by_contra hb
    exact hcons ((h.states.shut (Or.inl hs)).2 fun _ => by simpa using hb)
  have hlen : rest.length ≤ setup.limits.ingressCapacity := by
    have := h.occupancy.ingress
    rw [hi, List.length_cons] at this
    omega
  have hfalse : fullSinceReset (.taken front.ticket :: s.ticketLog) = false := hnf
  refine ⟨⟨hfacts', h.requests, ?_, ?_, h.observers.log_cons (fun _ => trivial) (fun _ hs => hs), ?_, h.returnedSnapshots,
    h.returnedResets, IdleFacts.of_busy hhand'⟩, ⟨ha.1.running, hhand', ha.1.waiting, ?_⟩, ha.2.1, ha.2.2.1, hsync, hbroken⟩
  · exact { h.states with
      shut := fun hs => ⟨(h.states.shut hs).1, fun hb => by
        rcases hs with hs | hs
        · have := hb hs; rw [show brokenReset (_ :: s.ticketLog) = brokenReset s.ticketLog from rfl, hbroken hs] at this
          cases this
        · exact absurd hs hsync⟩
      full := fun hs => by rw [hfalse] at hs; cases hs }
  · exact ⟨hlen, h.occupancy.bootstrap, hlen, h.occupancy.observedBootstrap⟩
  · exact lifecycle_of_running h.lifecycle ha.1.running ha.2.1 rfl rfl rfl rfl id Or.inl
  · intro _ hs
    have : fullSinceReset (.taken front.ticket :: s.ticketLog) = true := hs
    rw [hfalse] at this
    cases this

/-- Taking work keeps the invariant and notes what was taken. -/
theorem takeWork_at (h : MailboxInv setup s) (ha : Head s) :
    MailboxInv setup s.takeWork.2 ∧ Taken s.takeWork.1 s.takeWork.2 := by
  unfold Impl.takeWork
  split
  · exact ⟨h, ha⟩
  · rename_i hshut
    have hlater : ∀ {t : Impl L}, t.ownerExited = s.ownerExited → t.mail.started = s.mail.started →
        t.mail.stopped = s.mail.stopped → t.mail.stopRequested = s.mail.stopRequested →
        t.mail.publicationShutdownRequested = s.mail.publicationShutdownRequested →
        t.mail.observation.state = s.mail.observation.state → Lifecycle t := fun hx h1 h2 h3 h4 h5 =>
      lifecycle_of_running h.lifecycle ha.1.running ha.2.1 hx h1 h2 h3 (fun hs => h4 ▸ hs) (fun hs => Or.inl (h5 ▸ hs))
    split
    · exact ⟨⟨h.tickets, h.requests, h.states, h.occupancy, h.observers, hlater rfl rfl rfl rfl rfl rfl,
        h.returnedSnapshots, h.returnedResets, h.idle⟩,
        ⟨ha.1.running, ha.1.tickets, ha.1.waiting, fun hc => by cases hc⟩, ha.2⟩
    · rename_i hfault
      split
      · rename_i hready
        exact ⟨h, ha, ha.run, (resetReady_iff s).mp hready⟩
      · split
        · rename_i front request hready
          obtain ⟨rest, hq, hr, ht⟩ := readyAdmission_some hready
          have hwait := ha.1.waiting
          rw [hq] at hwait
          refine ⟨⟨h.tickets, ?_, h.states, h.occupancy, h.observers, hlater rfl rfl rfl rfl rfl rfl,
            h.returnedSnapshots, h.returnedResets, h.idle⟩,
            ⟨⟨ha.1.running, ha.1.tickets, ?_, ha.1.full⟩, ha.2⟩, ha.run, request, hr, ht⟩
          · exact { h.requests with queued := fun i hi => h.requests.queued i (List.mem_of_mem_tail hi) }
          · dsimp only
            rw [hq]
            exact hwait.take
        · split
          · rename_i hready
            exact ⟨h, ha, ha.run, (snapshotReady_iff s).mp hready⟩
          · split
            · exact ⟨⟨h.tickets, h.requests, h.states, h.occupancy, h.observers, hlater rfl rfl rfl rfl rfl rfl,
                h.returnedSnapshots, h.returnedResets, h.idle⟩,
                ⟨ha.1.running, ha.1.tickets, ha.1.waiting, ha.1.full⟩, ha.2⟩
            · split
              · rename_i front rest hi
                exact takeItem_at h ha hfault hi
              · rename_i hnil
                split
                · rename_i hstop
                  refine ⟨h, ha, ha.run, hstop, hnil, ?_⟩
                  have hreq := h.lifecycle.stopRequested hstop
                  simpa [hreq] using hshut
                · exact ⟨h, ha⟩

/-- Work that ends at the head ends a round that is followed by another. -/
theorem true_triple {A B : Impl L → Prop} {p : OwnerProgram L Unit}
    (hp : Triple (mailboxRely setup) A p (fun _ => B)) (hBH : ∀ s, B s → Head s) :
    Triple (mailboxRely setup) A (p >>= fun _ => pure true) (afterRound Head Gone) :=
  Triple.bind hp fun _ => Triple.pre (Triple.done stable_head (fun _ _ h => h)) (fun s _ h => hBH s h)

/-- A round of the loop: from between items to between items, or to the owner's end. -/
theorem ownerRound_triple :
    Triple (mailboxRely setup) Head (ownerRound setup) (afterRound Head Gone) := by
  refine Triple.bind (Q := Taken) (Triple.await stable_head stable_taken fun _ s hi ha _ => takeWork_at hi ha) ?_
  intro work
  cases work with
  | publicationShutdown => exact true_triple performPublicationShutdownControl_triple (fun _ h => h)
  | fault reason =>
    exact true_triple (transitionToFault_triple stopClosed_idle reason none)
      (fun _ h => idle_of_faulted h)
  | reset => exact true_triple performResetRequest_triple (fun _ h => h)
  | admission request subscription =>
    exact true_triple (performAdmissionRequest_triple request subscription) (fun _ h => h)
  | snapshot => exact true_triple performSnapshotRequest_triple (fun _ h => h)
  | removalSweep => exact true_triple (quiet_triple quiet_sweep steady_head) (fun _ h => h)
  | item item => exact true_triple (processItem_triple item) (fun _ h => h)
  | exit => exact Triple.bind ownerEpilogue_triple fun _ => Triple.done stable_gone (fun _ _ h => h)
  | nothing => exact Triple.done stable_head (fun _ _ h => h)

/-! ## Runs -/

/-- The invariant holds of a runtime that has just been constructed. -/
theorem inv_initial (setup : Setup L) : MailboxInv setup (Impl.initial setup) where
  tickets := fun _ =>
    { ascending := List.Pairwise.nil
      ahead := fun t hm => by cases hm
      queued := fun t hm => by cases hm
      bound := Nat.le_refl _
      total := rfl
      given := fun t => by simp [Impl.initial, Given]; omega
      apart := fun t hm => by cases hm
      reached := Or.inl rfl
      finished := fun t hm => by cases hm
      gone := fun t hm => by cases hm
      settled := fun t hm => by cases hm
      history := trivial }
  requests :=
    { queued := fun i hi => by cases hi
      admissionTarget := fun r hr => by cases hr
      snapshotTarget := fun r hr => by cases hr
      resetTarget := fun r hr => by cases hr
      counted := rfl
      observed := rfl }
  states :=
    { live := fun he => by cases he
      faulted := fun he => by cases he
      fault := fun he => absurd rfl he
      needsResync := fun he => by cases he
      shut := fun he => by rcases he with he | he <;> cases he
      full := fun he => by cases he }
  occupancy := ⟨Nat.zero_le _, Nat.zero_le _, Nat.zero_le _, Nat.zero_le _⟩
  observers := ⟨fun o ho => (by cases ho), fun o ho => (by cases ho), fun _ => trivial⟩
  lifecycle :=
    { unstarted := fun _ => ⟨Or.inl rfl, rfl, rfl, rfl, rfl, rfl, rfl, rfl, rfl⟩
      stopped := fun he => by cases he
      stopRequested := fun he => by cases he
      stateStopped := fun he => by cases he
      exited := fun he => by cases he }
  returnedSnapshots := fun r hr => by cases hr
  returnedResets := fun r hr => by cases hr
  idle := fun _ _ _ _ => rfl

/-- Before its first section the owner has nothing in hand, nothing is buffered, and whatever was refused as `Full` is still behind a
full ingress. -/
def Unborn (s : Impl L) : Prop :=
  OwnerHas none none true s ∧ s.book.bootstrap = [] ∧ (fullSinceReset s.ticketLog = true → s.mail.ingress ≠ []) ∧
    s.mail.observation.state ≠ .faulted ∧ s.mail.observation.state ≠ .needsResync ∧
    s.mail.observation.faultReason = none

/-- Before the owner's first section callers leave it unborn. -/
theorem stable_unborn : (mailboxRely setup).Stable (Unborn : Impl L → Prop) := by
  rintro s t hi ⟨ho, hb, hf, h1, h2, h3⟩ he
  have ho' := (ClientStep.kept hi he).2 _ _ _ ho
  have hself : Unborn s := ⟨ho, hb, hf, h1, h2, h3⟩
  cases he with
  | finishStop _ _ hj => rw [ho.running] at hj; cases hj
  | start =>
    revert ho'
    unfold Impl.start
    split_ifs <;> intro ho' <;> exact ⟨ho', hb, hf, h1, h2, h3⟩
  | requestStop =>
    revert ho'
    unfold Impl.requestStop
    split_ifs with hs hst hc <;> intro ho'
    · exact hself
    · exact ⟨ho', hb, hf, fun he => (by cases he), fun he => (by cases he), h3⟩
    · exact ⟨ho', hb, hf, fun he => (by cases he), fun he => (by cases he), h3⟩
    · exact absurd ⟨h1, h2⟩ hc
  | submit input throws =>
    revert ho'
    unfold Impl.submit
    split_ifs with g1 g2 g3 g4 g5 g6 <;> intro ho'
    iterate 4 exact hself
    · refine ⟨ho', hb, fun _ hnil => ?_, h1, h2, h3⟩
      have hpos := setup.limits.ingress_pos
      have hnil' : s.mail.ingress = [] := hnil
      rw [hnil', List.length_nil] at g5
      omega
    · exact ⟨ho', hb, hf, h1, h2, h3⟩
    · exact ⟨ho', hb, fun _ => by simp, h1, h2, h3⟩
  | observe =>
    revert ho'
    unfold Impl.observe
    split <;> intro ho' <;> exact ⟨ho', hb, hf, h1, h2, h3⟩
  | requestReset kind =>
    revert ho'
    unfold Impl.requestReset
    split_ifs <;> intro ho' <;> exact ⟨ho', hb, hf, h1, h2, h3⟩
  | returnReset _ =>
    revert ho'
    unfold Impl.returnReset
    split <;> intro ho' <;> exact ⟨ho', hb, hf, h1, h2, h3⟩
  | captureSnapshot =>
    revert ho'
    unfold Impl.captureSnapshot
    split_ifs <;> intro ho' <;> exact ⟨ho', hb, hf, h1, h2, h3⟩
  | returnSnapshot _ =>
    revert ho'
    unfold Impl.returnSnapshot
    split <;> intro ho' <;> exact ⟨ho', hb, hf, h1, h2, h3⟩
  | admitSubscription subscription throws =>
    revert ho'
    unfold Impl.admitOrderBookSubscription
    split_ifs <;> intro ho' <;> exact ⟨ho', hb, hf, h1, h2, h3⟩
  | shutdownPublication =>
    revert ho'
    unfold Impl.shutdownPublication
    dsimp only
    split_ifs <;> intro ho' <;> exact ⟨ho', hb, hf, h1, h2, h3⟩
  | observeReturns _ _ | observeTimesOut _ | waitReturns _ | notifySubscriberClosed | closePublicationAdmission | peek _
  | acknowledge _ _ | closeFromWriter _ => exact ⟨ho', hb, hf, h1, h2, h3⟩

/-- The owner's first section brings it to the head of its loop. -/
theorem ownerPrologue_triple :
    Triple (mailboxRely setup) Unborn (ownerPrologue : OwnerProgram L Bool) (afterRound Head Gone) := by
  refine Triple.bind (Q := fun _ => Head) (Triple.await stable_unborn (fun _ => stable_head) fun _ s hi hu hg => ?_)
    fun _ => Triple.done stable_head (fun _ _ h => h)
  obtain ⟨ho, hb, hf, h1, h2, h3⟩ := hu
  refine ⟨⟨hi.tickets, hi.requests, ?_, hi.occupancy, hi.observers, ?_, hi.returnedSnapshots, hi.returnedResets,
    fun _ _ _ _ => hb⟩,
    ⟨ho.running, ho.tickets, ho.waiting, ho.full⟩, hg, fun _ hne => absurd hb hne, fun _ => rfl, fun _ _ => hb⟩
  · exact
      { live := fun he => by cases he
        faulted := fun he => by cases he
        fault := fun he => absurd h3 he
        needsResync := fun he => by cases he
        shut := fun he => by rcases he with he | he <;> cases he
        full := fun he => ⟨(hi.states.full he).1, Or.inl (hf he)⟩ }
  · exact lifecycle_of_running hi.lifecycle ho.running hg rfl rfl rfl rfl id (fun he => by cases he)

/-- A new runtime has no owner yet. -/
theorem unborn_initial (setup : Setup L) : Unborn (Impl.initial setup) := by
  exact ⟨⟨rfl, fun _ => ⟨fun t he => (by cases he), fun t _ hm => (by cases hm)⟩, fun i r hr _ => (by cases hr),
    fun _ hf => (by cases hf)⟩, rfl, fun hf => (by cases hf), fun he => (by cases he), fun he => (by cases he), rfl⟩

/-- In every reachable state the mailbox invariant holds, between items the owner knows what `Head` says, and once its thread has
ended everything is dealt with. -/
theorem Reachable.mailbox {ph : Phase (Impl L) (Outcome L)} (h : Reachable setup ph s) :
    LoopInv (mailboxRely setup) Head Gone ph s :=
  h.loopInv rfl stable_head stable_gone
    (ownerPrologue_triple (Impl.initial setup) (inv_initial setup) (unborn_initial setup)) ownerRound_triple

/-- The mailbox invariant in every reachable state. -/
theorem Reachable.inv {ph : Phase (Impl L) (Outcome L)} (h : Reachable setup ph s) : MailboxInv setup s :=
  h.mailbox.inv

/-- Between items. -/
theorem Reachable.head (h : Reachable setup .head s) : Head s := h.mailbox.2

end MarketDataGateway.MarketRuntime
