import MarketDataGateway.Runtime.Counting
import MarketDataGateway.Runtime.Progress

/-!
# What the mailbox guarantees

Tickets are processed in order and barriers mean what they say; no caller is stranded; the published state can be trusted, and an
overflow closes the runtime until it is reset. Each of the three has its exception: an observe call that finds its barrier passed in
the middle of an item, a ticket that was counted and lost, a reset that throws with inputs waiting. A run shows each of them.
-/

namespace MarketDataGateway.MarketRuntime

open OrderBook Threads

variable {L : ProjectionLibrary} {setup : Setup L}

/-! ## Tickets and barriers -/

/-- What an answer or an observation stands for: every accepted ticket up to its barrier is dealt with. -/
def TicketEvent.Settled : TicketEvent → List TicketEvent → Prop
  | .answered _ target, past | .observed _ target _, past => ∀ t, t ≤ target → .accepted t ∈ past → Done t past
  | _, _ => True

/-- No observation is handed out while the owner is still at an item up to the barrier and has already discarded the ingress behind
it. -/
def TicketEvent.Patient : TicketEvent → List TicketEvent → Prop
  | .observed _ target _, past => ∀ t, t ≤ target → ¬CutShort t past
  | _, _ => True

/-- An observation misses its barrier exactly when it is handed out in the middle of an item that is cut short. -/
theorem settled_iff_patient {log : List TicketEvent} (h : Every TicketEvent.Allowed log) :
    Every TicketEvent.Settled log ↔ Every TicketEvent.Patient log := by
  refine h.congr fun event past he hpast => ?_
  cases event with
  | observed id target state =>
    refine ⟨fun hs t hle hc => ?_, fun hp t hle ha => (he t hle ha).resolve_right (hp t hle)⟩
    obtain ⟨ha, hd⟩ := hc.not_done hpast
    exact hd (hs t hle ha)
  | answered call target => exact ⟨fun _ => trivial, fun _ => he⟩
  | _ => exact Iff.rfl

/-- No step takes the processed ticket back. -/
theorem Reachable.processed_mono {ph ph' : Phase (Impl L) (Outcome L)} {s t : Impl L} (h : Reachable setup ph s)
    (hs : RunStep setup ph s ph' t) : s.mail.processedTicket ≤ t.mail.processedTicket := by
  rcases h.move hs with he | hg | he
  · exact Nat.le_of_eq (processed_client he).symm
  · exact (Advances.section hg).processed
  · rw [he]

/-- A barrier that was not lost is passed once every accepted ticket is. -/
theorem TicketOrder.passed {ingress : List (IngressItem L)} {last processed : Nat} {log : List TicketEvent}
    (h : TicketOrder ingress last processed log) (hall : ∀ t, .accepted t ∈ log → t ≤ processed) {target : Nat}
    (ht : target ≤ last) (hlost : .lost target ∉ log) : target ≤ processed := by
  rcases Nat.eq_zero_or_pos target with rfl | hpos
  · exact Nat.zero_le _
  · exact hall target (((h.given target).mpr ⟨hpos, ht⟩).resolve_right hlost)

/-- Where every accepted ticket is passed, the counters agree exactly when the last ticket was not lost. -/
theorem TicketOrder.caught_up {ingress : List (IngressItem L)} {last processed : Nat} {log : List TicketEvent}
    (h : TicketOrder ingress last processed log) (hall : ∀ t, .accepted t ∈ log → t ≤ processed) :
    processed = last ↔ .lost last ∉ log := by
  refine ⟨fun he hlost => ?_, fun hlost => Nat.le_antisymm h.bound (h.passed hall (Nat.le_refl _) hlost)⟩
  rcases h.reached with h0 | hacc
  · have hpos := ((h.given last).mp (Or.inr hlost)).1
    omega
  · exact h.apart last (he ▸ hacc) hlost

/-- Between items, with nothing waiting, every accepted ticket is passed. -/
theorem Head.all_passed {s : Impl L} (hh : Head s) (hr : InRange s.ticketLog) (hnil : s.mail.ingress = []) (t : Nat)
    (ht : .accepted t ∈ s.ticketLog) : t ≤ s.mail.processedTicket :=
  ((hh.1.tickets hr).2 t (by simp) ht (by simp [hnil])).2

/-- As long as the ticket counter has not come round: each submission gets a fresh ticket; the owner takes tickets in order and each
once; what it does not take is discarded by a fault or a gap; and an answer that waited for a barrier is given when everything up to
it is dealt with. An owner with nothing to do has passed the last ticket unless that one was lost, and the observe calls keep their
barriers too exactly when none comes back in the middle of an item that is cut short. -/
theorem ticket_barrier {ph : Phase (Impl L) (Outcome L)} {s : Impl L} (h : Reachable setup ph s) (hr : InRange s.ticketLog) :
    Every TicketEvent.Allowed s.ticketLog ∧
    (∀ t, .accepted t ∈ s.ticketLog →
      t ∈ s.mail.ingress.map (·.ticket) ∨ .taken t ∈ s.ticketLog ∨ Discarded t s.ticketLog) ∧
    (∀ t u, CutShort t s.ticketLog → CutShort u s.ticketLog → t = u) ∧
    s.mail.processedTicket ≤ s.mail.lastAdmittedTicket ∧
    (∀ ph' t, RunStep setup ph s ph' t → s.mail.processedTicket ≤ t.mail.processedTicket) ∧
    (ph = .head ∨ ph = .exited → s.mail.ingress = [] →
      (s.mail.processedTicket = s.mail.lastAdmittedTicket ↔ .lost s.mail.lastAdmittedTicket ∉ s.ticketLog)) ∧
    (Every TicketEvent.Settled s.ticketLog ↔ Every TicketEvent.Patient s.ticketLog) := by
  have hi := h.inv
  have hfacts := hi.tickets hr
  refine ⟨hfacts.history, hfacts.gone, fun t u => CutShort.unique hfacts.history, hfacts.bound,
    fun _ _ => h.processed_mono, fun hph hnil => hfacts.caught_up ?_, settled_iff_patient hfacts.history⟩
  rcases hph with rfl | rfl
  · exact h.head.all_passed hr hnil
  · exact fun t ht => ((hi.lifecycle.exited h.mailbox.2).2.2.2.2.1 hr t ht).2

/-! A run in which an observe call comes back early. -/

/-- Two updates with a hole before them are buffered; a snapshot and one more update are submitted, and an observe call waits for
all of them. The owner replays the buffer, finds the gap with one update still buffered, and discards the ingress. -/
def gapInReplay : CountingConfig :=
  let buffered := ((countingStarted.call (fun s => (s.submit countingSetup (depthInput 8 none) false).2)).run 5).call
    (fun s => (s.submit countingSetup (depthInput 9 none) false).2)
  let submitted := (((buffered.run 5).call (fun s => (s.submit countingSetup (snapshotInput 5 none) false).2)).call
    (fun s => (s.submit countingSetup (depthInput 10 none) false).2)).call (·.observe)
  submitted.run 13

theorem gapInReplay_reached : gapInReplay.Reached :=
  ((((((countingStarted_reached.call (.submit (depthInput 8 none) false)).run 5).call (.submit (depthInput 9 none) false)).run 5).call
    (.submit (snapshotInput 5 none) false)).call (.submit (depthInput 10 none) false)).call .observe |>.run 13

/-- The observe call comes back. -/
def observedInReplay : CountingConfig := gapInReplay.call (fun s => (s.returnObservation 0 4).forgetObserver 0)

theorem observedInReplay_reached : observedInReplay.Reached :=
  gapInReplay_reached.call (@ClientStep.observeReturns _ _ _ 0 ⟨0, 4⟩ rfl rfl)

/-- Ticket 3 is neither finished nor discarded when an observe call for the barrier 4 comes back. -/
theorem observed_before_finished :
    ¬∀ (ph : Phase (Impl countingLibrary) (Outcome countingLibrary)) (s : Impl countingLibrary),
      Reachable countingSetup ph s → Every TicketEvent.Settled s.ticketLog := by
  intro hall
  have hlog : observedInReplay.2.ticketLog = .observed 0 4 .needsResync :: gapInReplay.2.ticketLog := rfl
  have hevery := hall _ _ observedInReplay_reached
  rw [hlog] at hevery
  exact absurd (hevery.1 3 (by decide) (by decide +kernel)) (by decide +kernel)

/-- The same observe call comes back once the owner is through with the item. -/
def observedAfterGap : CountingConfig := (gapInReplay.run 5).call (fun s => (s.returnObservation 0 4).forgetObserver 0)

theorem observedAfterGap_reached : observedAfterGap.Reached :=
  (gapInReplay_reached.run 5).call (@ClientStep.observeReturns _ _ _ 0 ⟨0, 4⟩ rfl rfl)

/-- Behind the gap all barriers are kept and the last ticket is passed. -/
theorem ticket_barrier_after_gap :
    Every TicketEvent.Settled observedAfterGap.2.ticketLog ∧
    observedAfterGap.2.mail.processedTicket = observedAfterGap.2.mail.lastAdmittedTicket := by
  have hlog : observedAfterGap.2.ticketLog =
      [.observed 0 4 .needsResync, .finished 3, .discarded [4] .needsResync .needsResync, .taken 3, .observeStarted 0 4,
        .accepted 4, .accepted 3, .finished 2, .taken 2, .accepted 2, .finished 1, .taken 1, .accepted 1] := rfl
  have hrange : InRange observedAfterGap.2.ticketLog := by rw [hlog]; decide
  obtain ⟨-, -, -, -, -, hidle, hbarrier⟩ := ticket_barrier observedAfterGap_reached hrange
  refine ⟨hbarrier.mpr ?_, (hidle (Or.inl rfl) rfl).mpr (by rw [hlog]; decide)⟩
  rw [hlog]
  refine ⟨fun t _ hc => ?_, trivial, trivial, trivial, trivial, trivial, trivial, trivial, trivial, trivial, trivial, trivial,
    trivial, trivial⟩
  -- every item that was taken is finished
  have ht := hc.taken
  simp only [List.mem_cons, reduceCtorEq, false_or, TicketEvent.taken.injEq, List.not_mem_nil, or_false] at ht
  rcases ht with rfl | rfl | rfl <;> exact hc.1 (by simp)

/-! ## Callers that wait -/

/-- No request on record waits for a ticket that was lost. -/
structure Impl.BarriersQueued (s : Impl L) : Prop where
  admissions : ∀ r ∈ s.mail.admissions, .lost r.target ∉ s.ticketLog
  snapshot : ∀ r, s.mail.snapshotRequest = some r → .lost r.target ∉ s.ticketLog
  reset : ∀ r, s.mail.resetRequest = some r → .lost r.target ∉ s.ticketLog

/-- At the head of its loop the owner finds nothing to do only when the ingress is empty and nobody waits but for a lost ticket. -/
theorem Head.nobody_waits {s : Impl L} (hi : MailboxInv setup s) (hh : Head s) (hw : s.hasWork = false)
    (hr : InRange s.ticketLog) (hb : s.BarriersQueued) :
    (∀ r ∈ s.mail.admissions, r.result.isSome = true) ∧
    (∀ r, s.mail.snapshotRequest = some r → r.result.isSome = true) ∧
    (∀ r, s.mail.resetRequest = some r → r.result.isSome = true) := by
  simp only [Impl.hasWork, Bool.or_eq_false_iff] at hw
  obtain ⟨⟨⟨⟨-, hreset⟩, hadmission⟩, hsnapshot⟩, hingress⟩ :
      (((_ ∧ s.resetReadyLocked = false) ∧ s.admissionReadyLocked = false) ∧ s.snapshotReadyLocked = false) ∧
        (!s.mail.ingress.isEmpty) = false := ⟨hw.1.1, hw.2⟩
  have hnil : s.mail.ingress = [] := by simpa using hingress
  have hpassed : ∀ target, Known s.mail.lastAdmittedTicket s.ticketLog target → .lost target ∉ s.ticketLog →
      target ≤ s.mail.processedTicket := fun target hk hlost =>
    (hi.tickets hr).passed (hh.all_passed hr hnil) (hk hr) hlost
  refine ⟨fun r hmem => ?_, fun r hslot => ?_, fun r hslot => ?_⟩
  · -- an unanswered request is queued, and the front of the queue is ready
    obtain ⟨i, hget⟩ := List.mem_iff_getElem?.mp hmem
    cases hres : r.result with
    | some _ => rfl
    | none =>
      rcases hh.1.waiting i r hget hres with hq | hs
      · have hready : s.admissionReadyLocked = true := by
          unfold Impl.admissionReadyLocked Impl.readyAdmission
          cases hqueue : s.mail.admissionRequests with
          | nil => rw [hqueue] at hq; cases hq
          | cons front rest =>
            have hlt := hi.requests.queued front (by rw [hqueue]; exact List.mem_cons_self)
            have hfront : s.mail.admissions[front] ∈ s.mail.admissions := List.getElem_mem hlt
            have hle := hpassed _ (hi.requests.admissionTarget _ hfront) (hb.admissions _ hfront)
            simp only [List.getElem?_eq_getElem hlt, if_pos hle, Option.isSome_some]
        rw [hready] at hadmission
        cases hadmission
      · cases hs
  · obtain ⟨target, _ | result⟩ := r
    · have hle := hpassed _ (hi.requests.snapshotTarget _ hslot) (hb.snapshot _ hslot)
      simp [Impl.snapshotReadyLocked, hslot, hle] at hsnapshot
    · rfl
  · obtain ⟨target, kind, _ | result⟩ := r
    · have hle := hpassed _ (hi.requests.resetTarget _ hslot) (hb.reset _ hslot)
      simp [Impl.resetReadyLocked, hslot, hle] at hreset
    · rfl

/-- An owner with nothing to do has seen to a shutdown of the publication that was asked for. -/
theorem Impl.shutdownCompleted_of_idle {s : Impl L} (hw : s.hasWork = false) (hreq : s.mail.publicationShutdownRequested = true) :
    s.mail.publicationShutdownCompleted = true := by
  simp only [Impl.hasWork, Bool.or_eq_false_iff] at hw
  simpa [hreq] using hw.1.1.1.1.1.1.2

/-- The pending counter is right; an owner that waits leaves nobody waiting, unless a request has a lost ticket for its barrier or the
ticket counter has come round; and once the owner has left and the stop is over every request ever queued has its result and every
caller's wait is over. -/
theorem no_stranded_waiter {ph : Phase (Impl L) (Outcome L)} {s : Impl L} (h : Reachable setup ph s) :
    s.mail.pendingAdmissionCount = s.mail.admissions.countP AdmissionRequest.unanswered ∧
    (ph = .head → s.hasWork = false →
      (InRange s.ticketLog → s.BarriersQueued →
        (∀ r ∈ s.mail.admissions, r.result.isSome = true) ∧
        (∀ r, s.mail.snapshotRequest = some r → r.result.isSome = true) ∧
        (∀ r, s.mail.resetRequest = some r → r.result.isSome = true)) ∧
      (s.mail.publicationShutdownRequested = true → s.mail.publicationShutdownCompleted = true)) ∧
    (s.ownerExited = true → s.mail.stopped = true →
      (∀ r ∈ s.mail.admissions, r.result.isSome = true) ∧
      (∀ r, s.mail.snapshotRequest = some r → r.result.isSome = true) ∧
      (∀ r ∈ s.callers.returnedSnapshots, r.result.isSome = true) ∧
      (∀ r, s.mail.resetRequest = some r → r.result.isSome = true) ∧
      (∀ r ∈ s.callers.returnedResets, r.result.isSome = true) ∧
      (∀ i, i < s.mail.admissions.length → s.admissionReturns i = true) ∧
      (s.mail.snapshotRequest.isSome = true → s.snapshotReturns = true) ∧
      (s.mail.resetRequest.isSome = true → s.resetReturns = true) ∧
      s.shutdownReturns = true) := by
  have hi := h.inv
  refine ⟨hi.requests.counted, ?_, fun hex hst => ?_⟩
  · rintro rfl hw
    exact ⟨Head.nobody_waits hi h.head hw, Impl.shutdownCompleted_of_idle hw⟩
  · obtain ⟨-, -, -, -, -, hadmissions, hsnapshot, hreset⟩ := hi.lifecycle.exited hex
    refine ⟨hadmissions, hsnapshot, hi.returnedSnapshots, hreset, hi.returnedResets, fun i hlt => ?_, fun hs => ?_,
      fun hs => ?_, by simp [Impl.shutdownReturns, hst]⟩
    · simp [Impl.admissionReturns, List.getElem?_eq_getElem hlt, hst]
    · obtain ⟨r, hr⟩ := Option.isSome_iff_exists.mp hs
      simp [Impl.snapshotReturns, hr, hst]
    · obtain ⟨r, hr⟩ := Option.isSome_iff_exists.mp hs
      simp [Impl.resetReturns, hr, hst]

/-- A live runtime is asked for a session, a snapshot and a planned reset at once. -/
def countingCalled : CountingConfig :=
  ((countingLive.call (fun s => (s.admitOrderBookSubscription countingSetup ⟨"r", "g", none⟩ false).2)).call
    (·.captureSnapshot.2)).call (fun s => (s.requestReset .planned).2)

theorem countingCalled_reached : countingCalled.Reached :=
  ((countingLive_reached.call (f := fun s => (s.admitOrderBookSubscription countingSetup ⟨"r", "g", none⟩ false).2)
    (.admitSubscription ⟨"r", "g", none⟩ false)).call .captureSnapshot).call (.requestReset .planned)

/-- All three wait, and once the owner has nothing to do any more none of them does. -/
theorem no_stranded_waiter_called :
    countingCalled.2.mail.pendingAdmissionCount = 1 ∧
    (countingCalled.2.mail.snapshotRequest.map (·.result.isSome) = some false ∧
      countingCalled.2.mail.resetRequest.map (·.result.isSome) = some false) ∧
    (countingCalled.run 30).2.hasWork = false ∧ (∀ r ∈ (countingCalled.run 30).2.mail.admissions, r.result.isSome = true) ∧
      (∀ r, (countingCalled.run 30).2.mail.snapshotRequest = some r → r.result.isSome = true) ∧
      ∀ r, (countingCalled.run 30).2.mail.resetRequest = some r → r.result.isSome = true := by
  have hnone : ∀ t, .lost t ∉ (countingCalled.run 30).2.ticketLog := fun t hm => by
    have hlog : (countingCalled.run 30).2.ticketLog = [.answered .reset 2, .reset, .finished 2, .taken 2, .finished 1, .taken 1, .accepted 2, .accepted 1] := rfl
    rw [hlog] at hm
    simp at hm
  exact ⟨rfl, ⟨rfl, rfl⟩, rfl, ((no_stranded_waiter (countingCalled_reached.run 30)).2.1 rfl rfl).1 (by decide +kernel)
    ⟨fun r _ => hnone _, fun r _ => hnone _, fun r _ => hnone _⟩⟩

/-- A live runtime counts a ticket and loses its input, and is asked for a snapshot. -/
def countingLost : CountingConfig :=
  (countingLive.call (fun s => (s.submit countingSetup (depthInput 7 (some 1)) true).2)).call (·.captureSnapshot.2)

/-- The snapshot request waits for a ticket that never comes, and the owner waits too. -/
theorem waits_for_lost_ticket :
    ¬∀ (s : Impl countingLibrary), Reachable countingSetup .head s → s.hasWork = false →
      ∀ r, s.mail.snapshotRequest = some r → r.result.isSome = true := by
  intro hall
  have hreached : countingLost.Reached := (countingLive_reached.call (.submit (depthInput 7 (some 1)) true)).call .captureSnapshot
  have hanswered := hall countingLost.2 hreached rfl ⟨3, none⟩ rfl
  cases hanswered

/-! ## The published state -/

/-- A runtime that is faulted or out of sync has been started. -/
theorem MailboxInv.started_of_dead {s : Impl L} (h : MailboxInv setup s)
    (hs : s.mail.observation.state = .faulted ∨ s.mail.observation.state = .needsResync) : s.mail.started = true := by
  cases hst : s.mail.started with
  | true => rfl
  | false =>
    rcases (h.lifecycle.unstarted hst).1 with he | he <;> rcases hs with hs | hs <;> rw [he] at hs <;> cases hs

/-- A refusal leaves its mark on the history, and nothing else a submission does. -/
theorem Impl.full_iff_logged (input : RuntimeInput L) (throws : Bool) (s : Impl L) :
    (s.submit setup input throws).1 = some .full ↔ (s.submit setup input throws).2.ticketLog = .full :: s.ticketLog := by
  unfold Impl.submit
  split_ifs <;> simp

/-- A live runtime is synchronized and free of faults, a faulted one says why, no buffer outgrows its capacity; between items a
runtime that is faulted or out of sync is shut and admits nothing until it is reset. As long as the ticket counter has not come round
it is empty too, unless a reset has thrown and left it inputs to work off, and after an overflow no observe call that begins later
comes back with `Live` unless a reset has happened. -/
theorem published_state {ph : Phase (Impl L) (Outcome L)} {s : Impl L} (h : Reachable setup ph s) :
    (s.mail.observation.state = .live →
      s.mail.observation.projectionStatus = .synchronized ∧ s.mail.observation.faultReason = none) ∧
    (s.mail.observation.state = .faulted → s.mail.observation.faultReason ≠ none) ∧
    Occupancy setup.limits s.mail.ingress.length s.book.bootstrap.length s.mail.observation.ingressOccupancy
      s.mail.observation.bootstrapOccupancy ∧
    (HandsFree s.ticketLog → s.mail.observation.state = .faulted ∨ s.mail.observation.state = .needsResync →
      s.mail.accepting = false ∧
      (InRange s.ticketLog → brokenReset s.ticketLog = false → s.mail.ingress = [] ∧ s.book.bootstrap = []) ∧
      ∀ ph' t, Run setup ph s ph' t → ∃ new, t.ticketLog = new ++ s.ticketLog ∧
        (.reset ∉ new → ∀ n, .accepted n ∉ new)) ∧
    (∀ input throws, (s.submit setup input throws).1 = some .full ↔
      (s.submit setup input throws).2.ticketLog = .full :: s.ticketLog) ∧
    (InRange s.ticketLog → Every TicketEvent.Fresh s.ticketLog) := by
  have hi := h.inv
  refine ⟨hi.states.live, hi.states.faulted, hi.occupancy, fun hfree hdead => ?_, fun input throws =>
    s.full_iff_logged input throws, hi.observers.fresh⟩
  obtain ⟨hshut, hempty⟩ := hi.states.shut hdead
  refine ⟨hshut, fun hr hb => ⟨hempty fun _ => hb, hi.idle hr hb hfree hdead⟩, fun ph' t hrun => ?_⟩
  obtain ⟨new, hlog, hgate⟩ := (hrun.advances h (hi.started_of_dead hdead)).1.log
  exact ⟨new, hlog, fun hreset => (hgate hreset hshut).2⟩

/-- The gap is dealt with, and the owner waits again. -/
def afterGap : CountingConfig := observedInReplay.run 5

/-- Behind the gap the runtime is shut and empty. -/
theorem published_state_after_gap :
    afterGap.2.mail.observation.state = .needsResync ∧ afterGap.2.mail.accepting = false ∧ afterGap.2.mail.ingress = [] ∧
      afterGap.2.book.bootstrap = [] := by
  have hlog : afterGap.2.ticketLog =
      [.finished 3, .observed 0 4 .needsResync, .discarded [4] .needsResync .needsResync, .taken 3, .observeStarted 0 4,
        .accepted 4, .accepted 3, .finished 2, .taken 2, .accepted 2, .finished 1, .taken 1, .accepted 1] := rfl
  have hfree : HandsFree afterGap.2.ticketLog := by
    intro t ht
    rw [hlog] at ht ⊢
    simpa using ht
  obtain ⟨-, -, -, hshut, -⟩ := published_state (observedInReplay_reached.run 5)
  obtain ⟨haccepting, hempty, -⟩ := hshut hfree (Or.inr rfl)
  obtain ⟨hingress, hbootstrap⟩ := hempty (hlog ▸ by decide) rfl
  exact ⟨rfl, haccepting, hingress, hbootstrap⟩

/-! A run in which a reset throws. -/

/-- A live runtime is asked for a planned reset; before the owner comes to it one more update is submitted, and the projection's reset
throws. -/
def afterBrokenReset : CountingConfig :=
  (((countingLive.call (fun s => (s.requestReset .planned).2)).run 7).call
    (fun s => (s.submit countingSetup (depthInput 7 (some 1)) false).2)).fail.run 3

theorem afterBrokenReset_reached : afterBrokenReset.Reached :=
  ((((countingLive_reached.call (.requestReset .planned)).run 7).call (.submit (depthInput 7 (some 1)) false)).fail).run 3

/-- The runtime is faulted, the owner is between items, and the update waits in the ingress. -/
theorem faulted_with_ingress :
    ¬∀ (s : Impl countingLibrary), Reachable countingSetup .head s → HandsFree s.ticketLog →
      s.mail.observation.state = .faulted → s.mail.ingress = [] := by
  intro hall
  have hlog : afterBrokenReset.2.ticketLog =
      [.resetThrew [3], .accepted 3, .finished 2, .taken 2, .finished 1, .taken 1, .accepted 2, .accepted 1] := rfl
  have hfree : HandsFree afterBrokenReset.2.ticketLog := by
    intro t ht
    rw [hlog] at ht ⊢
    simpa using ht
  have hempty := hall afterBrokenReset.2 afterBrokenReset_reached hfree rfl
  exact absurd hempty (by decide +kernel)

end MarketDataGateway.MarketRuntime
