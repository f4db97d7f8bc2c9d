import MarketDataGateway.Runtime.Atomicity
import MarketDataGateway.Runtime.Guarantees
import MarketDataGateway.Runtime.Reading

/-!
# A runtime that is fed one input at a time

Without subscribers and without anything else to do, the owner makes of each input what a `Reading` does: the theorems on its pieces
follow the pieces. So a buffer that was filled before the baseline ends as the same updates do that come behind it.
-/

namespace MarketDataGateway.MarketRuntime

open OrderBook Threads Relation

variable {L : ProjectionLibrary} {setup : Setup L} {s t u : Impl L}

/-! ## Nothing else to do -/

/-- What the owner attends to besides the book. -/
structure Duties (L : ProjectionLibrary) where
  subscribers : List Nat
  ingress : List (IngressItem L)
  pendingFault : Option FaultReason
  snapshotRequest : Option (SnapshotRequest L)
  resetRequest : Option ResetRequest
  admissionRequests : List Nat
  started : Bool
  stopped : Bool
  stopRequested : Bool
  shutdownRequested : Bool
  shutdownCompleted : Bool
  removalPending : Bool

def Impl.duties (s : Impl L) : Duties L :=
  ⟨s.roster.subscribers, s.mail.ingress, s.mail.pendingFault, s.mail.snapshotRequest, s.mail.resetRequest, s.mail.admissionRequests,
    s.mail.started, s.mail.stopped, s.mail.stopRequested, s.mail.publicationShutdownRequested, s.mail.publicationShutdownCompleted,
    s.mail.publicationRemovalPending⟩

/-- The owner runs, has no subscriber, and nobody waits for it. -/
structure Duties.Done (d : Duties L) : Prop where
  subscribers : d.subscribers = []
  ingress : d.ingress = []
  pendingFault : d.pendingFault = none
  snapshot : ∀ r, d.snapshotRequest = some r → r.result.isSome = true
  reset : ∀ r, d.resetRequest = some r → r.result.isSome = true
  admissions : d.admissionRequests = []
  started : d.started = true
  stopped : d.stopped = false
  stopRequested : d.stopRequested = false
  shutdown : d.shutdownRequested = true → d.shutdownCompleted = true
  removal : d.removalPending = false

def Impl.Alone (s : Impl L) : Prop := s.duties.Done

/-- Being alone depends on the duties only. -/
theorem Impl.Alone.of_eq (h : s.Alone) (he : t.duties = s.duties) : t.Alone := by
  unfold Impl.Alone
  rw [he]
  exact h

/-- No reset is ready when nobody waits. -/
theorem Impl.Alone.resetReady (h : s.Alone) : s.resetReadyLocked = false := by
  unfold Impl.resetReadyLocked
  split
  · rename_i target kind hr
    exact absurd (h.reset _ hr) (by simp)
  · rfl

/-- No snapshot is ready when nobody waits. -/
theorem Impl.Alone.snapshotReady (h : s.Alone) : s.snapshotReadyLocked = false := by
  unfold Impl.snapshotReadyLocked
  split
  · rename_i target hr
    exact absurd (h.snapshot _ hr) (by simp)
  · rfl

/-- No admission is ready when nobody waits. -/
theorem Impl.Alone.readyAdmission (h : s.Alone) : s.readyAdmission = none := by
  have hqueue : s.mail.admissionRequests = [] := h.admissions
  unfold Impl.readyAdmission
  rw [hqueue]

/-- No shutdown of the publication is due. -/
theorem Impl.Alone.shutdown_done (h : s.Alone) :
    ¬(s.mail.publicationShutdownRequested = true ∧ (!s.mail.publicationShutdownCompleted) = true) := by
  rintro ⟨hr, hc⟩
  have hdone : s.mail.publicationShutdownCompleted = true := h.shutdown hr
  simp [hdone] at hc

/-- The owner has nothing to do. -/
theorem Impl.Alone.hasWork (h : s.Alone) : s.hasWork = false := by
  have hstop : s.mail.stopRequested = false := h.stopRequested
  have hfault : s.mail.pendingFault = none := h.pendingFault
  have hremoval : s.mail.publicationRemovalPending = false := h.removal
  have hingress : s.mail.ingress = [] := h.ingress
  have hshut := h.shutdown_done
  simp only [Impl.hasWork, Impl.admissionReadyLocked, hstop, hfault, hremoval, hingress, h.resetReady, h.snapshotReady,
    h.readyAdmission]
  simpa using hshut

/-- From `s` to `t` the book and what is shown of it have become `r` and `buffer`, and nothing else matters. -/
structure Leads (s : Impl L) (r : Reading L) (buffer : List (DepthUpdateInput L)) (t : Impl L) : Prop where
  reading : t.reading = r
  buffer : t.book.bootstrap = buffer
  duties : t.duties = s.duties

/-- A state leads to itself. -/
theorem Leads.refl (s : Impl L) : Leads s s.reading s.book.bootstrap s := ⟨rfl, rfl, rfl⟩

/-! ## Faults and the published state -/

/-- Nothing fails. -/
def Calm (w : Outcome L) : Prop := w.throws = false

/-- Discarding an empty ingress changes nothing. -/
theorem Impl.Alone.discardIngress (h : s.Alone) (t : Impl L) (ht : t.duties = s.duties) : t.discardIngressLocked = t := by
  have hingress : t.mail.ingress = [] := (h.of_eq ht).ingress
  simp [Impl.discardIngressLocked, hingress]

/-- Without a snapshot request there is none to answer. -/
theorem Impl.Alone.answerSnapshot (h : s.Alone) (error : SnapshotRequestError) (t : Impl L) (ht : t.duties = s.duties) :
    t.answerSnapshotLocked error = t := by
  unfold Impl.answerSnapshotLocked
  split
  · rename_i target hr
    exact absurd ((h.of_eq ht).snapshot _ hr) (by simp)
  · rfl

/-- Without subscribers the sweep changes nothing. -/
theorem sweep_alone (h : s.Alone) :
    sweepClosedSubscribers.Yields Calm (fun _ t => Leads s s.reading s.book.bootstrap t) s := by
  have hnone : s.roster.subscribers = [] := h.subscribers
  refine Program.Yields.bind (Q := fun xs t => xs = [] ∧ t = s) (Program.yields_read ⟨hnone, rfl⟩) ?_
  rintro _ t ⟨rfl, rfl⟩
  refine Program.yields_modify ⟨rfl, rfl, ?_⟩
  unfold Impl.duties
  rw [hnone]

/-- Without subscribers there is no session to end. -/
theorem terminalize_alone (h : s.Alone) (reason : ConsumerGapReason) (action : RecoveryAction) (generation : Option Nat) :
    (terminalizeActiveSubscribers reason action generation).Yields Calm (fun _ t => Leads s s.reading s.book.bootstrap t) s := by
  refine Program.Yields.bind (sweep_alone h) fun _ t ht => ?_
  refine Program.Yields.bind (Q := fun _ t => Leads s s.reading s.book.bootstrap t) (Program.yields_atomic fun _ _ => ht)
    fun sampled t ht => ?_
  have hnone : t.roster.subscribers = [] := (h.of_eq ht.duties).subscribers
  refine Program.Yields.bind (Q := fun xs t => xs = [] ∧ Leads s s.reading s.book.bootstrap t) (Program.yields_read ⟨hnone, ht⟩) ?_
  rintro _ t ⟨rfl, ht⟩
  exact ht

/-- A fault shows in the reading and empties the buffer. -/
theorem fault_alone (h : s.Alone) (reason : FaultReason) (error : Option L.AdapterError) :
    (transitionToFault reason error).Yields Calm (fun _ t => Leads s (s.reading.fault reason error) [] t) s := by
  refine Program.Yields.bind (Q := fun _ t => t = s) (Program.yields_read rfl) ?_
  rintro generation t rfl
  refine Program.Yields.bind (terminalize_alone h _ _ _) fun _ u hu => Program.yields_modify ?_
  have hfault : ∃ v : Impl L, u.faultLocked reason error = v.discardIngressLocked.answerSnapshotLocked .faulted ∧
      Leads u (u.reading.fault reason error) [] v := ⟨_, rfl, rfl, rfl, rfl⟩
  obtain ⟨v, he, hleads⟩ := hfault
  have hduties := hleads.duties.trans hu.duties
  rw [he, h.discardIngress v hduties, h.answerSnapshot _ v hduties]
  exact ⟨by rw [hleads.reading, hu.reading], hleads.buffer, hduties⟩

/-- Publishing the projection's state shows in the reading only. -/
theorem publishState_alone (h : s.Alone) :
    publishProjectionState.Yields Calm (fun _ t => Leads s s.reading.publish s.book.bootstrap t) s := by
  refine Program.yields_modify ?_
  by_cases hgap : L.status s.book.projection = .needsResync
  · have hpublish : ∃ v : Impl L, s.publishProjectionStateLocked = v.discardIngressLocked ∧
        Leads s { s.reading.publish with accepting := false } s.book.bootstrap v := ⟨_, if_pos hgap, rfl, rfl, rfl⟩
    obtain ⟨v, he, hleads⟩ := hpublish
    rw [he, h.discardIngress v hleads.duties]
    refine ⟨hleads.reading.trans ?_, hleads.buffer, hleads.duties⟩
    unfold Reading.publish
    rw [if_pos (show L.status s.reading.projection = .needsResync from hgap)]
  · have hpublish : ∃ v : Impl L, s.publishProjectionStateLocked = v ∧
        Leads s { s.reading.publish with accepting := s.reading.accepting } s.book.bootstrap v :=
      ⟨_, if_neg hgap, rfl, rfl, rfl⟩
    obtain ⟨v, he, hleads⟩ := hpublish
    rw [he]
    refine ⟨hleads.reading.trans ?_, hleads.buffer, hleads.duties⟩
    unfold Reading.publish
    rw [if_neg (show ¬L.status s.reading.projection = .needsResync from hgap)]

/-! ## Updates -/

/-- Without subscribers an applied update is published to nobody. -/
theorem publishAppliedUpdate_alone (h : s.Alone) (input : DepthUpdateInput L) :
    (publishAppliedUpdate input).Yields Calm (fun _ t => Leads s s.reading s.book.bootstrap t) s := by
  refine Program.Yields.bind (Q := fun _ t => t = s) (Program.yields_read rfl) ?_
  rintro shutDown t rfl
  split
  · exact Leads.refl t
  · refine Program.Yields.bind (sweep_alone h) fun _ u hu => ?_
    have hnone : u.roster.subscribers = [] := (h.of_eq hu.duties).subscribers
    refine Program.Yields.bind (Q := fun xs v => xs = [] ∧ Leads t t.reading t.book.bootstrap v) (Program.yields_read ⟨hnone, hu⟩) ?_
    rintro _ v ⟨rfl, hv⟩
    exact hv

/-- Without subscribers the disposition of an application changes nothing. -/
theorem publishDisposition_alone (h : s.Alone) (input : DepthUpdateInput L) (disposition : ApplyDisposition) :
    (publishDisposition input disposition).Yields Calm (fun _ t => Leads s s.reading s.book.bootstrap t) s := by
  cases disposition with
  | applied => exact publishAppliedUpdate_alone h input
  | gapDetected => exact terminalize_alone h _ _ _
  | ignoredStale | ignoredDuplicate | rejectedWrongState => exact Leads.refl s

/-- What a call of the projection leaves is what the reading makes of the update, but for the fault or the publication to come. -/
def TakesUpdate (setup : Setup L) (input : DepthUpdateInput L) (s : Impl L) (call : ApplyCall L) (t : Impl L) : Prop :=
  t.duties = s.duties ∧ t.book.bootstrap = s.book.bootstrap ∧
    match call with
    | .generationMismatch => t.reading.fault .internalError none = s.reading.apply setup input
    | .threw => False
    | .adapterError error => t.reading.fault .adapterError (some error) = s.reading.apply setup input
    | .result result => { t.reading with lastApply := some result }.publish = s.reading.apply setup input

/-- The call into the library is the update that the reading takes. -/
theorem applyToProjection_alone (input : DepthUpdateInput L) {w : Outcome L} (hw : Calm w) (s : Impl L) :
    TakesUpdate setup input s (s.applyToProjection setup input w).1 (s.applyToProjection setup input w).2 := by
  unfold Impl.applyToProjection
  split
  · rename_i hmismatch
    refine ⟨rfl, rfl, ?_⟩
    unfold Reading.apply
    exact (if_pos hmismatch).symm
  · rename_i hmatch
    rw [if_neg (by rw [hw]; exact Bool.false_ne_true)]
    unfold TakesUpdate Reading.apply
    rw [if_neg (show ¬(s.reading.generation.isSome ∧ input.provenance.connectionGeneration.isSome ∧
      s.reading.generation ≠ input.provenance.connectionGeneration) from hmatch)]
    have hreading : s.reading.projection = s.book.projection := rfl
    rw [hreading]
    cases hadapt : L.adaptDepthUpdate input.update (L.numericSpec s.book.projection) setup.expectedIdentity with
    | error error => exact ⟨rfl, rfl, rfl⟩
    | ok batch =>
      rcases happly : L.applyTo batch s.book.projection with ⟨_ | _, projection⟩
      · refine ⟨?_, ?_, ?_⟩ <;> simp only [happly] <;> rfl
      · refine ⟨?_, ?_, ?_⟩ <;> simp only [happly] <;> rfl

/-- The update is applied; a buffer is gone only when the matter has ended. -/
theorem applyUpdate_alone (h : s.Alone) (input : DepthUpdateInput L) :
    (applyUpdate setup input).Yields Calm (fun c t => c = .returned ∧ ∃ buffer, Leads s (s.reading.apply setup input) buffer t ∧
      (buffer = s.book.bootstrap ∨ buffer = [] ∧ (s.reading.apply setup input).ends = true)) s := by
  refine Program.Yields.bind (Q := TakesUpdate setup input s) (Program.yields_atomic fun w hw => applyToProjection_alone input hw s)
    fun call t ht => ?_
  obtain ⟨hduties, hbuffer, hcall⟩ := ht
  have halone := h.of_eq hduties
  cases call with
  | generationMismatch =>
    refine Program.Yields.bind (fault_alone halone _ _) fun _ u hu => ⟨rfl, [], ⟨?_, hu.buffer, hu.duties.trans hduties⟩, .inr ⟨rfl, ?_⟩⟩
    · rw [hu.reading]; exact hcall
    · rw [← hcall]; exact Reading.fault_ends _ _ _
  | threw => exact hcall.elim
  | adapterError error =>
    refine Program.Yields.bind (fault_alone halone _ _) fun _ u hu => ⟨rfl, [], ⟨?_, hu.buffer, hu.duties.trans hduties⟩, .inr ⟨rfl, ?_⟩⟩
    · rw [hu.reading]; exact hcall
    · rw [← hcall]; exact Reading.fault_ends _ _ _
  | result result =>
    refine Program.Yields.bind (Q := fun _ u => Leads s { t.reading with lastApply := some result } s.book.bootstrap u)
      (Program.yields_modify ⟨rfl, hbuffer, hduties⟩) fun _ u hu => ?_
    refine Program.Yields.bind (publishDisposition_alone (h.of_eq hu.duties) input _) fun _ v hv => ?_
    have hduties' := hv.duties.trans hu.duties
    refine Program.Yields.bind (publishState_alone (h.of_eq hduties')) fun _ v' hv' =>
      ⟨rfl, s.book.bootstrap, ⟨?_, ?_, hv'.duties.trans hduties'⟩, .inl rfl⟩
    · rw [hv'.reading, hv.reading, hu.reading]; exact hcall
    · rw [hv'.buffer, hv.buffer, hu.buffer]

/-! ## Items -/

theorem replayEnds_reading (s : Impl L) : s.replayEnds = s.reading.ends := rfl

/-- The buffer is replayed, and gone. -/
theorem replayBootstrap_alone (bound : Nat) (h : s.Alone) (hb : s.book.bootstrap.length ≤ bound) :
    (replayBootstrap setup bound).Yields Calm
      (fun c t => c = .returned ∧ Leads s (s.reading.replay setup s.book.bootstrap) [] t) s := by
  induction bound generalizing s with
  | zero =>
    have hnil : s.book.bootstrap = [] := List.length_eq_zero_iff.mp (Nat.le_zero.mp hb)
    refine ⟨rfl, ?_, hnil, rfl⟩
    rw [hnil]
    rfl
  | succ bound ih =>
    cases hbuffer : s.book.bootstrap with
    | nil =>
      refine Program.Yields.bind (Q := fun front t => front = none ∧ t = s) (Program.yields_atomic fun w _ => ?_) ?_
      · simp [Impl.popBootstrap, hbuffer]
      · rintro _ t ⟨rfl, rfl⟩
        exact ⟨rfl, rfl, hbuffer, rfl⟩
    | cons input rest =>
      refine Program.Yields.bind (Q := fun front t => front = some input ∧ Leads s s.reading rest t)
        (Program.yields_atomic fun w _ => ?_) ?_
      · simp only [Impl.popBootstrap, hbuffer]
        exact ⟨trivial, rfl, rfl, rfl⟩
      · rintro _ t ⟨rfl, ht⟩
        refine Program.Yields.bind (applyUpdate_alone (h.of_eq ht.duties) input) ?_
        rintro _ u ⟨rfl, buffer, hu, hcase⟩
        rw [ht.reading] at hu hcase
        rw [ht.buffer] at hcase
        have hduties := hu.duties.trans ht.duties
        refine Program.Yields.bind (Q := fun ends v => ends = (s.reading.apply setup input).ends ∧ v = u)
          (Program.yields_read ⟨by rw [replayEnds_reading, hu.reading], rfl⟩) ?_
        rintro _ v ⟨rfl, rfl⟩
        unfold Reading.replay
        cases hends : (s.reading.apply setup input).ends with
        | true =>
          refine Program.Yields.bind (Q := fun _ u' => Leads s (s.reading.apply setup input) [] u')
            (Program.yields_modify ⟨hu.reading, rfl, hduties⟩) fun _ u' hu' => ⟨rfl, hu'⟩
        | false =>
          -- an update that does not end the matter leaves the rest of the buffer
          have hrest : v.book.bootstrap = rest := by
            rw [hu.buffer]
            exact hcase.resolve_right fun hc => by rw [hends] at hc; exact Bool.false_ne_true hc.2
          rw [hbuffer, List.length_cons] at hb
          refine (ih (h.of_eq hduties) (by rw [hrest]; omega)).mono fun c u' hu' => ⟨hu'.1, ?_, hu'.2.buffer, hu'.2.duties.trans hduties⟩
          rw [hu'.2.reading, hu.reading, hrest]
          rfl

/-- What is left to be read once the projection has taken the baseline; nothing if the call has thrown. -/
def Reading.afterInstall (setup : Setup L) (buffer : List (DepthUpdateInput L)) (input : SnapshotInput L) (r : Reading L) :
    InstallCall L → Option (Reading L)
  | .threw => none
  | .adapterError error => some (r.fault .adapterError (some error))
  | .result result =>
    some (if L.installed result then
      ({ r with
        generation := input.provenance.connectionGeneration
        observedGeneration := input.provenance.connectionGeneration }.replay setup buffer).publish
      else r.fault .projectionRejected none)

/-- The baseline is installed, with the buffer behind it. -/
theorem processSnapshot_alone (setup : Setup L) (h : s.Alone) (input : SnapshotInput L) :
    (processSnapshot setup input).Yields Calm
      (fun c t => c = .returned ∧ Leads s (s.reading.install setup s.book.bootstrap input) [] t) s := by
  refine Program.Yields.bind (Q := fun call t => t.duties = s.duties ∧ t.book.bootstrap = s.book.bootstrap ∧
    t.reading.afterInstall setup s.book.bootstrap input call = some (s.reading.install setup s.book.bootstrap input))
    (Program.yields_atomic fun w hw => ?_) fun call t ht => ?_
  · unfold Impl.installBaseline Reading.install
    rw [if_neg (by rw [hw]; exact Bool.false_ne_true)]
    have hreading : s.reading.projection = s.book.projection := rfl
    rw [hreading]
    cases hadapt : L.adaptExchangeDepthSnapshot input.snapshot (L.numericSpec s.book.projection) setup.expectedIdentity with
    | error error => exact ⟨rfl, rfl, rfl⟩
    | ok baseline =>
      rcases hinstall : L.installInto baseline s.book.projection with ⟨_ | _, projection⟩
      · refine ⟨?_, ?_, ?_⟩ <;> simp only [hinstall] <;> rfl
      · refine ⟨?_, ?_, ?_⟩ <;> simp only [hinstall] <;> rfl
  · obtain ⟨hduties, hbuffer, hcall⟩ := ht
    have halone := h.of_eq hduties
    cases call with
    | threw => cases hcall
    | adapterError error =>
      refine Program.Yields.bind (fault_alone halone _ _) fun _ u hu => ⟨rfl, ?_, hu.buffer, hu.duties.trans hduties⟩
      rw [hu.reading]
      exact Option.some.inj hcall
    | result result =>
      refine Program.Yields.bind (Q := fun _ u => Leads s t.reading s.book.bootstrap u)
        (Program.yields_modify ⟨rfl, hbuffer, hduties⟩) fun _ u hu => ?_
      have halone' := h.of_eq hu.duties
      rw [← Option.some.inj hcall]
      cases hinstalled : L.installed result with
      | false =>
        refine Program.Yields.bind (fault_alone halone' _ _) fun _ v hv => ⟨rfl, ?_, hv.buffer, hv.duties.trans hu.duties⟩
        rw [hv.reading, hu.reading]
        rfl
      | true =>
        refine Program.Yields.bind (Q := fun _ v => Leads s { t.reading with
            generation := input.provenance.connectionGeneration
            observedGeneration := input.provenance.connectionGeneration } s.book.bootstrap v)
          (Program.yields_modify ⟨by rw [← hu.reading]; rfl, hu.buffer, hu.duties⟩) fun _ v hv => ?_
        refine Program.Yields.bind (Q := fun n v' => n = v.book.bootstrap.length ∧ v' = v) (Program.yields_read ⟨rfl, rfl⟩) ?_
        rintro _ v' ⟨rfl, rfl⟩
        refine Program.Yields.bind (replayBootstrap_alone _ (h.of_eq hv.duties) (Nat.le_refl _)) ?_
        rintro _ u' ⟨rfl, hu'⟩
        have hduties' := hu'.duties.trans hv.duties
        refine Program.Yields.bind (publishState_alone (h.of_eq hduties')) fun _ w hw => ⟨rfl, ?_, ?_, hw.duties.trans hduties'⟩
        · rw [hw.reading, hu'.reading, hv.reading, hv.buffer]
          rfl
        · rw [hw.buffer, hu'.buffer]

/-- Before the baseline an update joins the buffer. -/
theorem processDepthUpdate_waiting (setup : Setup L) (h : s.Alone) (hstatus : L.status s.book.projection = .awaitingBaseline)
    (hroom : s.book.bootstrap.length < setup.limits.bootstrapCapacity) (input : DepthUpdateInput L) :
    (processDepthUpdate setup input).Yields Calm
      (fun c t => c = .returned ∧ Leads s s.reading.publish (s.book.bootstrap ++ [input]) t) s := by
  refine Program.Yields.bind (Q := fun call t => call = .buffered ∧ Leads s s.reading (s.book.bootstrap ++ [input]) t)
    (Program.yields_atomic fun w hw => ?_) ?_
  · unfold Impl.bufferDepthUpdate
    dsimp only
    rw [if_pos hstatus, if_neg (Nat.ne_of_lt hroom), if_neg (by rw [hw]; exact Bool.false_ne_true)]
    exact ⟨rfl, rfl, rfl, rfl⟩
  · rintro _ t ⟨rfl, ht⟩
    refine Program.Yields.bind (publishState_alone (h.of_eq ht.duties)) fun _ u hu => ⟨rfl, ?_, ?_, hu.duties.trans ht.duties⟩
    · rw [hu.reading, ht.reading]
    · rw [hu.buffer, ht.buffer]

/-- Behind the baseline an update is applied. -/
theorem processDepthUpdate_open (setup : Setup L) (h : s.Alone) (hstatus : L.status s.book.projection ≠ .awaitingBaseline)
    (hbuffer : s.book.bootstrap = []) (input : DepthUpdateInput L) :
    (processDepthUpdate setup input).Yields Calm
      (fun c t => c = .returned ∧ Leads s (s.reading.apply setup input) [] t) s := by
  refine Program.Yields.bind (Q := fun call t => call = .apply ∧ Leads s s.reading s.book.bootstrap t)
    (Program.yields_atomic fun w hw => ?_) ?_
  · unfold Impl.bufferDepthUpdate
    dsimp only
    rw [if_neg hstatus]
    exact ⟨rfl, rfl, rfl, rfl⟩
  · rintro _ t ⟨rfl, ht⟩
    refine (applyUpdate_alone (h.of_eq ht.duties) input).mono ?_
    rintro c u ⟨rfl, buffer, hu, hcase⟩
    rw [ht.reading] at hu
    rw [ht.buffer, hbuffer] at hcase
    exact ⟨rfl, hu.reading, by rw [hu.buffer]; exact hcase.elim id And.left, hu.duties.trans ht.duties⟩

/-! ## Rounds -/

/-- An accepted input is the next piece of work. -/
theorem takeWork_submitted (setup : Setup L) (h : s.Alone) (ha : s.mail.accepting = true) (input : RuntimeInput L) :
    ∃ ticket, (s.submit setup input false).2.hasWork = true ∧ (s.submit setup input false).2.takeWork.1 = .item ⟨ticket, input⟩ ∧
      Leads s s.reading s.book.bootstrap (s.submit setup input false).2.takeWork.2 := by
  have hstarted : s.mail.started = true := h.started
  have hstopped : s.mail.stopped = false := h.stopped
  have hstop : s.mail.stopRequested = false := h.stopRequested
  have hingress : s.mail.ingress = [] := h.ingress
  have hfault : s.mail.pendingFault = none := h.pendingFault
  have hremoval : s.mail.publicationRemovalPending = false := h.removal
  have hroom : s.mail.ingress.length ≠ setup.limits.ingressCapacity := by
    rw [hingress]
    exact Nat.ne_of_lt setup.limits.ingress_pos
  have hsubmit : ∃ v : Impl L, (s.submit setup input false).2 = v ∧ v.mail.ingress = [⟨s.nextTicket, input⟩] ∧
      v.reading = s.reading ∧ v.book = s.book ∧ { v.duties with ingress := [] } = s.duties ∧
      v.resetReadyLocked = s.resetReadyLocked ∧ v.readyAdmission = s.readyAdmission ∧
      v.snapshotReadyLocked = s.snapshotReadyLocked := by
    unfold Impl.submit
    rw [if_neg (by simp [hstopped]), if_neg (by simp [hstarted]), if_neg (by simp [hstop]), if_neg (by simp [ha]), if_neg hroom,
      if_neg Bool.false_ne_true]
    refine ⟨_, rfl, ?_, rfl, rfl, ?_, rfl, rfl, rfl⟩
    · show s.mail.ingress ++ _ = _
      rw [hingress]
      rfl
    · unfold Impl.duties
      rw [hingress]
  obtain ⟨v, he, hitem, hreading, hbook, hduties, hreset, hadmission, hsnapshot⟩ := hsubmit
  have hshut : ¬(v.mail.publicationShutdownRequested = true ∧ (!v.mail.publicationShutdownCompleted) = true) := by
    have hrequested := congrArg Duties.shutdownRequested hduties
    have hcompleted := congrArg Duties.shutdownCompleted hduties
    rw [show v.mail.publicationShutdownRequested = _ from hrequested, show v.mail.publicationShutdownCompleted = _ from hcompleted]
    exact h.shutdown_done
  have hfault' : v.mail.pendingFault = none := (congrArg Duties.pendingFault hduties).trans hfault
  have hremoval' : v.mail.publicationRemovalPending = false := (congrArg Duties.removalPending hduties).trans hremoval
  rw [he]
  refine ⟨s.nextTicket, by simp [Impl.hasWork, hitem], ?_⟩
  unfold Impl.takeWork
  rw [if_neg hshut, hfault', hreset, h.resetReady, hadmission, h.readyAdmission, hsnapshot, h.snapshotReady, hremoval', hitem]
  exact ⟨rfl, hreading, congrArg Book.bootstrap hbook, hduties⟩

/-- A round with an input that has been accepted. -/
theorem round_alone (h : s.Alone) (ha : s.mail.accepting = true) {input : RuntimeInput L} {r : Reading L}
    {buffer : List (DepthUpdateInput L)}
    (hinput : ∀ t, Leads s s.reading s.book.bootstrap t →
      (processInput setup input).Yields Calm (fun c u => c = .returned ∧ Leads t r buffer u) t) :
    (ownerRound setup).Yields Calm (fun again u => again = true ∧ Leads s r buffer u) (s.submit setup input false).2 := by
  obtain ⟨ticket, hwork, htaken, hleads⟩ := takeWork_submitted setup h ha input
  refine Program.Yields.bind (Q := fun work t => work = .item ⟨ticket, input⟩ ∧ Leads s s.reading s.book.bootstrap t)
    (Program.yields_await hwork fun _ _ => ⟨htaken, hleads⟩) ?_
  rintro _ t ⟨rfl, ht⟩
  have hitem : (processItem setup ⟨ticket, input⟩).Yields Calm (fun _ u => Leads s r buffer u) t := by
    refine Program.Yields.bind (hinput t ht) ?_
    rintro _ u ⟨rfl, hu⟩
    exact Program.yields_modify ⟨hu.reading, hu.buffer, hu.duties.trans ht.duties⟩
  exact Program.Yields.bind hitem fun _ u hu => ⟨rfl, hu⟩

/-! ## Inputs one after another -/

/-- The owner works, by itself, until it has nothing to do. -/
def Drains (setup : Setup L) (W : Outcome L → Prop) (s t : Impl L) : Prop :=
  ReflTransGen (fun a b => (ownerRound setup).Evaluates W a true b) s t ∧ t.hasWork = false

/-- The inputs are submitted one after another, each when the owner is done with those before it. -/
inductive Fed (setup : Setup L) (W : Outcome L → Prop) : List (RuntimeInput L) → Impl L → Impl L → Prop where
  | none {s : Impl L} : Fed setup W [] s s
  | next {input : RuntimeInput L} {rest : List (RuntimeInput L)} {s t u : Impl L} (h : Drains setup W (s.submit setup input false).2 t)
      (hr : Fed setup W rest t u) : Fed setup W (input :: rest) s u

/-- Feeding the inputs comes to an end, and wherever it does `Q` holds. -/
def Feeds (setup : Setup L) (inputs : List (RuntimeInput L)) (s : Impl L) (Q : Impl L → Prop) : Prop :=
  (∃ t, Fed setup Calm inputs s t) ∧ ∀ t, Fed setup Calm inputs s t → Q t

/-- Nothing to submit is submitted. -/
theorem Feeds.none {Q : Impl L → Prop} (h : Q s) : Feeds setup [] s Q := by
  refine ⟨⟨s, .none⟩, fun t ht => ?_⟩
  cases ht
  exact h

/-- The first input is drained, and the rest is submitted behind it. -/
theorem Feeds.next {Q : Impl L → Prop} {input : RuntimeInput L} {rest : List (RuntimeInput L)}
    (h : ∃ t, Drains setup Calm (s.submit setup input false).2 t)
    (hr : ∀ t, Drains setup Calm (s.submit setup input false).2 t → Feeds setup rest t Q) : Feeds setup (input :: rest) s Q := by
  obtain ⟨t, ht⟩ := h
  obtain ⟨u, hu⟩ := (hr t ht).1
  refine ⟨⟨u, .next ht hu⟩, fun v hv => ?_⟩
  cases hv with
  | next hd hrest => exact (hr _ hd).2 v hrest

/-- An owner without work goes nowhere. -/
theorem no_round {W : Outcome L → Prop} {again : Bool} (hw : s.hasWork = false) : ¬(ownerRound setup).Evaluates W s again t := by
  intro h
  obtain ⟨work, u, hawait, -⟩ := Program.evaluates_bind.mp h
  rw [(Program.evaluates_await.mp hawait).1] at hw
  cases hw

/-- An owner without work stays where it is. -/
theorem drains_idle {W : Outcome L → Prop} (hw : s.hasWork = false) (h : Drains setup W s t) : t = s := by
  cases h.1.cases_head with
  | inl he => exact he.symm
  | inr hstep =>
    obtain ⟨u, hu, -⟩ := hstep
    exact absurd hu (no_round hw)

/-- One round, and the owner is done. -/
theorem drains_of_round {Q : Impl L → Prop} (hw : s.hasWork = true)
    (h : (ownerRound setup).Yields Calm (fun again t => again = true ∧ t.hasWork = false ∧ Q t) s) :
    (∃ t, Drains setup Calm s t) ∧ ∀ t, Drains setup Calm s t → Q t := by
  constructor
  · obtain ⟨again, t, he⟩ := h.exists (w := ⟨none, false, s.book.projection⟩) rfl
    obtain ⟨rfl, ht, -⟩ := h.ends he
    exact ⟨t, .single he, ht⟩
  · rintro t ⟨hpath, ht⟩
    cases hpath.cases_head with
    | inl he =>
      rw [he, ht] at hw
      cases hw
    | inr hstep =>
      obtain ⟨u, he, hrest⟩ := hstep
      obtain ⟨-, hu, hQ⟩ := h.ends he
      rw [drains_idle hu ⟨hrest, ht⟩]
      exact hQ

/-- An input that is accepted is all that happens until the next. -/
theorem drains_accepted (setup : Setup L) (h : s.Alone) (ha : s.mail.accepting = true) (input : RuntimeInput L) {r : Reading L}
    {buffer : List (DepthUpdateInput L)}
    (hinput : ∀ t, Leads s s.reading s.book.bootstrap t →
      (processInput setup input).Yields Calm (fun c u => c = .returned ∧ Leads t r buffer u) t) :
    (∃ t, Drains setup Calm (s.submit setup input false).2 t) ∧ ∀ t, Drains setup Calm (s.submit setup input false).2 t → Leads s r buffer t := by
  obtain ⟨ticket, hwork, -⟩ := takeWork_submitted setup h ha input
  refine drains_of_round hwork ((round_alone h ha hinput).mono ?_)
  rintro again u ⟨rfl, hu⟩
  exact ⟨rfl, (h.of_eq hu.duties).hasWork, hu⟩

/-- An input that is refused changes nothing. -/
theorem drains_refused (setup : Setup L) (h : s.Alone) (ha : s.mail.accepting = false) (input : RuntimeInput L) :
    (∃ t, Drains setup Calm (s.submit setup input false).2 t) ∧ ∀ t, Drains setup Calm (s.submit setup input false).2 t → t = s := by
  have hstarted : s.mail.started = true := h.started
  have hstopped : s.mail.stopped = false := h.stopped
  have hstop : s.mail.stopRequested = false := h.stopRequested
  have hsame : (s.submit setup input false).2 = s := by
    unfold Impl.submit
    rw [if_neg (by simp [hstopped]), if_neg (by simp [hstarted]), if_neg (by simp [hstop]), if_pos (by simp [ha])]
  rw [hsame]
  exact ⟨⟨s, .refl, h.hasWork⟩, fun t ht => drains_idle h.hasWork ht⟩

/-- Updates join the buffer, and the baseline is installed with all of them behind it. -/
theorem feeds_buffered (setup : Setup L) (h : s.Alone) (hr : s.reading.Waiting) (updates : List (DepthUpdateInput L))
    (hroom : s.book.bootstrap.length + updates.length ≤ setup.limits.bootstrapCapacity) (input : SnapshotInput L) :
    Feeds setup (updates.map .depthUpdate ++ [.snapshot input]) s
      fun t => t.reading = s.reading.install setup (s.book.bootstrap ++ updates) input := by
  induction updates generalizing s with
  | nil =>
    obtain ⟨hexists, hends⟩ := drains_accepted setup h hr.accepting (.snapshot input) fun t ht => by
      have hdone := processSnapshot_alone setup (h.of_eq ht.duties) input
      rw [ht.reading, ht.buffer] at hdone
      exact hdone
    refine Feeds.next hexists fun t ht => Feeds.none ?_
    rw [(hends t ht).reading, List.append_nil]
  | cons update rest ih =>
    rw [List.length_cons] at hroom
    obtain ⟨hexists, hends⟩ := drains_accepted setup h hr.accepting (.depthUpdate update) fun t ht => by
      have hstatus : L.status t.book.projection = .awaitingBaseline := by
        rw [show t.book.projection = s.book.projection from congrArg Reading.projection ht.reading]
        exact hr.status
      have hdone := processDepthUpdate_waiting setup (h.of_eq ht.duties) hstatus (by rw [ht.buffer]; omega) update
      rw [ht.reading, ht.buffer] at hdone
      exact hdone
    refine Feeds.next hexists fun t ht => ?_
    obtain ⟨hreading, hbuffer, hduties⟩ := hends t ht
    have hfed := ih (h.of_eq hduties) (by rw [hreading]; exact hr.publish)
      (by rw [hbuffer, List.length_append, List.length_singleton]; omega)
    rw [hreading, hbuffer, hr.alike.install, List.append_assoc, List.singleton_append] at hfed
    exact hfed

/-- Behind its baseline a book takes the updates one after another. -/
theorem feeds_updates (hL : L.Lawful) (h : s.Alone) (hbuffer : s.book.bootstrap = []) (hr : s.reading.accepting = true → s.reading.Open)
    (updates : List (DepthUpdateInput L)) :
    Feeds setup (updates.map .depthUpdate) s fun t => t.reading = updates.foldl (Reading.feed setup) s.reading := by
  induction updates generalizing s with
  | nil => exact Feeds.none rfl
  | cons update rest ih =>
    rw [List.foldl_cons]
    cases ha : s.reading.accepting with
    | false =>
      obtain ⟨hexists, hends⟩ := drains_refused setup h ha (.depthUpdate update)
      refine Feeds.next hexists fun t ht => ?_
      rw [hends t ht, Reading.feed, ha]
      exact ih h hbuffer hr
    | true =>
      have hopen := hr ha
      obtain ⟨hexists, hends⟩ := drains_accepted setup h ha (.depthUpdate update) fun t ht => by
        have hstatus : L.status t.book.projection ≠ .awaitingBaseline := by
          rw [show t.book.projection = s.book.projection from congrArg Reading.projection ht.reading]
          exact hopen.baseline
        have hdone := processDepthUpdate_open setup (h.of_eq ht.duties) hstatus (by rw [ht.buffer, hbuffer]) update
        rw [ht.reading] at hdone
        exact hdone
      refine Feeds.next hexists fun t ht => ?_
      obtain ⟨hreading, hnone, hduties⟩ := hends t ht
      rw [Reading.feed, if_pos ha, ← hreading]
      refine ih (h.of_eq hduties) hnone fun ha' => ?_
      rw [hreading] at ha' ⊢
      rcases (hopen.apply setup hL update).2 with ⟨-, hshut⟩ | ⟨-, hopen'⟩
      · rw [hshut] at ha'
        cases ha'
      · exact hopen'

/-- The baseline comes first. -/
theorem feeds_direct (setup : Setup L) (hL : L.Lawful) (h : s.Alone) (hbuffer : s.book.bootstrap = []) (hr : s.reading.Waiting)
    (updates : List (DepthUpdateInput L)) (input : SnapshotInput L) :
    Feeds setup (.snapshot input :: updates.map .depthUpdate) s
      fun t => t.reading = updates.foldl (Reading.feed setup) (s.reading.install setup [] input) := by
  obtain ⟨hexists, hends⟩ := drains_accepted setup h hr.accepting (.snapshot input) fun t ht => by
    have hdone := processSnapshot_alone setup (h.of_eq ht.duties) input
    rw [ht.reading, ht.buffer, hbuffer] at hdone
    exact hdone
  refine Feeds.next hexists fun t ht => ?_
  obtain ⟨hreading, hnone, hduties⟩ := hends t ht
  rw [← hreading]
  refine feeds_updates hL (h.of_eq hduties) hnone (fun ha => ?_) updates
  rw [hreading] at ha ⊢
  exact hr.install hL input ha

/-! ## Fresh runtimes -/

/-- Every request on record has its result. -/
def Impl.Answered (s : Impl L) : Prop :=
  (∀ r ∈ s.mail.admissions, r.result.isSome = true) ∧ (∀ r, s.mail.snapshotRequest = some r → r.result.isSome = true) ∧
    ∀ r, s.mail.resetRequest = some r → r.result.isSome = true

/-- A runtime that waits for its first input since its start or its last reset; it has no subscriber, and no caller waits for it. -/
structure Fresh (setup : Setup L) (s : Impl L) : Prop where
  reached : Reachable setup .head s
  idle : s.hasWork = false
  answered : s.Answered
  subscribers : s.roster.subscribers = []
  accepting : s.mail.accepting = true
  state : s.mail.observation.state = .buffering
  status : L.status s.book.projection = .awaitingBaseline
  bootstrap : s.book.bootstrap = []

/-- A fresh runtime waits for its baseline. -/
theorem Fresh.waiting (h : Fresh setup s) : s.reading.Waiting := ⟨h.accepting, h.state, h.status⟩

/-- Nobody waits for a fresh runtime. -/
theorem Fresh.alone (h : Fresh setup s) : s.Alone := by
  have hi := h.reached.inv
  obtain ⟨hanswered, hsnapshot, hreset⟩ := h.answered
  have hshut : s.mail.publicationShutdownRequested = true → s.mail.publicationShutdownCompleted = true :=
    Impl.shutdownCompleted_of_idle h.idle
  have hidle := h.idle
  simp only [Impl.hasWork, Bool.or_eq_false_iff] at hidle
  obtain ⟨⟨⟨⟨⟨⟨⟨hstop, -⟩, hfault⟩, -⟩, -⟩, -⟩, hremoval⟩, hingress⟩ := hidle
  have hqueue : s.mail.admissionRequests = [] := by
    cases hq : s.mail.admissionRequests with
    | nil => rfl
    | cons i rest =>
      obtain ⟨r, hr, hn⟩ := h.reached.admissions.unanswered i (by rw [hq]; exact List.mem_cons_self)
      have hsome := hanswered r (List.mem_of_getElem? hr)
      rw [hn] at hsome
      cases hsome
  have hstarted : s.mail.started = true := by
    cases hst : s.mail.started with
    | true => rfl
    | false => rcases (hi.lifecycle.unstarted hst).1 with he | he <;> rw [h.state] at he <;> cases he
  have hstopped : s.mail.stopped = false := by
    cases hst : s.mail.stopped with
    | false => rfl
    | true =>
      have he := (hi.lifecycle.stopped hst).1
      rw [h.state] at he
      cases he
  exact ⟨h.subscribers, by simpa [Impl.duties] using hingress, by simpa [Impl.duties] using hfault, hsnapshot, hreset, hqueue, hstarted,
    hstopped, hstop, hshut, hremoval⟩

/-- A runtime that has just been started. -/
theorem fresh_started (hL : L.Lawful) (setup : Setup L) : Fresh setup (Impl.initial setup).start.2.beginLocked where
  reached := by
    refine .step (.step (.step .initial (.env .start)) (.run ?_)) .again
    exact .sect ⟨none, false, L.create setup.numericSpec setup.expectedIdentity⟩ rfl
  idle := rfl
  answered := ⟨fun r hr => (by cases hr), fun r hr => (by cases hr), fun r hr => (by cases hr)⟩
  subscribers := rfl
  accepting := rfl
  state := rfl
  status := hL.created _ _
  bootstrap := rfl

/-- What the owner does by itself it does in a run. -/
theorem Reachable.evaluates {W : Outcome L → Prop} {p : OwnerProgram L Bool} {again : Bool} (h : Reachable setup (.running p) s)
    (he : p.Evaluates W s again t) : Reachable setup (.running (.done again)) t := by
  induction he with
  | done again s => exact h
  | sect w _ hg _ ih => exact ih (.step h (.run (.sect w hg)))

/-- A whole round of the owner leads from a head that is reached to another one. -/
theorem Reachable.round {W : Outcome L → Prop} (h : Reachable setup .head s) (he : (ownerRound setup).Evaluates W s true t) :
    Reachable setup .head t := by
  refine .step (?_ : Reachable setup (.running (.done true)) t) .again
  cases he with
  | sect w _ hg he => exact Reachable.evaluates (.step h (.enter (.sect w hg))) he

/-- Taking a reset as work changes nothing yet. -/
theorem takeWork_reset (h : s.takeWork.1 = .reset) : s.takeWork.2 = s := by
  revert h
  unfold Impl.takeWork
  repeat' split
  all_goals first
    | exact fun _ => rfl
    | exact fun h => by cases h

/-- Completing a reset request touches the request and the histories only. -/
theorem completeReset_eq (result : RebootstrapResetResult) (s : Impl L) :
    ∃ request log, s.completeResetLocked result = { s with mail.resetRequest := request, ticketLog := log } := by
  unfold Impl.completeResetLocked
  split
  · exact ⟨s.mail.resetRequest, s.ticketLog, rfl⟩
  · exact ⟨_, _, rfl⟩

/-- A completed reset carries the result it is completed with. -/
theorem completeReset_result {result : RebootstrapResetResult} {request : ResetRequest} {s : Impl L}
    (h : (s.completeResetLocked result).mail.resetRequest = some request) : request.result = some result := by
  unfold Impl.completeResetLocked at h
  split at h
  · rename_i hnone
    rw [hnone] at h
    cases h
  · obtain rfl := Option.some.inj h
    rfl

/-- A request that is refused is not answered as served. -/
theorem checkReset_refused {request : ResetRequest} (h : s.checkReset = (none, t)) (hrequest : t.mail.resetRequest = some request) :
    request.result ≠ some .reset := by
  unfold Impl.checkReset at h
  split at h
  · rename_i hnone
    rw [← show s = t from congrArg Prod.snd h, hnone] at hrequest
    cases hrequest
  · dsimp only at h
    split_ifs at h
    · rw [← show _ = t from congrArg Prod.snd h] at hrequest
      obtain rfl := Option.some.inj hrequest
      simp
    · cases congrArg Prod.fst h

/-- A reset that does not throw resets projection, buffer and state. -/
theorem tryReset_returned {w : Outcome L} (h : s.tryReset w = (.returned, t)) : t = s.resetLocked := by
  unfold Impl.tryReset at h
  split_ifs at h
  · cases congrArg Prod.fst h
  · exact (congrArg Prod.snd h).symm

/-- A runtime that has just been reset and has nothing left to do is fresh, if no caller waits for it. -/
theorem fresh_reset (hL : L.Lawful) {W : Outcome L → Prop} (h : Reachable setup .head s) (hw : s.takeWork.1 = .reset)
    (he : (ownerRound setup).Evaluates W s true t) {request : ResetRequest} (hreset : t.mail.resetRequest = some request)
    (hresult : request.result = some .reset) (hidle : t.hasWork = false) (hanswered : t.Answered) (halone : t.roster.subscribers = []) :
    Fresh setup t := by
  have hreached := h.round he
  obtain ⟨work, u, hawait, hperform⟩ := Program.evaluates_bind.mp he
  obtain ⟨-, w, -, htaken⟩ := Program.evaluates_await.mp hawait
  obtain rfl : s.takeWork.1 = work := congrArg Prod.fst htaken
  obtain rfl : s.takeWork.2 = u := congrArg Prod.snd htaken
  rw [hw, takeWork_reset hw] at hperform
  obtain ⟨_, v, hrequest, hdone⟩ := Program.evaluates_bind.mp hperform
  obtain ⟨-, rfl⟩ := Program.evaluates_pure.mp hdone
  obtain ⟨kind, v, hcheck, hrest⟩ := Program.evaluates_bind.mp hrequest
  obtain ⟨w', hw', hchecked⟩ := Program.evaluates_atomic.mp hcheck
  cases kind with
  | none =>
    -- the request did not fit the state, so nothing was reset
    obtain ⟨-, rfl⟩ := Program.evaluates_pure.mp hrest
    exact absurd hresult (checkReset_refused hchecked hreset)
  | some kind =>
    obtain ⟨generation, v', -, hrest⟩ := Program.evaluates_bind.mp hrest
    obtain ⟨_, v'', -, hrest⟩ := Program.evaluates_bind.mp hrest
    obtain ⟨completion, v3, htry, hrest⟩ := Program.evaluates_bind.mp hrest
    obtain ⟨w'', hw'', htried⟩ := Program.evaluates_atomic.mp htry
    cases completion with
    | threw =>
      -- the catch clause answers with another result
      obtain ⟨_, v4, -, hrest⟩ := Program.evaluates_bind.mp hrest
      rw [(Program.evaluates_modify ⟨w', hw'⟩).mp hrest] at hreset
      rw [completeReset_result hreset] at hresult
      cases hresult
    | returned =>
      have hsection := tryReset_returned htried
      have hcompleted := (Program.evaluates_modify ⟨w', hw'⟩).mp hrest
      obtain ⟨request, log, hcomplete⟩ := completeReset_eq .reset v3
      rw [hcompleted, hcomplete, hsection] at hreached hidle hanswered halone ⊢
      exact ⟨hreached, hidle, hanswered, halone, rfl, rfl, hL.reset _, rfl⟩

/-! ## Buffered or direct -/

/-- In calm surroundings a fresh runtime comes to the same reading whether a list of updates that fits the buffer is submitted before
the snapshot or behind it, and either way it gets done with all of them. -/
theorem buffered_is_direct (hL : L.Lawful) (h : Fresh setup s) (input : SnapshotInput L) {updates : List (DepthUpdateInput L)}
    (hroom : updates.length ≤ setup.limits.bootstrapCapacity) :
    (∃ t, Fed setup Calm (updates.map .depthUpdate ++ [.snapshot input]) s t) ∧
    (∃ t, Fed setup Calm (.snapshot input :: updates.map .depthUpdate) s t) ∧
    ∀ t t', Fed setup Calm (updates.map .depthUpdate ++ [.snapshot input]) s t →
      Fed setup Calm (.snapshot input :: updates.map .depthUpdate) s t' → t.reading = t'.reading := by
  obtain ⟨hbuffered, hends⟩ := feeds_buffered setup h.alone h.waiting updates (by rw [h.bootstrap]; simpa using hroom) input
  obtain ⟨hdirect, hends'⟩ := feeds_direct setup hL h.alone h.bootstrap h.waiting updates input
  refine ⟨hbuffered, hdirect, fun t t' ht ht' => ?_⟩
  calc t.reading
    _ = s.reading.install setup (s.book.bootstrap ++ updates) input := hends t ht
    _ = s.reading.install setup updates input := by rw [h.bootstrap, List.nil_append]
    _ = updates.foldl (Reading.feed setup) (s.reading.install setup [] input) := Reading.install_buffered hL h.waiting updates input
    _ = t'.reading := (hends' t' ht').symm

/-- The counting library keeps the laws that the result asks for. -/
theorem countingLibrary_lawful : countingLibrary.Lawful where
  created _ _ := rfl
  reset _ := rfl
  installed baseline book result book' h hr := by
    obtain ⟨status, last⟩ := book
    cases status with
    | awaitingBaseline =>
      obtain rfl : CountingBook.mk .awaitingBridge baseline = book' := congrArg Prod.snd h
      exact ⟨ProjectionStatus.noConfusion, ProjectionStatus.noConfusion⟩
    | awaitingBridge | synchronized | needsResync =>
      obtain rfl : false = result := Except.ok.inj (congrArg Prod.fst h)
      cases hr
  applied batch book result book' h hs := by
    obtain rfl : (countingLibrary.applyTo batch book).2 = book' := congrArg Prod.snd h
    obtain ⟨status, last⟩ := book
    cases status with
    | awaitingBaseline => exact absurd rfl hs
    | needsResync => exact ProjectionStatus.noConfusion
    | awaitingBridge | synchronized =>
      simp only [countingLibrary]
      split_ifs <;> simp

/-- A counting runtime that has just been started. -/
def countingFresh : Impl countingLibrary := (Impl.initial countingSetup).start.2.beginLocked

/-- An input is submitted, and the owner goes round with it. -/
def countingFed (w : Outcome countingLibrary) (input : RuntimeInput countingLibrary) (s : Impl countingLibrary) :
    OwnerProgram countingLibrary Bool × Impl countingLibrary :=
  Program.advances w 20 (ownerRound countingSetup, (s.submit countingSetup input false).2)

/-- The sample runtime is drained by its rounds. -/
theorem drains_countingFed {W : Outcome countingLibrary → Prop} {w : Outcome countingLibrary} (hw : W w)
    {input : RuntimeInput countingLibrary} {s : Impl countingLibrary} (hd : (countingFed w input s).1 = .done true)
    (hi : (countingFed w input s).2.hasWork = false) :
    Drains countingSetup W (s.submit countingSetup input false).2 (countingFed w input s).2 :=
  ⟨.single (evaluates_advances hw hd), hi⟩

/-- An update that comes before the snapshot, and there is no room in memory for it: the runtime has faulted, and takes no snapshot. -/
def countingBuffered : Impl countingLibrary := (countingFed failingOutcome (depthInput 6 none) countingFresh).2

/-- The same two inputs the other way round: nothing is buffered, and the runtime is live. -/
def countingDirect : Impl countingLibrary :=
  (countingFed calmOutcome (depthInput 6 none) (countingFed calmOutcome (snapshotInput 5 none) countingFresh).2).2

/-- The sample inputs are fed with the snapshot in front. -/
theorem countingDirect_fed {W : Outcome countingLibrary → Prop} (hw : W calmOutcome) :
    Fed countingSetup W [snapshotInput 5 none, depthInput 6 none] countingFresh countingDirect :=
  .next (drains_countingFed hw rfl rfl) (.next (drains_countingFed hw rfl rfl) .none)

/-- Where an allocation may fail the two orders come to different readings. -/
theorem buffered_and_faulted : countingLibrary.Lawful ∧
    ¬∀ (s t t' : Impl countingLibrary) (input : SnapshotInput countingLibrary) (updates : List (DepthUpdateInput countingLibrary)),
      Fresh countingSetup s → updates.length ≤ countingSetup.limits.bootstrapCapacity →
      Fed countingSetup (fun _ => True) (updates.map .depthUpdate ++ [.snapshot input]) s t →
      Fed countingSetup (fun _ => True) (.snapshot input :: updates.map .depthUpdate) s t' → t.reading = t'.reading := by
  refine ⟨countingLibrary_lawful, fun hall => ?_⟩
  have hbuffered : Fed countingSetup (fun _ => True) [depthInput 6 none, snapshotInput 5 none] countingFresh countingBuffered :=
    .next (drains_countingFed (w := failingOutcome) trivial rfl rfl) (.next ⟨.refl, rfl⟩ .none)
  have hsame := hall countingFresh countingBuffered countingDirect ⟨(5 : Nat), ⟨none⟩⟩ [⟨(6 : Nat), ⟨none⟩⟩] (fresh_started countingLibrary_lawful _)
    (by decide) hbuffered (countingDirect_fed trivial)
  have hstates : (RuntimeState.faulted : RuntimeState) = .live := congrArg Reading.state hsame
  cases hstates

/-- An update buffered before its snapshot ends in a live runtime. -/
theorem buffered_is_direct_counting : ∃ t, t.mail.observation.state = .live ∧ Fed countingSetup Calm
    [depthInput 6 none, snapshotInput 5 none] countingFresh t := by
  obtain ⟨⟨t, ht⟩, -, hsame⟩ := buffered_is_direct countingLibrary_lawful (fresh_started countingLibrary_lawful countingSetup)
    ⟨(5 : Nat), ⟨none⟩⟩ (by decide : [(⟨(6 : Nat), ⟨none⟩⟩ : DepthUpdateInput countingLibrary)].length ≤ _)
  exact ⟨t, congrArg Reading.state (hsame t countingDirect ht (countingDirect_fed rfl)), ht⟩

end MarketDataGateway.MarketRuntime
