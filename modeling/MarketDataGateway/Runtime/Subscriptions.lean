import MarketDataGateway.Runtime.Generation

/-!
# Subscriptions, resets and the loop

A session is admitted with the book as it is and with nothing owed to it; a reset starts a new history with nobody listening. With
these the invariant of the book holds in every reachable state.
-/

namespace MarketDataGateway.MarketRuntime

open OrderBook Threads

variable {L : ProjectionLibrary} {setup : Setup L} {s : Impl L}

/-! ## Admissions -/

/-- The channel holds an acceptance and the book as it is now, and nobody has it yet. -/
def StagedFor (setup : Setup L) (c : SubscriberChannel L.LocalSnapshot L.DepthUpdate) (s : Impl L) : Prop :=
  ∃ requestId subscriptionId gatewayInstanceId publishedAt snapshot a₁ a₂,
    c.state = .active ∧ c.terminal = none ∧ c.nextSessionSequence = 3 ∧
    c.queued = [⟨a₁, makeAcceptedRecord requestId subscriptionId gatewayInstanceId publishedAt⟩,
      ⟨a₂, makeSnapshotRecord snapshot s.book.currentProjectionGeneration publishedAt⟩] ∧
    SnapshotOf setup s.book.projection snapshot ∧ a₁ < a₂ ∧ a₂ < s.nextAddress

/-- A staged session stays staged for its book. -/
theorem steadfast_stagedFor (c : SubscriberChannel L.LocalSnapshot L.DepthUpdate) :
    Steadfast setup (StagedFor setup c) := by
  rintro s t - ⟨r, i, g, p, sn, a₁, a₂, hst, hterm, hnext, hq, hs, h12, h2⟩ ha
  refine ⟨r, i, g, p, sn, a₁, a₂, hst, hterm, hnext, ?_, ?_, h12, Nat.lt_of_lt_of_le h2 ha.address⟩
  · rw [ha.generation]; exact hq
  · rw [ha.projection]; exact hs

/-- Staging a session does not touch the book. -/
theorem aside_stageSession (subscription : ValidatedOrderBookSubscription) (depthLimit : Option L.DepthLimit)
    (publishedAt : PublicationTime) (w : Outcome L) (s : Impl L) :
    Aside s (s.stageSession setup subscription depthLimit publishedAt w).2 := by
  unfold Impl.stageSession
  split
  · exact .refl s
  · split
    · exact .refl s
    · exact { Aside.refl s with address := Nat.le_add_right _ 2 }

/-- A session that has been staged holds its two initial records. -/
theorem stageSession_staged {subscription : ValidatedOrderBookSubscription} {depthLimit : Option L.DepthLimit}
    {publishedAt : PublicationTime} {w : Outcome L} {c : SubscriberChannel L.LocalSnapshot L.DepthUpdate}
    (h : (s.stageSession setup subscription depthLimit publishedAt w).1 = .staged c) :
    StagedFor setup c (s.stageSession setup subscription depthLimit publishedAt w).2 := by
  unfold Impl.stageSession at h ⊢
  split at h
  · cases h
  · rename_i hw
    rw [if_neg hw]
    split at h
    · cases h
    · rename_i snapshot hsnap
      dsimp only at h ⊢
      split at h
      · rename_i hstaged
        obtain ⟨hst, hterm, hnext, hq⟩ := SubscriberChannel.stageInitial_true hstaged
        cases h
        exact ⟨_, _, _, _, snapshot, s.nextAddress, s.nextAddress + 1, hst, hterm, hnext, hq, ⟨publishedAt, depthLimit, hsnap⟩,
          Nat.lt_succ_self _, Nat.lt_succ_self _⟩
      · cases h

/-- What a new session's subscriber looks like. -/
theorem facts_of_staged {c : SubscriberChannel L.LocalSnapshot L.DepthUpdate} (h : StagedFor setup c s) :
    SubscriberFacts s.nextAddress ({ channel := c } : Subscriber L) := by
  obtain ⟨r, i, g, p, sn, a₁, a₂, hst, hterm, hnext, hq, -, h12, h2⟩ := h
  have hmem : ∀ x, ({ channel := c } : Subscriber L).Holds x → x ∈ c.queued := by
    rintro x (hx | ⟨_, hx, _⟩)
    · exact hx
    · cases hx
  refine ⟨fun x hx => ?_, fun x hx q hm he => ?_, fun _ => ⟨hterm, ?_⟩, fun hg => ?_, fun d hd => by cases hd⟩
  · have := hmem x hx
    rw [hq] at this
    simp only [List.mem_cons, List.not_mem_nil, or_false] at this
    rcases this with rfl | rfl
    · exact Nat.lt_trans h12 h2
    · exact h2
  · have hx' := hmem x hx
    have hm' : q ∈ c.queued := hm
    rw [hq] at hx' hm'
    simp only [List.mem_cons, List.not_mem_nil, or_false] at hx' hm'
    rcases hx' with rfl | rfl <;> rcases hm' with rfl | rfl
    · rfl
    · exact absurd he (Nat.ne_of_lt h12)
    · exact absurd he.symm (Nat.ne_of_lt h12)
    · rfl
  · rw [hnext, Subscriber.records, hq]; rfl
  · have : c.state = .terminalGap := hg
    rw [hst] at this
    cases this

/-- The section that admits a staged session. -/
theorem commit_book {request : Nat} {c : SubscriberChannel L.LocalSnapshot L.DepthUpdate} (hi : BookInv setup s)
    (h : AtRest setup s) (hc : StagedFor setup c s) :
    BookInv setup (s.commitAdmission request c) ∧ AtRest setup (s.commitAdmission request c) := by
  have hfacts := facts_of_staged hc
  obtain ⟨r, i, g, p, sn, a₁, a₂, hst, hterm, hnext, hq, hsnap, h12, h2⟩ := hc
  unfold Impl.commitAdmission
  dsimp only
  split
  · rename_i hgate
    unfold Impl.gateAdmission at hgate
    split_ifs at hgate with hclosing hlive
    -- an admission that passes the gate finds the runtime live, so no mismatch has silenced it
    have hclean : mismatchSinceReset s.bookLog = none := by
      by_contra hm
      have hshut := (h.2.2 hm).1.1
      simp [Impl.isLive, hshut] at hlive
    have hopen : s.mail.publicationShutdownCompleted = false := by
      cases hcom : s.mail.publicationShutdownCompleted with
      | false => rfl
      | true => simp [Impl.publicationClosing, hi.shutdown hcom] at hclosing
    have hget : ∀ {j : Nat} {sub : Subscriber L}, (s.channels ++ [{ channel := c }])[j]? = some sub →
        (j = s.channels.length ∧ sub = { channel := c }) ∨ (j ≠ s.channels.length ∧ s.channels[j]? = some sub) := by
      intro j sub hs
      by_cases hj : j < s.channels.length
      · rw [List.getElem?_append_left hj] at hs
        exact Or.inr ⟨Nat.ne_of_lt hj, hs⟩
      · rw [List.getElem?_append_right (Nat.le_of_not_lt hj)] at hs
        obtain ⟨hlt, heq⟩ := List.getElem?_eq_some_iff.mp hs
        have h0 : j - s.channels.length = 0 := by simpa using hlt
        refine Or.inl ⟨by omega, ?_⟩
        simp only [h0, List.getElem_cons_zero] at heq
        exact heq.symm
    have hcur : Current setup s.channels.length (.admitted s.channels.length s.book.projection :: s.bookLog) []
        ({ channel := c } : Subscriber L).records := by
      have := @current_of_staged L setup s.channels.length s.bookLog s.book.projection sn hsnap r i g p
      rw [hi.generation] at this
      rw [Subscriber.records, hq]
      exact this
    have hinv : BookInv setup ({ s with
        channels := s.channels ++ [{ channel := c }]
        roster.subscribers := s.roster.subscribers ++ [s.channels.length]
        roster.nextSubscriptionId := s.roster.nextSubscriptionId + 1
        mail.observation.residentSubscriptionCount := s.roster.subscribers.length + 1
        bookLog := .admitted s.channels.length s.book.projection :: s.bookLog } : Impl L) :=
      { facts := fun j sub hs => by
          rcases hget hs with ⟨-, rfl⟩ | ⟨-, ho⟩
          · exact hfacts
          · exact hi.facts j sub ho
        follows := fun j sub hs => by
          rcases hget hs with ⟨rfl, rfl⟩ | ⟨hne, ho⟩
          · exact hcur.follows
          · exact (hi.follows j sub ho).admitted hne.symm _
        enrolled := fun j sub hs hact => by
          rcases hget hs with ⟨rfl, rfl⟩ | ⟨hne, ho⟩
          · exact List.mem_append_right _ (List.mem_singleton.mpr rfl)
          · exact List.mem_append_left _ (hi.enrolled j sub ho hact)
        nodup := by
          refine List.nodup_append.mpr ⟨hi.nodup, by simp, fun j hj k hk => ?_⟩
          have := hi.known j hj
          rw [List.mem_singleton.mp hk]
          omega
        shutdown := hi.shutdown
        unstarted := fun hf => by
          have : s.mail.started = false := hf
          rw [h.1.1.1] at this
          cases this
        generation := hi.generation
        matched := ⟨hclean, hi.matched⟩
        buffered := hi.buffered
        mismatch := fun p rs hm => by
          have : mismatchSinceReset s.bookLog = some (p, rs) := hm
          rw [hclean] at this
          cases this
        ended := fun j sub hs hreset => by
          rcases hget hs with ⟨rfl, -⟩ | ⟨hne, ho⟩
          · simp [resetSince] at hreset
          · refine hi.ended j sub ho ?_
            simpa [resetSince, hne.symm] using hreset
        known := fun j hj => by
          rw [List.length_append, List.length_singleton]
          rcases List.mem_append.mp hj with hj | hj
          · have := hi.known j hj; omega
          · rw [List.mem_singleton.mp hj]; omega }
    have hrest : AtRest setup ({ s with
        channels := s.channels ++ [{ channel := c }]
        roster.subscribers := s.roster.subscribers ++ [s.channels.length]
        roster.nextSubscriptionId := s.roster.nextSubscriptionId + 1
        mail.observation.residentSubscriptionCount := s.roster.subscribers.length + 1
        bookLog := .admitted s.channels.length s.book.projection :: s.bookLog } : Impl L) := by
      refine ⟨⟨h.1.1, fun hcom => ?_⟩, fun j sub hs hact => ?_, fun hne => absurd hclean hne⟩
      · have : s.mail.publicationShutdownCompleted = true := hcom
        rw [hopen] at this
        cases this
      · rcases hget hs with ⟨rfl, rfl⟩ | ⟨hne, ho⟩
        · exact hcur
        · exact (h.2.1 j sub ho hact).admitted hne.symm _
    have has := aside_complete request (.accepted s.channels.length) ({ s with
        channels := s.channels ++ [{ channel := c }]
        roster.subscribers := s.roster.subscribers ++ [s.channels.length]
        roster.nextSubscriptionId := s.roster.nextSubscriptionId + 1
        mail.observation.residentSubscriptionCount := s.roster.subscribers.length + 1
        bookLog := .admitted s.channels.length s.book.projection :: s.bookLog } : Impl L)
    exact ⟨hinv.aside has, steadfast_atRest _ _ hinv hrest has⟩
  · exact ⟨hi.aside (aside_gate request s), steadfast_atRest _ _ hi h (aside_gate request s)⟩

/-- Completing an admission keeps the book at rest. -/
theorem completeAdmissionRequest_book (request : Nat) (result : SubscriptionAdmissionResult) :
    Triple (bookRely setup) (AtRest setup) (completeAdmissionRequest request result) (fun _ => AtRest setup) :=
  aside_triple (Program.All.atomic fun _ s => aside_complete request result s) steadfast_atRest

/-- A staged session is admitted with the book it was staged for. -/
theorem admitStaged_book (request : Nat) (subscription : ValidatedOrderBookSubscription)
    (depthLimit : Option L.DepthLimit) :
    Triple (bookRely setup) (AtRest setup) (admitStaged setup request subscription depthLimit) (fun _ => AtRest setup) := by
  have hrest : Steadfast setup (AtRest setup) := steadfast_atRest
  refine Triple.bind (Triple.choose hrest.stable) fun sampled => ?_
  cases sampled with
  | none => exact completeAdmissionRequest_book _ _
  | some publishedAt =>
    refine Triple.bind (Triple.read hrest.stable (fun _ => hrest.stable) fun _ _ h => h) fun next => ?_
    split
    · exact completeAdmissionRequest_book _ _
    · have hstaged : ∀ staging : Staging L, (bookRely setup).Stable (fun s =>
          AtRest setup s ∧ ∀ c, staging = .staged c → StagedFor setup c s) := fun staging =>
        hrest.stable.and fun s t hi h he c hc => (steadfast_stagedFor c).stable s t hi (h c hc) he
      refine Triple.bind (Triple.atomic hrest.stable hstaged fun w s hi h => ?_) fun staging => ?_
      · have has : Aside s (s.stageSession setup subscription depthLimit publishedAt w).2 :=
          aside_stageSession subscription depthLimit publishedAt w s
        exact ⟨hi.aside has, hrest s _ hi h has, fun c hc => stageSession_staged hc⟩
      · cases staging with
        | threw | adapterError _ | notStaged => exact (completeAdmissionRequest_book _ _).pre fun s _ h => h.1
        | staged channel =>
          refine Triple.bind (Triple.atomic (hstaged _) (fun _ => hrest.stable) fun w s hi h => ?_) fun completion => ?_
          · unfold Impl.tryCommitAdmission
            split
            · exact ⟨hi, h.1⟩
            · exact commit_book hi h.1 (h.2 channel rfl)
          · cases completion with
            | threw => exact completeAdmissionRequest_book _ _
            | returned => exact Triple.done hrest.stable fun _ _ h => h

/-- An admission is served with the book at rest. -/
theorem performAdmissionRequest_book (request : Nat) (subscription : ValidatedOrderBookSubscription) :
    Triple (bookRely setup) (AtRest setup) (performAdmissionRequest setup request subscription)
      (fun _ => AtRest setup) := by
  have hrest : Steadfast setup (AtRest setup) := steadfast_atRest
  refine Triple.bind (sweep_book hrest) fun _ =>
    Triple.bind (aside_triple (Program.All.atomic fun _ s => aside_gate request s) hrest) fun mayGoOn => ?_
  split
  · exact Triple.done hrest.stable (fun _ _ h => h)
  · refine Triple.bind (Triple.read hrest.stable (fun _ => hrest.stable) fun _ _ h => h) fun subscribers => ?_
    split
    · exact completeAdmissionRequest_book _ _
    · split
      · exact admitStaged_book _ _ _
      · split
        · exact completeAdmissionRequest_book _ _
        · exact admitStaged_book _ _ _

/-! ## Snapshots for callers, resets and shutdown -/

/-- Completing a snapshot request keeps the book at rest. -/
theorem completeSnapshotRequest_book (result : SnapshotResult L) :
    Triple (bookRely setup) (AtRest setup) (completeSnapshotRequest result) (fun _ => AtRest setup) := by
  refine aside_triple (Program.All.atomic fun _ s => ?_) steadfast_atRest
  show Aside s (s.completeSnapshotLocked result)
  unfold Impl.completeSnapshotLocked
  split
  · exact .refl s
  · exact .of_mail rfl rfl rfl rfl rfl rfl rfl rfl rfl id

/-- A snapshot is served with the book at rest. -/
theorem performSnapshotRequest_book :
    Triple (bookRely setup) (AtRest setup) (performSnapshotRequest setup) (fun _ => AtRest setup) := by
  have hrest : Steadfast setup (AtRest setup) := steadfast_atRest
  refine Triple.bind (Triple.read hrest.stable (fun _ => hrest.stable) fun _ _ h => h) fun live => ?_
  split
  · exact completeSnapshotRequest_book _
  · refine Triple.bind (Triple.choose hrest.stable) fun sampled => ?_
    cases sampled with
    | none => exact completeSnapshotRequest_book _
    | some sample =>
      exact Triple.bind (aside_triple (Program.All.atomic fun _ s => .refl s) hrest)
        fun result => completeSnapshotRequest_book result

/-- With every session ended the book starts anew. -/
theorem reset_book (hi : BookInv setup s) (h : AtRest setup s) (hact : ActiveIn [] s) :
    BookInv setup s.resetLocked ∧ AtRest setup s.resetLocked := by
  have hended : ∀ (i : Nat) sub, s.channels[i]? = some sub → sub.channel.state ≠ .active := fun i sub hs ha =>
    absurd (hact i sub hs ha) List.not_mem_nil
  have hinv : BookInv setup ({ s with
      book := { projection := L.reset s.book.projection }
      bookLog := .reset :: s.bookLog } : Impl L) :=
    hi.event trivial (fun i records hf => hf.silent rfl) rfl (List.nil_subperm) (fun p rs hm => by cases hm)
      fun i sub hs _ => hended i sub hs
  exact ⟨⟨hinv.facts, hinv.follows, hinv.enrolled, hinv.nodup, hinv.shutdown, hinv.unstarted, hinv.generation, hinv.matched,
    hinv.buffered, hinv.mismatch, hinv.ended, hinv.known⟩,
    ⟨h.1.1, fun _ => hact⟩, Lag.of_none hact _, fun hm => absurd rfl hm⟩

/-- A reset that throws leaves some projection to nobody. -/
theorem abandonReset_book (left : L.Projection) (hi : BookInv setup s) (h : AtRest setup s) (hact : ActiveIn [] s) :
    BookInv setup (s.abandonReset left) ∧ AtRest setup (s.abandonReset left) := by
  have hended : ∀ (i : Nat) sub, s.channels[i]? = some sub → sub.channel.state ≠ .active := fun i sub hs ha =>
    absurd (hact i sub hs ha) List.not_mem_nil
  exact ⟨hi.event trivial (fun i records hf => hf.silent rfl) hi.generation hi.buffered
      (fun p rs hm => ⟨fun hthrew => (by cases hthrew), (hi.mismatch p rs hm).2⟩) fun i sub hs _ => hended i sub hs,
    ⟨h.1.1, fun _ => hact⟩, Lag.of_none hact _, h.2.2⟩

/-- The catch clause of a reset leaves the book alone. -/
theorem aside_failReset (s : Impl L) : Aside s s.failResetLocked :=
  .of_same rfl rfl rfl rfl rfl rfl id id Or.inl fun _ hs => ⟨rfl, rfl, hs.2.2⟩

/-- Completing a reset request does not touch the book. -/
theorem aside_completeReset (result : RebootstrapResetResult) (s : Impl L) : Aside s (s.completeResetLocked result) := by
  unfold Impl.completeResetLocked
  split
  · exact .refl s
  · exact .of_mail rfl rfl rfl rfl rfl rfl rfl rfl rfl id

/-- A reset ends the sessions before it touches the projection, and leaves the book at rest whether it throws or not. -/
theorem performResetRequest_book :
    Triple (bookRely setup) (AtRest setup) performResetRequest (fun _ => AtRest setup) := by
  have hrest : Steadfast setup (AtRest setup) := steadfast_atRest
  have hended : Steadfast setup (fun s => AtRest setup s ∧ ActiveIn [] s) := hrest.and (steadfast_activeIn [])
  refine Triple.bind (aside_triple (Program.All.atomic fun _ s => ?_) hrest) fun kind => ?_
  · show Aside s s.checkReset.2
    unfold Impl.checkReset
    split
    · exact .refl s
    · dsimp only
      split
      · exact .of_mail rfl rfl rfl rfl rfl rfl rfl rfl rfl id
      · exact .refl s
  · cases kind with
    | none => exact Triple.done hrest.stable (fun _ _ h => h)
    | some kind =>
      refine Triple.bind (Triple.read hrest.stable (fun _ => hrest.stable) fun _ _ h => h) fun generation => ?_
      refine Triple.bind (Q := fun _ s => AtRest setup s ∧ ActiveIn [] s) ?_ fun _ => ?_
      · cases kind <;> exact terminalize_book hrest _ _ _
      · refine Triple.bind (Q := fun _ => AtRest setup)
          (Triple.atomic hended.stable (fun _ => hrest.stable) fun w s hi h => ?_) fun completion => ?_
        · unfold Impl.tryReset
          split
          · exact abandonReset_book w.left hi h.1 h.2
          · exact reset_book hi h.1 h.2
        · cases completion with
          | returned => exact aside_triple (Program.All.atomic fun _ s => aside_completeReset _ s) hrest
          | threw =>
            exact Triple.bind (aside_triple (Program.All.atomic fun _ s => aside_failReset s) hrest) fun _ =>
              aside_triple (Program.All.atomic fun _ s => aside_completeReset _ s) hrest

/-- A shutdown has been asked for. -/
def ShutdownAsked (s : Impl L) : Prop := s.mail.publicationShutdownRequested = true

/-- A shutdown that was asked for stays asked for. -/
theorem steadfast_shutdownAsked : Steadfast setup (ShutdownAsked : Impl L → Prop) := fun _ _ _ h ha => ha.requested h

/-- The shutdown of the publication leaves the book at rest. -/
theorem performPublicationShutdownControl_book :
    Triple (bookRely setup) (fun s => AtRest setup s ∧ ShutdownAsked s) performPublicationShutdownControl
      (fun _ => AtRest setup) := by
  have hpre : Steadfast setup (fun s => AtRest setup s ∧ ShutdownAsked s) :=
    steadfast_atRest.and steadfast_shutdownAsked
  refine Triple.bind (closeAll_book hpre) fun _ =>
    Triple.modify (hpre.and (steadfast_activeIn [])).stable steadfast_atRest.stable fun s hi h => ?_
  obtain ⟨⟨hrest, hasked⟩, hact⟩ := h
  refine ⟨⟨hi.facts, hi.follows, hi.enrolled, hi.nodup, fun _ => hasked, hi.unstarted, hi.generation, hi.matched, hi.buffered,
    hi.mismatch, hi.ended, hi.known⟩, ⟨hrest.1.1, fun _ => hact⟩, hrest.2.1, hrest.2.2⟩

/-- The end of the loop keeps the book in order. -/
theorem ownerEpilogue_book :
    Triple (bookRely setup) Impl.Running ownerEpilogue (fun _ _ => True) := by
  have hrun : Steadfast setup (Impl.Running : Impl L → Prop) := steadfast_running
  refine Triple.bind (Triple.modify hrun.stable hrun.stable fun s hi h => ?_) fun _ =>
    Triple.bind (closeAll_book hrun) fun _ =>
      Triple.modify (hrun.and (steadfast_activeIn [])).stable (Rely.Stable.const True) fun s hi h => ?_
  · unfold Impl.leaveLocked
    dsimp only
    rw [Impl.answerSnapshotLocked_eq, Impl.answerResetLocked_eq]
    exact ⟨⟨hi.facts, hi.follows, hi.enrolled, hi.nodup, hi.shutdown, hi.unstarted, hi.generation, hi.matched, hi.buffered,
      hi.mismatch, hi.ended, hi.known⟩, h⟩
  · exact ⟨⟨hi.facts, hi.follows, hi.enrolled, hi.nodup, hi.shutdown, hi.unstarted, hi.generation, hi.matched, hi.buffered,
      hi.mismatch, hi.ended, hi.known⟩, trivial⟩

/-! ## The loop -/

/-- What the owner knows about the work it has taken on. -/
def WorkKnown (work : Work L) (s : Impl L) : Prop :=
  match work with
  | .publicationShutdown => ShutdownAsked s
  | .item _ => Clean s
  | _ => True

/-- What is known of the work stays known. -/
theorem steadfast_workKnown (work : Work L) : Steadfast setup (WorkKnown work) := by
  cases work with
  | publicationShutdown => exact steadfast_shutdownAsked
  | item item => exact steadfast_clean
  | _ => exact fun _ _ _ _ _ => trivial

/-- Taking work keeps the book at rest. -/
theorem takeWork_book (hi : BookInv setup s) (h : AtRest setup s) :
    BookInv setup s.takeWork.2 ∧ AtRest setup s.takeWork.2 ∧ WorkKnown s.takeWork.1 s.takeWork.2 := by
  have haside : ∀ t, Aside s t → BookInv setup t ∧ AtRest setup t := fun t ha =>
    ⟨hi.aside ha, steadfast_atRest s t hi h ha⟩
  unfold Impl.takeWork
  split
  · rename_i hshut
    exact ⟨hi, h, hshut.1⟩
  · split
    · obtain ⟨h1, h2⟩ := haside _ (.of_mail (t := { s with mail.pendingFault := none }) rfl rfl rfl rfl rfl rfl rfl rfl rfl id)
      exact ⟨h1, h2, trivial⟩
    · split
      · exact ⟨hi, h, trivial⟩
      · split
        · obtain ⟨h1, h2⟩ := haside _ (.of_mail (t := { s with mail.admissionRequests := s.mail.admissionRequests.tail })
            rfl rfl rfl rfl rfl rfl rfl rfl rfl id)
          exact ⟨h1, h2, trivial⟩
        · split
          · exact ⟨hi, h, trivial⟩
          · split
            · obtain ⟨h1, h2⟩ := haside _ (.of_mail (t := { s with mail.publicationRemovalPending := false })
                rfl rfl rfl rfl rfl rfl rfl rfl rfl id)
              exact ⟨h1, h2, trivial⟩
            · split
              · rename_i front rest hq
                -- a mismatch would have emptied the ingress for good
                have hclean : Clean s := by
                  by_contra hm
                  have := (h.2.2 hm).1.2.2
                  rw [hq] at this
                  cases this
                obtain ⟨h1, h2⟩ := haside _ (.of_mail (t := { s with
                    mail.ingress := rest
                    mail.observation.ingressOccupancy := rest.length
                    ticketLog := .taken front.ticket :: s.ticketLog }) rfl rfl rfl rfl rfl rfl rfl rfl rfl
                  (fun hs => by have := hs.2.2; rw [hq] at this; cases this))
                exact ⟨h1, h2, hclean⟩
              · split
                · exact ⟨hi, h, trivial⟩
                · exact ⟨hi, h, trivial⟩

/-- A round of the owner goes from a book at rest to one at rest. -/
theorem ownerRound_book :
    Triple (bookRely setup) (AtRest setup) (ownerRound setup) (afterRound (AtRest setup) (fun _ => True)) := by
  have hrest : Steadfast setup (AtRest setup) := steadfast_atRest
  have again : ∀ {A : Impl L → Prop} {p : OwnerProgram L Unit}, Triple (bookRely setup) A p (fun _ => AtRest setup) →
      Triple (bookRely setup) A (p.bind fun _ => pure true) (afterRound (AtRest setup) (fun _ => True)) := fun hp =>
    Triple.bind hp fun _ => Triple.done hrest.stable (fun _ _ h => h)
  refine Triple.bind (Triple.await hrest.stable (fun work => (hrest.and (steadfast_workKnown work)).stable)
    fun _ s hi h _ => takeWork_book hi h) fun work => ?_
  cases work with
  | publicationShutdown => exact again performPublicationShutdownControl_book
  | fault reason => exact again (fault_atRest (fun _ h => h.1.1.1) _ _)
  | reset => exact again (performResetRequest_book.pre fun _ _ h => h.1)
  | admission request subscription => exact again ((performAdmissionRequest_book _ _).pre fun _ _ h => h.1)
  | snapshot => exact again (performSnapshotRequest_book.pre fun _ _ h => h.1)
  | removalSweep => exact again ((sweep_book hrest).pre fun _ _ h => h.1)
  | item item => exact again (processItem_book item)
  | exit =>
    exact Triple.bind (ownerEpilogue_book.pre fun _ _ h => h.1.1.1) fun _ =>
      Triple.done (Rely.Stable.const True) (fun _ _ _ => trivial)
  | nothing => exact Triple.pre (Triple.done hrest.stable (fun _ _ h => h)) fun _ _ h => h.1

/-- Before the start there is nothing. -/
def Empty (s : Impl L) : Prop := s.ownerExited = false ∧ s.channels = [] ∧ s.bookLog = []

/-- A runtime without channels stays without while nobody is admitted. -/
theorem steadfast_empty : Steadfast setup (Empty : Impl L → Prop) := fun s t _ h ha =>
  ⟨ha.exited.trans h.1, List.eq_nil_of_length_eq_zero (by rw [ha.length, h.2.1]; rfl), ha.log.trans h.2.2⟩

/-- The owner's first section finds no channels and a book at rest. -/
theorem ownerPrologue_book :
    Triple (bookRely setup) Empty (ownerPrologue : OwnerProgram L Bool) (afterRound (AtRest setup) (fun _ => True)) := by
  refine Triple.bind (Q := fun _ => AtRest setup) (Triple.await steadfast_empty.stable (fun _ => steadfast_atRest.stable)
    fun _ s hi h hst => ?_) fun _ => Triple.done steadfast_atRest.stable (fun _ _ h => h)
  obtain ⟨hx, hc, hl⟩ := h
  have hnone : ActiveIn [] s := fun i sub hs => by rw [hc] at hs; cases hs
  refine ⟨⟨hi.facts, hi.follows, hi.enrolled, hi.nodup, hi.shutdown, hi.unstarted, hi.generation, hi.matched, hi.buffered,
    hi.mismatch, hi.ended, hi.known⟩, ⟨⟨hst, hx⟩, fun _ => hnone⟩, Lag.of_none hnone _, fun hm => absurd ?_ hm⟩
  show mismatchSinceReset s.bookLog = none
  rw [hl]
  rfl

/-- The invariant of the book holds of a new runtime. -/
theorem book_initial (setup : Setup L) : BookInv setup (Impl.initial setup) where
  facts i sub hs := by cases hs
  follows i sub hs := by cases hs
  enrolled i sub hs := by cases hs
  nodup := List.nodup_nil
  shutdown h := by cases h
  unstarted _ := rfl
  generation := rfl
  matched := trivial
  buffered := List.nil_subperm
  mismatch p rs h := by cases h
  ended i sub hs := by cases hs
  known i hi := by cases hi

/-- The invariant of the book holds in every reachable state, and between two pieces of work everything is at rest. -/
theorem Reachable.book {ph : Phase (Impl L) (Outcome L)} (h : Reachable setup ph s) :
    LoopInv (bookRely setup) (AtRest setup) (fun _ => True) ph s :=
  h.loopInv rfl steadfast_atRest.stable (Rely.Stable.const True)
    (ownerPrologue_book (Impl.initial setup) (book_initial setup) ⟨rfl, rfl, rfl⟩) ownerRound_book

end MarketDataGateway.MarketRuntime
