import MarketDataGateway.Runtime.Counting
import MarketDataGateway.Runtime.Progress
import MarketDataGateway.Runtime.Subscriptions

/-!
# What subscribers can rely on

A session delivers its acceptance, the book it was admitted with and the updates applied since, without a hole, and at most a
terminal behind them. No update of one generation reaches a book of another.
-/

namespace MarketDataGateway.MarketRuntime

open OrderBook Threads

variable {L : ProjectionLibrary} {setup : Setup L}

/-! ## A session that has ended stays ended -/

/-- From `s` to `t` every session is still there, and one that was not active has only been narrowed. -/
def Settles (s t : Impl L) : Prop :=
  ∀ (i : Nat) sub, s.channels[i]? = some sub →
    ∃ sub', t.channels[i]? = some sub' ∧ (sub.channel.state ≠ .active → Narrows sub sub')

/-- Sessions settle when nothing happens. -/
theorem Settles.refl (s : Impl L) : Settles s s := fun _ sub hs => ⟨sub, hs, fun _ => Narrows.refl sub⟩

/-- Sessions settle along two moves. -/
theorem Settles.trans {s t u : Impl L} (h : Settles s t) (h' : Settles t u) : Settles s u := by
  intro i sub hs
  obtain ⟨sub', ht, hn⟩ := h i sub hs
  obtain ⟨sub'', hu, hn'⟩ := h' i sub' ht
  exact ⟨sub'', hu, fun hne => (hn hne).trans (hn' ((hn hne).inactive hne))⟩

/-- Channels that are as they were have settled. -/
theorem Settles.of_same {s t : Impl L} (h : t.channels = s.channels) : Settles s t := fun _ sub hs =>
  ⟨sub, h ▸ hs, fun _ => Narrows.refl sub⟩

/-- An operation of the owner on one channel. -/
theorem Settles.onChannel (s : Impl L) (channel : Nat)
    (f : SubscriberChannel L.LocalSnapshot L.DepthUpdate → SubscriberChannel L.LocalSnapshot L.DepthUpdate)
    (hf : ∀ sub : Subscriber L, sub.channel.state ≠ .active → Narrows sub { sub with channel := f sub.channel }) :
    Settles s (s.onChannel channel f) := by
  intro i sub hs
  show ∃ sub', (s.channels.modify channel _)[i]? = some sub' ∧ _
  rw [List.getElem?_modify, hs]
  by_cases hc : channel = i
  · exact ⟨{ sub with channel := f sub.channel }, by simp [hc], hf sub⟩
  · exact ⟨sub, by simp [hc], fun _ => Narrows.refl sub⟩

/-- Each section of the owner lets sessions settle. -/
theorem OwnerSection.settles {s t : Impl L} (h : OwnerSection setup s t) : Settles s t := by
  cases h with
  | terminalize channel reason action generation publishedAt =>
    refine .onChannel s channel _ fun sub hne => ?_
    rcases sub.channel.terminalize_cases reason action generation publishedAt with ⟨-, he⟩ | ⟨ha, -, -⟩
    · rw [he]; exact Narrows.refl sub
    · exact absurd ha hne
  | close channel =>
    exact .onChannel s channel _ fun sub _ => ⟨fun ha => (by cases ha), List.prefix_refl _, fun _ => ⟨rfl, rfl, rfl⟩⟩
  | admitUpdate channel input publishedAt w =>
    unfold Impl.admitUpdate
    cases hc : s.channels[channel]? with
    | none => exact .refl s
    | some old =>
      intro i sub hs
      show ∃ sub', (s.channels.set channel _)[i]? = some sub' ∧ _
      rw [List.getElem?_set]
      by_cases he : channel = i
      · subst he
        rw [hs] at hc
        obtain rfl := Option.some.inj hc
        obtain ⟨hlt, -⟩ := List.getElem?_eq_some_iff.mp hs
        refine ⟨_, by rw [if_pos rfl, if_pos hlt], fun hne => ?_⟩
        rcases sub.channel.admitUpdate_cases input.update input.provenance.connectionGeneration publishedAt
            (if w.throws then none else some s.nextAddress) with ⟨-, he⟩ | ⟨ha, -⟩ | ⟨ha, -⟩ | ⟨ha, -⟩
        · rw [he]; exact Narrows.refl sub
        all_goals exact absurd ha hne
      · exact ⟨sub, by rw [if_neg he]; exact hs, fun _ => Narrows.refl sub⟩
  | commit request channel =>
    unfold Impl.commitAdmission
    dsimp only
    split
    · refine .trans (t := { s with channels := s.channels ++ [{ channel := channel }] }) ?_ (.of_same ?_)
      · intro i sub hs
        have hlt := (List.getElem?_eq_some_iff.mp hs).1
        exact ⟨sub, by rw [List.getElem?_append_left hlt]; exact hs, fun _ => Narrows.refl sub⟩
      · unfold Impl.completeAdmissionRequestUnlocked
        split <;> rfl
    · unfold Impl.gateAdmission Impl.completeAdmissionRequestUnlocked
      split_ifs
      · split <;> exact .of_same rfl
      · split <;> exact .of_same rfl
      · exact .refl s
  | fault reason adapterError =>
    unfold Impl.faultLocked
    dsimp only
    rw [Impl.answerSnapshotLocked_eq]
    obtain ⟨processed, occupancy, log, he⟩ := discardIngressLocked_eq
      ({ ({ s with
            book.bootstrap := []
            mail.accepting := false
            mail.observation.bootstrapOccupancy := 0
            mail.observation.faultReason := some reason
            mail.observation.adapterError := adapterError } : Impl L).refreshProjectionObservationLocked with
          mail.observation.state := .faulted } : Impl L)
    rw [he]
    exact .of_same rfl
  | publish =>
    unfold Impl.publishProjectionStateLocked
    dsimp only
    split
    · unfold Impl.discardIngressLocked; split <;> exact .of_same rfl
    · exact .of_same rfl
  | takeWork =>
    unfold Impl.takeWork
    repeat' split
    all_goals exact .of_same rfl
  | apply input w =>
    obtain ⟨projection, log, he⟩ := applyToProjection_eq setup input w s
    rw [he]
    exact .of_same rfl
  | buffer input w =>
    rcases bufferDepthUpdate_cases setup input w s with ⟨-, he⟩ | ⟨-, -, he⟩ | ⟨-, he⟩ <;> rw [he] <;> exact .of_same rfl
  | popBootstrap => unfold Impl.popBootstrap; split <;> exact .of_same rfl
  | install input w =>
    obtain ⟨projection, he⟩ := installBaseline_eq setup input w s
    rw [he]
    exact .of_same rfl
  | complete request result => unfold Impl.completeAdmissionRequestUnlocked; split <;> exact .of_same rfl
  | gate request =>
    unfold Impl.gateAdmission Impl.completeAdmissionRequestUnlocked
    split_ifs
    · split <;> exact .of_same rfl
    · split <;> exact .of_same rfl
    · exact .refl s
  | stage subscription depthLimit publishedAt w =>
    unfold Impl.stageSession
    split
    · exact .refl s
    · split <;> exact .of_same rfl
  | completeSnapshot result => unfold Impl.completeSnapshotLocked; split <;> exact .of_same rfl
  | checkReset =>
    unfold Impl.checkReset
    split
    · exact .refl s
    · dsimp only
      split <;> exact .of_same rfl
  | completeReset result => unfold Impl.completeResetLocked; split <;> exact .of_same rfl
  | leave =>
    unfold Impl.leaveLocked
    dsimp only
    rw [Impl.answerSnapshotLocked_eq, Impl.answerResetLocked_eq]
    exact .of_same rfl
  | look | begin | roster _ _ | recordApply _ _ | clearBootstrap | recordInstall _ | setGeneration _ | finishTicket _ | reset
  | abandonReset _ | failReset | completeShutdown | exit => exact .of_same rfl

/-- Callers and writers let sessions settle. -/
theorem ClientStep.settles {s t : Impl L} (hi : BookInv setup s) (h : ClientStep setup s t) : Settles s t := by
  intro i sub hs
  have ha := h.aside
  have hlt : i < t.channels.length := by rw [ha.length]; exact (List.getElem?_eq_some_iff.mp hs).1
  obtain ⟨old, ho, -, hn⟩ := ha.narrows hi (List.getElem?_eq_getElem hlt)
  rw [hs] at ho
  obtain rfl := Option.some.inj ho
  exact ⟨_, List.getElem?_eq_getElem hlt, fun _ => hn⟩

/-- Along a run sessions only settle. -/
theorem Run.settles {ph ph' : Phase (Impl L) (Outcome L)} {s t : Impl L} (h : Run setup ph s ph' t)
    (hr : Reachable setup ph s) : Settles s t := by
  induction h with
  | none => exact .refl s
  | step h' hs ih =>
    have hreach := h'.reachable hr
    rcases hreach.move hs with he | hg | he
    · exact ih.trans (he.settles hreach.book.inv)
    · exact ih.trans hg.settles
    · rw [he]; exact ih

/-! ## Sessions -/

/-- What a session has delivered is a prefix of its acceptance, the book it was admitted with and the updates applied since. Between
two pieces of work an active session has all of them delivered or queued; one that is not active gets nothing more, and a reset, whether
it is completed or throws, leaves none active. A delivered terminal carries the next sequence and nothing is delivered behind it. -/
theorem session_integrity {ph : Phase (Impl L) (Outcome L)} {s : Impl L} (h : Reachable setup ph s) {i : Nat}
    {sub : Subscriber L} (hs : s.channels[i]? = some sub) :
    (∃ accepted snapshot projection generation, admission i s.bookLog = some (projection, generation) ∧
      SnapshotOf setup projection snapshot ∧
      sub.delivered.map recordContent <+: sessionContent accepted snapshot generation (appliedSince i s.bookLog) ∧
      (ph = .head → sub.channel.state = .active →
        sub.records.map recordContent = sessionContent accepted snapshot generation (appliedSince i s.bookLog))) ∧
    (resetSince i s.bookLog = true → sub.channel.state ≠ .active) ∧
    (∀ d, sub.deliveredTerminal = some d →
      sub.channel.state = .closed ∧ d.sessionSequence = sub.delivered.length + 1) ∧
    (∀ ph' t, Run setup ph s ph' t → ∃ sub', t.channels[i]? = some sub' ∧
      (sub.channel.state ≠ .active → sub'.channel.state ≠ .active ∧ sub'.records <+: sub.records) ∧
      (sub.channel.state = .closed →
        sub'.delivered = sub.delivered ∧ sub'.deliveredTerminal = sub.deliveredTerminal)) := by
  have hi : BookInv setup s := h.book.inv
  have hdelivered : sub.delivered <+: sub.records := List.prefix_append _ _
  refine ⟨?_, hi.ended i sub hs, (hi.facts i sub hs).ended, fun ph' t hrun => ?_⟩
  · by_cases hcase : ph = .head ∧ sub.channel.state = .active
    · obtain ⟨rfl, ha⟩ := hcase
      obtain ⟨a, sn, p, g, us, had, hsn, hap, hr⟩ := h.book.2.2.1 i sub hs ha
      rw [List.append_nil] at hap
      refine ⟨a, sn, p, g, had, hsn, ?_, fun _ _ => by rw [hap]; exact hr⟩
      rw [hap, ← hr]
      exact hdelivered.map _
    · obtain ⟨a, sn, p, g, had, hsn, hr⟩ := hi.follows i sub hs
      exact ⟨a, sn, p, g, had, hsn, (hdelivered.map _).trans hr, fun hph ha => absurd ⟨hph, ha⟩ hcase⟩
  · obtain ⟨sub', ht, hn⟩ := hrun.settles h i sub hs
    refine ⟨sub', ht, fun hne => ⟨(hn hne).inactive hne, (hn hne).records⟩, fun hc => ?_⟩
    have hne : sub.channel.state ≠ .active := by rw [hc]; simp
    exact ((hn hne).closed hc).2

/-- It has admitted one session. -/
def countingAdmitted : CountingConfig :=
  (countingLive.call (fun s => (s.admitOrderBookSubscription countingSetup ⟨"r", "g", none⟩ false).2)).run 20

theorem countingAdmitted_reached : countingAdmitted.Reached :=
  (countingLive_reached.call (f := fun s => (s.admitOrderBookSubscription countingSetup ⟨"r", "g", none⟩ false).2)
    (.admitSubscription ⟨"r", "g", none⟩ false)).run 20

/-- The session has been sent an update. -/
def withSession : CountingConfig :=
  (countingAdmitted.call (fun s => (s.submit countingSetup (depthInput 7 (some 1)) false).2)).run 20

theorem withSession_reached : withSession.Reached :=
  (countingAdmitted_reached.call (f := fun s => (s.submit countingSetup (depthInput 7 (some 1)) false).2)
    (.submit (depthInput 7 (some 1)) false)).run 20

/-- What the writer of the first session sees. -/
def frontOf (p : CountingConfig) : PeekedPublication Nat Nat :=
  match p.2.channels with
  | [] => {}
  | sub :: _ => sub.channel.peek

/-- The writer takes the acceptance and acknowledges it. -/
def delivering : CountingConfig :=
  (withSession.call (·.onSubscriber 0 (·.peek))).call (·.onSubscriber 0 (·.acknowledge (frontOf withSession)))

theorem delivering_reached : delivering.Reached := by
  have hpeeked : ∃ sub, (withSession.call (·.onSubscriber 0 (·.peek))).2.channels[0]? = some sub ∧
      frontOf withSession ∈ sub.peeked := ⟨_, rfl, List.mem_cons_self⟩
  obtain ⟨sub, hs, hp⟩ := hpeeked
  exact (withSession_reached.call (.peek 0)).call (.acknowledge hs hp)

/-- A session that has acknowledged its first record has delivered a prefix of its content. -/
theorem session_integrity_delivering : ∃ sub, delivering.2.channels[0]? = some sub ∧ sub.delivered.length = 1 ∧
    ∃ accepted snapshot projection generation, admission 0 delivering.2.bookLog = some (projection, generation) ∧
      SnapshotOf countingSetup projection snapshot ∧
      sub.delivered.map recordContent <+:
        sessionContent accepted snapshot generation (appliedSince 0 delivering.2.bookLog) := by
  have hs : ∃ sub, delivering.2.channels[0]? = some sub ∧ sub.delivered.length = 1 := ⟨_, rfl, rfl⟩
  obtain ⟨sub, hs, hlen⟩ := hs
  obtain ⟨⟨accepted, snapshot, projection, generation, hadmitted, hsnapshot, hprefix, -⟩, -⟩ :=
    session_integrity delivering_reached hs
  exact ⟨sub, hs, hlen, accepted, snapshot, projection, generation, hadmitted, hsnapshot, hprefix⟩

/-! ## Generations -/

/-- An update whose generation is not the baseline's is refused before the projection sees it. -/
theorem mismatch_refused {s : Impl L} (hi : BookInv setup s) {input : DepthUpdateInput L}
    (hm : ¬Agrees (installedGeneration s.bookLog) input) (w : Outcome L) :
    s.applyToProjection setup input w = (.generationMismatch,
      { s with bookLog := .mismatched input s.book.projection (s.channels.map Subscriber.records) :: s.bookLog }) := by
  rw [hi.generation] at hm
  unfold Impl.applyToProjection
  refine if_pos ?_
  simp only [Agrees, not_forall] at hm
  obtain ⟨g, hcur, g', hgen, hne⟩ := hm
  rw [hcur, hgen]
  exact ⟨rfl, rfl, fun he => hne (Option.some.inj he).symm⟩

/-- The history knows the generation of the book; what has been applied or published agrees with it; an update that does not agree
changes neither the book nor any record, and leaves the runtime faulted with no session active (the book stays as it was found until a
reset is served); and since a reset nothing has been applied or buffered that had not been received since. -/
theorem generations_apart {ph : Phase (Impl L) (Outcome L)} {s : Impl L} (h : Reachable setup ph s) :
    installedGeneration s.bookLog = s.book.currentProjectionGeneration ∧
    Every BookEvent.Matched s.bookLog ∧
    (∀ input w, ¬Agrees (installedGeneration s.bookLog) input →
      s.applyToProjection setup input w = (.generationMismatch,
        { s with bookLog := .mismatched input s.book.projection (s.channels.map Subscriber.records) :: s.bookLog })) ∧
    (∀ projection records, mismatchSinceReset s.bookLog = some (projection, records) →
      (threwSinceMismatch s.bookLog = false → s.book.projection = projection) ∧
      (∀ (i : Nat) sub, s.channels[i]? = some sub → ∃ found, records[i]? = some found ∧ sub.records <+: found) ∧
      (ph = .head → s.mail.observation.state = .faulted ∧ s.mail.observation.faultReason ≠ none ∧
        ∀ (i : Nat) sub, s.channels[i]? = some sub → sub.channel.state ≠ .active)) ∧
    (appliedSinceReset s.bookLog ++ s.book.bootstrap).Subperm (receivedSinceReset s.bookLog) := by
  have hi : BookInv setup s := h.book.inv
  refine ⟨hi.generation, hi.matched, fun _ w hm => mismatch_refused hi hm w, fun projection records hm => ?_, hi.buffered⟩
  obtain ⟨hprojection, hrecords⟩ := hi.mismatch projection records hm
  refine ⟨hprojection, hrecords, ?_⟩
  rintro rfl
  obtain ⟨hshut, hsilent⟩ := h.book.2.2.2 (by rw [hm]; simp)
  exact ⟨hshut.1, h.inv.states.faulted hshut.1, fun i sub hs ha => absurd (hsilent i sub hs ha) List.not_mem_nil⟩

/-- The live runtime is sent an update of another generation. -/
def mixedGenerations : CountingConfig :=
  (withSession.call (fun s => (s.submit countingSetup (depthInput 8 (some 2)) false).2)).run 30

theorem mixedGenerations_reached : mixedGenerations.Reached :=
  (withSession_reached.call (.submit (depthInput 8 (some 2)) false)).run 30

/-- An update of another generation leaves the projection as it was and no session active. -/
theorem generations_apart_mixed :
    mixedGenerations.2.book.projection = ⟨.synchronized, 7⟩ ∧ mixedGenerations.2.mail.observation.state = .faulted ∧
      ∀ (i : Nat) sub, mixedGenerations.2.channels[i]? = some sub → sub.channel.state ≠ .active := by
  have hfound : (mismatchSinceReset mixedGenerations.2.bookLog).map (·.1) = some ⟨.synchronized, 7⟩ := by decide +kernel
  obtain ⟨⟨projection, records⟩, hm, rfl⟩ := Option.map_eq_some_iff.mp hfound
  obtain ⟨-, -, -, hmismatch, -⟩ := generations_apart mixedGenerations_reached
  obtain ⟨hprojection, -, hhead⟩ := hmismatch _ records hm
  obtain ⟨hstate, -, hsilent⟩ := hhead rfl
  exact ⟨hprojection (by decide +kernel), hstate, hsilent⟩

end MarketDataGateway.MarketRuntime
