import MarketDataGateway.Events.Feed
import MarketDataGateway.Lib.Heap

/-!
# What each call does to the sessions

Each call of the publication keeps the invariant and leaves everything at rest; a publish in between has come to some of the channels
and not to the others. With these the invariant holds in every reachable state.
-/

namespace MarketDataGateway.Events

open Containers Threads

variable {T : EventTypes} {setup : EventPublicationSetup} {s t : EventPublication T}

/-! ## The source changes its state -/

/-- A section that leaves the sessions alone, takes no event from the history and expects no less of any session. -/
theorem FeedInv.same_sessions (hi : FeedInv setup s) (hs : t.sessions = s.sessions) (ha : t.nextAddress = s.nextAddress)
    (hl : ∀ e ∈ s.log, e ∈ t.log) (hin : ∀ i ∈ t.channels, i ∈ s.channels) (hnodup : t.channels.Nodup)
    (hexp : ∀ i c, Intact t.log → s.expected [] i c <+: t.expected [] i c) (hlife : Lifecycle t) : FeedInv setup t where
  facts i session h := by rw [ha]; exact hi.facts i session (hs ▸ h)
  closedBy i session h hc := by
    rcases hi.closedBy i session (hs ▸ h) hc with hw | hd | hshut
    · exact Or.inl hw
    · exact Or.inr (Or.inl hd)
    · exact Or.inr (Or.inr (hl _ hshut))
  carries i session h := by
    obtain ⟨events, hc, he⟩ := hi.carries i session (hs ▸ h)
    refine ⟨events, hc.mono hl, fun hint => (he fun c hm => hint c (hl _ hm)).trans (hexp i session.channel hint)⟩
  known i h := by rw [hs]; exact hi.known i (hin i h)
  nodup := hnodup
  lifecycle := hlife

/-- Such a section that expects no more of the listed sessions keeps them up to date. -/
theorem Lag.same_sessions {missing missing' : List Nat} (h : Lag setup missing s) (hs : t.sessions = s.sessions)
    (hl : ∀ e ∈ s.log, e ∈ t.log) (hin : ∀ i ∈ t.channels, i ∈ s.channels)
    (hexp : ∀ i ∈ t.channels, ∀ c, t.expected missing' i c = s.expected missing i c) : Lag setup missing' t := by
  intro hint i session ht hi hact
  rw [hexp i hi]
  exact (h (fun c hm => hint c (hl _ hm)) i session (hs ▸ ht) (hin i hi) hact).mono hl

/-- A silent event, or none, with a new state of the source. -/
theorem source_changes (log : List (EventSourceEvent T)) (hi : FeedInv setup s) (h : AtRest setup s)
    (hlog : log = s.log ∨ ∃ e : EventSourceEvent T, e.isSilent = true ∧ log = e :: s.log) (state : EventSourceState)
    (generation : Option Nat)
    (hlife : Lifecycle { s with sourceState := state, sourceGeneration := generation, log := log }) :
    FeedInv setup { s with sourceState := state, sourceGeneration := generation, log := log } ∧
      AtRest setup { s with sourceState := state, sourceGeneration := generation, log := log } := by
  have hmem : ∀ e ∈ s.log, e ∈ log := by
    intro e he
    rcases hlog with rfl | ⟨e', -, rfl⟩
    · exact he
    · exact List.mem_cons_of_mem _ he
  have hexp : ∀ missing i c,
      ({ s with sourceState := state, sourceGeneration := generation, log := log } : EventPublication T).expected missing i c =
        s.expected missing i c := by
    intro missing i c
    rcases hlog with rfl | ⟨e', he', rfl⟩
    · rfl
    · simp only [EventPublication.expected, publishedSince_silent he']
  refine ⟨hi.same_sessions rfl rfl hmem (fun i h => h) hi.nodup (fun i c _ => ?_) hlife, h.1,
    h.2.same_sessions rfl hmem (fun i h => h) (fun i _ c => hexp [] i c)⟩
  exact (hexp [] i c).symm ▸ List.prefix_refl _

/-- Opening a generation keeps the feed at rest. -/
theorem openGeneration_feed (generation : Nat) (hi : FeedInv setup s) (h : AtRest setup s) :
    FeedInv setup (s.openGeneration generation).2 ∧ AtRest setup (s.openGeneration generation).2 := by
  unfold EventPublication.openGeneration
  split
  · exact ⟨hi, h⟩
  · rename_i hrefused
    simp only [not_or] at hrefused
    obtain ⟨-, hshut, hperm, -, -, hlater⟩ := hrefused
    have hl := hi.lifecycle
    refine source_changes _ hi h (Or.inr ⟨_, rfl, rfl⟩) .opened (some generation) ⟨rfl, fun g hg => ⟨generation, rfl, ?_⟩, ?_,
      fun g hg => ?_, ⟨hl.not_ended hshut hperm, fun g hg => ?_⟩, hl.chronicle⟩
    · rcases List.mem_cons.mp hg with he | hg
      · cases he
        exact Nat.le_refl _
      · obtain ⟨current, hc, hle⟩ := hl.latest g hg
        simp [hc] at hlater
        omega
    · refine ⟨fun hm => ?_, fun hm => by cases hm⟩
      rcases List.mem_cons.mp hm with he | hm
      · cases he
      · exact absurd (hl.shutdown.mp hm) hshut
    · rcases List.mem_cons.mp hg with he | hm
      · cases he
      · exact absurd (Or.inr ⟨g, hm⟩) (hl.not_ended hshut hperm)
    · obtain ⟨current, hc, hle⟩ := hl.latest g hg
      simp [hc] at hlater
      omega

/-- Quiescing a generation keeps the feed at rest. -/
theorem quiesceGeneration_feed (generation : Nat) (hi : FeedInv setup s) (h : AtRest setup s) :
    FeedInv setup (s.quiesceGeneration generation).2 ∧ AtRest setup (s.quiesceGeneration generation).2 := by
  unfold EventPublication.quiesceGeneration
  split
  · exact ⟨hi, h⟩
  · rename_i hrefused
    simp only [not_or, Decidable.not_not] at hrefused
    have hl := hi.lifecycle
    have hended := hl.not_ended (by rw [hrefused.1]; simp) (by rw [hrefused.1]; simp)
    exact source_changes _ hi h (Or.inl rfl) .quiesced s.sourceGeneration ⟨hl.current, hl.latest,
      ⟨fun hm => absurd (Or.inl hm) hended, fun hm => by cases hm⟩, fun g hm => absurd (Or.inr ⟨g, hm⟩) hended, hl.chronicle⟩

/-- At rest, with the source quiesced. -/
def Quiesced (setup : EventPublicationSetup) (s : EventPublication T) : Prop := AtRest setup s ∧ s.sourceState = .quiesced

/-- A quiesced source stays quiesced. -/
theorem steadfast_quiesced : Steadfast setup (Quiesced setup : EventPublication T → Prop) :=
  steadfast_atRest.and (steadfast_state .quiesced)

/-- Once it is quiesced the source may be closed. -/
theorem closed_of_quiesced (hi : FeedInv setup s) (h : Quiesced setup s) :
    FeedInv setup { s with sourceState := .closed } ∧ AtRest setup { s with sourceState := .closed } := by
  have hl := hi.lifecycle
  have hended := hl.not_ended (by rw [h.2]; simp) (by rw [h.2]; simp)
  exact source_changes _ hi h.1 (Or.inl rfl) .closed s.sourceGeneration ⟨hl.current, hl.latest,
    ⟨fun hm => absurd (Or.inl hm) hended, fun hm => by cases hm⟩, fun g hm => absurd (Or.inr ⟨g, hm⟩) hended, hl.chronicle⟩

/-- A quiesced source may be closed for good. -/
theorem permanent_of_quiesced (generation : Nat) (hi : FeedInv setup s) (h : Quiesced setup s) :
    FeedInv setup { s with sourceState := .permanentlyClosed, log := .closedPermanently generation :: s.log } ∧
      AtRest setup { s with sourceState := .permanentlyClosed, log := .closedPermanently generation :: s.log } := by
  have hl := hi.lifecycle
  have hended := hl.not_ended (by rw [h.2]; simp) (by rw [h.2]; simp)
  refine source_changes _ hi h.1 (Or.inr ⟨_, rfl, rfl⟩) .permanentlyClosed s.sourceGeneration ⟨hl.current, fun g hg => ?_,
    ⟨fun hm => ?_, fun hm => by cases hm⟩, fun g _ => Or.inl rfl, trivial, hl.chronicle⟩
  · rcases List.mem_cons.mp hg with he | hg
    · cases he
    · exact hl.latest g hg
  · rcases List.mem_cons.mp hm with he | hm
    · cases he
    · exact absurd (Or.inl hm) hended

/-- A call that waits for the source to be quiesced reads that it is. -/
theorem read_quiesced (generation : Nat) :
    Triple (feedRely setup) (AtRest setup) (Program.read (EventPublication.isQuiescedAt generation) : EventProgram T Bool)
      (fun quiesced s => AtRest setup s ∧ (quiesced = true → s.sourceState = .quiesced)) := by
  refine Triple.read steadfast_atRest.stable (fun quiesced => ?_) fun s _ h => ⟨h, fun hq => ?_⟩
  · refine (steadfast_atRest.and ?_).stable
    exact fun s t _ h ha hq => ha.state.trans (h hq)
  · simp only [EventPublication.isQuiescedAt, Bool.and_eq_true, decide_eq_true_eq] at hq
    exact hq.1

/-- A close for a replacement keeps the feed at rest. -/
theorem closeGenerationReplaced_feed (generation : Nat) :
    Triple (feedRely setup) (AtRest setup) (closeGenerationReplaced generation : EventProgram T Bool)
      (fun _ => AtRest setup) := by
  refine Triple.bind (Triple.choose steadfast_atRest.stable) fun sampled => ?_
  cases sampled with
  | none => exact Triple.done steadfast_atRest.stable (fun _ _ h => h)
  | some publishedAt =>
    refine Triple.bind (read_quiesced generation) fun quiesced => ?_
    cases quiesced with
    | false => exact Triple.pre (Triple.done steadfast_atRest.stable (fun _ _ h => h)) fun _ _ h => h.1
    | true =>
      have hclose : Triple (feedRely setup) (Quiesced setup) (terminalizeReplacedLocked generation publishedAt : EventProgram T Unit)
          (fun _ => Quiesced setup) :=
        Triple.bind (read_steadfast steadfast_quiesced _) fun channels =>
          forEach_aside steadfast_quiesced (fun channel s _ => aside_terminalizeReplaced generation publishedAt channel s) channels
      exact Triple.bind (hclose.pre fun _ _ h => ⟨h.1, h.2 rfl⟩) fun _ =>
        Triple.bind (Triple.modify (Q := fun _ => AtRest setup) steadfast_quiesced.stable steadfast_atRest.stable
          fun s hi h => closed_of_quiesced hi h) fun _ => Triple.done steadfast_atRest.stable (fun _ _ h => h)

/-- A close for good keeps the feed at rest. -/
theorem closeGenerationPermanently_feed (generation : Nat) :
    Triple (feedRely setup) (AtRest setup) (closeGenerationPermanently generation : EventProgram T Bool)
      (fun _ => AtRest setup) := by
  refine Triple.bind (read_quiesced generation) fun quiesced => ?_
  cases quiesced with
  | false => exact Triple.pre (Triple.done steadfast_atRest.stable (fun _ _ h => h)) fun _ _ h => h.1
  | true =>
    refine Triple.bind (Triple.pre (read_steadfast steadfast_quiesced _) fun _ _ h => ⟨h.1, h.2 rfl⟩) fun channels => ?_
    exact Triple.bind (forEach_aside steadfast_quiesced (fun channel s _ => aside_closeUnavailable generation channel s) channels)
        fun _ => Triple.bind (Triple.modify (Q := fun _ => AtRest setup) steadfast_quiesced.stable steadfast_atRest.stable
          fun s hi h => permanent_of_quiesced generation hi h) fun _ => Triple.done steadfast_atRest.stable (fun _ _ h => h)

/-! ## Shutdown and removal -/

/-- The first section of a shutdown notes it. -/
theorem beginShutdown_feed (hi : FeedInv setup s) (h : AtRest setup s) :
    FeedInv setup s.beginShutdown.2 ∧ AtRest setup s.beginShutdown.2 ∧
      (s.beginShutdown.1 = true → .shutdown ∈ s.beginShutdown.2.log) := by
  unfold EventPublication.beginShutdown
  split
  · exact ⟨hi, h, fun hf => by cases hf⟩
  · have hl := hi.lifecycle
    obtain ⟨h1, h2⟩ := source_changes (.shutdown :: s.log) hi h (Or.inr ⟨_, rfl, rfl⟩) .shutdown s.sourceGeneration
      ⟨hl.current, fun g hg => hl.latest g ((List.mem_cons.mp hg).resolve_left (by simp)),
        ⟨fun _ => rfl, fun _ => List.mem_cons_self⟩, fun _ _ => Or.inr rfl, trivial, hl.chronicle⟩
    exact ⟨h1, h2, fun _ => List.mem_cons_self⟩

/-- A shutdown keeps the feed at rest. -/
theorem shutdown_feed :
    Triple (feedRely setup) (AtRest setup) (shutdown : EventProgram T Unit) (fun _ => AtRest setup) := by
  have hshut : Steadfast setup (fun s : EventPublication T => AtRest setup s ∧ .shutdown ∈ s.log) :=
    steadfast_atRest.and fun s t _ h ha => by rw [ha.log]; exact h
  refine Triple.bind (Triple.atomic
    (Q := fun first s => AtRest setup s ∧ (first = true → EventSourceEvent.shutdown ∈ s.log))
    steadfast_atRest.stable (fun first => ?_) fun _ s hi h => beginShutdown_feed hi h) fun first => ?_
  · exact (steadfast_atRest.and (B := fun s => first = true → EventSourceEvent.shutdown ∈ s.log)
      fun s t _ h ha hf => by rw [ha.log]; exact h hf).stable
  · cases first with
    | false => exact Triple.pre (Triple.done steadfast_atRest.stable (fun _ _ h => h)) fun _ _ h => h.1
    | true =>
      refine Triple.bind (Triple.pre (read_steadfast hshut _) fun _ _ h => ⟨h.1, h.2 rfl⟩) fun channels => ?_
      exact (forEach_aside hshut (fun channel s h => aside_closeFromOwner h.2 channel) channels).post fun _ _ _ h => h.1

/-- Removing a channel keeps the feed at rest. -/
theorem remove_feed (channel : Nat) (hi : FeedInv setup s) (h : AtRest setup s) :
    FeedInv setup (s.remove channel) ∧ AtRest setup (s.remove channel) := by
  have hsub : ∀ i ∈ (s.remove channel).channels, i ∈ s.channels := fun i hm => List.mem_of_mem_erase hm
  refine ⟨hi.same_sessions rfl rfl (fun _ h => h) hsub (hi.nodup.erase channel) (fun _ _ _ => List.prefix_refl _) ?_, h.1,
    h.2.same_sessions rfl (fun _ h => h) hsub fun _ _ _ => rfl⟩
  exact ⟨hi.lifecycle.current, hi.lifecycle.latest, hi.lifecycle.shutdown, hi.lifecycle.permanent, hi.lifecycle.chronicle⟩

/-- So does the call that removes one. -/
theorem removeChannel_feed (channel : Option Nat) :
    Triple (feedRely setup) (AtRest setup) (removeChannel channel : EventProgram T Unit) (fun _ => AtRest setup) := by
  cases channel with
  | none => exact Triple.done steadfast_atRest.stable (fun _ _ h => h)
  | some channel =>
    exact Triple.modify steadfast_atRest.stable steadfast_atRest.stable fun s hi h => remove_feed channel hi h

/-! ## Admissions -/

/-- A new channel, staged, is a session that holds its acceptance and nothing else. -/
theorem facts_of_staged {c : EventSubscriberChannel T} {subscription : ValidatedEventSubscription} {id instanceId : String}
    {publishedAt : EventPublicationTime} {address : Nat} (hst : c.state = .active) (hterm : c.terminal = none)
    (hnext : c.nextSessionSequence = 2)
    (hq : c.queued = [⟨address, makeAcceptedRecord subscription id instanceId publishedAt⟩]) :
    SessionFacts (address + 1)
      ({ channel := c, admitted := [makeAcceptedRecord subscription id instanceId publishedAt] } : EventSession T) := by
  have hmem : ∀ r, ({ channel := c, admitted := [makeAcceptedRecord subscription id instanceId publishedAt] } :
      EventSession T).Holds r → r = ⟨address, makeAcceptedRecord subscription id instanceId publishedAt⟩ := by
    intro r hr
    rcases hr with hr | ⟨_, hr, _⟩
    · have hr' : r ∈ c.queued := hr
      rw [hq] at hr'
      exact List.mem_singleton.mp hr'
    · cases hr
  refine ⟨fun r hr => ?_, fun r hr q hm _ => ?_, fun _ => ⟨hterm, hnext⟩, fun hs => ?_, fun _ => hterm, fun _ => ⟨rfl, rfl⟩,
    fun _ => ?_, List.nil_prefix, fun d hd => by cases hd⟩
  · rw [hmem r hr]
    exact Nat.lt_succ_self address
  · rw [hmem r hr, hmem q (Or.inl hm)]
  · have : c.state = .terminalGap := hs
    rw [hst] at this
    cases this
  · simp [EventSession.records, hq]

/-- Another session is admitted behind those there are. -/
theorem enroll_feed {session : EventSession T} {subscription : ValidatedEventSubscription} {generation : Nat}
    (publishedAt : EventPublicationTime) (hi : FeedInv setup s) (h : AtRest setup s) (hopen : s.sourceState = .opened)
    (hgen : s.sourceGeneration = some generation) (hfacts : SessionFacts (s.nextAddress + 1) session)
    (hactive : session.channel.state = .active) (hsm : session.channel.stream = subscription.stream)
    (hg : session.channel.sourceGeneration = generation)
    (had : session.admitted =
      [makeAcceptedRecord subscription session.channel.subscriptionId setup.gatewayInstanceId publishedAt]) :
    FeedInv setup (s.enroll subscription generation session) ∧ AtRest setup (s.enroll subscription generation session) := by
  have hl := hi.lifecycle
  have hended := hl.not_ended (by rw [hopen]; simp) (by rw [hopen]; simp)
  have hget : ∀ {i : Nat} {found : EventSession T}, (s.sessions ++ [session])[i]? = some found →
      (i = s.sessions.length ∧ found = session) ∨ (i ≠ s.sessions.length ∧ s.sessions[i]? = some found) :=
    fun hs => getElem?_push_cases hs
  have hnew : Carries setup s.sessions.length (.subscribed s.sessions.length subscription generation :: s.log) session [] :=
    ⟨subscription, publishedAt, by rw [hg]; exact List.mem_cons_self, hsm, by rw [had]; rfl⟩
  have hexp : ∀ i, i ≠ s.sessions.length → ∀ c,
      (s.enroll subscription generation session).expected [] i c = s.expected [] i c := by
    intro i hne c
    simp only [EventPublication.expected, EventPublication.enroll, publishedSince, if_neg hne.symm]
  constructor
  · exact {
      facts := fun i found hs => by
        rcases hget hs with ⟨-, rfl⟩ | ⟨-, ho⟩
        · exact hfacts
        · exact (hi.facts i found ho).mono (Nat.le_succ _)
      closedBy := fun i found hs hc => by
        rcases hget hs with ⟨-, rfl⟩ | ⟨-, ho⟩
        · rw [hactive] at hc; cases hc
        · rcases hi.closedBy i found ho hc with hw | hd | hshut
          · exact Or.inl hw
          · exact Or.inr (Or.inl hd)
          · exact Or.inr (Or.inr (List.mem_cons_of_mem _ hshut))
      carries := fun i found hs => by
        rcases hget hs with ⟨rfl, rfl⟩ | ⟨hne, ho⟩
        · exact ⟨[], hnew, fun _ => List.nil_prefix⟩
        · obtain ⟨events, hc, he⟩ := hi.carries i found ho
          refine ⟨events, hc.mono fun _ => List.mem_cons_of_mem _, fun hint => ?_⟩
          rw [hexp i hne]
          exact he fun c hm => hint c (List.mem_cons_of_mem _ hm)
      known := fun i hm => by
        show i < (s.sessions ++ [session]).length
        rw [List.length_append, List.length_singleton]
        rcases List.mem_append.mp hm with hm | hm
        · exact Nat.lt_succ_of_lt (hi.known i hm)
        · rw [List.mem_singleton.mp hm]; exact Nat.lt_succ_self _
      nodup := by
        refine List.nodup_append.mpr ⟨hi.nodup, by simp, fun i hm j hj => ?_⟩
        rw [List.mem_singleton.mp hj]
        exact Nat.ne_of_lt (hi.known i hm)
      lifecycle := hl.event rfl rfl rfl rfl ⟨hended, hl.current.trans hgen⟩ }
  · refine ⟨h.1, fun hint i found hs hin hact => ?_⟩
    rcases hget hs with ⟨rfl, rfl⟩ | ⟨hne, ho⟩
    · have : ∀ c, (s.enroll subscription generation found).expected [] s.sessions.length c = [] := by
        intro c
        simp [EventPublication.expected, EventPublication.enroll, publishedSince, inFlight, h.1]
      rw [this]
      exact hnew
    · rw [hexp i hne]
      have hin' : i ∈ s.channels := by
        rcases List.mem_append.mp hin with hm | hm
        · exact hm
        · exact absurd (List.mem_singleton.mp hm) hne
      exact (h.2 (fun c hm => hint c (List.mem_cons_of_mem _ hm)) i found ho hin' hact).mono fun _ => List.mem_cons_of_mem _

/-- Admitting a session keeps the feed at rest. -/
theorem admitLocked_feed (subscription : ValidatedEventSubscription) (publishedAt : EventPublicationTime) (throws : Bool)
    (hi : FeedInv setup s) (h : AtRest setup s) :
    FeedInv setup (s.admitLocked setup subscription publishedAt throws).2 ∧
      AtRest setup (s.admitLocked setup subscription publishedAt throws).2 := by
  unfold EventPublication.admitLocked
  split
  · exact ⟨hi, h⟩
  · split
    · exact ⟨hi, h⟩
    · rename_i hopen
      rw [Decidable.not_not] at hopen
      split
      · exact ⟨hi, h⟩
      · rename_i generation hgen
        split_ifs
        iterate 3 exact ⟨hi, h⟩
        dsimp only
        split
        · exact ⟨hi, h⟩
        · rename_i channel hcreate
          obtain ⟨-, hterm, hsm, hg, hid⟩ := EventSubscriberChannel.create_some hcreate
          split
          · rename_i hstaged
            obtain ⟨hst, hterm', hnext, hq, hsm', hg', hid'⟩ := EventSubscriberChannel.stageAccepted_true hstaged
            refine enroll_feed publishedAt hi h hopen hgen ?_ hst (hsm'.trans hsm) (hg'.trans hg) ?_
            · exact facts_of_staged hst (hterm'.trans hterm) hnext hq
            · rw [hid', hid]
          · exact ⟨hi, h⟩

/-- So does the call for a session. -/
theorem admitSubscription_feed (subscription : ValidatedEventSubscription) :
    Triple (feedRely setup) (AtRest setup)
      (admitSubscription setup subscription : EventProgram T (Except EventSubscriptionAdmissionError Nat))
      (fun _ => AtRest setup) := by
  refine Triple.bind (Triple.choose steadfast_atRest.stable) fun sampled => ?_
  cases sampled with
  | none => exact Triple.done steadfast_atRest.stable (fun _ _ h => h)
  | some publishedAt =>
    exact Triple.atomic steadfast_atRest.stable (fun _ => steadfast_atRest.stable)
      fun w s hi h => admitLocked_feed subscription publishedAt w.throws hi h

/-! ## Publishing -/

/-- An event is on its way; it has still to come to the channels `missing`. -/
structure FanOut (setup : EventPublicationSetup) (event : NormalizedMarketEvent T) (generation : Nat) (missing : List Nat)
    (s : EventPublication T) : Prop where
  publishing : s.publishing = some (event, generation)
  opened : s.sourceState = .opened
  current : s.sourceGeneration = some generation
  listed : ∀ i ∈ missing, i ∈ s.channels
  nodup : missing.Nodup
  lag : Lag setup missing s

/-- What is still to be published stays to be published. -/
theorem steadfast_fanOut (event : NormalizedMarketEvent T) (generation : Nat) (missing : List Nat) :
    Steadfast setup (FanOut setup event generation missing) := by
  intro s t hi h ha
  exact ⟨ha.publishing.trans h.publishing, ha.state.trans h.opened, ha.generation.trans h.current,
    fun i hm => ha.channels ▸ h.listed i hm, h.nodup, steadfast_lag missing s t hi h.lag ha⟩

/-- The gate of a publish: either nothing happens, or the event sets out for every listed channel. -/
theorem beginPublish_feed (event : NormalizedMarketEvent T) (generation : Nat) (hi : FeedInv setup s) (h : AtRest setup s) :
    FeedInv setup (s.beginPublish event generation).2 ∧
      match (s.beginPublish event generation).1 with
      | some _ => AtRest setup (s.beginPublish event generation).2
      | none => FanOut setup event generation (s.beginPublish event generation).2.channels
          (s.beginPublish event generation).2 := by
  unfold EventPublication.beginPublish
  split
  · exact ⟨hi, h⟩
  · split
    · exact ⟨hi, h⟩
    · rename_i hopen
      simp only [not_or, Decidable.not_not] at hopen
      have hl := hi.lifecycle
      refine ⟨hi.same_sessions rfl rfl (fun _ h => h) (fun _ h => h) hi.nodup (fun i c _ => ?_)
        ⟨hl.current, hl.latest, hl.shutdown, hl.permanent, hl.chronicle⟩,
        ⟨rfl, hopen.1, hopen.2, fun _ h => h, hi.nodup, h.2.same_sessions rfl (fun _ h => h) (fun _ h => h) fun i hm c => ?_⟩⟩
      · simp [EventPublication.expected, h.1, inFlight]
      · have hm' : i ∈ s.channels := hm
        simp [EventPublication.expected, h.1, inFlight, hm']

/-- A session of another stream or generation is up to date without the event. -/
theorem FanOut.skip {event : NormalizedMarketEvent T} {generation channel : Nat} {rest : List Nat}
    (h : FanOut setup event generation (channel :: rest) s)
    (hother : ∀ session, s.sessions[channel]? = some session →
      session.channel.state = .active → inFlight session.channel.stream session.channel.sourceGeneration s.publishing = []) :
    FanOut setup event generation rest s := by
  refine ⟨h.publishing, h.opened, h.current, fun i hm => h.listed i (List.mem_cons_of_mem _ hm), (List.nodup_cons.mp h.nodup).2,
    fun hint i session hs hin hact => ?_⟩
  have hc := h.lag hint i session hs hin hact
  by_cases hi : i = channel
  · subst hi
    have hnot := (List.nodup_cons.mp h.nodup).1
    simp only [EventPublication.expected, List.mem_cons_self, if_true, if_neg hnot, hother session hs hact] at hc ⊢
    exact hc
  · have hiff : i ∈ channel :: rest ↔ i ∈ rest := by simp [hi]
    simp only [EventPublication.expected, hiff] at hc ⊢
    exact hc

/-- One session is replaced by what a move makes of it. -/
theorem FeedInv.replace {channel : Nat} {session session' : EventSession T} (hi : FeedInv setup s)
    (hs : s.sessions[channel]? = some session)
    (hmove : SessionMove True (.shutdown ∈ s.log) s.nextAddress (s.nextAddress + 1) session session')
    (hcarries : ∃ events, Carries setup channel s.log session' events ∧
      (Intact s.log → events <+: s.expected [] channel session'.channel)) :
    FeedInv setup { s with sessions := s.sessions.set channel session', nextAddress := s.nextAddress + 1 } where
  facts i found ht := by
    rcases getElem?_set_cases ht with ⟨rfl, rfl⟩ | ⟨-, ho⟩
    · exact (hi.facts i session hs).move (Nat.le_succ _) hmove
    · exact (hi.facts i found ho).mono (Nat.le_succ _)
  closedBy i found ht := by
    rcases getElem?_set_cases ht with ⟨rfl, rfl⟩ | ⟨-, ho⟩
    · exact hmove.closedBy (hi.closedBy i session hs)
    · exact hi.closedBy i found ho
  carries i found ht := by
    rcases getElem?_set_cases ht with ⟨rfl, rfl⟩ | ⟨-, ho⟩
    · exact hcarries
    · exact hi.carries i found ho
  known i hin := by
    show i < (s.sessions.set channel session').length
    rw [List.length_set]
    exact hi.known i hin
  nodup := hi.nodup
  lifecycle := ⟨hi.lifecycle.current, hi.lifecycle.latest, hi.lifecycle.shutdown, hi.lifecycle.permanent, hi.lifecycle.chronicle⟩

/-- The event has come to one more channel. -/
theorem FanOut.handed {event : NormalizedMarketEvent T} {generation channel : Nat} {rest : List Nat} {session' : EventSession T}
    (h : FanOut setup event generation (channel :: rest) s)
    (hc : Intact s.log → session'.channel.state = .active →
      Carries setup channel s.log session' (s.expected [] channel session'.channel)) :
    FanOut setup event generation rest
      { s with sessions := s.sessions.set channel session', nextAddress := s.nextAddress + 1 } := by
  refine ⟨h.publishing, h.opened, h.current, fun i hm => h.listed i (List.mem_cons_of_mem _ hm), (List.nodup_cons.mp h.nodup).2,
    fun hint i found ht hin hact => ?_⟩
  rcases getElem?_set_cases ht with ⟨rfl, rfl⟩ | ⟨hne, ho⟩
  · have hnot := (List.nodup_cons.mp h.nodup).1
    have := hc hint hact
    simp only [EventPublication.expected, List.not_mem_nil, if_false, if_neg hnot] at this ⊢
    exact this
  · have := h.lag hint i found ho hin hact
    have hiff : i ∈ channel :: rest ↔ i ∈ rest := by simp [hne]
    simp only [EventPublication.expected, hiff] at this ⊢
    exact this

/-- The section of a publish on one channel. -/
theorem publishTo_feed {event : NormalizedMarketEvent T} {generation channel : Nat} {rest : List Nat}
    (publishedAt : EventPublicationTime) (throws : Bool) (hi : FeedInv setup s)
    (h : FanOut setup event generation (channel :: rest) s) :
    FeedInv setup (s.publishTo event generation publishedAt channel throws).2 ∧
      if (s.publishTo event generation publishedAt channel throws).1 = some .allocationFailure then
        AtRest setup (s.publishTo event generation publishedAt channel throws).2
      else FanOut setup event generation rest (s.publishTo event generation publishedAt channel throws).2 := by
  have hnot : channel ∉ rest := (List.nodup_cons.mp h.nodup).1
  unfold EventPublication.publishTo
  split
  · rename_i hnone
    exact ⟨hi, h.skip fun session hs => by rw [hnone] at hs; cases hs⟩
  · rename_i session hs
    split
    · rename_i hother
      refine ⟨hi, h.skip fun session' hs' _ => ?_⟩
      obtain rfl := Option.some.inj (hs.symm.trans hs')
      rw [h.publishing, inFlight, if_neg]
      intro hsame
      exact hother.elim (fun hne => hne hsame.1.symm) (fun hne => hne hsame.2.symm)
    · rename_i hmine
      simp only [not_or, Decidable.not_not] at hmine
      have hflight : inFlight session.channel.stream session.channel.sourceGeneration s.publishing = [event] := by
        rw [h.publishing, inFlight, if_pos ⟨hmine.1.symm, hmine.2.symm⟩]
      have hl := hi.lifecycle
      have hadmit := session.admitEvent_cases event publishedAt (if throws then none else some s.nextAddress)
      have hmove : SessionMove True (.shutdown ∈ s.log) s.nextAddress (s.nextAddress + 1) session
          (session.admitEvent event publishedAt (if throws then none else some s.nextAddress)).2 :=
        .of_admitEvent session event publishedAt (Nat.lt_succ_self _) (by cases throws <;> simp)
      generalize session.admitEvent event publishedAt (if throws then none else some s.nextAddress) = result at hadmit hmove
      -- an intact history has brought the active session all but this event
      have hcurrent : Intact s.log → session.channel.state = .active →
          Carries setup channel s.log session (publishedSince channel session.channel.stream session.channel.sourceGeneration s.log) := by
        intro hint hact
        have := h.lag hint channel session hs (h.listed channel List.mem_cons_self) hact
        simpa [EventPublication.expected] using this
      obtain ⟨events, hcarries, hprefix⟩ := hi.carries channel session hs
      rcases hadmit with ⟨ha, rfl⟩ | ⟨ha, rfl⟩ | ⟨ha, rfl⟩ | ⟨ha, address, c, -, rfl, -, -, hsm, hg, hid, -⟩
      · exact ⟨hi.replace hs hmove ⟨events, hcarries, hprefix⟩, h.handed fun _ hact => absurd hact ha⟩
      · exact ⟨hi.replace hs hmove ⟨events, hcarries, hprefix⟩, h.handed fun _ hact => by cases hact⟩
      · -- the event is lost, and so is the claim to completeness
        have hlost : ∀ log : List (EventSourceEvent T), ¬Intact (.failed channel :: log) := fun log hint =>
          hint channel List.mem_cons_self
        refine ⟨(hi.replace hs hmove ⟨events, hcarries, hprefix⟩).same_sessions rfl rfl (fun e hm => List.mem_cons_of_mem _ hm)
          (fun _ hm => hm) hi.nodup (fun _ _ hint => absurd hint (hlost _)) (hl.event rfl rfl rfl rfl trivial), rfl,
          fun hint => absurd hint (hlost _)⟩
      · have hnext := ((hi.facts channel session hs).active ha).2
        have hexp : s.expected [] channel c = s.expected [] channel session.channel := by
          simp only [EventPublication.expected, hsm, hg]
        have hfull : s.expected [] channel session.channel =
            publishedSince channel session.channel.stream session.channel.sourceGeneration s.log ++ [event] := by
          simp [EventPublication.expected, hflight]
        have hpushed : Intact s.log → Carries setup channel s.log
            { session with channel := c, admitted := session.admitted ++ [session.nextRecord event publishedAt] }
            (s.expected [] channel c) := fun hint => by
          rw [hexp, hfull]
          exact (hcurrent hint ha).push hsm hg hid hnext event publishedAt
        refine ⟨hi.replace hs hmove ?_, h.handed fun hint _ => hpushed hint⟩
        by_cases hint : Intact s.log
        · exact ⟨_, hpushed hint, fun _ => List.prefix_refl _⟩
        · exact ⟨_, hcarries.push hsm hg hid hnext event publishedAt, fun hi => absurd hi hint⟩

/-- The event has come to every channel. -/
theorem finishPublish_feed {event : NormalizedMarketEvent T} {generation : Nat} (hi : FeedInv setup s)
    (h : FanOut setup event generation [] s) :
    FeedInv setup (s.finishPublish event generation) ∧ AtRest setup (s.finishPublish event generation) := by
  have hl := hi.lifecycle
  have hended := hl.not_ended (by rw [h.opened]; simp) (by rw [h.opened]; simp)
  have hexp : ∀ i c, (s.finishPublish event generation).expected [] i c = s.expected [] i c := by
    intro i c
    simp only [EventPublication.expected, EventPublication.finishPublish, publishedSince, h.publishing, inFlight,
      List.not_mem_nil, if_false, List.append_nil]
    split
    · rfl
    · rw [List.append_nil]
  have hmem : ∀ e ∈ s.log, e ∈ (s.finishPublish event generation).log := fun e hm => List.mem_cons_of_mem _ hm
  refine ⟨hi.same_sessions rfl rfl hmem (fun _ hm => hm) hi.nodup (fun i c _ => (hexp i c).symm ▸ List.prefix_refl _)
    (hl.event rfl rfl rfl rfl ⟨hended, hl.current.trans h.current⟩), rfl, ?_⟩
  exact h.lag.same_sessions rfl hmem (fun _ hm => hm) fun i _ c => hexp i c

/-- Channel by channel the event is published. -/
theorem publishToAll_feed (event : NormalizedMarketEvent T) (generation : Nat) (publishedAt : EventPublicationTime)
    (channels : List Nat) :
    Triple (feedRely setup) (FanOut setup event generation channels) (publishToAll event generation publishedAt channels)
      (fun _ => AtRest setup) := by
  have hfan : ∀ missing, (feedRely setup).Stable (FanOut setup event generation missing) := fun missing =>
    (steadfast_fanOut event generation missing).stable
  induction channels with
  | nil =>
    exact Triple.bind (Triple.modify (Q := fun _ => AtRest setup) (hfan []) steadfast_atRest.stable
      fun s hi h => finishPublish_feed hi h) fun _ => Triple.done steadfast_atRest.stable (fun _ _ h => h)
  | cons channel rest ih =>
    refine Triple.bind (Q := fun result s => if result = some EventAdmissionResult.allocationFailure then AtRest setup s
      else FanOut setup event generation rest s) (Triple.atomic (hfan _) (fun result => ?_)
        fun w s hi h => publishTo_feed publishedAt w.throws hi h) fun result => ?_
    · split
      · exact steadfast_atRest.stable
      · exact hfan rest
    · split
      · exact Triple.done steadfast_atRest.stable (fun _ _ h => h)
      · exact ih

/-- A call of publish keeps the feed at rest. -/
theorem publish_feed (event : Option (NormalizedMarketEvent T)) (generation : Nat) :
    Triple (feedRely setup) (AtRest setup) (publish event generation) (fun _ => AtRest setup) := by
  cases event with
  | none => exact Triple.done steadfast_atRest.stable (fun _ _ h => h)
  | some event =>
    refine Triple.bind (Triple.choose steadfast_atRest.stable) fun sampled => ?_
    cases sampled with
    | none => exact Triple.done steadfast_atRest.stable (fun _ _ h => h)
    | some publishedAt =>
      refine Triple.bind (Q := fun refusal s => match refusal with
        | some _ => AtRest setup s
        | none => FanOut setup event generation s.channels s)
        (Triple.atomic steadfast_atRest.stable (fun refusal => ?_) fun _ s hi h => ?_) fun refusal => ?_
      · cases refusal with
        | some _ => exact steadfast_atRest.stable
        | none =>
          have : Steadfast setup (fun s : EventPublication T => FanOut setup event generation s.channels s) := by
            intro s t hi h ha
            rw [ha.channels]
            exact steadfast_fanOut event generation s.channels s t hi h ha
          exact this.stable
      · exact beginPublish_feed event generation hi h
      · cases refusal with
        | some _ => exact Triple.done steadfast_atRest.stable (fun _ _ h => h)
        | none =>
          refine Triple.bind (Q := fun channels => FanOut setup event generation channels) (Triple.read ?_
            (fun channels => (steadfast_fanOut event generation channels).stable) fun _ _ h => h) fun channels =>
              publishToAll_feed event generation publishedAt channels
          intro s t hi h he
          have ha := WriterStep.aside he
          rw [ha.channels]
          exact steadfast_fanOut event generation s.channels s t hi h ha

/-! ## The callers -/

/-- A section that is a call by itself. -/
theorem atomic_feed {α : Type} {f : EventPublication T → α × EventPublication T}
    (h : ∀ s, FeedInv setup s → AtRest setup s → FeedInv setup (f s).2 ∧ AtRest setup (f s).2) :
    Triple (feedRely setup) (AtRest setup) (Program.atomic fun _ s => f s : EventProgram T α) (fun _ => AtRest setup) :=
  Triple.atomic steadfast_atRest.stable (fun _ => steadfast_atRest.stable) fun _ s hi hr => h s hi hr

/-- Each call keeps the feed at rest. -/
theorem perform_feed (call : EventPublicationCall T) :
    Triple (feedRely setup) (AtRest setup) (perform setup call) (afterRound (AtRest setup) (fun _ => True)) := by
  have again : ∀ {α : Type} {p : EventProgram T α}, Triple (feedRely setup) (AtRest setup) p (fun _ => AtRest setup) →
      Triple (feedRely setup) (AtRest setup) (p.bind fun _ => pure true) (afterRound (AtRest setup) (fun _ => True)) :=
    fun hp => Triple.bind hp fun _ => Triple.done steadfast_atRest.stable (fun _ _ h => h)
  cases call with
  | openGeneration generation => exact again (atomic_feed fun s hi h => openGeneration_feed generation hi h)
  | quiesceGeneration generation => exact again (atomic_feed fun s hi h => quiesceGeneration_feed generation hi h)
  | closeGenerationReplaced generation => exact again (closeGenerationReplaced_feed generation)
  | closeGenerationPermanently generation => exact again (closeGenerationPermanently_feed generation)
  | admitSubscription subscription => exact again (admitSubscription_feed subscription)
  | publish event generation => exact again (publish_feed event generation)
  | remove channel => exact again (removeChannel_feed channel)
  | shutdown => exact again shutdown_feed

/-- The invariant holds of a publication that has just been made. -/
theorem feed_initial (setup : EventPublicationSetup) : FeedInv setup ({} : EventPublication T) where
  facts i session h := by cases h
  closedBy i session h := by cases h
  carries i session h := by cases h
  known i h := by cases h
  nodup := List.nodup_nil
  lifecycle := ⟨rfl, fun g h => (by cases h), ⟨fun h => (by cases h), fun h => (by cases h)⟩, fun g h => (by cases h), trivial⟩

/-- The invariant holds in every reachable state, and between two calls everything is at rest. -/
theorem Reachable.feed {ph : Phase (EventPublication T) (EventOutcome T)} (h : Reachable setup ph s) :
    LoopInv (feedRely setup) (AtRest setup) (fun _ => True) ph s := by
  refine h.loopInv rfl steadfast_atRest.stable ⟨feed_initial setup, rfl, fun _ i session hs => by cases hs⟩ ?_
  exact Triple.bind (Triple.choose steadfast_atRest.stable) fun call => perform_feed call

end MarketDataGateway.Events
