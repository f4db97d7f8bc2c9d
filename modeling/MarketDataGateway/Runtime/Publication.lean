import MarketDataGateway.Runtime.Book
import MarketDataGateway.Runtime.Items

/-!
# Publication keeps the sessions right

The owner's pieces once more, as triples over the invariant of the book: a fault silences every session, and an update that has been
applied reaches every active session before the owner goes on.
-/

namespace MarketDataGateway.MarketRuntime

open OrderBook Threads

variable {L : ProjectionLibrary} {setup : Setup L} {s : Impl L}

/-! ## Sections that leave the book alone -/

/-- A section that touches the mailbox only, and leaves the lifecycle flags and a shut ingress as they are. -/
theorem Aside.of_mail {t : Impl L} (hb : t.book = s.book) (hl : t.bookLog = s.bookLog) (hr : t.roster = s.roster)
    (hc : t.channels = s.channels) (ha : t.nextAddress = s.nextAddress) (hx : t.ownerExited = s.ownerExited)
    (hst : t.mail.started = s.mail.started)
    (hreq : t.mail.publicationShutdownRequested = s.mail.publicationShutdownRequested)
    (hcom : t.mail.publicationShutdownCompleted = s.mail.publicationShutdownCompleted)
    (hsh : s.Shut → t.Shut) : Aside s t :=
  .of_same hb hl hr hc ha hx (fun h => hst.trans h) (fun h => hreq.trans h) (fun h => Or.inl (hcom.symm.trans h))
    (fun _ => hsh)

/-- Ending a session does not touch the book. -/
theorem aside_terminalizeChannel (channel : Nat) (reason : ConsumerGapReason) (action : RecoveryAction)
    (generation : Option Nat) (publishedAt : PublicationTime) (s : Impl L) :
    Aside s (Impl.onChannel channel (fun c => (c.terminalize reason action generation publishedAt).2) s) :=
  .onSubscriber s channel (fun sub => { sub with channel := (sub.channel.terminalize reason action generation publishedAt).2 })
    (fun _ _ hf => ⟨(hf.terminalize reason action generation publishedAt).1,
      (hf.terminalize reason action generation publishedAt).2.1⟩)

/-- Closing a channel does not touch the book. -/
theorem aside_closeChannel (channel : Nat) (s : Impl L) : Aside s (Impl.onChannel channel (·.closeFromOwner) s) :=
  .onSubscriber s channel (fun sub => { sub with channel := sub.channel.closeFromOwner })
    (fun _ _ hf => hf.close rfl (Or.inl rfl))

/-- A discard empties the ingress and touches tickets besides. -/
theorem discardIngressLocked_eq (s : Impl L) : ∃ processed occupancy log, s.discardIngressLocked = { s with
    mail.processedTicket := processed
    mail.ingress := []
    mail.observation.ingressOccupancy := occupancy
    ticketLog := log } := by
  unfold Impl.discardIngressLocked
  split
  · rename_i h
    have hnil : s.mail.ingress = [] := List.getLast?_eq_none_iff.mp h
    exact ⟨s.mail.processedTicket, s.mail.observation.ingressOccupancy, s.ticketLog, by rw [← hnil]⟩
  · exact ⟨_, _, _, rfl⟩

/-- The section that faults the runtime leaves the book alone and shuts the ingress. -/
theorem aside_fault (reason : FaultReason) (adapterError : Option L.AdapterError) (s : Impl L) :
    Aside s (s.faultLocked reason adapterError) ∧ (s.faultLocked reason adapterError).Shut := by
  unfold Impl.faultLocked
  dsimp only
  rw [Impl.answerSnapshotLocked_eq]
  obtain ⟨processed, occupancy, log, he⟩ := discardIngressLocked_eq
    ({ ({ s with
          book.bootstrap := []
          mail.accepting := false
          mail.observation.bootstrapOccupancy := 0
          mail.observation.faultReason := some reason
          mail.observation.adapterError := adapterError } : Impl L).refreshProjectionObservationLocked with
        mail.observation.state := .faulted } : Impl L)
  rw [he]
  refine ⟨?_, rfl, rfl, rfl⟩
  exact { Aside.refl s with
    bootstrap := Or.inr rfl
    shut := fun _ _ => ⟨rfl, rfl, rfl⟩ }

/-- Publishing the projection's state does not touch the book. -/
theorem aside_publish (s : Impl L) : Aside s s.publishProjectionStateLocked := by
  unfold Impl.publishProjectionStateLocked Impl.refreshProjectionObservationLocked
  dsimp only
  have hstate : s.Shut → (if s.mail.observation.state ≠ .faulted ∧ s.mail.observation.state ≠ .stopping ∧
      s.mail.observation.state ≠ .stopped then stateForProjection (L.status s.book.projection)
      else s.mail.observation.state) = .faulted := fun hs => by rw [if_neg (fun h => h.1 hs.1)]; exact hs.1
  split
  · obtain ⟨processed, occupancy, log, he⟩ := discardIngressLocked_eq
      ({ s with
        mail.accepting := false
        mail.observation.projectionStatus := L.status s.book.projection
        mail.observation.lastUpdateId := L.lastUpdateId s.book.projection
        mail.observation.lastGap := L.lastGap s.book.projection
        mail.observation.currentProjectionGeneration := s.book.currentProjectionGeneration
        mail.observation.bootstrapOccupancy := s.book.bootstrap.length
        mail.observation.state :=
          if s.mail.observation.state ≠ .faulted ∧ s.mail.observation.state ≠ .stopping ∧
              s.mail.observation.state ≠ .stopped then
            stateForProjection (L.status s.book.projection)
          else s.mail.observation.state } : Impl L)
    rw [he]
    exact .of_mail rfl rfl rfl rfl rfl rfl rfl rfl rfl (fun hs => ⟨hstate hs, rfl, rfl⟩)
  · exact .of_mail rfl rfl rfl rfl rfl rfl rfl rfl rfl (fun hs => ⟨hstate hs, hs.2⟩)

/-- Completing an admission does not touch the book. -/
theorem aside_complete (request : Nat) (result : SubscriptionAdmissionResult) (s : Impl L) :
    Aside s (s.completeAdmissionRequestUnlocked request result) := by
  unfold Impl.completeAdmissionRequestUnlocked
  split
  · exact .of_mail rfl rfl rfl rfl rfl rfl rfl rfl rfl id
  · exact .refl s

/-- The gate of an admission does not touch the book. -/
theorem aside_gate (request : Nat) (s : Impl L) : Aside s (s.gateAdmission request).2 := by
  unfold Impl.gateAdmission
  split_ifs
  · exact aside_complete _ _ s
  · exact aside_complete _ _ s
  · exact .refl s

/-! ## Sweeping and closing -/

/-- The roster is what the owner has read. -/
def RosterIs (subscribers : List Nat) (s : Impl L) : Prop := s.roster.subscribers = subscribers

/-- Callers leave the owner's list of subscribers alone. -/
theorem ClientStep.roster {t : Impl L} (h : ClientStep setup s t) : t.roster = s.roster := by
  cases h with
  | start => unfold Impl.start; split_ifs <;> rfl
  | requestStop => unfold Impl.requestStop; split_ifs <;> rfl
  | finishStop => unfold Impl.finishStop; dsimp only; rw [Impl.answerSnapshotLocked_eq]; rfl
  | submit input throws => unfold Impl.submit; split_ifs <;> rfl
  | observe => unfold Impl.observe; split <;> rfl
  | requestReset kind => unfold Impl.requestReset; split_ifs <;> rfl
  | returnReset _ => unfold Impl.returnReset; split <;> rfl
  | captureSnapshot => unfold Impl.captureSnapshot; split_ifs <;> rfl
  | returnSnapshot _ => unfold Impl.returnSnapshot; split <;> rfl
  | admitSubscription subscription throws => unfold Impl.admitOrderBookSubscription; split_ifs <;> rfl
  | shutdownPublication => unfold Impl.shutdownPublication; dsimp only; split_ifs <;> rfl
  | observeReturns _ _ | observeTimesOut _ | waitReturns _ | notifySubscriberClosed | closePublicationAdmission | peek _
  | acknowledge _ _ | closeFromWriter _ => rfl

/-- Callers leave the list of subscribers as it is known. -/
theorem stable_rosterIs (subscribers : List Nat) : (bookRely setup).Stable (RosterIs subscribers : Impl L → Prop) :=
  fun _ _ _ h he => by unfold RosterIs; rw [ClientStep.roster he]; exact h

/-- The channel is not active, and so never will be again. -/
def Inactive (channel : Nat) (s : Impl L) : Prop := ∀ sub, s.channels[channel]? = some sub → sub.channel.state ≠ .active

/-- A session that is not active stays so. -/
theorem steadfast_inactive (channel : Nat) : Steadfast setup (Inactive channel : Impl L → Prop) := by
  intro s t hi h ha sub' ht hact
  obtain ⟨sub, hs, -, hn⟩ := ha.narrows hi ht
  exact h sub hs (hn.active hact).1

/-- Callers make no session active again. -/
theorem stable_all_inactive (P : Nat → Prop) : (bookRely setup).Stable (fun s : Impl L => ∀ i, P i → Inactive i s) :=
  fun s t hi h he i hp => (steadfast_inactive i).stable s t hi (h i hp) he

/-- The subscribers that are left out were closed when they were looked at, and the others were not. -/
theorem openSubscribers_triple {E : Rely (Impl L)} {A : Impl L → Prop} {O : Nat → Impl L → Prop} {I : Nat → Prop}
    (subscribers : List Nat) (hA : E.Stable A) (hO : ∀ i, E.Stable (O i))
    (hclosed : ∀ i s, E.inv s → A s → s.channelState i = some .closed → O i s)
    (hopen : ∀ i s, E.inv s → A s → s.channelState i ≠ some .closed → I i) :
    Triple E A (openSubscribers subscribers) (fun remaining s =>
      A s ∧ remaining.Sublist subscribers ∧ (∀ i ∈ remaining, I i) ∧ ∀ i, (i ∈ subscribers ∧ i ∉ remaining) → O i s) := by
  induction subscribers generalizing A with
  | nil => exact Triple.done hA fun s _ ha => ⟨ha, List.Sublist.refl _, fun i hi => (by cases hi), fun i hi => (by cases hi.1)⟩
  | cons subscriber rest ih =>
    have hseen : ∀ state : Option SubscriberState, E.Stable (fun s : Impl L =>
        A s ∧ (state = some .closed → O subscriber s) ∧ (state ≠ some .closed → I subscriber)) := fun state =>
      hA.and ((hO subscriber).imp.and (Rely.Stable.const _))
    refine Triple.bind (Triple.read hA hseen fun s hi ha => ⟨ha, hclosed subscriber s hi ha, hopen subscriber s hi ha⟩) fun state => ?_
    refine Triple.bind (ih (hseen state) (fun i s hi ha => hclosed i s hi ha.1) fun i s hi ha => hopen i s hi ha.1) fun others => ?_
    refine Triple.done ((hseen state).and ((Rely.Stable.const _).and ((Rely.Stable.const _).and
      (Rely.Stable.all fun i => (hO i).imp)))) ?_
    rintro s - ⟨⟨ha, hclosed', hopen'⟩, hsub, hin, hout⟩
    by_cases hs : state = some .closed
    · rw [if_pos hs]
      refine ⟨ha, hsub.cons _, hin, fun i hi => ?_⟩
      rcases List.mem_cons.mp hi.1 with rfl | hrest
      · exact hclosed' hs
      · exact hout i ⟨hrest, hi.2⟩
    · rw [if_neg hs]
      refine ⟨ha, hsub.cons_cons _, fun i hi => ?_, fun i hi => ?_⟩
      · rcases List.mem_cons.mp hi with rfl | hrest
        · exact hopen' hs
        · exact hin i hrest
      · rw [List.mem_cons, List.mem_cons, not_or] at hi
        exact hout i ⟨hi.1.resolve_left hi.2.1, hi.2.2⟩

/-- A closed session is not active. -/
theorem inactive_of_closed {i : Nat} (h : s.channelState i = some .closed) : Inactive i s := by
  intro sub hsub hact
  unfold Impl.channelState at h
  rw [hsub, Option.map_some, hact] at h
  cases h

/-- A new roster that only leaves out inactive channels. -/
theorem aside_roster {remaining : List Nat} (hsub : remaining.Sublist s.roster.subscribers)
    (hout : ∀ i, (i ∈ s.roster.subscribers ∧ i ∉ remaining) → Inactive i s) (n : Nat) :
    Aside s { s with roster.subscribers := remaining, mail.observation.residentSubscriptionCount := n } :=
  { Aside.refl s with
    roster := hsub
    dropped := fun i hin hnot sub hs => hout i ⟨hin, hnot⟩ sub hs
    shut := fun _ hs => hs }

/-- The sweep keeps whatever is steadfast. -/
theorem sweep_book {A : Impl L → Prop} (hA : Steadfast setup A) :
    Triple (bookRely setup) A sweepClosedSubscribers (fun _ => A) := by
  refine Triple.bind (Triple.read hA.stable (fun subscribers => hA.stable.and (stable_rosterIs subscribers))
    fun s _ ha => ⟨ha, rfl⟩) fun subscribers => ?_
  refine Triple.bind (openSubscribers_triple (I := fun _ => True) subscribers (hA.stable.and (stable_rosterIs subscribers))
    (fun i => (steadfast_inactive i).stable) (fun i s _ _ hs => inactive_of_closed hs) fun _ _ _ _ _ => trivial) fun remaining => ?_
  refine Triple.modify ((hA.stable.and (stable_rosterIs subscribers)).and
    ((Rely.Stable.const _).and ((Rely.Stable.const _).and (stable_all_inactive _)))) hA.stable ?_
  rintro s hi ⟨⟨ha, hr⟩, hsub, -, hout⟩
  unfold RosterIs at hr
  rw [← hr] at hsub hout
  have has := aside_roster hsub hout remaining.length
  exact ⟨hi.aside has, hA s _ hi ha has⟩

/-- A loop that makes every subscriber inactive. -/
theorem silence_book {A : Impl L → Prop} (hA : Steadfast setup A) {f : Nat → Impl L → Impl L}
    (hf : ∀ i s, Aside s (f i s)) (hi : ∀ i s, BookInv setup s → Inactive i (f i s)) (subscribers : List Nat) :
    Triple (bookRely setup) (fun s => A s ∧ ActiveIn subscribers s)
      (Program.forEach subscribers (fun i => Program.modify (f i)) : OwnerProgram L Unit)
      (fun _ s => A s ∧ ActiveIn [] s) := by
  have hst : ∀ xs, Steadfast setup (fun s : Impl L => A s ∧ ActiveIn xs s) := fun xs => hA.and (steadfast_activeIn xs)
  refine Triple.forEach (I := fun xs s => A s ∧ ActiveIn xs s) (hst []).stable (fun i xs => ?_) subscribers
  refine Triple.modify (hst _).stable (hst _).stable fun s hinv h => ?_
  obtain ⟨ha, hact⟩ := hst _ s _ hinv h (hf i s)
  refine ⟨hinv.aside (hf i s), ha, fun j sub hs hactive => ?_⟩
  rcases List.mem_cons.mp (hact j sub hs hactive) with rfl | hin
  · exact absurd hactive (hi j s hinv sub hs)
  · exact hin

/-- A channel behind an operation on it is the old one with the operation performed. -/
theorem getElem?_onChannel {channel : Nat}
    {f : SubscriberChannel L.LocalSnapshot L.DepthUpdate → SubscriberChannel L.LocalSnapshot L.DepthUpdate}
    {sub : Subscriber L} (h : (s.onChannel channel f).channels[channel]? = some sub) :
    ∃ old, s.channels[channel]? = some old ∧ sub = { old with channel := f old.channel } := by
  have h' : (s.channels.modify channel (fun subscriber => { subscriber with channel := f subscriber.channel }))[channel]? =
    some sub := h
  rw [List.getElem?_modify] at h'
  cases hs : s.channels[channel]? with
  | none => rw [hs] at h'; cases h'
  | some old =>
    rw [hs] at h'
    simp only [Option.map_eq_map, Option.map_some, Option.some.injEq] at h'
    exact ⟨old, rfl, h'.symm⟩

/-- When all sessions are ended none is active. -/
theorem terminalize_book {A : Impl L → Prop} (hA : Steadfast setup A) (reason : ConsumerGapReason)
    (action : RecoveryAction) (generation : Option Nat) :
    Triple (bookRely setup) A (terminalizeActiveSubscribers reason action generation)
      (fun _ s => A s ∧ ActiveIn [] s) := by
  refine Triple.bind (sweep_book hA) fun _ => Triple.bind (Triple.choose hA.stable) fun sampled => ?_
  refine Triple.bind (Triple.read hA.stable (fun subscribers => hA.stable.and (steadfast_activeIn subscribers).stable)
    fun s hi ha => ⟨ha, hi.enrolled⟩) fun subscribers => ?_
  refine silence_book hA (fun i s => aside_terminalizeChannel i _ _ _ _ s) (fun i s hi sub hs => ?_) subscribers
  obtain ⟨old, ho, rfl⟩ := getElem?_onChannel hs
  exact ((hi.facts i old ho).terminalize reason action generation (sampled.getD {})).2.2

/-- When all channels are closed none is active. -/
theorem closeAll_book {A : Impl L → Prop} (hA : Steadfast setup A) :
    Triple (bookRely setup) A closeAllSubscribersForShutdown (fun _ s => A s ∧ ActiveIn [] s) := by
  have hst : Steadfast setup (fun s => A s ∧ ActiveIn [] s) := hA.and (steadfast_activeIn [])
  refine Triple.bind (Triple.read hA.stable (fun subscribers => hA.stable.and (steadfast_activeIn subscribers).stable)
    fun s hi ha => ⟨ha, hi.enrolled⟩) fun subscribers => ?_
  refine Triple.bind (silence_book hA (fun i s => aside_closeChannel i s) (fun i s _ sub hs => ?_) subscribers) fun _ => ?_
  · obtain ⟨old, ho, rfl⟩ := getElem?_onChannel hs
    simp [SubscriberChannel.closeFromOwner]
  · refine Triple.modify hst.stable hst.stable fun s hi h => ?_
    have has := aside_roster (s := s) (List.nil_sublist _)
      (fun i _ sub hs hact => absurd (h.2 i sub hs hact) List.not_mem_nil) 0
    exact ⟨hi.aside has, hst s _ hi h has⟩

/-! ## Faults -/

/-- The runtime is shut and nobody listens any more. -/
def Silent (s : Impl L) : Prop := s.Running ∧ s.Shut ∧ ActiveIn [] s

/-- A state without an active session stays so. -/
theorem steadfast_silent : Steadfast setup (Silent : Impl L → Prop) := fun s t hi h ha =>
  ⟨steadfast_running s t hi h.1 ha, ha.shut h.1 h.2.1, steadfast_activeIn [] s t hi h.2.2 ha⟩

/-- A fault shuts the runtime and ends every session. -/
theorem transitionToFault_book (reason : FaultReason) (adapterError : Option L.AdapterError) :
    Triple (bookRely setup) Impl.Running (transitionToFault reason adapterError) (fun _ => Silent) := by
  have hst : Steadfast setup (Impl.Running : Impl L → Prop) := steadfast_running
  have hst' : Steadfast setup (fun s : Impl L => s.Running ∧ ActiveIn [] s) := hst.and (steadfast_activeIn [])
  refine Triple.bind (Triple.read hst.stable (fun _ => hst.stable) fun s _ h => h) fun generation => ?_
  refine Triple.bind (terminalize_book hst _ _ _) fun _ => ?_
  refine Triple.modify hst'.stable steadfast_silent.stable fun s hi h => ?_
  obtain ⟨has, hshut⟩ := aside_fault reason adapterError s
  obtain ⟨hr, ha⟩ := hst' s _ hi h has
  exact ⟨hi.aside has, hr, hshut, ha⟩

/-! ## Between two items -/

/-- Nothing is owed to any session, and a mismatch has silenced them all. -/
def AtRest (setup : Setup L) (s : Impl L) : Prop :=
  (s.Running ∧ s.Silenced) ∧ Lag setup (fun _ => []) s ∧
    (mismatchSinceReset s.bookLog ≠ none → s.Shut ∧ ActiveIn [] s)

/-- A state at rest stays at rest. -/
theorem steadfast_atRest : Steadfast setup (AtRest setup) := fun s t hi h ha => by
  refine ⟨steadfast_silenced_of_running s t hi h.1 ha, steadfast_lag _ s t hi h.2.1 ha, fun hm => ?_⟩
  rw [ha.log] at hm
  exact ⟨ha.shut h.1.1 (h.2.2 hm).1, steadfast_activeIn [] s t hi (h.2.2 hm).2 ha⟩

/-- Without an active session nothing is owed. -/
theorem AtRest.of_silent (h : Silent s) : AtRest setup s :=
  ⟨⟨h.1, fun _ => h.2.2⟩, Lag.of_none h.2.2 _, fun _ => h.2⟩

/-- Behind a fault nothing is owed to a session. -/
theorem fault_atRest {A : Impl L → Prop} (hA : ∀ s, A s → s.Running) (reason : FaultReason)
    (adapterError : Option L.AdapterError) :
    Triple (bookRely setup) A (transitionToFault reason adapterError) (fun _ => AtRest setup) :=
  (transitionToFault_book reason adapterError).conseq (fun s _ h => hA s h) (fun _ _ _ h => .of_silent h)

/-! ## Handing an update to the sessions -/

/-- The update has been applied; the sessions that `missing` names still lack it. -/
def Owing (setup : Setup L) (input : DepthUpdateInput L) (missing : Nat → List (DepthUpdateInput L)) (s : Impl L) : Prop :=
  (s.Running ∧ s.Silenced) ∧ Lag setup missing s ∧
    mismatchSinceReset s.bookLog = none ∧ Agrees (installedGeneration s.bookLog) input

/-- What is owed to the sessions stays owed until it is handed over. -/
theorem steadfast_owing (input : DepthUpdateInput L) (missing : Nat → List (DepthUpdateInput L)) :
    Steadfast setup (Owing setup input missing) := fun s t hi h ha =>
  ⟨steadfast_silenced_of_running s t hi h.1 ha, steadfast_lag _ s t hi h.2.1 ha, by rw [ha.log]; exact h.2.2⟩

/-- Those of the list still lack the update. -/
def owed (input : DepthUpdateInput L) (subscribers : List Nat) (i : Nat) : List (DepthUpdateInput L) :=
  if i ∈ subscribers then [input] else []

/-- Another session's turn does not change what is owed. -/
theorem owed_cons {i channel : Nat} (hne : i ≠ channel) (input : DepthUpdateInput L) (rest : List Nat) :
    owed input (channel :: rest) i = owed input rest i := by
  simp only [owed, List.mem_cons, or_iff_right hne]

/-- When nothing is owed any more the state is at rest. -/
theorem AtRest.of_owing {input : DepthUpdateInput L} (h : Owing setup input (owed input []) s) : AtRest setup s :=
  ⟨h.1, fun i sub hs ha => h.2.1 i sub hs ha, fun hm => absurd h.2.2.1 hm⟩

/-- What the heap holds behind a write is the new channel, or one of the others as it was. -/
theorem getElem?_set_channel {channels : List (Subscriber L)} {c i : Nat} {new sub : Subscriber L}
    (h : (channels.set c new)[i]? = some sub) : (i = c ∧ sub = new) ∨ (i ≠ c ∧ channels[i]? = some sub) := by
  rw [List.getElem?_set] at h
  by_cases hc : c = i
  · rw [if_pos hc] at h
    split at h
    · exact Or.inl ⟨hc.symm, (Option.some.inj h).symm⟩
    · cases h
  · rw [if_neg hc] at h
    exact Or.inr ⟨fun he => hc he.symm, h⟩

/-- A section that narrows one session and uses up an address. -/
theorem aside_set {channel : Nat} {sub new : Subscriber L} (hs : s.channels[channel]? = some sub)
    (hn : SubscriberFacts s.nextAddress sub → SubscriberFacts s.nextAddress new ∧ Narrows sub new) :
    Aside s { s with channels := s.channels.set channel new, nextAddress := s.nextAddress + 1 } :=
  { Aside.refl s with
    address := Nat.le_succ _
    length := List.length_set
    channels := fun i sub' ht => by
      rcases getElem?_set_channel ht with ⟨rfl, rfl⟩ | ⟨-, ho⟩
      · exact ⟨sub, hs, hn⟩
      · exact ⟨sub', ho, fun h => ⟨h, Narrows.refl sub'⟩⟩
    dropped := fun i hin hnot => absurd hin hnot
    shut := fun _ h => h }

/-- An update that a session is owed is appended to its records. -/
theorem deliver_book {channel : Nat} {rest : List Nat} {input : DepthUpdateInput L} {publishedAt : PublicationTime}
    {sub : Subscriber L} {c : SubscriberChannel L.LocalSnapshot L.DepthUpdate} (hi : BookInv setup s)
    (h : Owing setup input (owed input (channel :: rest)) s) (hrest : channel ∉ rest) (hs : s.channels[channel]? = some sub)
    (ha : sub.channel.state = .active) (hst : c.state = .active) (hterm : c.terminal = sub.channel.terminal)
    (hnext : c.nextSessionSequence = sub.channel.nextSessionSequence + 1)
    (hq : c.queued = sub.channel.queued ++ [⟨s.nextAddress, ⟨sub.channel.nextSessionSequence,
      input.provenance.connectionGeneration, publishedAt, .depthUpdate input.update⟩⟩]) :
    let t : Impl L := { s with
      channels := s.channels.set channel { sub with channel := c }
      nextAddress := s.nextAddress + 1
      bookLog := .published channel input :: s.bookLog }
    BookInv setup t ∧ Owing setup input (owed input rest) t := by
  intro t
  obtain ⟨⟨hrun, hsil⟩, hlag, hclean, hagrees⟩ := h
  obtain ⟨hfacts, hrec⟩ := (hi.facts channel sub hs).push ha hst hterm hnext hq
  have hcur : Current setup channel s.bookLog [] ({ sub with channel := c } : Subscriber L).records := by
    have := hlag channel sub hs ha
    rw [owed, if_pos List.mem_cons_self] at this
    rw [hrec, ((hi.facts channel sub hs).active ha).2]
    exact this.extend publishedAt
  constructor
  · exact
      { facts := fun i sub' ht => by
          rcases getElem?_set_channel ht with ⟨rfl, rfl⟩ | ⟨-, ho⟩
          · exact hfacts
          · exact (hi.facts i sub' ho).mono (Nat.le_succ _)
        follows := fun i sub' ht => by
          rcases getElem?_set_channel ht with ⟨rfl, rfl⟩ | ⟨-, ho⟩
          · exact hcur.follows.silent rfl
          · exact (hi.follows i sub' ho).silent rfl
        enrolled := fun i sub' ht hact => by
          rcases getElem?_set_channel ht with ⟨rfl, rfl⟩ | ⟨-, ho⟩
          · exact hi.enrolled i sub hs ha
          · exact hi.enrolled i sub' ho hact
        nodup := hi.nodup
        shutdown := hi.shutdown
        unstarted := fun hf => by
          have : s.mail.started = false := hf
          rw [hrun.1] at this
          cases this
        generation := hi.generation
        matched := ⟨⟨hagrees, hclean⟩, hi.matched⟩
        buffered := hi.buffered
        mismatch := fun p rs hm => by
          have : mismatchSinceReset s.bookLog = some (p, rs) := hm
          rw [hclean] at this
          cases this
        ended := fun i sub' ht hreset => by
          rcases getElem?_set_channel ht with ⟨rfl, rfl⟩ | ⟨-, ho⟩
          · exact absurd ha (hi.ended i sub hs hreset)
          · exact hi.ended i sub' ho hreset
        known := fun i hin => by
          have := hi.known i hin
          rw [List.length_set]
          exact this }
  · refine ⟨⟨hrun, fun hc => ?_⟩, fun i sub' ht hact => ?_, hclean, hagrees⟩
    · exact absurd (hsil hc channel sub hs ha) List.not_mem_nil
    · rcases getElem?_set_channel ht with ⟨rfl, rfl⟩ | ⟨hne, ho⟩
      · rw [owed, if_neg hrest]
        exact hcur.silent rfl
      · have := hlag i sub' ho hact
        rw [owed_cons hne] at this
        exact this.silent rfl

/-- The section that offers the update to one channel. -/
theorem admitUpdate_book {channel : Nat} {rest : List Nat} {input : DepthUpdateInput L} (hi : BookInv setup s)
    (h : Owing setup input (owed input (channel :: rest)) s) (hrest : channel ∉ rest) (publishedAt : PublicationTime)
    (w : Outcome L) :
    BookInv setup (s.admitUpdate channel input publishedAt w).2 ∧ (s.admitUpdate channel input publishedAt w).2.Running ∧
      ((s.admitUpdate channel input publishedAt w).1 ≠ .allocationFailure →
        Owing setup input (owed input rest) (s.admitUpdate channel input publishedAt w).2) := by
  -- a channel that is not active afterwards is owed nothing any more
  have hskip : ∀ t : Impl L, Aside s t → Inactive channel t → Owing setup input (owed input rest) t := by
    intro t ha hin
    obtain ⟨hrun, hlag, hlog⟩ := steadfast_owing _ _ s t hi h ha
    refine ⟨hrun, fun i sub hs hact => ?_, hlog⟩
    have hne : i ≠ channel := fun he => hin sub (he ▸ hs) hact
    have := hlag i sub hs hact
    rwa [owed_cons hne] at this
  unfold Impl.admitUpdate
  cases hs : s.channels[channel]? with
  | none => exact ⟨hi, h.1.1, fun _ => hskip s (.refl s) (fun sub hsub => by rw [hs] at hsub; cases hsub)⟩
  | some sub =>
    have hkeep : Aside s { s with
        channels := s.channels.set channel { sub with channel := sub.channel }
        nextAddress := s.nextAddress + 1 } := aside_set hs (fun hf => ⟨hf, Narrows.refl sub⟩)
    have hset : ∀ (new : Subscriber L) (n : Nat), new.channel.state ≠ .active →
        Inactive channel { s with channels := s.channels.set channel new, nextAddress := n } := by
      intro new n hnew sub' hsub' hact
      rcases getElem?_set_channel hsub' with ⟨-, rfl⟩ | ⟨hne, -⟩
      · exact hnew hact
      · exact hne rfl
    dsimp only
    rcases sub.channel.admitUpdate_cases input.update input.provenance.connectionGeneration publishedAt
        (if w.throws then none else some s.nextAddress) with
      ⟨hst, he⟩ | ⟨ha, he⟩ | ⟨ha, he⟩ | ⟨ha, address, c, haddr, he, hst, hterm, hnext, hq⟩
    · rw [he]
      exact ⟨hi.aside hkeep, h.1.1, fun _ => hskip _ hkeep (hset _ _ hst)⟩
    · rw [he]
      have has := aside_set hs (fun hf => hf.terminal ha
        ⟨sub.channel.nextSessionSequence, none, publishedAt, .slowConsumer, .resubscribe⟩ rfl
        (SubscriberChannel.afterTerminal sub.channel.nextSessionSequence))
      exact ⟨hi.aside has, h.1.1, fun _ => hskip _ has (hset _ _ (by simp))⟩
    · rw [he]
      exact ⟨hi.aside hkeep, h.1.1, fun hne => absurd rfl hne⟩
    · rw [he]
      obtain rfl : s.nextAddress = address := by
        split at haddr
        · cases haddr
        · exact Option.some.inj haddr
      obtain ⟨hinv, howe⟩ := deliver_book hi h hrest hs ha hst hterm hnext hq
      exact ⟨hinv, h.1.1, fun _ => howe⟩

/-- The fan-out hands over what is owed, session by session. -/
theorem fanOut_book (input : DepthUpdateInput L) (publishedAt : PublicationTime) (subscribers : List Nat)
    (hnodup : subscribers.Nodup) :
    Triple (bookRely setup) (Owing setup input (owed input subscribers)) (fanOut input publishedAt subscribers)
      (fun _ => AtRest setup) := by
  induction subscribers with
  | nil => exact Triple.done (steadfast_owing _ _).stable (fun s _ h => .of_owing h)
  | cons subscriber rest ih =>
    obtain ⟨hnot, hnodup'⟩ := List.nodup_cons.mp hnodup
    have hst : ∀ result : OrdinaryAdmissionResult, (bookRely setup).Stable (fun s : Impl L =>
        s.Running ∧ (result ≠ .allocationFailure → Owing setup input (owed input rest) s)) := fun result =>
      steadfast_running.stable.and fun s t hi h he hne => (steadfast_owing _ _).stable s t hi (h hne) he
    refine Triple.bind (Triple.atomic (steadfast_owing _ _).stable hst fun w s hi h =>
      admitUpdate_book hi h hnot publishedAt w) fun result => ?_
    by_cases hr : result = .allocationFailure
    · rw [if_pos hr]
      exact fault_atRest (fun _ h => h.1) _ _
    · rw [if_neg hr]
      exact (ih hnodup').pre (fun s _ h => h.2 hr)

/-- Every active session gets the update, or is ended. -/
theorem publishAppliedUpdate_book (input : DepthUpdateInput L) :
    Triple (bookRely setup) (Owing setup input (fun _ => [input])) (publishAppliedUpdate input)
      (fun _ => AtRest setup) := by
  have hst : Steadfast setup (Owing setup input (fun _ => [input])) := steadfast_owing _ _
  have hread : ∀ shutDown : Bool, (bookRely setup).Stable (fun s : Impl L =>
      Owing setup input (fun _ => [input]) s ∧ (shutDown = true → ActiveIn [] s)) := fun shutDown =>
    hst.stable.and fun s t hi h he hs => (steadfast_activeIn []).stable s t hi (h hs) he
  refine Triple.bind (Triple.read hst.stable hread fun s _ h => ⟨h, fun hs => h.1.2 hs⟩) fun shutDown => ?_
  split
  · rename_i hs
    refine Triple.done (hread shutDown) ?_
    exact fun s _ h => ⟨h.1.1, Lag.of_none (h.2 hs) _, fun hm => absurd h.1.2.2.1 hm⟩
  · refine Triple.bind ((sweep_book hst).pre (fun s _ h => h.1)) fun _ => ?_
    refine Triple.bind (Triple.read (Q := fun subscribers s => subscribers.Nodup ∧ Owing setup input (owed input subscribers) s)
      hst.stable (fun subscribers => (Rely.Stable.const _).and (steadfast_owing _ _).stable)
      fun s hi h => ⟨hi.nodup, h.1, fun i sub hs ha => ?_, h.2.2⟩) fun subscribers => ?_
    · rw [owed, if_pos (hi.enrolled i sub hs ha)]
      exact h.2.1 i sub hs ha
    · refine Triple.pure_pre fun hnodup => ?_
      have howe : Steadfast setup (Owing setup input (owed input subscribers)) := steadfast_owing _ _
      split
      · rename_i he
        obtain rfl : subscribers = [] := by simpa using he
        exact Triple.done howe.stable (fun s _ h => .of_owing h)
      · refine Triple.bind (Triple.choose howe.stable) fun sampled => ?_
        cases sampled with
        | none => exact fault_atRest (fun _ h => h.1.1) _ _
        | some publishedAt =>
          refine Triple.bind (Triple.choose howe.stable) fun throws => ?_
          split
          · exact fault_atRest (fun _ h => h.1.1) _ _
          · exact fanOut_book input publishedAt subscribers hnodup

end MarketDataGateway.MarketRuntime
