import MarketDataGateway.Runtime.Admission
import MarketDataGateway.Runtime.Integrity

/-!
# What becomes of a session

The owner moves the channels of the sessions and nothing else about them, and a writer moves its own. What a section makes of the
requests for sessions, and what it notes about the book, is said beside.
-/

namespace MarketDataGateway.MarketRuntime

open OrderBook Threads

variable {L : ProjectionLibrary} {setup : Setup L} {s t : Impl L}

/-! ## What happens to a session -/

section ChannelMove

variable {S U : Type}

/-- What the owner does to a channel. -/
inductive ChannelMove (c : SubscriberChannel S U) : SubscriberChannel S U → Prop where
  | same : ChannelMove c c
  | terminalize (reason : ConsumerGapReason) (action : RecoveryAction) (generation : Option Nat) (publishedAt : PublicationTime) :
      ChannelMove c (c.terminalize reason action generation publishedAt).2
  | close : ChannelMove c c.closeFromOwner
  | admitUpdate (update : U) (generation : Option Nat) (publishedAt : PublicationTime) (allocation : Option Nat) :
      ChannelMove c (c.admitUpdate update generation publishedAt allocation).2

variable {c c' : SubscriberChannel S U}

/-- The names on a channel stay. -/
theorem ChannelMove.names (h : ChannelMove c c') :
    c'.subscriptionId = c.subscriptionId ∧ c'.gatewayInstanceId = c.gatewayInstanceId := by
  cases h with
  | same | close => exact ⟨rfl, rfl⟩
  | terminalize =>
    unfold SubscriberChannel.terminalize
    split <;> exact ⟨rfl, rfl⟩
  | admitUpdate =>
    unfold SubscriberChannel.admitUpdate SubscriberChannel.ringPushLocked
    split
    · exact ⟨rfl, rfl⟩
    · split
      · exact ⟨rfl, rfl⟩
      · split
        · exact ⟨rfl, rfl⟩
        · split
          · exact ⟨rfl, rfl⟩
          · split
            · exact ⟨rfl, rfl⟩
            · rename_i c₁ hp
              split at hp
              · obtain rfl := Option.some.inj hp
                exact ⟨rfl, rfl⟩
              · cases hp

/-- Nothing leaves the queue, and what comes in is an update at its end. -/
theorem ChannelMove.queued (h : ChannelMove c c') :
    c'.queued = c.queued ∨ ∃ r, c.state = .active ∧ c'.state = .active ∧ r.value.kind = .depthUpdate ∧ c'.queued = c.queued ++ [r] := by
  cases h with
  | same | close => exact Or.inl rfl
  | terminalize reason action generation publishedAt =>
    rcases c.terminalize_cases reason action generation publishedAt with ⟨-, he⟩ | ⟨-, -, he⟩
    · exact Or.inl (by rw [he])
    · exact Or.inl (by rw [he]; rfl)
  | admitUpdate update generation publishedAt allocation =>
    rcases c.admitUpdate_cases update generation publishedAt allocation with
      ⟨-, he⟩ | ⟨-, he⟩ | ⟨-, he⟩ | ⟨ha, address, c₁, -, he, hst, -, -, hq⟩
    · exact Or.inl (by rw [he])
    · exact Or.inl (by rw [he]; rfl)
    · exact Or.inl (by rw [he])
    · rw [he]
      exact Or.inr ⟨_, ha, hst, rfl, hq⟩

/-- A channel that is closed stays so. -/
theorem ChannelMove.closed (h : ChannelMove c c') (hc : c.state = .closed) : c'.state = .closed := by
  have hne : c.state ≠ .active := by rw [hc]; simp
  cases h with
  | same => exact hc
  | close => rfl
  | terminalize reason action generation publishedAt =>
    rcases c.terminalize_cases reason action generation publishedAt with ⟨-, he⟩ | ⟨ha, -⟩
    · rw [he]; exact hc
    · exact absurd ha hne
  | admitUpdate update generation publishedAt allocation =>
    rcases c.admitUpdate_cases update generation publishedAt allocation with ⟨-, he⟩ | ⟨ha, -⟩ | ⟨ha, -⟩ | ⟨ha, -⟩
    · rw [he]; exact hc
    all_goals exact absurd ha hne

/-- A channel that is not active is never active again. -/
theorem ChannelMove.inactive (h : ChannelMove c c') (hs : c.state ≠ .active) : c'.state ≠ .active := by
  cases h with
  | same => exact hs
  | close => exact fun ha => by cases ha
  | terminalize reason action generation publishedAt =>
    rcases c.terminalize_cases reason action generation publishedAt with ⟨-, he⟩ | ⟨ha, -⟩
    · rw [he]; exact hs
    · exact absurd ha hs
  | admitUpdate update generation publishedAt allocation =>
    rcases c.admitUpdate_cases update generation publishedAt allocation with ⟨-, he⟩ | ⟨ha, -⟩ | ⟨ha, -⟩ | ⟨ha, -⟩
    · rw [he]; exact hs
    all_goals exact absurd ha hs

/-- Only an active channel gets a terminal. -/
theorem ChannelMove.terminal (h : ChannelMove c c') (hs : c.state ≠ .active) : c'.terminal = c.terminal := by
  cases h with
  | same | close => rfl
  | terminalize reason action generation publishedAt =>
    rcases c.terminalize_cases reason action generation publishedAt with ⟨-, he⟩ | ⟨ha, -⟩
    · rw [he]
    · exact absurd ha hs
  | admitUpdate update generation publishedAt allocation =>
    rcases c.admitUpdate_cases update generation publishedAt allocation with ⟨-, he⟩ | ⟨ha, -⟩ | ⟨ha, -⟩ | ⟨ha, -⟩
    · rw [he]
    all_goals exact absurd ha hs

/-- What a channel has to show it goes on showing, until it is closed. -/
theorem ChannelMove.peek (h : ChannelMove c c') (hterminal : c.state = .active → c.terminal = none)
    (hv : c.peek.hasValue = true) (hc' : c'.state ≠ .closed) : c'.peek = c.peek := by
  have hc : c.state ≠ .closed := fun hc => hc' (h.closed hc)
  rw [SubscriberChannel.peek_eq hc] at hv ⊢
  rw [SubscriberChannel.peek_eq hc']
  rcases h.queued with hq | ⟨r, ha, -, -, hq⟩
  · rw [hq]
    cases hqueue : c.queued with
    | cons front rest => rfl
    | nil =>
      have hne : c.state ≠ .active := by
        intro ha
        simp [hqueue, hterminal ha, PeekedPublication.hasValue] at hv
      rw [h.terminal hne]
  · rw [hq]
    cases hqueue : c.queued with
    | cons front rest => rfl
    | nil => simp [hqueue, hterminal ha, PeekedPublication.hasValue] at hv

end ChannelMove

/-! ## What happens to requests and sessions -/

/-- What a section makes of the requests that accepts none: it may queue one, or refuse some. -/
inductive RequestMove (requests : List AdmissionRequest) : List AdmissionRequest → Prop where
  | same : RequestMove requests requests
  | push (r : AdmissionRequest) (hr : r.result = none) : RequestMove requests (requests ++ [r])
  | refuse (queue : List Nat) (error : SubscriptionAdmissionError) : RequestMove requests (answerAll queue (.error error) requests)

/-- More has been noted about the book, and no admission but of the session `channel`. -/
def NotesBut (channel : Option Nat) (log log' : List (BookEvent L)) : Prop :=
  ∃ new, log' = new ++ log ∧ ∀ i projection, BookEvent.admitted i projection ∈ new → channel = some i

/-- A history that is as it was notes nothing. -/
theorem NotesBut.of_same {channel : Option Nat} {log log' : List (BookEvent L)} (h : log' = log) : NotesBut channel log log' :=
  ⟨[], h, by simp⟩

/-- An event that is no admission of another session may be noted. -/
theorem NotesBut.of_cons {channel : Option Nat} {log log' : List (BookEvent L)} {event : BookEvent L} (h : log' = event :: log)
    (he : ∀ i projection, event = .admitted i projection → channel = some i) : NotesBut channel log log' :=
  ⟨[event], h, fun i projection hm => he i projection (List.mem_singleton.mp hm).symm⟩

/-- The event may be noted under a condition. -/
theorem NotesBut.of_ite {channel : Option Nat} {log : List (BookEvent L)} {event : BookEvent L} (c : Prop) [Decidable c]
    (he : ∀ i projection, event = .admitted i projection → channel = some i) :
    NotesBut channel log (if c then event :: log else log) := by
  split
  · exact .of_cons rfl he
  · exact .of_same rfl

/-- There are the sessions there were, each has its channel moved and is otherwise as it was, no request is accepted, and no admission
noted. -/
structure Passes (s t : Impl L) : Prop where
  length : t.channels.length = s.channels.length
  channels : ∀ (i : Nat) sub, s.channels[i]? = some sub →
    ∃ c, ChannelMove sub.channel c ∧ t.channels[i]? = some { sub with channel := c }
  requests : RequestMove s.mail.admissions t.mail.admissions
  log : NotesBut none s.bookLog t.bookLog

/-- With channels and requests as they were, only the history may move. -/
theorem Passes.of_noted (hc : t.channels = s.channels) (hr : t.mail.admissions = s.mail.admissions)
    (hl : NotesBut none s.bookLog t.bookLog) : Passes s t where
  length := by rw [hc]
  channels i sub hs := ⟨sub.channel, .same, by rw [hc, hs]⟩
  requests := by rw [hr]; exact .same
  log := hl

/-- A state with the same channels, requests and history is passed. -/
theorem Passes.of_same (hc : t.channels = s.channels) (hr : t.mail.admissions = s.mail.admissions) (hl : t.bookLog = s.bookLog) :
    Passes s t := .of_noted hc hr (.of_same hl)

/-- Doing nothing passes. -/
theorem Passes.refl (s : Impl L) : Passes s s := .of_same rfl rfl rfl

/-- Refusing the requests of a queue passes. -/
theorem Passes.of_refuse (queue : List Nat) {error : SubscriptionAdmissionError} (hc : t.channels = s.channels)
    (hr : t.mail.admissions = answerAll queue (.error error) s.mail.admissions) (hl : t.bookLog = s.bookLog) : Passes s t where
  length := by rw [hc]
  channels i sub hs := ⟨sub.channel, .same, by rw [hc, hs]⟩
  requests := by rw [hr]; exact .refuse _ _
  log := .of_same hl

/-- A move of one channel passes. -/
theorem Passes.onChannel (s : Impl L) (channel : Nat)
    {f : SubscriberChannel L.LocalSnapshot L.DepthUpdate → SubscriberChannel L.LocalSnapshot L.DepthUpdate}
    (hf : ∀ c, ChannelMove c (f c)) : Passes s (s.onChannel channel f) where
  length := List.length_modify ..
  channels i sub hs := by
    show ∃ c, _ ∧ (s.channels.modify channel _)[i]? = _
    rw [List.getElem?_modify, hs]
    by_cases hc : channel = i
    · exact ⟨f sub.channel, hf sub.channel, by simp [hc]⟩
    · exact ⟨sub.channel, .same, by simp [hc]⟩
  requests := .same
  log := .of_same rfl

/-- Refusing a request passes. -/
theorem passes_refusal (request : Nat) (error : SubscriptionAdmissionError) (s : Impl L) :
    Passes s (s.completeAdmissionRequestUnlocked request (.error error)) := by
  unfold Impl.completeAdmissionRequestUnlocked
  split
  · exact .of_refuse [request] rfl rfl rfl
  · exact .refl s

/-- The gate of an admission passes. -/
theorem passes_gate (request : Nat) (s : Impl L) : Passes s (s.gateAdmission request).2 := by
  unfold Impl.gateAdmission
  split_ifs
  · exact passes_refusal _ _ s
  · exact passes_refusal _ _ s
  · exact .refl s

/-- Staging a session passes. -/
theorem passes_stage (subscription : ValidatedOrderBookSubscription) (depthLimit : Option L.DepthLimit)
    (publishedAt : PublicationTime) (w : Outcome L) (s : Impl L) :
    Passes s (s.stageSession setup subscription depthLimit publishedAt w).2 := by
  unfold Impl.stageSession
  split
  · exact .refl s
  · split <;> exact .of_same rfl rfl rfl

/-- The sections of the owner that are no part of an admission. -/
theorem plain_passes : Plain setup (Passes : Impl L → Impl L → Prop) where
  look s := .refl s
  begin _ := .of_same rfl rfl rfl
  takeWork s := by
    unfold Impl.takeWork
    repeat' split
    all_goals exact .of_same rfl rfl rfl
  terminalize i reason action generation publishedAt s := .onChannel s i fun _ => .terminalize reason action generation publishedAt
  close i s := .onChannel s i fun _ => .close
  fault reason adapterError s := by
    unfold Impl.faultLocked
    dsimp only
    rw [Impl.answerSnapshotLocked_eq]
    obtain ⟨processed, occupancy, log, he⟩ := discardIngressLocked_eq
      ({ ({ s with
            book.bootstrap := []
            mail.accepting := false
            mail.observation.bootstrapOccupancy := 0
            mail.observation.faultReason := some reason
            mail.observation.adapterError := adapterError } : Impl L).refreshProjectionObservationLocked with
          mail.observation.state := .faulted } : Impl L)
    rw [he]
    exact .of_same rfl rfl rfl
  publish s := by
    unfold Impl.publishProjectionStateLocked
    dsimp only
    split
    · unfold Impl.discardIngressLocked
      split <;> exact .of_same rfl rfl rfl
    · exact .of_same rfl rfl rfl
  admitUpdate i input publishedAt w s := by
    unfold Impl.admitUpdate
    split
    · exact .refl s
    · rename_i sub hsub
      refine ⟨List.length_set .., fun j old hs => ?_, .same, .of_ite _ (by simp)⟩
      show ∃ c, _ ∧ (s.channels.set i _)[j]? = _
      rw [List.getElem?_set]
      by_cases hij : i = j
      · subst hij
        obtain rfl := Option.some.inj (hs.symm.trans hsub)
        exact ⟨_, .admitUpdate _ _ _ _, by rw [if_pos rfl, if_pos (List.getElem?_eq_some_iff.mp hs).1]⟩
      · exact ⟨old.channel, .same, by rw [if_neg hij]; exact hs⟩
  buffer input w s := by
    unfold Impl.bufferDepthUpdate
    dsimp only
    split_ifs <;> exact .of_noted rfl rfl (.of_cons rfl (by simp))
  popBootstrap s := by unfold Impl.popBootstrap; split <;> exact .of_same rfl rfl rfl
  clearBootstrap _ := .of_same rfl rfl rfl
  install input w s := by
    unfold Impl.installBaseline
    repeat' split
    all_goals exact .of_same rfl rfl rfl
  recordInstall _ _ := .of_same rfl rfl rfl
  setGeneration _ _ := .of_noted rfl rfl (.of_cons rfl (by simp))
  finishTicket _ _ := .of_same rfl rfl rfl
  completeSnapshot result s := by unfold Impl.completeSnapshotLocked; split <;> exact .of_same rfl rfl rfl
  checkReset s := by
    unfold Impl.checkReset
    split
    · exact .refl s
    · dsimp only
      split <;> exact .of_same rfl rfl rfl
  reset _ := .of_noted rfl rfl (.of_cons rfl (by simp))
  abandonReset _ _ := .of_noted rfl rfl (.of_cons rfl (by simp))
  failReset _ := .of_same rfl rfl rfl
  completeReset result s := by unfold Impl.completeResetLocked; split <;> exact .of_same rfl rfl rfl
  completeShutdown s := .of_refuse s.mail.admissionRequests rfl rfl rfl
  leave s := by
    unfold Impl.leaveLocked
    dsimp only
    rw [Impl.answerSnapshotLocked_eq, Impl.answerResetLocked_eq]
    exact .of_refuse s.mail.admissionRequests rfl rfl rfl
  exit _ := .of_same rfl rfl rfl

/-- An application passes. -/
theorem passes_apply (input : DepthUpdateInput L) (w : Outcome L) (s : Impl L) : Passes s (s.applyToProjection setup input w).2 := by
  unfold Impl.applyToProjection
  split
  · exact .of_noted rfl rfl (.of_cons rfl (by simp))
  · split
    · exact .of_same rfl rfl rfl
    · split
      · exact .refl s
      · split
        · exact .of_same rfl rfl rfl
        · exact .of_noted rfl rfl (.of_ite _ (by simp))

/-- Recording an application passes. -/
theorem passes_recordApply (input : DepthUpdateInput L) (result : L.ApplyResult) (s : Impl L) : Passes s (s.recordApply input result) :=
  .of_same rfl rfl rfl

/-- Looking for the subscribers that are still open passes. -/
theorem passes_openSubscribers (subscribers : List Nat) : (openSubscribers subscribers : OwnerProgram L _).All Passes := by
  induction subscribers with
  | nil => trivial
  | cons i rest ih => exact Program.All.bind (Program.All.atomic fun _ s => .refl s) fun _ => Program.All.bind ih fun _ => trivial

/-- The sweep passes. -/
theorem passes_sweep : (sweepClosedSubscribers : OwnerProgram L Unit).All Passes :=
  Program.All.bind (Program.All.atomic fun _ s => .refl s) fun subscribers =>
    Program.All.bind (passes_openSubscribers subscribers) fun _ => Program.All.atomic fun _ _ => .of_same rfl rfl rfl

/-- Closing all channels passes. -/
theorem passes_closeAll : (closeAllSubscribersForShutdown : OwnerProgram L Unit).All Passes :=
  Program.All.bind (Program.All.atomic fun _ s => .refl s) fun _ =>
    Program.All.bind (Program.All.forEach fun i => Program.All.atomic fun _ s => Passes.onChannel s i fun _ => .close) fun _ =>
      Program.All.atomic fun _ _ => .of_same rfl rfl rfl

/-- A caller queues a request, and refuses some when it stops the runtime. -/
theorem ClientStep.requests (h : ClientStep setup s t) : RequestMove s.mail.admissions t.mail.admissions := by
  cases h with
  | start => unfold Impl.start; split_ifs <;> exact .same
  | requestStop => unfold Impl.requestStop; split_ifs <;> exact .same
  | finishStop _ _ _ =>
    unfold Impl.finishStop
    dsimp only
    rw [Impl.answerSnapshotLocked_eq]
    exact .refuse _ _
  | submit input throws => unfold Impl.submit; split_ifs <;> exact .same
  | observe => unfold Impl.observe; split <;> exact .same
  | requestReset kind => unfold Impl.requestReset; split_ifs <;> exact .same
  | returnReset _ => unfold Impl.returnReset; split <;> exact .same
  | captureSnapshot => unfold Impl.captureSnapshot; split_ifs <;> exact .same
  | returnSnapshot _ => unfold Impl.returnSnapshot; split <;> exact .same
  | admitSubscription subscription throws =>
    unfold Impl.admitOrderBookSubscription
    split_ifs
    iterate 6 exact .same
    exact .push _ rfl
  | shutdownPublication => unfold Impl.shutdownPublication; dsimp only; split_ifs <;> exact .same
  | observeReturns _ _ | observeTimesOut _ | waitReturns _ | notifySubscriberClosed | closePublicationAdmission
  | peek _ | acknowledge _ _ | closeFromWriter _ => exact .same

/-- A caller moves at most one session, and as a writer does. -/
theorem ClientStep.writers (h : ClientStep setup s t) (i : Nat) {sub : Subscriber L} (hs : s.channels[i]? = some sub) :
    ∃ sub', t.channels[i]? = some sub' ∧ (sub' = sub ∨ WriterMove sub sub') := by
  have hsame : t.channels = s.channels → ∃ sub', t.channels[i]? = some sub' ∧ (sub' = sub ∨ WriterMove sub sub') := fun he =>
    ⟨sub, by rw [he, hs], Or.inl rfl⟩
  have hwriter : ∀ (channel : Nat) (f : Subscriber L → Subscriber L), (∀ old, s.channels[channel]? = some old → WriterMove old (f old)) →
      t = s.onSubscriber channel f → ∃ sub', t.channels[i]? = some sub' ∧ (sub' = sub ∨ WriterMove sub sub') := by
    rintro channel f hf rfl
    show ∃ sub', (s.channels.modify channel f)[i]? = some sub' ∧ _
    rw [List.getElem?_modify, hs]
    by_cases hc : channel = i
    · subst hc
      exact ⟨f sub, by simp, Or.inr (hf sub hs)⟩
    · exact ⟨sub, by simp [hc], Or.inl rfl⟩
  cases h with
  | peek channel => exact hwriter channel _ (fun _ _ => .peek) rfl
  | acknowledge hold hp =>
    refine hwriter _ _ (fun old ho => ?_) rfl
    obtain rfl := Option.some.inj (hold.symm.trans ho)
    exact .acknowledge hp
  | closeFromWriter channel => exact hwriter channel _ (fun _ _ => .close) rfl
  | start => refine hsame ?_; unfold Impl.start; split_ifs <;> rfl
  | requestStop => refine hsame ?_; unfold Impl.requestStop; split_ifs <;> rfl
  | finishStop _ _ _ =>
    refine hsame ?_
    unfold Impl.finishStop
    dsimp only
    rw [Impl.answerSnapshotLocked_eq]
    rfl
  | submit input throws => refine hsame ?_; unfold Impl.submit; split_ifs <;> rfl
  | observe => refine hsame ?_; unfold Impl.observe; split <;> rfl
  | requestReset kind => refine hsame ?_; unfold Impl.requestReset; split_ifs <;> rfl
  | returnReset _ => refine hsame ?_; unfold Impl.returnReset; split <;> rfl
  | captureSnapshot => refine hsame ?_; unfold Impl.captureSnapshot; split_ifs <;> rfl
  | returnSnapshot _ => refine hsame ?_; unfold Impl.returnSnapshot; split <;> rfl
  | admitSubscription subscription throws => refine hsame ?_; unfold Impl.admitOrderBookSubscription; split_ifs <;> rfl
  | shutdownPublication => refine hsame ?_; unfold Impl.shutdownPublication; dsimp only; split_ifs <;> rfl
  | observeReturns _ _ | observeTimesOut _ | waitReturns _ | notifySubscriberClosed | closePublicationAdmission => exact hsame rfl

/-! ## The sections of the owner -/

/-- A section of the owner gives a request its result, or makes a session of a request, or does neither. -/
theorem OwnerSection.passes_or (h : OwnerSection setup s t) :
    Passes s t ∨ (∃ request result, t = s.completeAdmissionRequestUnlocked request result) ∨
      ∃ request c, t = (s.enrolled c).completeAdmissionRequestUnlocked request (.accepted s.channels.length) := by
  have hplain : Plain setup (Passes : Impl L → Impl L → Prop) := plain_passes
  cases h with
  | look => exact .inl (.refl s)
  | begin => exact .inl (hplain.begin s)
  | takeWork => exact .inl (hplain.takeWork s)
  | terminalize => exact .inl (hplain.terminalize _ _ _ _ _ s)
  | close => exact .inl (hplain.close _ s)
  | roster => exact .inl (.of_same rfl rfl rfl)
  | fault => exact .inl (hplain.fault _ _ s)
  | publish => exact .inl (hplain.publish s)
  | admitUpdate => exact .inl (hplain.admitUpdate _ _ _ _ s)
  | apply => exact .inl (passes_apply _ _ s)
  | recordApply => exact .inl (passes_recordApply _ _ s)
  | buffer => exact .inl (hplain.buffer _ _ s)
  | popBootstrap => exact .inl (hplain.popBootstrap s)
  | clearBootstrap => exact .inl (hplain.clearBootstrap s)
  | install => exact .inl (hplain.install _ _ s)
  | recordInstall => exact .inl (hplain.recordInstall _ s)
  | setGeneration => exact .inl (hplain.setGeneration _ s)
  | finishTicket => exact .inl (hplain.finishTicket _ s)
  | complete request result => exact .inr (.inl ⟨request, result, rfl⟩)
  | gate request => exact .inl (passes_gate request s)
  | stage => exact .inl (passes_stage _ _ _ _ s)
  | commit request c =>
    rw [commitAdmission_eq]
    split
    · exact .inr (.inr ⟨request, c, rfl⟩)
    · exact .inl (passes_gate request s)
  | completeSnapshot => exact .inl (hplain.completeSnapshot _ s)
  | checkReset => exact .inl (hplain.checkReset s)
  | reset => exact .inl (hplain.reset s)
  | abandonReset => exact .inl (hplain.abandonReset _ s)
  | failReset => exact .inl (hplain.failReset s)
  | completeReset => exact .inl (hplain.completeReset _ s)
  | completeShutdown => exact .inl (hplain.completeShutdown s)
  | leave => exact .inl (hplain.leave s)
  | exit => exact .inl (hplain.exit s)

/-- A result is given to the request alone. -/
theorem complete_same (request : Nat) (result : SubscriptionAdmissionResult) (s : Impl L) :
    (s.completeAdmissionRequestUnlocked request result).channels = s.channels ∧
      (s.completeAdmissionRequestUnlocked request result).bookLog = s.bookLog ∧
      ((s.completeAdmissionRequestUnlocked request result).mail.admissions = s.mail.admissions ∨
        (s.completeAdmissionRequestUnlocked request result).mail.admissions = answerAll [request] result s.mail.admissions) := by
  unfold Impl.completeAdmissionRequestUnlocked
  split
  · exact ⟨rfl, rfl, Or.inr rfl⟩
  · exact ⟨rfl, rfl, Or.inl rfl⟩

/-- The owner moves the channels of the sessions. -/
theorem OwnerSection.channels (h : OwnerSection setup s t) (i : Nat) {sub : Subscriber L} (hs : s.channels[i]? = some sub) :
    ∃ c, ChannelMove sub.channel c ∧ t.channels[i]? = some { sub with channel := c } := by
  rcases h.passes_or with hp | ⟨request, result, rfl⟩ | ⟨request, c, rfl⟩
  · exact hp.channels i sub hs
  · exact ⟨sub.channel, .same, by rw [(complete_same request result s).1, hs]⟩
  · refine ⟨sub.channel, .same, ?_⟩
    rw [(complete_same _ _ _).1]
    exact (List.getElem?_append_left (List.getElem?_eq_some_iff.mp hs).1).trans hs

/-- A session after a section of the owner is one there was, with its channel moved, or a new one. -/
theorem OwnerSection.sessions (h : OwnerSection setup s t) (i : Nat) {sub' : Subscriber L} (ht : t.channels[i]? = some sub') :
    (∃ sub c, s.channels[i]? = some sub ∧ sub' = { sub with channel := c }) ∨ ∃ c, sub' = { channel := c } := by
  cases hs : s.channels[i]? with
  | some sub =>
    obtain ⟨c, -, hc⟩ := h.channels i hs
    exact Or.inl ⟨sub, c, rfl, Option.some.inj (ht.symm.trans hc)⟩
  | none =>
    have hlength : s.channels.length ≤ i := List.getElem?_eq_none_iff.mp hs
    have hlt : i < t.channels.length := (List.getElem?_eq_some_iff.mp ht).1
    rcases h.passes_or with hp | ⟨request, result, rfl⟩ | ⟨request, c, rfl⟩
    · rw [hp.length] at hlt
      omega
    · rw [(complete_same request result s).1] at hlt
      omega
    · rw [(complete_same _ _ _).1] at ht
      have hnew : ([{ channel := c }] : List (Subscriber L))[i - s.channels.length]? = some sub' :=
        (List.getElem?_append_right hlength).symm.trans ht
      exact Or.inr ⟨c, (List.mem_singleton.mp (List.mem_of_getElem? hnew))⟩

/-- An answer that has been given is not changed. -/
theorem RequestMove.answered {requests requests' : List AdmissionRequest} (h : RequestMove requests requests') {i : Nat}
    {r : AdmissionRequest} (hr : requests[i]? = some r) (ha : r.result.isSome = true) : requests'[i]? = some r := by
  cases h with
  | same => exact hr
  | push q hq => exact (List.getElem?_append_left (List.getElem?_eq_some_iff.mp hr).1).trans hr
  | refuse queue error => exact answerAll_answered hr ha _

/-- No section of the owner changes an answer. -/
theorem OwnerSection.answered (h : OwnerSection setup s t) {i : Nat} {r : AdmissionRequest} (hr : s.mail.admissions[i]? = some r)
    (ha : r.result.isSome = true) : t.mail.admissions[i]? = some r := by
  have hcomplete : ∀ (request : Nat) (result : SubscriptionAdmissionResult) (s : Impl L), s.mail.admissions[i]? = some r →
      (s.completeAdmissionRequestUnlocked request result).mail.admissions[i]? = some r := by
    intro request result s hr
    rcases (complete_same request result s).2.2 with he | he <;> rw [he]
    · exact hr
    · exact answerAll_answered hr ha result
  rcases h.passes_or with hp | ⟨request, result, rfl⟩ | ⟨request, c, rfl⟩
  · exact hp.requests.answered hr ha
  · exact hcomplete request result s hr
  · exact hcomplete request _ (s.enrolled c) hr

/-- Events that admit nobody do not admit anybody else. -/
theorem NotesBut.weaken {log log' : List (BookEvent L)} (h : NotesBut none log log') (channel : Option Nat) :
    NotesBut channel log log' := by
  obtain ⟨new, he, hn⟩ := h
  exact ⟨new, he, fun i projection hm => by cases hn i projection hm⟩

/-- The only admission a section of the owner notes is that of the next session. -/
theorem OwnerSection.notes (h : OwnerSection setup s t) : NotesBut (some s.channels.length) s.bookLog t.bookLog := by
  rcases h.passes_or with hp | ⟨request, result, rfl⟩ | ⟨request, c, rfl⟩
  · exact hp.log.weaken _
  · exact .of_same (complete_same request result s).2.1
  · have hlog : ((s.enrolled c).completeAdmissionRequestUnlocked request (.accepted s.channels.length)).bookLog =
        .admitted s.channels.length s.book.projection :: s.bookLog := (complete_same _ _ _).2.1
    refine .of_cons hlog fun i projection he => ?_
    obtain ⟨rfl, -⟩ := BookEvent.admitted.inj he
    rfl

/-- What a session should have received it should have received still when more has happened. -/
theorem Follows.noted {channel : Nat} {other : Option Nat} {log log' : List (BookEvent L)}
    {records : List (PublicationRecord L.LocalSnapshot L.DepthUpdate)} (h : Follows setup channel log records)
    (hn : NotesBut other log log') (hne : other ≠ some channel) : Follows setup channel log' records := by
  obtain ⟨new, rfl, hnew⟩ := hn
  induction new with
  | nil => exact h
  | cons event new ih =>
    have hrest : Follows setup channel (new ++ log) records := ih fun i projection hm => hnew i projection (List.mem_cons_of_mem _ hm)
    cases event with
    | admitted i projection =>
      refine hrest.admitted (fun he => hne ?_) projection
      rw [← he]
      exact hnew i projection List.mem_cons_self
    | applied input => exact hrest.applied input
    | received _ | installed _ | published _ _ | mismatched _ _ _ | reset | resetThrew => exact hrest.silent rfl

end MarketDataGateway.MarketRuntime
