import MarketDataGateway.Events.Publication
import MarketDataGateway.Lib.History

/-!
# What a session is fed

A session gets its acceptance and then the events of its stream and generation that are published after its admission. `expected` is
that list of events, read off the history; `FeedInv` says that a session never has anything else, and `Lag` which sessions have all
of it.
-/

namespace MarketDataGateway.Events

open Threads

variable {T : EventTypes} {setup : EventPublicationSetup}

/-! ## Content -/

/-- What a record says, its publication time apart. -/
abbrev EventContent (T : EventTypes) := Nat × Option Nat × EventOrdinaryPayload T

def eventContent (r : EventPublicationRecord T) : EventContent T := (r.sessionSequence, r.connectionGeneration, r.payload)

/-- Events in consecutive records. -/
def eventsContent (generation : Nat) : Nat → List (NormalizedMarketEvent T) → List (EventContent T)
  | _, [] => []
  | n, event :: rest => (n, some generation, .event event) :: eventsContent generation (n + 1) rest

/-- The whole of a session: the acceptance, and the events from sequence 2 on. -/
def sessionContent (accepted : EventPublicationRecord T) (generation : Nat) (events : List (NormalizedMarketEvent T)) :
    List (EventContent T) :=
  eventContent accepted :: eventsContent generation 2 events

/-- There is a record for each event. -/
@[simp] theorem length_eventsContent (generation n : Nat) (events : List (NormalizedMarketEvent T)) :
    (eventsContent generation n events).length = events.length := by
  induction events generalizing n with
  | nil => rfl
  | cons event rest ih => simp [eventsContent, ih]

/-- More events continue the numbers of those before. -/
theorem eventsContent_append (generation n : Nat) (events rest : List (NormalizedMarketEvent T)) :
    eventsContent generation n (events ++ rest) =
      eventsContent generation n events ++ eventsContent generation (n + events.length) rest := by
  induction events generalizing n with
  | nil => rfl
  | cons event events ih =>
    simp only [List.cons_append, eventsContent, ih, List.length_cons]
    rw [show n + 1 + events.length = n + (events.length + 1) by omega]

/-- More events continue a session. -/
theorem sessionContent_append (accepted : EventPublicationRecord T) (generation : Nat)
    (events rest : List (NormalizedMarketEvent T)) :
    sessionContent accepted generation (events ++ rest) =
      sessionContent accepted generation events ++ eventsContent generation (events.length + 2) rest := by
  simp [sessionContent, eventsContent_append, Nat.add_comm]

/-- A session of fewer events is the beginning of a session of more. -/
theorem sessionContent_mono (accepted : EventPublicationRecord T) (generation : Nat)
    {events more : List (NormalizedMarketEvent T)} (h : events <+: more) :
    sessionContent accepted generation events <+: sessionContent accepted generation more := by
  obtain ⟨rest, rfl⟩ := h
  rw [sessionContent_append]
  exact List.prefix_append _ _

/-! ## The history of the source -/

/-- No event was lost on its way to a channel. -/
def Intact (log : List (EventSourceEvent T)) : Prop := ∀ channel, .failed channel ∉ log

/-- The events of one stream and generation published since a session was admitted, oldest first. -/
def publishedSince (channel : Nat) (stream : Stream) (generation : Nat) :
    List (EventSourceEvent T) → List (NormalizedMarketEvent T)
  | [] => []
  | .subscribed c _ _ :: past => if c = channel then [] else publishedSince channel stream generation past
  | .published event g :: past =>
    if normalizedEventStream event = stream ∧ g = generation then publishedSince channel stream generation past ++ [event]
    else publishedSince channel stream generation past
  | _ :: past => publishedSince channel stream generation past

/-- The event that is being published, if it is one of the stream and the generation. -/
def inFlight (stream : Stream) (generation : Nat) : Option (NormalizedMarketEvent T × Nat) → List (NormalizedMarketEvent T)
  | some (event, g) => if normalizedEventStream event = stream ∧ g = generation then [event] else []
  | none => []

/-- The events a session should have got, where `missing` are the channels that the event in flight has not come to yet. -/
def EventPublication.expected (s : EventPublication T) (missing : List Nat) (i : Nat) (c : EventSubscriberChannel T) :
    List (NormalizedMarketEvent T) :=
  publishedSince i c.stream c.sourceGeneration s.log ++
    if i ∈ missing then [] else inFlight c.stream c.sourceGeneration s.publishing

/-- An event that neither admits a session nor publishes. -/
def EventSourceEvent.isSilent : EventSourceEvent T → Bool
  | .subscribed _ _ _ | .published _ _ => false
  | _ => true

/-- A silent event publishes nothing. -/
theorem publishedSince_silent {e : EventSourceEvent T} (he : e.isSilent = true) (channel : Nat) (stream : Stream)
    (generation : Nat) (log : List (EventSourceEvent T)) :
    publishedSince channel stream generation (e :: log) = publishedSince channel stream generation log := by
  cases e <;> first | rfl | cases he

/-- What is expected of a session belongs to its stream. -/
theorem publishedSince_stream {channel : Nat} {stream : Stream} {generation : Nat} {log : List (EventSourceEvent T)}
    {event : NormalizedMarketEvent T} (h : event ∈ publishedSince channel stream generation log) :
    normalizedEventStream event = stream ∧ .published event generation ∈ log := by
  induction log with
  | nil => cases h
  | cons e log ih =>
    have hold : event ∈ publishedSince channel stream generation log →
        normalizedEventStream event = stream ∧ .published event generation ∈ e :: log := fun hm =>
      ⟨(ih hm).1, List.mem_cons_of_mem _ (ih hm).2⟩
    cases e with
    | subscribed c _ _ =>
      rw [publishedSince] at h
      split at h
      · cases h
      · exact hold h
    | published event' g =>
      rw [publishedSince] at h
      split at h
      · rename_i hm
        rcases List.mem_append.mp h with h | h
        · exact hold h
        · obtain rfl := List.mem_singleton.mp h
          exact ⟨hm.1, hm.2 ▸ List.mem_cons_self⟩
      · exact hold h
    | _ => exact hold h

/-- The history has ended: no session is admitted, no generation is opened and nothing is published any more. -/
def Ended (log : List (EventSourceEvent T)) : Prop := .shutdown ∈ log ∨ ∃ generation, .closedPermanently generation ∈ log

/-- The generation that was opened last. -/
def lastOpened : List (EventSourceEvent T) → Option Nat
  | [] => none
  | .opened generation :: _ => some generation
  | _ :: past => lastOpened past

/-- What each event of the history finds before it. -/
def EventSourceEvent.InOrder : EventSourceEvent T → List (EventSourceEvent T) → Prop
  | .opened generation, past => ¬Ended past ∧ ∀ g, .opened g ∈ past → g < generation
  | .subscribed _ _ generation, past | .published _ generation, past => ¬Ended past ∧ lastOpened past = some generation
  | _, _ => True

/-! ## The invariant -/

/-- A session was admitted for the stream and the generation of its channel, and has got its acceptance and `events`. -/
def Carries (setup : EventPublicationSetup) (i : Nat) (log : List (EventSourceEvent T)) (session : EventSession T)
    (events : List (NormalizedMarketEvent T)) : Prop :=
  ∃ subscription publishedAt, .subscribed i subscription session.channel.sourceGeneration ∈ log ∧
    session.channel.stream = subscription.stream ∧
    session.admitted.map eventContent =
      sessionContent (makeAcceptedRecord subscription session.channel.subscriptionId setup.gatewayInstanceId publishedAt)
        session.channel.sourceGeneration events

/-- The state of the source is what its history says. -/
structure Lifecycle (s : EventPublication T) : Prop where
  current : lastOpened s.log = s.sourceGeneration
  latest : ∀ g, .opened g ∈ s.log → ∃ current, s.sourceGeneration = some current ∧ g ≤ current
  shutdown : .shutdown ∈ s.log ↔ s.sourceState = .shutdown
  permanent : ∀ g, .closedPermanently g ∈ s.log → s.sourceState = .permanentlyClosed ∨ s.sourceState = .shutdown
  chronicle : Every EventSourceEvent.InOrder s.log

/-- What always holds of a publication and its sessions. -/
structure FeedInv (setup : EventPublicationSetup) (s : EventPublication T) : Prop where
  facts : ∀ (i : Nat) session, s.sessions[i]? = some session → SessionFacts s.nextAddress session
  closedBy : ∀ (i : Nat) session, s.sessions[i]? = some session → ClosedBy (.shutdown ∈ s.log) session
  carries : ∀ (i : Nat) session, s.sessions[i]? = some session → ∃ events, Carries setup i s.log session events ∧
    (Intact s.log → events <+: s.expected [] i session.channel)
  known : ∀ i ∈ s.channels, i < s.sessions.length
  nodup : s.channels.Nodup
  lifecycle : Lifecycle s

/-- Every listed session that is active has got all it should, `missing` apart. -/
def Lag (setup : EventPublicationSetup) (missing : List Nat) (s : EventPublication T) : Prop :=
  Intact s.log → ∀ (i : Nat) session, s.sessions[i]? = some session → i ∈ s.channels → session.channel.state = .active →
    Carries setup i s.log session (s.expected missing i session.channel)

/-- A source that is neither shut down nor closed for good has not ended. -/
theorem Lifecycle.not_ended {s : EventPublication T} (h : Lifecycle s) (h1 : s.sourceState ≠ .shutdown)
    (h2 : s.sourceState ≠ .permanentlyClosed) : ¬Ended s.log := by
  intro he
  rcases he with he | ⟨g, hg⟩
  · exact h1 (h.shutdown.mp he)
  · exact (h.permanent g hg).elim h2 h1

/-- An event that does not change the state of the source. -/
def EventSourceEvent.isNeutral : EventSourceEvent T → Bool
  | .subscribed _ _ _ | .published _ _ | .failed _ => true
  | _ => false

/-- Such an event, in its place, leaves the source where it is. -/
theorem Lifecycle.event {s t : EventPublication T} {e : EventSourceEvent T} (h : Lifecycle s) (hl : t.log = e :: s.log)
    (hs : t.sourceState = s.sourceState) (hg : t.sourceGeneration = s.sourceGeneration) (he : e.isNeutral = true)
    (ho : e.InOrder s.log) : Lifecycle t := by
  have hold : ∀ e', e'.isNeutral = false → (e' ∈ t.log ↔ e' ∈ s.log) := by
    intro e' hn
    rw [hl, List.mem_cons]
    refine ⟨fun hm => hm.resolve_left ?_, Or.inr⟩
    rintro rfl
    rw [he] at hn
    cases hn
  refine ⟨?_, fun g hm => ?_, ?_, fun g hm => ?_, ?_⟩
  · rw [hl, hg, ← h.current]
    cases e <;> first | rfl | cases he
  · rw [hg]
    exact h.latest g ((hold _ rfl).mp hm)
  · rw [hold _ rfl, hs]
    exact h.shutdown
  · rw [hs]
    exact h.permanent g ((hold _ rfl).mp hm)
  · rw [hl]
    exact ⟨ho, h.chronicle⟩

/-- A longer history carries the session too. -/
theorem Carries.mono {i : Nat} {log log' : List (EventSourceEvent T)} {session : EventSession T}
    {events : List (NormalizedMarketEvent T)} (h : Carries setup i log session events) (hl : ∀ e ∈ log, e ∈ log') :
    Carries setup i log' session events := by
  obtain ⟨subscription, publishedAt, hm, hs, hc⟩ := h
  exact ⟨subscription, publishedAt, hl _ hm, hs, hc⟩

/-- A session that has one more event. -/
theorem Carries.push {i : Nat} {log : List (EventSourceEvent T)} {session : EventSession T}
    {events : List (NormalizedMarketEvent T)} (h : Carries setup i log session events) {c : EventSubscriberChannel T}
    (hsm : c.stream = session.channel.stream) (hg : c.sourceGeneration = session.channel.sourceGeneration)
    (hid : c.subscriptionId = session.channel.subscriptionId)
    (hnext : session.channel.nextSessionSequence = session.admitted.length + 1) (event : NormalizedMarketEvent T)
    (publishedAt : EventPublicationTime) :
    Carries setup i log { session with channel := c, admitted := session.admitted ++ [session.nextRecord event publishedAt] }
      (events ++ [event]) := by
  obtain ⟨subscription, acceptedAt, hm, hs, hc⟩ := h
  have hlen : session.admitted.length = events.length + 1 := by
    have := congrArg List.length hc
    simpa [sessionContent] using this
  refine ⟨subscription, acceptedAt, ?_, hsm.trans hs, ?_⟩
  · show EventSourceEvent.subscribed i subscription c.sourceGeneration ∈ log
    rw [hg]
    exact hm
  · show (session.admitted ++ [session.nextRecord event publishedAt]).map eventContent = sessionContent
      (makeAcceptedRecord subscription c.subscriptionId setup.gatewayInstanceId acceptedAt) c.sourceGeneration _
    rw [hid, hg, List.map_append, hc, sessionContent_append]
    simp [eventContent, EventSession.nextRecord, eventsContent, hnext, hlen]

/-! ## Sections that touch sessions only -/

/-- A section that publishes nothing and leaves the source alone. -/
structure Aside (s t : EventPublication T) : Prop where
  log : t.log = s.log
  state : t.sourceState = s.sourceState
  generation : t.sourceGeneration = s.sourceGeneration
  channels : t.channels = s.channels
  publishing : t.publishing = s.publishing
  address : t.nextAddress = s.nextAddress
  length : t.sessions.length = s.sessions.length
  sessions : ∀ (i : Nat) session', t.sessions[i]? = some session' → ∃ session, s.sessions[i]? = some session ∧
    SessionMove True (.shutdown ∈ s.log) s.nextAddress s.nextAddress session session'

/-- A section that moves one session. -/
theorem Aside.onSession (s : EventPublication T) (channel : Nat) (f : EventSession T → EventSession T)
    (hf : ∀ session, s.sessions[channel]? = some session →
      SessionMove True (.shutdown ∈ s.log) s.nextAddress s.nextAddress session (f session)) : Aside s (s.onSession channel f) where
  log := rfl
  state := rfl
  generation := rfl
  channels := rfl
  publishing := rfl
  address := rfl
  length := List.length_modify ..
  sessions := by
    intro i session' ht
    have ht' : (s.sessions.modify channel f)[i]? = some session' := ht
    rw [List.getElem?_modify] at ht'
    obtain ⟨session, hs, rfl⟩ := Option.map_eq_some_iff.mp ht'
    refine ⟨session, hs, ?_⟩
    by_cases hc : channel = i
    · subst hc
      rw [if_pos rfl]
      exact hf session hs
    · rw [if_neg hc]
      exact .same

/-- A writer's step happens aside of the feed. -/
theorem WriterStep.aside {s t : EventPublication T} (h : WriterStep s t) : Aside s t := by
  cases h with
  | peek channel => exact .onSession s channel _ fun _ _ => .peek trivial
  | @acknowledge channel session publication hs hp =>
    refine .onSession s channel _ fun session' hs' => .acknowledge trivial ?_
    rw [hs] at hs'
    exact Option.some.inj hs' ▸ hp
  | closeFromWriter channel => exact .onSession s channel _ fun _ _ => .closeFromWriter trivial

/-- Ending a session for a replacement happens aside of the feed. -/
theorem aside_terminalizeReplaced (generation : Nat) (publishedAt : EventPublicationTime) (channel : Nat)
    (s : EventPublication T) : Aside s (s.terminalizeReplaced generation publishedAt channel) := by
  refine .onSession s channel _ fun session _ => ?_
  split
  · exact .of_terminalizeReplacement session publishedAt _ _
  · exact .same

/-- Closing a session as unavailable happens aside of the feed. -/
theorem aside_closeUnavailable (generation channel : Nat) (s : EventPublication T) :
    Aside s (s.closeUnavailable generation channel) := by
  refine .onSession s channel _ fun session _ => ?_
  split
  · exact .of_closeUnavailable session _ _
  · exact .same

/-- Closing a channel for a shutdown happens aside of the feed. -/
theorem aside_closeFromOwner {s : EventPublication T} (h : .shutdown ∈ s.log) (channel : Nat) :
    Aside s (s.closeFromOwner channel) :=
  .onSession s channel _ fun _ _ => .closeFromOwner h

/-- What a session is due does not change aside of the feed. -/
theorem Aside.expected {s t : EventPublication T} (h : Aside s t) {session session' : EventSession T}
    (hm : SessionMove True (.shutdown ∈ s.log) s.nextAddress s.nextAddress session session') (missing : List Nat) (i : Nat) :
    t.expected missing i session'.channel = s.expected missing i session.channel := by
  obtain ⟨-, hsm, hg, -, -⟩ := hm.quiet
  simp only [EventPublication.expected, h.log, h.publishing, hsm, hg]

/-- A move that stores nothing carries the session on. -/
theorem Carries.quiet {writer shut : Prop} {n i : Nat} {log : List (EventSourceEvent T)} {session session' : EventSession T}
    {events : List (NormalizedMarketEvent T)} (h : Carries setup i log session events)
    (hm : SessionMove writer shut n n session session') : Carries setup i log session' events := by
  obtain ⟨ha, hsm, hg, hid, -⟩ := hm.quiet
  unfold Carries
  rw [ha, hsm, hg, hid]
  exact h

/-- What happens aside keeps the invariant of the feed. -/
theorem FeedInv.aside {s t : EventPublication T} (hi : FeedInv setup s) (h : Aside s t) : FeedInv setup t where
  facts i session' ht := by
    obtain ⟨session, hs, hm⟩ := h.sessions i session' ht
    rw [h.address]
    exact (hi.facts i session hs).move (Nat.le_refl _) hm
  closedBy i session' ht := by
    obtain ⟨session, hs, hm⟩ := h.sessions i session' ht
    rw [h.log]
    exact hm.closedBy (hi.closedBy i session hs)
  carries i session' ht := by
    obtain ⟨session, hs, hm⟩ := h.sessions i session' ht
    obtain ⟨events, hc, he⟩ := hi.carries i session hs
    rw [h.expected hm, h.log]
    exact ⟨events, hc.quiet hm, he⟩
  known i hin := by rw [h.length]; exact hi.known i (h.channels ▸ hin)
  nodup := by rw [h.channels]; exact hi.nodup
  lifecycle := by
    obtain ⟨h1, h2, h3, h4, h5⟩ := hi.lifecycle
    exact ⟨by rw [h.log, h.generation]; exact h1, by rw [h.log, h.generation]; exact h2, by rw [h.log, h.state]; exact h3,
      by rw [h.log, h.state]; exact h4, by rw [h.log]; exact h5⟩

/-- An assertion that survives every section that leaves the source alone. -/
def Steadfast (setup : EventPublicationSetup) (A : EventPublication T → Prop) : Prop :=
  ∀ s t, FeedInv setup s → A s → Aside s t → A t

/-- Two steadfast assertions are steadfast together. -/
theorem Steadfast.and {A B : EventPublication T → Prop} (hA : Steadfast setup A) (hB : Steadfast setup B) :
    Steadfast setup (fun s => A s ∧ B s) :=
  fun s t hi h ha => ⟨hA s t hi h.1 ha, hB s t hi h.2 ha⟩

/-- What the sessions lag behind by stays. -/
theorem steadfast_lag (missing : List Nat) : Steadfast setup (Lag setup missing : EventPublication T → Prop) := by
  intro s t hi h ha hint i session' ht hin hact
  obtain ⟨session, hs, hm⟩ := ha.sessions i session' ht
  have hc := h (ha.log ▸ hint) i session hs (ha.channels ▸ hin) (hm.quiet.2.2.2.2 hact)
  rw [ha.expected hm, ha.log]
  exact hc.quiet hm

/-- Nothing is being published, and every listed session that is active has got all it should. -/
def AtRest (setup : EventPublicationSetup) (s : EventPublication T) : Prop := s.publishing = none ∧ Lag setup [] s

/-- A feed at rest stays at rest. -/
theorem steadfast_atRest : Steadfast setup (AtRest setup : EventPublication T → Prop) := by
  intro s t hi h ha
  exact ⟨ha.publishing.trans h.1, steadfast_lag [] s t hi h.2 ha⟩

/-- The state of the source stays. -/
theorem steadfast_state (state : EventSourceState) :
    Steadfast setup (fun s : EventPublication T => s.sourceState = state) :=
  fun _ _ _ h ha => ha.state.trans h

/-- The environment of the callers. -/
def feedRely (setup : EventPublicationSetup) : Rely (EventPublication T) where
  env := WriterStep
  inv := FeedInv setup
  inv_env := fun _ _ h hs => h.aside hs.aside

/-- A steadfast assertion is stable. -/
theorem Steadfast.stable {A : EventPublication T → Prop} (hA : Steadfast setup A) : (feedRely setup).Stable A :=
  fun s t hi h he => hA s t hi h he.aside

/-- A section that leaves the source alone keeps every steadfast assertion. -/
theorem modify_aside {A : EventPublication T → Prop} (hA : Steadfast setup A) {f : EventPublication T → EventPublication T}
    (hf : ∀ s, A s → Aside s (f s)) :
    Triple (feedRely setup) A (Program.modify f : EventProgram T Unit) (fun _ => A) :=
  Triple.modify hA.stable hA.stable fun s hi h => ⟨hi.aside (hf s h), hA s _ hi h (hf s h)⟩

/-- A loop of such sections over the listed channels. -/
theorem forEach_aside {A : EventPublication T → Prop} (hA : Steadfast setup A)
    {f : Nat → EventPublication T → EventPublication T} (hf : ∀ channel s, A s → Aside s (f channel s)) (channels : List Nat) :
    Triple (feedRely setup) A (Program.forEach channels fun channel => Program.modify (f channel) : EventProgram T Unit)
      (fun _ => A) :=
  Triple.forEach (I := fun _ => A) hA.stable (fun channel _ => modify_aside hA (hf channel)) channels

/-- A look keeps whatever is steadfast. -/
theorem read_steadfast {α : Type} {A : EventPublication T → Prop} (hA : Steadfast setup A) (f : EventPublication T → α) :
    Triple (feedRely setup) A (Program.read f : EventProgram T α) (fun _ => A) :=
  Triple.read hA.stable (fun _ => hA.stable) fun _ _ h => h

end MarketDataGateway.Events
