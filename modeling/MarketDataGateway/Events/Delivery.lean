import MarketDataGateway.Events.Guarantees

/-!
# The delivery loop of an event stream

The handler of a `SubscribeEvents` call reads its channel in separate sections: a peek, a look at the state when there is nothing to
peek, a wait, and an acknowledgement after each write. The publication goes on in between. Writes succeed and nobody cancels the
call; an item may still fail to be materialized.
-/

namespace MarketDataGateway.Events

open Threads

variable {T : EventTypes} {setup : EventPublicationSetup}

/-! ## The handler -/

inductive StatusCode where
  | ok | cancelled | unavailable | internal
  deriving DecidableEq, Repr

structure RpcStatus where
  code : StatusCode
  message : String := ""
  deriving DecidableEq, Repr

def RpcStatus.ok : RpcStatus := { code := .ok }

/-- How a stream ends whose source is gone for good. -/
def terminatedPermanently : RpcStatus := { code := .unavailable, message := "event source terminated permanently" }

/-- Where a handler is between two of its sections. -/
inductive HandlerPoint (T : EventTypes) where
  | looking
  | deciding
  | waiting
  | writing (publication : PeekedEventPublication T)
  | acknowledging (publication : PeekedEventPublication T)
  | finished (status : RpcStatus)

/-- A handler, with all it has written so far. -/
structure EventHandler (T : EventTypes) where
  point : HandlerPoint T := .looking
  written : List (PeekedEventPublication T) := []

namespace EventHandler

/-- What follows an acknowledgement. -/
def afterAcknowledge : EventAcknowledgeResult → HandlerPoint T
  | .acknowledged => .looking
  | .closed => .finished .ok
  | .mismatch => .finished { code := .internal, message := "event subscriber peek/ack invariant failed" }

/-- What follows a look at the state of a channel that had nothing to peek. -/
def afterState : EventChannelState → HandlerPoint T
  | .terminalUnavailable => .finished terminatedPermanently
  | .closed => .finished .ok
  | .active | .terminalGap => .waiting

/-- The next section of a handler on its session. A handler that has finished closes its channel on the way out. -/
def step (materialized : Bool) (session : EventSession T) (handler : EventHandler T) : EventSession T × EventHandler T :=
  match handler.point with
  | .looking =>
    (session.peek,
      { handler with point := if session.channel.peek.hasValue then .writing session.channel.peek else .deciding })
  | .deciding => (session, { handler with point := afterState session.channel.state })
  | .waiting => (session, { handler with point := .looking })
  | .writing publication =>
    if materialized then
      (session, { point := .acknowledging publication, written := handler.written ++ [publication] })
    else
      (session,
        { handler with point := .finished { code := .internal, message := "failed to materialize event stream item" } })
  | .acknowledging publication =>
    (session.acknowledge publication,
      { handler with point := afterAcknowledge (session.channel.acknowledge publication).1 })
  | .finished _ => (session.closeFromWriter, handler)

/-- The ordinary records a handler has written. -/
def records (handler : EventHandler T) : List (EventPublicationRecord T) :=
  handler.written.filterMap fun publication => publication.ordinary.map (·.value)

end EventHandler

/-! ## The service -/

/-- A publication and the handler of each of its channels. -/
structure EventService (T : EventTypes) where
  publication : EventPublication T := {}
  handlers : Nat → EventHandler T := fun _ => {}

/-- The next section of one handler. -/
def EventService.handle (materialized : Bool) (channel : Nat) (c : EventService T) : EventService T :=
  match c.publication.sessions[channel]? with
  | none => c
  | some session =>
    let next := EventHandler.step materialized session (c.handlers channel)
    { publication := c.publication.onSession channel fun _ => next.1
      handlers := fun i => if i = channel then next.2 else c.handlers i }

/-- One section of a call of the publication, or of a handler. -/
inductive ServiceStep (setup : EventPublicationSetup) : Phase (EventPublication T) (EventOutcome T) → EventService T →
    Phase (EventPublication T) (EventOutcome T) → EventService T → Prop where
  | call {ph ph' c s} (h : LoopStep (fun _ _ => False) (callRound setup) ph c.publication ph' s) :
      ServiceStep setup ph c ph' { c with publication := s }
  | handle {ph c} (materialized : Bool) (channel : Nat) : ServiceStep setup ph c ph (c.handle materialized channel)

/-- Every run of a service all of whose steps satisfy `careful`. -/
inductive Served (setup : EventPublicationSetup) (careful : EventService T → EventService T → Prop) :
    Phase (EventPublication T) (EventOutcome T) → EventService T → Prop where
  | initial : Served setup careful .head {}
  | step {ph ph' c c'} (h : Served setup careful ph c) (hs : ServiceStep setup ph c ph' c') (hc : careful c c') :
      Served setup careful ph' c'

/-- The step does not close a channel permanently under a handler that has just found nothing to peek, with records queued that it
has not seen. -/
def Spares (c c' : EventService T) : Prop :=
  ∀ (i : Nat) session session', c.publication.sessions[i]? = some session → session.channel.state = .active →
    session.channel.queued ≠ [] → (c.handlers i).point = .deciding → c'.publication.sessions[i]? = some session' →
    session'.channel.state ≠ .terminalUnavailable

/-! ## A handler and its session -/

/-- What a handler that attends a session knows of it. -/
structure Attends (session : EventSession T) (handler : EventHandler T) : Prop where
  taken : ∀ p, handler.point = .writing p ∨ handler.point = .acknowledging p → p ∈ session.peeked
  written : match handler.point with
    | .acknowledging p => handler.records = session.delivered ++ (p.ordinary.map (·.value)).toList
    | .finished status => status = terminatedPermanently →
        handler.records = session.delivered ∧ session.delivered = session.admitted ∧ session.channel.state ≠ .active
    | _ => handler.records = session.delivered
  drained : handler.point = .deciding → session.channel.state = .terminalUnavailable → session.channel.queued = []

/-- A channel with nothing to peek is closed or has nothing queued. -/
theorem queued_of_peek_empty {c : EventSubscriberChannel T} (h : c.peek.hasValue = false) (hc : c.state ≠ .closed) :
    c.queued = [] := by
  rw [EventSubscriberChannel.peek_eq hc] at h
  cases hq : c.queued with
  | nil => rfl
  | cons r rest => simp [hq, PeekedEventPublication.hasValue] at h

/-- A section of the handler. -/
theorem Attends.step {n : Nat} {session : EventSession T} {handler : EventHandler T} (h : Attends session handler)
    (hf : SessionFacts n session) (materialized : Bool) :
    Attends (handler.step materialized session).1 (handler.step materialized session).2 := by
  obtain ⟨point, written⟩ := handler
  cases point with
  | looking =>
    have hw : (EventHandler.mk .looking written : EventHandler T).records = session.delivered := h.written
    by_cases hv : session.channel.peek.hasValue = true
    · have he : (EventHandler.mk .looking written : EventHandler T).step materialized session =
          (session.peek, ⟨.writing session.channel.peek, written⟩) := by simp [EventHandler.step, hv]
      rw [he]
      refine ⟨fun p hp => ?_, hw, fun hd => by cases hd⟩
      rcases hp with hp | hp <;> cases hp
      exact List.mem_cons_self
    · have he : (EventHandler.mk .looking written : EventHandler T).step materialized session =
          (session.peek, ⟨.deciding, written⟩) := by simp [EventHandler.step, hv]
      rw [he]
      refine ⟨fun p hp => (by rcases hp with hp | hp <;> cases hp), hw, fun _ hu => ?_⟩
      have hu' : session.channel.state = .terminalUnavailable := hu
      have hq : session.channel.queued = [] := queued_of_peek_empty (by simpa using hv) (by rw [hu']; simp)
      exact hq
  | deciding =>
    have hw : (EventHandler.mk .deciding written : EventHandler T).records = session.delivered := h.written
    have hd := h.drained rfl
    simp only [EventHandler.step]
    cases hs : session.channel.state with
    | terminalUnavailable =>
      refine ⟨fun p hp => (by rcases hp with hp | hp <;> cases hp), fun _ => ⟨hw, ?_, by rw [hs]; simp⟩, fun hd => by cases hd⟩
      exact hf.delivered_of_empty (by rw [hs]; simp) (hd hs)
    | closed =>
      refine ⟨fun p hp => (by rcases hp with hp | hp <;> cases hp), fun he => ?_, fun hd => by cases hd⟩
      exact absurd he (by decide)
    | active | terminalGap =>
      exact ⟨fun p hp => (by rcases hp with hp | hp <;> cases hp), hw, fun hd => by cases hd⟩
  | waiting =>
    have hw : (EventHandler.mk .waiting written : EventHandler T).records = session.delivered := h.written
    exact ⟨fun p hp => (by rcases hp with hp | hp <;> cases hp), hw, fun hd => by cases hd⟩
  | writing publication =>
    have hw : (EventHandler.mk (.writing publication) written : EventHandler T).records = session.delivered := h.written
    cases materialized with
    | true =>
      refine ⟨fun p hp => ?_, ?_, fun hd => by cases hd⟩
      · rcases hp with hp | hp <;> cases hp
        exact h.taken publication (Or.inl rfl)
      · show (EventHandler.mk (.acknowledging publication) (written ++ [publication]) : EventHandler T).records = _
        simp only [EventHandler.records, List.filterMap_append] at hw ⊢
        rw [hw]
        cases ho : publication.ordinary <;> simp [EventHandler.step, ho]
    | false =>
      refine ⟨fun p hp => (by rcases hp with hp | hp <;> cases hp), fun he => ?_, fun hd => by cases hd⟩
      exact absurd he (by decide)
  | acknowledging publication =>
    have hw : (EventHandler.mk (.acknowledging publication) written : EventHandler T).records =
      session.delivered ++ (publication.ordinary.map (·.value)).toList := h.written
    simp only [EventHandler.step]
    cases hr : (session.channel.acknowledge publication).1 with
    | acknowledged =>
      refine ⟨fun p hp => (by rcases hp with hp | hp <;> cases hp), ?_, fun hd => by cases hd⟩
      show (EventHandler.mk .looking written : EventHandler T).records = (session.acknowledge publication).delivered
      have hord : ∃ r, publication.ordinary = some r := by
        rcases session.channel.acknowledge_cases publication with ⟨_, _, r, -, ho, -⟩ | ⟨_, -, -, -, -, -, he⟩ | ⟨-, hne, -⟩
        · exact ⟨r, ho⟩
        · rw [he] at hr
          cases hr
        · exact absurd hr hne
      obtain ⟨r, ho⟩ := hord
      simp only [EventSession.acknowledge, hr, ho]
      simpa [EventHandler.records, ho] using hw
    | closed =>
      refine ⟨fun p hp => (by rcases hp with hp | hp <;> cases hp), fun he => ?_, fun hd => by cases hd⟩
      exact absurd he (by decide)
    | mismatch =>
      refine ⟨fun p hp => (by rcases hp with hp | hp <;> cases hp), fun he => ?_, fun hd => by cases hd⟩
      exact absurd he (by decide)
  | finished status =>
    refine ⟨fun p hp => (by rcases hp with hp | hp <;> cases hp), fun he => ?_, fun hd => by cases hd⟩
    obtain ⟨h1, h2, -⟩ := h.written he
    exact ⟨h1, h2, by simp [EventHandler.step, EventSession.closeFromWriter, EventSubscriberChannel.closeFromWriter]⟩

/-- A section of the publication, when it spares the handler. -/
theorem Attends.move {n m : Nat} {session session' : EventSession T} {handler : EventHandler T} (h : Attends session handler)
    (hm : SessionMove False True n m session session')
    (hspares : session.channel.state = .active → session.channel.queued ≠ [] → handler.point = .deciding →
      session'.channel.state ≠ .terminalUnavailable) : Attends session' handler := by
  obtain ⟨point, written⟩ := handler
  -- a finished handler has left an active session behind only if it did not report the source gone
  have hfin : session.channel.state = .active → ∀ status, point = .finished status → status ≠ terminatedPermanently := by
    rintro ha status rfl he
    exact (h.written he).2.2 ha
  cases hm with
  | same => exact h
  | peek hw => exact hw.elim
  | acknowledge hw _ => exact hw.elim
  | closeFromWriter hw => exact hw.elim
  | push c r _ ha hst =>
    refine ⟨h.taken, ?_, fun _ hu => ?_⟩
    · have hw := h.written
      cases point with
      | finished status => exact fun he => absurd he (hfin ha status rfl)
      | _ => exact hw
    · have : c.state = .terminalUnavailable := hu
      rw [hst] at this
      cases this
  | terminate reason publishedAt ha _ =>
    refine ⟨h.taken, ?_, fun _ hu => by cases hu⟩
    have hw := h.written
    cases point with
    | finished status => exact fun he => absurd he (hfin ha status rfl)
    | _ => exact hw
  | closeUnavailable ha =>
    refine ⟨h.taken, ?_, fun hd _ => ?_⟩
    · have hw := h.written
      cases point with
      | finished status => exact fun he => absurd he (hfin ha status rfl)
      | _ => exact hw
    · by_contra hq
      exact hspares ha hq hd rfl
  | closeFromOwner _ =>
    refine ⟨h.taken, ?_, fun _ hu => by cases hu⟩
    have hw := h.written
    cases point with
    | finished status => exact fun he => ⟨(hw he).1, (hw he).2.1, by simp [EventSubscriberChannel.closeFromOwner]⟩
    | _ => exact hw

/-! ## Runs of the service -/

variable {careful : EventService T → EventService T → Prop} {ph ph' : Phase (EventPublication T) (EventOutcome T)}
  {c c' : EventService T}

/-- A section of a handler is one of its writer, or none of the publication's state. -/
theorem EventHandler.step_writer {s : EventPublication T} {channel : Nat} {session : EventSession T} {handler : EventHandler T}
    (hs : s.sessions[channel]? = some session) (ha : Attends session handler) (materialized : Bool) :
    WriterStep s (s.onSession channel fun _ => (handler.step materialized session).1) ∨
      s.onSession channel (fun _ => (handler.step materialized session).1) = s := by
  have hwith : ∀ f : EventSession T → EventSession T,
      s.onSession channel (fun _ => f session) = s.onSession channel f := by
    intro f
    have hm : s.sessions.modify channel (fun _ => f session) = s.sessions.modify channel f := by
      refine List.ext_getElem? fun i => ?_
      rw [List.getElem?_modify, List.getElem?_modify]
      by_cases hi : channel = i
      · subst hi
        rw [hs]
        simp
      · simp [hi]
    simp only [EventPublication.onSession, hm]
  have hstay : s.onSession channel (fun _ => session) = s :=
    (hwith id).trans (by simp [EventPublication.onSession])
  obtain ⟨point, written⟩ := handler
  cases point with
  | looking =>
    rw [show (EventHandler.step materialized session ⟨.looking, written⟩).1 = session.peek from rfl, hwith (·.peek)]
    exact Or.inl (.peek channel)
  | acknowledging publication =>
    rw [show (EventHandler.step materialized session ⟨.acknowledging publication, written⟩).1 =
      session.acknowledge publication from rfl, hwith (·.acknowledge publication)]
    exact Or.inl (.acknowledge hs (ha.taken publication (Or.inr rfl)))
  | finished status =>
    rw [show (EventHandler.step materialized session ⟨.finished status, written⟩).1 = session.closeFromWriter from rfl,
      hwith (·.closeFromWriter)]
    exact Or.inl (.closeFromWriter channel)
  | writing publication => cases materialized <;> exact Or.inr hstay
  | deciding | waiting => exact Or.inr hstay

/-- What holds in every run of a service: the publication is in one of its runs, and each channel without a session has a handler
that has done nothing. -/
structure Serves (setup : EventPublicationSetup) (ph : Phase (EventPublication T) (EventOutcome T)) (c : EventService T) :
    Prop where
  reachable : Reachable setup ph c.publication
  idle : ∀ i, c.publication.sessions[i]? = none → c.handlers i = {}

/-- A handler that has done nothing attends a session that has delivered nothing. -/
theorem Attends.fresh {session : EventSession T} (h : session.delivered = []) : Attends session {} :=
  ⟨fun p hp => (by rcases hp with hp | hp <;> cases hp), h.symm, fun hd => by cases hd⟩

/-- Every handler attends its session. -/
def Attended (c : EventService T) : Prop :=
  ∀ (i : Nat) session, c.publication.sessions[i]? = some session → Attends session (c.handlers i)

/-- A section of a call is a section of the publication alone. -/
theorem own_step {s s' : EventPublication T} (h : LoopStep (fun _ _ => False) (callRound setup) ph s ph' s') :
    RunStep setup ph s ph' s' := by
  cases h with
  | env he => exact he.elim
  | enter h => exact .enter h
  | run h => exact .run h
  | again => exact .again
  | leave => exact .leave

/-- What a section of a call does to the sessions, with no writer involved. -/
theorem own_evolves {s s' : EventPublication T} (hr : Reachable setup ph s)
    (h : LoopStep (fun _ _ => False) (callRound setup) ph s ph' s') : Evolves False s s' := by
  have hp : PhaseAll (Evolves False) ph := hr.sections
  rcases (LoopStep.guarantee sections_callRound hp h).1 with he | he | rfl
  · exact he.elim
  · exact he
  · exact .of_same rfl rfl

/-- A call lets the service go on. -/
theorem Serves.call {s : EventPublication T} (h : Serves setup ph c)
    (hs : LoopStep (fun _ _ => False) (callRound setup) ph c.publication ph' s) :
    Serves setup ph' { c with publication := s } := by
  refine ⟨.step h.reachable (own_step hs), fun i hn => h.idle i ?_⟩
  cases hold : c.publication.sessions[i]? with
  | none => rfl
  | some session =>
    obtain ⟨session', ht, -⟩ := (own_evolves h.reachable hs).sessions i session hold
    have hn' : s.sessions[i]? = none := hn
    rw [hn'] at ht
    cases ht

/-- A call that spares the channels leaves them attended. -/
theorem Attended.call {s : EventPublication T} (h : Serves setup ph c) (ha : Attended c)
    (hs : LoopStep (fun _ _ => False) (callRound setup) ph c.publication ph' s)
    (hc : Spares c { c with publication := s }) : Attended { c with publication := s } := by
  intro i session' ht
  cases hold : c.publication.sessions[i]? with
  | none =>
    have hidle := h.idle i hold
    show Attends session' (c.handlers i)
    rw [hidle]
    exact .fresh ((own_evolves h.reachable hs).fresh i session' ht hold)
  | some session =>
    obtain ⟨found, hfound, hm⟩ := (own_evolves h.reachable hs).sessions i session hold
    obtain rfl : found = session' := Option.some.inj (hfound.symm.trans ht)
    exact (ha i session hold).move hm fun hact hq hd => hc i session found hold hact hq hd ht

/-- The section of a handler leaves the other sessions and handlers alone. -/
theorem handle_cases (materialized : Bool) (channel : Nat) (c : EventService T) {i : Nat} {session' : EventSession T}
    (ht : (c.handle materialized channel).publication.sessions[i]? = some session') :
    (∃ session, c.publication.sessions[i]? = some session ∧ i = channel ∧
      session' = ((c.handlers i).step materialized session).1 ∧
      (c.handle materialized channel).handlers i = ((c.handlers i).step materialized session).2) ∨
    (c.publication.sessions[i]? = some session' ∧ (c.handle materialized channel).handlers i = c.handlers i) := by
  unfold EventService.handle at ht ⊢
  cases hs : c.publication.sessions[channel]? with
  | none =>
    rw [hs] at ht
    exact Or.inr ⟨ht, rfl⟩
  | some session =>
    rw [hs] at ht
    have ht' : (c.publication.sessions.modify channel fun _ =>
      ((c.handlers channel).step materialized session).1)[i]? = some session' := ht
    rw [List.getElem?_modify] at ht'
    by_cases hi : channel = i
    · subst hi
      rw [hs] at ht'
      simp only [if_true, Option.map_eq_map, Option.map_some, Option.some.injEq] at ht'
      exact Or.inl ⟨session, hs, rfl, ht'.symm, if_pos rfl⟩
    · simp only [if_neg hi, Option.map_eq_map, id_eq, Option.map_id_fun'] at ht'
      exact Or.inr ⟨ht', if_neg fun he => hi he.symm⟩

/-- A step of the handler lets the service go on, and the channels attended. -/
theorem Serves.handle (h : Serves setup ph c) (ha : Attended c) (materialized : Bool) (channel : Nat) :
    Serves setup ph (c.handle materialized channel) ∧ Attended (c.handle materialized channel) := by
  refine ⟨⟨?_, fun i hn => ?_⟩, fun i session' ht => ?_⟩
  · unfold EventService.handle
    cases hs : c.publication.sessions[channel]? with
    | none => exact h.reachable
    | some session =>
      rcases EventHandler.step_writer hs (ha channel session hs) materialized with hw | he
      · exact .step h.reachable (.env hw)
      · show Reachable setup ph (c.publication.onSession channel fun _ => ((c.handlers channel).step materialized session).1)
        rw [he]
        exact h.reachable
  · unfold EventService.handle at hn ⊢
    cases hs : c.publication.sessions[channel]? with
    | none =>
      rw [hs] at hn
      exact h.idle i hn
    | some session =>
      rw [hs] at hn
      have hn' : (c.publication.sessions.modify channel fun _ =>
        ((c.handlers channel).step materialized session).1)[i]? = none := hn
      have hnone : c.publication.sessions[i]? = none := by
        rw [List.getElem?_modify] at hn'
        simpa using hn'
      have hi : i ≠ channel := by
        rintro rfl
        rw [hs] at hnone
        cases hnone
      show (if i = channel then _ else c.handlers i) = {}
      rw [if_neg hi]
      exact h.idle i hnone
  · rcases handle_cases materialized channel c ht with ⟨session, hs, -, rfl, he⟩ | ⟨ho, he⟩
    · rw [he]
      exact (ha i session hs).step (h.reachable.feed.inv.facts i session hs) materialized
    · rw [he]
      exact ha i session' ho

/-- In a run that spares its handlers every handler attends its session. -/
theorem Served.attended (h : Served setup Spares ph c) : Serves setup ph c ∧ Attended c := by
  induction h with
  | initial => exact ⟨⟨.initial, fun _ _ => rfl⟩, fun i session hs => by cases hs⟩
  | step _ hs hc ih =>
    cases hs with
    | call hs => exact ⟨ih.1.call hs, ih.2.call ih.1 hs hc⟩
    | handle materialized channel => exact ih.1.handle ih.2 materialized channel

/-- A section of a handler closes no channel under another one. -/
theorem spares_handle (materialized : Bool) (channel : Nat) (c : EventService T) : Spares c (c.handle materialized channel) := by
  intro i session session' hs ha _ hd ht hu
  rcases handle_cases materialized channel c ht with ⟨found, hs', -, rfl, -⟩ | ⟨ho, -⟩
  · obtain rfl := Option.some.inj (hs.symm.trans hs')
    simp only [EventHandler.step, hd] at hu
    rw [ha] at hu
    cases hu
  · obtain rfl := Option.some.inj (hs.symm.trans ho)
    rw [ha] at hu
    cases hu

/-- A channel that is closed permanently under its handler, with records left: the handler reports the source gone next. -/
theorem overtaken_unless_spared (h : Serves setup ph c) (hs : ServiceStep setup ph c ph' c') (hn : ¬Spares c c') :
    ∃ (i : Nat) (session : EventSession T), (c'.handle true i).publication.sessions[i]? = some session ∧
      ((c'.handle true i).handlers i).point = .finished terminatedPermanently ∧ session.delivered ≠ session.admitted := by
  cases hs with
  | handle materialized channel => exact absurd (spares_handle materialized channel c) hn
  | @call _ _ s hs =>
    simp only [Spares, not_forall] at hn
    obtain ⟨i, session, session', ho, ha, hq, hd, ht, hu⟩ := hn
    rw [ne_eq, Decidable.not_not] at hu
    obtain ⟨found, hfound, hm⟩ := (own_evolves h.reachable hs).sessions i session ho
    obtain rfl : found = session' := Option.some.inj (hfound.symm.trans ht)
    have hf := h.reachable.feed.inv.facts i session ho
    have hleft : found.delivered ≠ found.admitted ∧ found.channel.state = .terminalUnavailable := by
      have hkept : session.delivered ++ session.channel.queued.map (·.value) = session.admitted :=
        hf.records_of_open (by rw [ha]; simp)
      cases hm with
      | same => rw [ha] at hu; cases hu
      | peek hw => exact hw.elim
      | acknowledge hw _ => exact hw.elim
      | closeFromWriter hw => exact hw.elim
      | push channel r _ _ hst =>
        have : channel.state = .terminalUnavailable := hu
        rw [hst] at this
        cases this
      | terminate _ _ _ _ => cases hu
      | closeFromOwner _ => cases hu
      | closeUnavailable _ =>
        refine ⟨fun he => hq ?_, rfl⟩
        have he' : session.delivered = session.admitted := he
        rw [← he'] at hkept
        simpa using hkept
    have hnext : (c.handlers i).step true found =
        (found, { c.handlers i with point := .finished terminatedPermanently }) := by
      simp only [EventHandler.step, hd, hleft.2, EventHandler.afterState]
    have hhandle : EventService.handle true i { c with publication := s } =
        { publication := s.onSession i fun _ => found
          handlers := fun j => if j = i then { c.handlers i with point := .finished terminatedPermanently }
            else c.handlers j } := by
      simp only [EventService.handle, ht, hnext]
    refine ⟨i, found, ?_, ?_, hleft.1⟩
    · have ht' : s.sessions[i]? = some found := ht
      simp [hhandle, EventPublication.onSession, ht']
    · simp [hhandle]

/-- In every run that spares its handlers, one that reports its source gone has written and acknowledged every record its channel
ever got. The first step that does not spare one has it report the source gone with records left. -/
theorem drained_before_unavailable (h : Served setup Spares ph c) :
    (∀ (i : Nat) session, c.publication.sessions[i]? = some session →
      (c.handlers i).point = .finished terminatedPermanently →
      (c.handlers i).records = session.admitted ∧ session.delivered = session.admitted) ∧
    (∀ ph' c', ServiceStep setup ph c ph' c' → ¬Spares c c' →
      ∃ (i : Nat) (session : EventSession T), (c'.handle true i).publication.sessions[i]? = some session ∧
        ((c'.handle true i).handlers i).point = .finished terminatedPermanently ∧ session.delivered ≠ session.admitted) := by
  refine ⟨fun i session hs hf => ?_, fun ph' c' hs hn => overtaken_unless_spared h.attended.1 hs hn⟩
  have hw := (h.attended.2 i session hs).written
  rw [hf] at hw
  obtain ⟨h1, h2, -⟩ := hw rfl
  exact ⟨h1.trans h2, h2⟩

/-! ## A service at work -/

/-- A configuration of a service of numbers. -/
abbrev NumberService := Phase (EventPublication numberTypes) (EventOutcome numberTypes) × EventService numberTypes

namespace NumberService

/-- A call of the publication is made. -/
def call (call : EventPublicationCall numberTypes) (p : NumberService) : NumberService :=
  let q := NumberConfig.call call (p.1, p.2.publication)
  (q.1, { p.2 with publication := q.2 })

/-- The handler of the first channel goes through `n` sections. -/
def handles : Nat → NumberService → NumberService
  | 0, p => p
  | n + 1, p => handles n (p.1, p.2.handle true 0)

def Reached (careful : EventService numberTypes → EventService numberTypes → Prop) (p : NumberService) : Prop :=
  Served numberSetup careful p.1 p.2

/-- A call leads from a service that is reached to another one. -/
theorem Reached.call {careful : EventService numberTypes → EventService numberTypes → Prop} {p : NumberService}
    (h : p.Reached careful)
    (hc : ∀ s s', careful { p.2 with publication := s } { p.2 with publication := s' })
    (call : EventPublicationCall numberTypes) : (p.call call).Reached careful := by
  let R (ph : Phase (EventPublication numberTypes) (EventOutcome numberTypes)) (s : EventPublication numberTypes) : Prop :=
    Served numberSetup careful ph { p.2 with publication := s }
  have hR : ∀ ph s ph' s', R ph s → LoopStep (fun _ _ => False) (callRound numberSetup) ph s ph' s' → R ph' s' :=
    fun _ s _ s' hr hs => Served.step hr (.call hs) (hc s s')
  exact Phase.round_induction hR _ _ (p := (p.1, p.2.publication)) h

/-- So do the steps of the handler. -/
theorem Reached.handles {careful : EventService numberTypes → EventService numberTypes → Prop} {p : NumberService} (n : Nat)
    (h : p.Reached careful) (hc : ∀ c : EventService numberTypes, careful c (c.handle true 0)) :
    (p.handles n).Reached careful := by
  induction n generalizing p with
  | zero => exact h
  | succ n ih => exact ih (.step h (.handle true 0) (hc p.2))

end NumberService

/-- A section spares the handlers when none of them has just found nothing to peek. -/
theorem spares_of_points {c c' : EventService T} (h : ∀ i, (c.handlers i).point ≠ .deciding) : Spares c c' :=
  fun i _ _ _ _ _ hd _ => absurd hd (h i)

/-- A service as it starts. -/
def serviceInitial : NumberService := (.head, {})

/-- A generation is open, and its subscriber has been sent the acceptance. -/
def serviceOpen : NumberService :=
  ((serviceInitial.call (.openGeneration 1)).call (.admitSubscription ⟨"r", .diffDepth, "depth-update.v1"⟩)).handles 3

theorem serviceOpen_reached {careful : EventService numberTypes → EventService numberTypes → Prop}
    (hcall : ∀ s s', careful { handlers := fun _ => {}, publication := s } { handlers := fun _ => {}, publication := s' })
    (hhandle : ∀ c : EventService numberTypes, careful c (c.handle true 0)) : serviceOpen.Reached careful :=
  NumberService.Reached.handles 3
    (NumberService.Reached.call (NumberService.Reached.call (p := serviceInitial) .initial hcall _) hcall _) hhandle

/-- An event comes in and the source goes away for good, right after the handler has found nothing to peek. -/
def serviceOvertaken : NumberService :=
  ((((serviceOpen.handles 1).call (.publish (some (depthNumber 7)) 1)).call (.quiesceGeneration 1)).call
    (.closeGenerationPermanently 1)).handles 1

/-- The handler reports the source gone and has not delivered the event. -/
theorem unavailable_with_event_left : ∃ (ph : Phase (EventPublication numberTypes) (EventOutcome numberTypes))
    (c : EventService numberTypes) (session : EventSession numberTypes), Served numberSetup (fun _ _ => True) ph c ∧ c.publication.sessions[0]? = some session ∧
      (c.handlers 0).point = .finished terminatedPermanently ∧ session.admitted.length = 2 ∧ session.delivered.length = 1 := by
  have hopen : serviceOpen.Reached (fun _ _ => True) := serviceOpen_reached (fun _ _ => trivial) fun _ => trivial
  have hlooked := hopen.handles 1 fun _ => trivial
  have hclosed := ((hlooked.call (fun _ _ => trivial) (.publish (some (depthNumber 7)) 1)).call (fun _ _ => trivial)
    (.quiesceGeneration 1)).call (fun _ _ => trivial) (.closeGenerationPermanently 1)
  have hreached : serviceOvertaken.Reached (fun _ _ => True) := hclosed.handles 1 fun _ => trivial
  have hsession : ∃ session, serviceOvertaken.2.publication.sessions[0]? = some session ∧ session.admitted.length = 2 ∧
    session.delivered.length = 1 := ⟨_, rfl, rfl, rfl⟩
  obtain ⟨session, hs, h1, h2⟩ := hsession
  exact ⟨_, _, session, hreached, hs, rfl, h1, h2⟩

/-- An event comes in, and the source goes away for good before the handler looks again. -/
def serviceClosed : NumberService :=
  ((serviceOpen.call (.publish (some (depthNumber 7)) 1)).call (.quiesceGeneration 1)).call (.closeGenerationPermanently 1)

/-- The handler goes on until it reports the source gone. -/
def serviceEnded : NumberService := serviceClosed.handles 5

theorem serviceEnded_reached : serviceEnded.Reached Spares := by
  have hopen : serviceOpen.Reached Spares :=
    serviceOpen_reached (fun s s' => spares_of_points fun i => by simp) (spares_handle true 0)
  have hpoints : ∀ i, (serviceOpen.2.handlers i).point ≠ .deciding := by
    intro i hd
    by_cases hi : i = 0
    · subst hi
      cases hd
    · have hlen : serviceOpen.2.publication.sessions.length = 1 := rfl
      rw [hopen.attended.1.idle i (List.getElem?_eq_none (by omega))] at hd
      cases hd
  have hpublished := hopen.call (fun s s' => spares_of_points hpoints) (.publish (some (depthNumber 7)) 1)
  have hclosed := (hpublished.call (fun s s' => spares_of_points hpoints) (.quiesceGeneration 1)).call
    (fun s s' => spares_of_points hpoints) (.closeGenerationPermanently 1)
  exact hclosed.handles 5 (spares_handle true 0)

/-- The event that was queued when the source went away has been written and acknowledged. -/
theorem drained_before_unavailable_ended :
    (∃ session, serviceClosed.2.publication.sessions[0]? = some session ∧ session.channel.state = .terminalUnavailable ∧
      session.delivered.length = 1 ∧ session.channel.queued.length = 1) ∧
    ∃ session, serviceEnded.2.publication.sessions[0]? = some session ∧ session.admitted.length = 2 ∧
      (serviceEnded.2.handlers 0).records = session.admitted ∧ session.delivered = session.admitted := by
  have hsession : ∃ session, serviceEnded.2.publication.sessions[0]? = some session ∧ session.admitted.length = 2 :=
    ⟨_, rfl, rfl⟩
  obtain ⟨session, hs, hlen⟩ := hsession
  obtain ⟨h1, h2⟩ := (drained_before_unavailable serviceEnded_reached).1 0 session hs rfl
  exact ⟨⟨_, rfl, rfl, rfl, rfl⟩, session, hs, hlen, h1, h2⟩

end MarketDataGateway.Events
