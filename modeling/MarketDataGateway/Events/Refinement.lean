import MarketDataGateway.Lib.QueueSession
import MarketDataGateway.Events.Channel

/-!
# The event channel as a queue

The event channel is the same bounded queue of records with a terminal behind it, with two differences from the order-book channel: it
refuses an event that is not of its stream, and it can end without a terminal. Its stream and its source generation never change, so a
session is about the channels for one stream of one generation.
-/

namespace MarketDataGateway.Events

open Containers

variable {T : EventTypes}

/-- A session that has ended takes nothing more, whether a terminal says so or not. -/
def EventChannelState.standing : EventChannelState → Standing
  | .active => .accepting
  | .terminalGap | .terminalUnavailable => .ended
  | .closed => .closed

def EventAdmissionResult.offer : EventAdmissionResult → Offer
  | .admitted => .admitted
  | .terminalized => .ended
  | .inactive => .inactive
  | .allocationFailure => .refused

def EventAcknowledgeResult.receipt : EventAcknowledgeResult → Receipt
  | .acknowledged => .taken
  | .closed => .over
  | .mismatch => .mismatch

/-- What the queue shows to a reader. -/
abbrev SeenEvent (T : EventTypes) := Visible (Shared (EventPublicationRecord T)) EventTerminalDescriptor

def PeekedEventPublication.seen (p : PeekedEventPublication T) : SeenEvent T :=
  match p.ordinary, p.terminal with
  | some r, _ => .element r
  | none, some d => .terminal d
  | none, none => .nothing

/-- A record or a terminal, with its place in the session. -/
abbrev StoredEvent (T : EventTypes) := Shared (EventPublicationRecord T) ⊕ EventTerminalDescriptor

def StoredEvent.sessionSequence : StoredEvent T → Nat
  | .inl r => r.value.sessionSequence
  | .inr d => d.sessionSequence

/-! ## Operations -/

/-- The event of an admission may be a null pointer. -/
inductive EventChannelOperation (T : EventTypes) where
  | admitEvent (event : Option (NormalizedMarketEvent T)) (publishedAt : EventPublicationTime) (allocation : Option Nat)
  | terminalizeReplacement (publishedAt : EventPublicationTime)
  | closeUnavailable
  | peek
  | acknowledge (publication : PeekedEventPublication T)
  | closeFromOwner
  | closeFromWriter

/-- The operation of the queue that an operation stands for, on a channel for this stream of this generation. -/
def EventChannelOperation.onQueue (stream : Stream) (generation : Nat) :
    EventChannelOperation T → QueueOperation (Shared (EventPublicationRecord T)) EventTerminalDescriptor
  | .admitEvent (some event) publishedAt allocation =>
    if normalizedEventStream event = stream then
      .offer (fun n => allocation.map fun address => ⟨address, ⟨n, some generation, publishedAt, .event event⟩⟩)
        fun n => ⟨n, generation, publishedAt, .slowConsumer, .resubscribe⟩
    else .reject
  | .admitEvent none _ _ => .reject
  | .terminalizeReplacement publishedAt =>
    .terminate fun n => ⟨n, generation, publishedAt, .connectionGenerationChanged, .resubscribe⟩
  | .closeUnavailable => .finish
  | .peek => .look
  | .acknowledge publication => .take publication.seen
  | .closeFromOwner => .close
  | .closeFromWriter => .empty

/-- What an operation offers carries the number it is given. -/
theorem EventChannelOperation.onQueue_numbers (stream : Stream) (generation : Nat) (operation : EventChannelOperation T) :
    (operation.onQueue stream generation).Numbers StoredEvent.sessionSequence := by
  cases operation with
  | admitEvent event t a =>
    cases event with
    | none => trivial
    | some event =>
      by_cases hs : normalizedEventStream event = stream
      · rw [onQueue, if_pos hs]
        refine ⟨fun n r hr => ?_, fun n => rfl⟩
        obtain ⟨address, -, rfl⟩ := Option.map_eq_some_iff.mp hr
        rfl
      · rw [onQueue, if_neg hs]
        trivial
  | terminalizeReplacement => exact fun n => rfl
  | closeUnavailable | peek | acknowledge | closeFromOwner | closeFromWriter => trivial

namespace EventSubscriberChannel

/-- The queue that a channel stands for. -/
def asQueue (c : EventSubscriberChannel T) : TerminalQueue (Shared (EventPublicationRecord T)) EventTerminalDescriptor where
  capacity := c.ordinaryCapacity
  last := maxUInt64
  queue := c.queued
  terminal := c.terminal
  standing := c.state.standing
  next := c.nextSessionSequence

/-- A null event is told from one of another stream by nothing: both are refused. -/
def admitPointer (c : EventSubscriberChannel T) (event : Option (NormalizedMarketEvent T)) (publishedAt : EventPublicationTime)
    (allocation : Option Nat) : EventAdmissionResult × EventSubscriberChannel T :=
  match event with
  | some event => c.admitEvent event publishedAt allocation
  | none => (if c.state ≠ .active then .inactive else .allocationFailure, c)

/-- The channel's answer in the words of the queue. -/
def perform (c : EventSubscriberChannel T) : EventChannelOperation T →
    QueueAnswer (Shared (EventPublicationRecord T)) EventTerminalDescriptor × EventSubscriberChannel T
  | .admitEvent event publishedAt allocation =>
    let r := c.admitPointer event publishedAt allocation
    (.offered r.1.offer, r.2)
  | .terminalizeReplacement publishedAt =>
    let r := c.terminalizeReplacement publishedAt
    (.begun r.1, r.2)
  | .closeUnavailable =>
    let r := c.closeUnavailable
    (.begun r.1, r.2)
  | .peek => (.shown c.peek.seen, c)
  | .acknowledge publication =>
    let r := c.acknowledge publication
    (.received r.1.receipt, r.2)
  | .closeFromOwner => (.done, c.closeFromOwner)
  | .closeFromWriter => (.done, c.closeFromWriter)

/-- A channel stays with its stream and its generation. -/
theorem perform_source (c : EventSubscriberChannel T) (operation : EventChannelOperation T) :
    (c.perform operation).2.stream = c.stream ∧ (c.perform operation).2.sourceGeneration = c.sourceGeneration := by
  cases operation with
  | admitEvent event t a =>
    cases event with
    | none => exact ⟨rfl, rfl⟩
    | some event =>
      show (c.admitEvent event t a).2.stream = _ ∧ (c.admitEvent event t a).2.sourceGeneration = _
      rcases c.admitEvent_cases event t a with ⟨-, h⟩ | ⟨-, h⟩ | ⟨-, h⟩ | ⟨-, _, c₁, -, h, -, -, hstream, hgeneration, -⟩
      · simp [h]
      · simp [h, terminate]
      · simp [h]
      · simp [h, hstream, hgeneration]
  | terminalizeReplacement t =>
    show (c.terminalizeReplacement t).2.stream = _ ∧ (c.terminalizeReplacement t).2.sourceGeneration = _
    rcases c.terminalizeReplacement_cases t with ⟨-, h⟩ | ⟨-, -, h⟩
    · simp [h]
    · simp [h, terminate]
  | closeUnavailable =>
    show c.closeUnavailable.2.stream = _ ∧ c.closeUnavailable.2.sourceGeneration = _
    rcases c.closeUnavailable_cases with ⟨-, h⟩ | ⟨-, h⟩ <;> simp [h]
  | acknowledge p =>
    show (c.acknowledge p).2.stream = _ ∧ (c.acknowledge p).2.sourceGeneration = _
    rcases c.acknowledge_cases p with ⟨_, _, _, -, -, -, -, h, -⟩ | ⟨_, -, -, -, -, -, h⟩ | ⟨h, -, -⟩
    · simp [h, ringPopLocked]
    · simp [h]
    · simp [h]
  | peek | closeFromOwner | closeFromWriter => exact ⟨rfl, rfl⟩

/-- The queue accepts while the channel is active. -/
theorem standing_accepting {c : EventSubscriberChannel T} : c.asQueue.standing = .accepting ↔ c.state = .active := by
  cases h : c.state <;> simp [asQueue, EventChannelState.standing, h]

/-- The queue is closed when the channel is. -/
theorem standing_closed {c : EventSubscriberChannel T} : c.asQueue.standing = .closed ↔ c.state = .closed := by
  cases h : c.state <;> simp [asQueue, EventChannelState.standing, h]

/-! ## One operation -/

/-- An event that is admitted is offered to the queue. -/
theorem offer_asQueue (c : EventSubscriberChannel T) {event : NormalizedMarketEvent T} (he : normalizedEventStream event = c.stream)
    (t : EventPublicationTime) (a : Option Nat) :
    c.asQueue.offer (fun n => a.map fun address => ⟨address, ⟨n, some c.sourceGeneration, t, .event event⟩⟩)
        (fun n => ⟨n, c.sourceGeneration, t, .slowConsumer, .resubscribe⟩) =
      ((c.admitEvent event t a).1.offer, (c.admitEvent event t a).2.asQueue) := by
  by_cases hs : c.state = .active
  · have ha : c.asQueue.standing = .accepting := standing_accepting.mpr hs
    by_cases hf : c.ordinaryRing.size = c.ordinaryCapacity
    · have hfull : c.asQueue.queue.length = c.asQueue.capacity := c.queued_length.trans hf
      have hq : c.admitEvent event t a = (.terminalized, c.terminate .slowConsumer t) := by simp [admitEvent, hs, he, hf]
      rw [hq, TerminalQueue.offer, if_neg (by simp [ha]), if_pos hfull]
      rfl
    have hroom : c.asQueue.queue.length ≠ c.asQueue.capacity := fun h => hf (c.queued_length.symm.trans h)
    by_cases hm : c.nextSessionSequence = maxUInt64
    · have hlast : c.asQueue.next = c.asQueue.last := hm
      have hq : c.admitEvent event t a = (.allocationFailure, c) := by simp [admitEvent, hs, he, hf, hm]
      rw [hq, TerminalQueue.offer, if_neg (by simp [ha]), if_neg hroom, if_pos hlast]
      rfl
    have hlast : c.asQueue.next ≠ c.asQueue.last := hm
    rw [TerminalQueue.offer, if_neg (by simp [ha]), if_neg hroom, if_neg hlast]
    cases a with
    | none =>
      have hq : c.admitEvent event t none = (.allocationFailure, c) := by simp [admitEvent, hs, he, hf, hm]
      rw [hq]
      rfl
    | some address =>
      have hlt : c.ordinaryRing.size < c.ordinaryCapacity := Nat.lt_of_le_of_ne c.ordinaryRing.size_le hf
      have hq : c.admitEvent event t (some address) = (.admitted, { c with
          ordinaryRing := c.ordinaryRing.push ⟨address, ⟨c.nextSessionSequence, some c.sourceGeneration, t, .event event⟩⟩ hlt
          nextSessionSequence := c.nextSessionSequence + 1 }) := by
        simp [admitEvent, ringPushLocked, hs, he, hf, hm, hlt]
      rw [hq]
      simp only [asQueue, queued, Option.map_some, Ring.toList_push]
      rfl
  · have hq : c.admitEvent event t a = (.inactive, c) := by simp [admitEvent, hs]
    rw [hq, TerminalQueue.offer, if_pos (fun h => hs (standing_accepting.mp h))]
    rfl

/-- An event that is not of the channel's stream changes nothing. -/
theorem reject_asQueue (c : EventSubscriberChannel T) {event : Option (NormalizedMarketEvent T)}
    (he : ∀ e, event = some e → normalizedEventStream e ≠ c.stream) (t : EventPublicationTime) (a : Option Nat) :
    c.asQueue.perform .reject = (.offered (c.admitPointer event t a).1.offer, (c.admitPointer event t a).2.asQueue) := by
  have hq : c.admitPointer event t a = (if c.state ≠ .active then .inactive else .allocationFailure, c) := by
    cases event with
    | none => rfl
    | some e => by_cases hs : c.state = .active <;> simp [admitPointer, admitEvent, hs, he e rfl]
  rw [hq]
  by_cases hs : c.state = .active
  · have ha : c.asQueue.standing = .accepting := standing_accepting.mpr hs
    simp [TerminalQueue.perform, ha, hs, EventAdmissionResult.offer]
  · have ha : c.asQueue.standing ≠ .accepting := fun h => hs (standing_accepting.mp h)
    simp [TerminalQueue.perform, ha, hs, EventAdmissionResult.offer]

/-- Ending a channel for a replacement ends the queue. -/
theorem terminate_asQueue {c : EventSubscriberChannel T} (hu : c.state = .active → c.terminal = none) (t : EventPublicationTime) :
    c.asQueue.perform (.terminate fun n => ⟨n, c.sourceGeneration, t, .connectionGenerationChanged, .resubscribe⟩) =
      (.begun (c.terminalizeReplacement t).1, (c.terminalizeReplacement t).2.asQueue) := by
  by_cases hs : c.state = .active
  · have hq : c.terminalizeReplacement t = (true, c.terminate .connectionGenerationChanged t) := by
      simp [terminalizeReplacement, hs, hu hs]
    rw [hq, TerminalQueue.perform, if_neg (by simp [standing_accepting.mpr hs])]
    rfl
  · have hq : c.terminalizeReplacement t = (false, c) := by simp [terminalizeReplacement, hs]
    rw [hq, TerminalQueue.perform, if_pos (fun h => hs (standing_accepting.mp h))]

/-- Closing a channel as unavailable finishes the queue. -/
theorem finish_asQueue (c : EventSubscriberChannel T) :
    c.asQueue.perform .finish = (.begun c.closeUnavailable.1, c.closeUnavailable.2.asQueue) := by
  by_cases hs : c.state = .active
  · have hq : c.closeUnavailable = (true, { c with state := .terminalUnavailable }) := by simp [closeUnavailable, hs]
    rw [hq, TerminalQueue.perform, if_neg (by simp [standing_accepting.mpr hs])]
    rfl
  · have hq : c.closeUnavailable = (false, c) := by simp [closeUnavailable, hs]
    rw [hq, TerminalQueue.perform, if_pos (fun h => hs (standing_accepting.mp h))]

/-- The writer sees what the queue shows. -/
theorem peek_seen (c : EventSubscriberChannel T) : c.peek.seen = c.asQueue.visible := by
  by_cases hc : c.state = .closed
  · rw [TerminalQueue.visible, if_pos (standing_closed.mpr hc)]
    simp [peek, hc, PeekedEventPublication.seen]
  · rw [peek_eq hc, TerminalQueue.visible, if_neg (fun h => hc (standing_closed.mp h))]
    cases hq : c.queued with
    | cons r rest => simp [PeekedEventPublication.seen, asQueue, hq]
    | nil => cases ht : c.terminal <;> simp [PeekedEventPublication.seen, asQueue, hq, ht]

/-- A peek that is the current front is taken, any other one is a mismatch; on a closed channel nothing is looked at. The front is told
by its address. -/
theorem take_asQueue {c : EventSubscriberChannel T} {p : PeekedEventPublication T}
    (ha : ∀ r front, p.seen = .element r → front ∈ c.queued → front.address = r.address → front = r) :
    c.asQueue.take p.seen = ((c.acknowledge p).1.receipt, (c.acknowledge p).2.asQueue) := by
  by_cases hc : c.state = .closed
  · have hq : c.acknowledge p = (.closed, c) := by simp [acknowledge, hc]
    rw [hq, TerminalQueue.take_closed _ (standing_closed.mpr hc)]
    rfl
  have hopen : c.asQueue.standing ≠ .closed := fun h => hc (standing_closed.mp h)
  cases ho : p.ordinary with
  | some r =>
    have hseen : p.seen = .element r := by simp [PeekedEventPublication.seen, ho]
    by_cases hfront : c.queued.head? = some r
    · have hq : c.acknowledge p = (.acknowledged, c.ringPopLocked) := by simp [acknowledge, hc, ho, front_eq, hfront]
      have hpop : c.ringPopLocked.queued = c.queued.tail := c.ordinaryRing.toList_pop
      rw [hq, hseen, TerminalQueue.take_element hopen ((TerminalQueue.visible_element hopen).mpr hfront)]
      simp only [asQueue, hpop]
      rfl
    · have hq : c.acknowledge p = (.mismatch, c) := by
        cases hqueue : c.queued with
        | nil => simp [acknowledge, hc, ho, front_eq, hqueue]
        | cons front rest =>
          have haddress : front.address ≠ r.address := by
            intro h
            exact hfront (by rw [hqueue, ha r front hseen (by simp [hqueue]) h]; rfl)
          simp [acknowledge, hc, ho, front_eq, hqueue, haddress]
      rw [hq, hseen, TerminalQueue.take_other hopen fun h => hfront ((TerminalQueue.visible_element hopen).mp h.symm)]
      rfl
  | none =>
    cases ht : p.terminal with
    | none =>
      have hseen : p.seen = .nothing := by simp [PeekedEventPublication.seen, ho, ht]
      have hq : c.acknowledge p = (.mismatch, c) := by simp [acknowledge, hc, ho, ht]
      rw [hq, hseen, TerminalQueue.take_nothing hopen]
      rfl
    | some d =>
      have hseen : p.seen = .terminal d := by simp [PeekedEventPublication.seen, ho, ht]
      have hempty : c.ordinaryRing.size = 0 ↔ c.queued = [] := c.ordinaryRing.size_eq_zero_iff
      by_cases hlast : c.queued = [] ∧ c.terminal = some d
      · have hq : c.acknowledge p = (.closed, { c with terminal := none, state := .closed }) := by
          simp [acknowledge, hc, ho, ht, hempty, hlast]
        rw [hq, hseen, TerminalQueue.take_terminal hopen ((TerminalQueue.visible_terminal hopen).mpr hlast)]
        rfl
      · have hq : c.acknowledge p = (.mismatch, c) := by simp [acknowledge, hc, ho, ht, hempty, hlast]
        rw [hq, hseen, TerminalQueue.take_other hopen fun h => hlast ((TerminalQueue.visible_terminal hopen).mp h.symm)]
        rfl

/-! ## Sessions -/

/-- The channels for one stream of one source generation. -/
abbrev For (T : EventTypes) (stream : Stream) (generation : Nat) :=
  { c : EventSubscriberChannel T // c.stream = stream ∧ c.sourceGeneration = generation }

/-- A channel as a queue. Its records are told apart by their addresses. -/
def queueSystem (stream : Stream) (generation : Nat) :
    QueueSystem (For T stream generation) (EventChannelOperation T) (Shared (EventPublicationRecord T)) EventTerminalDescriptor where
  asQueue c := c.1.asQueue
  onQueue operation := operation.onQueue stream generation
  perform c operation := ((c.1.perform operation).1,
    ⟨(c.1.perform operation).2, (c.1.perform_source operation).1.trans c.2.1, (c.1.perform_source operation).2.trans c.2.2⟩)
  address := Shared.address
  number := StoredEvent.sessionSequence

/-- The channel refines the queue. -/
theorem queueSystem_refines (stream : Stream) (generation : Nat) : (queueSystem (T := T) stream generation).Refines := by
  refine ⟨EventChannelOperation.onQueue_numbers stream generation, ?_⟩
  rintro ⟨c, rfl, rfl⟩ operation hs ha
  cases operation with
  | admitEvent event t a =>
    show c.asQueue.perform (EventChannelOperation.onQueue _ _ (.admitEvent event t a)) =
      (.offered (c.admitPointer event t a).1.offer, (c.admitPointer event t a).2.asQueue)
    cases event with
    | none => exact reject_asQueue c (by simp) t a
    | some event =>
      by_cases he : normalizedEventStream event = c.stream
      · rw [EventChannelOperation.onQueue, if_pos he]
        show (QueueAnswer.offered _, _) = _
        rw [offer_asQueue c he t a]
        rfl
      · rw [EventChannelOperation.onQueue, if_neg he]
        exact reject_asQueue c (fun e h => Option.some.inj h ▸ he) t a
  | terminalizeReplacement t => exact terminate_asQueue (fun h => hs.unended (standing_accepting.mpr h)) t
  | closeUnavailable => exact finish_asQueue c
  | peek =>
    show (QueueAnswer.shown c.asQueue.visible, c.asQueue) = (QueueAnswer.shown c.peek.seen, c.asQueue)
    rw [peek_seen]
  | acknowledge p =>
    have htake : c.asQueue.take p.seen = ((c.acknowledge p).1.receipt, (c.acknowledge p).2.asQueue) :=
      take_asQueue fun r front hr hfront => ha r front (by simp [queueSystem, EventChannelOperation.onQueue, hr]) hfront
    show (QueueAnswer.received _, _) = _
    exact congrArg (fun r => (QueueAnswer.received r.1, r.2)) htake
  | closeFromOwner => rfl
  | closeFromWriter =>
    have hempty : c.closeFromWriter.queued = [] := c.ordinaryRing.toList_clear
    show (QueueAnswer.done, _) = (QueueAnswer.done, c.closeFromWriter.asQueue)
    simp only [asQueue, hempty]
    rfl

/-- What holds of a session whose channel started as `start`: it went as the queue goes. What has been stored has increasing numbers and
nothing behind the first terminal. A publication that is held but is not what a peek would show is not taken. An ended session stores
nothing more, and a closed channel shows nothing and stays closed. -/
structure ActsAsQueue {stream : Stream} {generation : Nat} (start : For T stream generation)
    (operations : List (EventChannelOperation T)) (answers : List (QueueAnswer (Shared (EventPublicationRecord T)) EventTerminalDescriptor))
    (items : List (StoredEvent T))
    (s : Session (For T stream generation) (Shared (EventPublicationRecord T)) EventTerminalDescriptor) : Prop where
  refines : TerminalQueue.run (operations.map (EventChannelOperation.onQueue stream generation)) start.1.asQueue =
    (answers, items, s.system.1.asQueue)
  peeks : s.system.1.peek.seen = s.system.1.asQueue.visible
  sequences : ((start.1.queued.map Sum.inl ++ items).map StoredEvent.sessionSequence).Pairwise (· < ·)
  one_terminal : ∃ (records : List (Shared (EventPublicationRecord T))) (terminal : Option EventTerminalDescriptor),
    items = records.map Sum.inl ++ terminal.toList.map Sum.inr
  terminal_stored : ∀ d, s.system.1.terminal = some d → Sum.inr d ∈ items
  stale : ∀ p : PeekedEventPublication T, p.seen ∈ s.held → p.seen ≠ s.system.1.peek.seen →
    s.system.1.acknowledge p = (if s.system.1.state = .closed then .closed else .mismatch, s.system.1)
  ended : s.system.1.state ≠ .active →
    ∀ operations' answers' items' s', (queueSystem stream generation).Run s operations' answers' items' s' → items' = []
  closed : s.system.1.state = .closed → s.system.1.peek = {} ∧
    ∀ operations' answers' items' s', (queueSystem stream generation).Run s operations' answers' items' s' →
      s'.system.1.state = .closed

/-- A peek that is not the current front is a mismatch; a closed channel does not look at it. -/
theorem acknowledge_stale {c : EventSubscriberChannel T} {p : PeekedEventPublication T}
    (ha : ∀ r front, p.seen = .element r → front ∈ c.queued → front.address = r.address → front = r) (hp : p.seen ≠ c.peek.seen) :
    c.acknowledge p = (if c.state = .closed then .closed else .mismatch, c) := by
  by_cases hc : c.state = .closed
  · simp [acknowledge, hc]
  have htake := take_asQueue ha
  rw [TerminalQueue.take_other (fun h => hc (standing_closed.mp h)) (fun h => hp (h.trans c.peek_seen.symm))] at htake
  have hreceipt : (c.acknowledge p).1.receipt = .mismatch := (congrArg Prod.fst htake).symm
  rw [if_neg hc]
  rcases c.acknowledge_cases p with ⟨_, _, _, -, -, -, -, h, -⟩ | ⟨_, -, -, -, -, -, h⟩ | ⟨h₂, -, -⟩
  · rw [h] at hreceipt
    cases hreceipt
  · rw [h] at hreceipt
    cases hreceipt
  · have h₁ : (c.acknowledge p).1 = .mismatch := by
      cases h : (c.acknowledge p).1 <;> simp [h, EventAcknowledgeResult.receipt] at hreceipt
      rfl
    exact Prod.ext h₁ h₂

/-- The record that a session can start with. -/
structure InitialRecord (accepted : Shared (EventPublicationRecord T)) : Prop where
  sequence : accepted.value.sessionSequence = 1
  generation : accepted.value.connectionGeneration = none
  kind : accepted.value.payload.isAccepted = true

/-- Every ring takes the initial record. -/
theorem staged_asQueue {accepted : Shared (EventPublicationRecord T)} (hr : InitialRecord accepted)
    {subscriptionId gatewayInstanceId : String} {stream : Stream} {generation capacity : Nat} {c : EventSubscriberChannel T}
    (hc : create subscriptionId gatewayInstanceId stream generation capacity = some c) :
    ∃ start : For T stream generation, c.stageAccepted accepted = (true, start.1) ∧
      start.1.asQueue = ⟨capacity, maxUInt64, [accepted], none, .accepting, 2⟩ := by
  unfold create at hc
  split at hc
  · rename_i hroom
    split at hc
    · cases hc
    · obtain rfl := Option.some.inj hc
      have hfirst : (Ring.empty hroom : Ring (Shared (EventPublicationRecord T)) capacity).size < capacity := hroom
      refine ⟨⟨⟨subscriptionId, gatewayInstanceId, stream, generation, capacity, (Ring.empty hroom).push accepted hfirst, none, .active,
        2⟩, rfl, rfl⟩, ?_, ?_⟩
      · simp [stageAccepted, hr.sequence, hr.generation, hr.kind, ringPushLocked, hroom]
      · simp only [asQueue, queued, Ring.toList_push, Ring.toList_empty]
        rfl
  · cases hc

/-- A session that starts with the initial record goes as the queue goes. -/
theorem session_acts_as_queue {stream : Stream} {generation : Nat} {start : For T stream generation}
    {accepted : Shared (EventPublicationRecord T)} (hr : InitialRecord accepted) {capacity : Nat} (h : 0 < capacity)
    (hstart : start.1.asQueue = ⟨capacity, maxUInt64, [accepted], none, .accepting, 2⟩)
    {operations : List (EventChannelOperation T)}
    {answers : List (QueueAnswer (Shared (EventPublicationRecord T)) EventTerminalDescriptor)} {items : List (StoredEvent T)}
    {s : Session (For T stream generation) (Shared (EventPublicationRecord T)) EventTerminalDescriptor}
    (hrun : (queueSystem stream generation).Run ⟨start, []⟩ operations answers items s) :
    ActsAsQueue start operations answers items s := by
  have hQ := queueSystem_refines (T := T) stream generation
  have hqueued : start.1.queued = [accepted] := congrArg TerminalQueue.queue hstart
  have hs : start.1.asQueue.Sound := by
    rw [hstart]
    exact ⟨h, fun _ => rfl, by simp [maxUInt64]⟩
  have hd : (queueSystem stream generation).Distinct
      (⟨start, []⟩ : Session _ (Shared (EventPublicationRecord T)) EventTerminalDescriptor) := by
    refine QueueSystem.distinct_start ?_
    show (start.1.queued.map Shared.address).Nodup
    simp [hqueued]
  have hrow := hQ.row hrun hs hd
  obtain ⟨hs', hd'⟩ := hQ.run_sound hrun hs hd
  constructor
  case refines => exact hQ.run hrun hs hd
  case peeks => exact s.system.1.peek_seen
  case sequences =>
    have haccepted : (queueSystem stream generation).number (.inl accepted) = 1 := hr.sequence
    have hnext : ((queueSystem stream generation).asQueue start).next = 2 := congrArg TerminalQueue.next hstart
    refine hrow.behind ?_ ?_
    · simp [hqueued]
    · intro x hx
      simp only [hqueued, List.map_cons, List.map_nil, List.mem_cons, List.not_mem_nil, or_false] at hx
      show (queueSystem stream generation).number x < ((queueSystem stream generation).asQueue start).next
      rw [hx]
      omega
  case one_terminal => exact hrow.terminal_last
  case terminal_stored =>
    intro d hterminal
    rcases hQ.terminal hrun hs hd hterminal with hbefore | hitem
    · have hnone : ((queueSystem stream generation).asQueue start).terminal = none := congrArg TerminalQueue.terminal hstart
      rw [hnone] at hbefore
      cases hbefore
    · exact hitem
  case stale =>
    intro p hp hother
    refine acknowledge_stale ?_ hother
    intro r front hseen hfront haddress
    exact hd'.held (hseen ▸ hp) hfront haddress
  case ended =>
    intro hended operations' answers' items' s'' hrun'
    exact hQ.ended hrun' hs' hd' fun h => hended (standing_accepting.mp h)
  case closed =>
    intro hclosed
    refine ⟨by simp [peek, hclosed], ?_⟩
    intro operations' answers' items' s'' hrun'
    exact standing_closed.mp (hQ.closed hrun' hs' hd' (standing_closed.mpr hclosed))

end EventSubscriberChannel

end MarketDataGateway.Events
