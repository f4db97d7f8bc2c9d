import MarketDataGateway.Lib.Ring

/-!
# The event subscriber channel

One fixed-capacity egress channel per event subscription, bound to one stream and one source generation: a ring of ordinary records,
one reserved slot for a terminal descriptor, and the next session sequence. The publication produces, one RPC handler consumes. Every
operation is one critical section of the channel's mutex.
-/

namespace MarketDataGateway.Events

open Containers

/-- The largest 64-bit counter value. -/
def maxUInt64 : Nat := 2 ^ 64 - 1

/-- A pointer to an object on the heap. Two pointers are the same when their addresses are. -/
structure Shared (α : Type) where
  address : Nat
  value : α

inductive Stream where
  | unspecified | diffDepth | aggTrade | bookTicker
  deriving DecidableEq, Repr

/-- The wire types of the three kinds of market events. -/
structure EventTypes where
  DepthUpdate : Type
  AggTrade : Type
  BookTicker : Type

inductive NormalizedMarketEvent (T : EventTypes) where
  | depthUpdate (event : T.DepthUpdate)
  | aggTrade (event : T.AggTrade)
  | bookTicker (event : T.BookTicker)

def normalizedEventStream {T : EventTypes} : NormalizedMarketEvent T → Stream
  | .depthUpdate _ => .diffDepth
  | .aggTrade _ => .aggTrade
  | .bookTicker _ => .bookTicker

structure EventPublicationTime where
  utcNs : Nat := 0
  monotonicNs : Option Nat := none
  deriving DecidableEq, Repr

inductive ConsumerGapReason where
  | unspecified | slowConsumer | connectionGenerationChanged
  deriving DecidableEq, Repr

inductive RecoveryAction where
  | unspecified | resubscribe
  deriving DecidableEq, Repr

structure SubscriptionAccepted where
  requestId : String
  subscriptionId : String
  schemaVersion : String
  gatewayInstanceId : String
  acceptedTimeUtcNs : Nat
  negotiatedPayloadSchemaVersions : List String
  deriving DecidableEq, Repr

inductive EventOrdinaryPayload (T : EventTypes) where
  | subscriptionAccepted (accepted : SubscriptionAccepted)
  | event (event : NormalizedMarketEvent T)

structure EventPublicationRecord (T : EventTypes) where
  sessionSequence : Nat
  connectionGeneration : Option Nat
  publishedAt : EventPublicationTime
  payload : EventOrdinaryPayload T

structure EventTerminalDescriptor where
  sessionSequence : Nat
  connectionGeneration : Nat
  publishedAt : EventPublicationTime
  reason : ConsumerGapReason
  recoveryAction : RecoveryAction
  deriving DecidableEq, Repr

inductive EventChannelState where
  | active | terminalGap | terminalUnavailable | closed
  deriving DecidableEq, Repr

inductive EventAdmissionResult where
  | admitted | terminalized | inactive | allocationFailure
  deriving DecidableEq, Repr

inductive EventAcknowledgeResult where
  | acknowledged | closed | mismatch
  deriving DecidableEq, Repr

variable {T : EventTypes}

def EventOrdinaryPayload.isAccepted : EventOrdinaryPayload T → Bool
  | .subscriptionAccepted _ => true
  | .event _ => false

/-- What a peek hands out: the front record, or the terminal descriptor once the ring is empty, or nothing. -/
structure PeekedEventPublication (T : EventTypes) where
  ordinary : Option (Shared (EventPublicationRecord T)) := none
  terminal : Option EventTerminalDescriptor := none

def PeekedEventPublication.hasValue (p : PeekedEventPublication T) : Bool := p.ordinary.isSome || p.terminal.isSome

def PeekedEventPublication.isTerminal (p : PeekedEventPublication T) : Bool := p.terminal.isSome

structure EventSubscriberChannel (T : EventTypes) where
  subscriptionId : String
  gatewayInstanceId : String
  stream : Stream
  sourceGeneration : Nat
  ordinaryCapacity : Nat
  ordinaryRing : Ring (Shared (EventPublicationRecord T)) ordinaryCapacity
  terminal : Option EventTerminalDescriptor
  state : EventChannelState
  nextSessionSequence : Nat

/-! ## Operations -/

namespace EventSubscriberChannel

/-- A new channel; the constructor refuses a ring without slots, the generation zero and an unspecified stream. -/
def create (subscriptionId gatewayInstanceId : String) (stream : Stream) (sourceGeneration ordinaryCapacity : Nat) :
    Option (EventSubscriberChannel T) :=
  if h : 0 < ordinaryCapacity then
    if sourceGeneration = 0 ∨ stream = .unspecified then none
    else
      some
        { subscriptionId := subscriptionId
          gatewayInstanceId := gatewayInstanceId
          stream := stream
          sourceGeneration := sourceGeneration
          ordinaryCapacity := ordinaryCapacity
          ordinaryRing := Ring.empty h
          terminal := none
          state := .active
          nextSessionSequence := 1 }
  else none

/-- Write behind the last record; nothing is written to a full ring. -/
def ringPushLocked (c : EventSubscriberChannel T) (r : Shared (EventPublicationRecord T)) :
    Option (EventSubscriberChannel T) :=
  if h : c.ordinaryRing.size < c.ordinaryCapacity then some { c with ordinaryRing := c.ordinaryRing.push r h } else none

def ringPopLocked (c : EventSubscriberChannel T) : EventSubscriberChannel T :=
  { c with ordinaryRing := c.ordinaryRing.pop }

def clearFromWriterLocked (c : EventSubscriberChannel T) : EventSubscriberChannel T :=
  { c with ordinaryRing := c.ordinaryRing.clear, terminal := none }

/-- The counter after a terminal descriptor took its value: it saturates. -/
def afterTerminal (sequence : Nat) : Nat := if sequence ≠ maxUInt64 then sequence + 1 else sequence

def stageAccepted (c : EventSubscriberChannel T) (accepted : Shared (EventPublicationRecord T)) :
    Bool × EventSubscriberChannel T :=
  if accepted.value.sessionSequence ≠ 1 ∨ accepted.value.connectionGeneration.isSome ∨
      accepted.value.payload.isAccepted = false then (false, c)
  else if c.state ≠ .active ∨ c.ordinaryRing.size ≠ 0 then (false, c)
  else
    match c.ringPushLocked accepted with
    | none => (false, c)
    | some c₁ => (true, { c₁ with nextSessionSequence := 2 })

/-- End the session with a terminal behind its last record. -/
def terminate (c : EventSubscriberChannel T) (reason : ConsumerGapReason) (publishedAt : EventPublicationTime) :
    EventSubscriberChannel T :=
  { c with
    terminal := some ⟨c.nextSessionSequence, c.sourceGeneration, publishedAt, reason, .resubscribe⟩
    nextSessionSequence := afterTerminal c.nextSessionSequence
    state := .terminalGap }

/-- Append one event, or end the session when the ring is full. `allocation` is where the new record lives, `none` when its
allocation failed. -/
def admitEvent (c : EventSubscriberChannel T) (event : NormalizedMarketEvent T) (publishedAt : EventPublicationTime)
    (allocation : Option Nat) : EventAdmissionResult × EventSubscriberChannel T :=
  if c.state ≠ .active then (.inactive, c)
  else if normalizedEventStream event ≠ c.stream then (.allocationFailure, c)
  else if c.ordinaryRing.size = c.ordinaryCapacity then (.terminalized, c.terminate .slowConsumer publishedAt)
  else if c.nextSessionSequence = maxUInt64 then (.allocationFailure, c)
  else
    match allocation with
    | none => (.allocationFailure, c)
    | some address =>
      match c.ringPushLocked ⟨address, ⟨c.nextSessionSequence, some c.sourceGeneration, publishedAt, .event event⟩⟩ with
      | none => (.allocationFailure, c)
      | some c₁ => (.admitted, { c₁ with nextSessionSequence := c.nextSessionSequence + 1 })

def terminalizeReplacement (c : EventSubscriberChannel T) (publishedAt : EventPublicationTime) :
    Bool × EventSubscriberChannel T :=
  if c.state ≠ .active ∨ c.terminal.isSome then (false, c)
  else (true, c.terminate .connectionGenerationChanged publishedAt)

def closeUnavailable (c : EventSubscriberChannel T) : Bool × EventSubscriberChannel T :=
  if c.state ≠ .active then (false, c) else (true, { c with state := .terminalUnavailable })

def peek (c : EventSubscriberChannel T) : PeekedEventPublication T :=
  if c.state = .closed then {}
  else
    match c.ordinaryRing.front with
    | some r => { ordinary := some r }
    | none => { terminal := c.terminal }

/-- The writer is done with what it peeked; a publication that is not the current front changes nothing. -/
def acknowledge (c : EventSubscriberChannel T) (publication : PeekedEventPublication T) :
    EventAcknowledgeResult × EventSubscriberChannel T :=
  if c.state = .closed then (.closed, c)
  else
    match publication.ordinary with
    | some r =>
      match c.ordinaryRing.front with
      | none => (.mismatch, c)
      | some front => if front.address ≠ r.address then (.mismatch, c) else (.acknowledged, c.ringPopLocked)
    | none =>
      if publication.terminal.isSome ∧ c.ordinaryRing.size = 0 ∧ c.terminal = publication.terminal then
        (.closed, { c with terminal := none, state := .closed })
      else (.mismatch, c)

/-- The owner's close leaves the ring alone: the writer may have the front in flight. -/
def closeFromOwner (c : EventSubscriberChannel T) : EventSubscriberChannel T := { c with state := .closed }

def closeFromWriter (c : EventSubscriberChannel T) : EventSubscriberChannel T :=
  { c.clearFromWriterLocked with state := .closed }

/-! ## What the operations do -/

/-- What is still to be read from the ring. -/
def queued (c : EventSubscriberChannel T) : List (Shared (EventPublicationRecord T)) := c.ordinaryRing.toList

/-- The front of the ring is the first of the queue. -/
theorem front_eq (c : EventSubscriberChannel T) : c.ordinaryRing.front = c.queued.head? := c.ordinaryRing.front_eq_head?

/-- The queue is as long as the ring is large. -/
theorem queued_length (c : EventSubscriberChannel T) : c.queued.length = c.ordinaryRing.size :=
  c.ordinaryRing.toList_length

/-- What the constructor makes. -/
theorem create_some {subscriptionId gatewayInstanceId : String} {stream : Stream} {generation capacity : Nat}
    {c : EventSubscriberChannel T} (h : create subscriptionId gatewayInstanceId stream generation capacity = some c) :
    c.state = .active ∧ c.terminal = none ∧ c.stream = stream ∧ c.sourceGeneration = generation ∧
      c.subscriptionId = subscriptionId := by
  unfold create at h
  split at h
  · split at h
    · cases h
    · obtain rfl := Option.some.inj h
      exact ⟨rfl, rfl, rfl, rfl, rfl⟩
  · cases h

/-- A push into a ring with a free slot appends one record and touches nothing else. -/
theorem ringPushLocked_some {c : EventSubscriberChannel T} (r : Shared (EventPublicationRecord T))
    (h : c.ordinaryRing.size < c.ordinaryCapacity) :
    ∃ c₁, c.ringPushLocked r = some c₁ ∧ c₁.queued = c.queued ++ [r] ∧ c₁.state = c.state ∧ c₁.terminal = c.terminal ∧
      c₁.stream = c.stream ∧ c₁.sourceGeneration = c.sourceGeneration ∧ c₁.subscriptionId = c.subscriptionId :=
  ⟨_, dif_pos h, c.ordinaryRing.toList_push r h, rfl, rfl, rfl, rfl, rfl⟩

/-- Every outcome of `admitEvent`, with the channel it leaves. -/
theorem admitEvent_cases (c : EventSubscriberChannel T) (event : NormalizedMarketEvent T) (t : EventPublicationTime)
    (a : Option Nat) :
    (c.state ≠ .active ∧ c.admitEvent event t a = (.inactive, c)) ∨
    (c.state = .active ∧ c.admitEvent event t a = (.terminalized, c.terminate .slowConsumer t)) ∨
    (c.state = .active ∧ c.admitEvent event t a = (.allocationFailure, c)) ∨
    (c.state = .active ∧ ∃ address c₁, a = some address ∧ c.admitEvent event t a = (.admitted, c₁) ∧
      c₁.state = .active ∧ c₁.terminal = c.terminal ∧ c₁.stream = c.stream ∧
      c₁.sourceGeneration = c.sourceGeneration ∧ c₁.subscriptionId = c.subscriptionId ∧
      c₁.nextSessionSequence = c.nextSessionSequence + 1 ∧
      c₁.queued = c.queued ++
        [⟨address, ⟨c.nextSessionSequence, some c.sourceGeneration, t, .event event⟩⟩]) := by
  by_cases hs : c.state = .active
  · right
    by_cases hst : normalizedEventStream event = c.stream
    · by_cases hf : c.ordinaryRing.size = c.ordinaryCapacity
      · exact Or.inl ⟨hs, by simp [admitEvent, hs, hst, hf]⟩
      · right
        by_cases hm : c.nextSessionSequence = maxUInt64
        · exact Or.inl ⟨hs, by simp [admitEvent, hs, hst, hf, hm]⟩
        · cases a with
          | none => exact Or.inl ⟨hs, by simp [admitEvent, hs, hst, hf, hm]⟩
          | some address =>
            obtain ⟨c₁, hp, hq, hst₁, ht₁, hsm₁, hg₁, hid₁⟩ := ringPushLocked_some
              (⟨address, ⟨c.nextSessionSequence, some c.sourceGeneration, t, .event event⟩⟩ :
                Shared (EventPublicationRecord T)) (Nat.lt_of_le_of_ne c.ordinaryRing.size_le hf)
            refine Or.inr ⟨hs, address, { c₁ with nextSessionSequence := c.nextSessionSequence + 1 }, rfl, ?_, hst₁.trans hs,
              ht₁, hsm₁, hg₁, hid₁, rfl, hq⟩
            rw [admitEvent.eq_def, if_neg (by simp [hs]), if_neg (by simp [hst]), if_neg hf, if_neg hm]
            simp only [hp]
    · exact Or.inr (Or.inl ⟨hs, by simp [admitEvent, hs, hst]⟩)
  · exact Or.inl ⟨hs, by rw [admitEvent.eq_def, if_pos hs]⟩

/-- Terminalizing an active channel without a terminal ends its session; any other channel is left as it is. -/
theorem terminalizeReplacement_cases (c : EventSubscriberChannel T) (t : EventPublicationTime) :
    ((c.state ≠ .active ∨ c.terminal ≠ none) ∧ (c.terminalizeReplacement t).2 = c) ∨
    (c.state = .active ∧ c.terminal = none ∧
      (c.terminalizeReplacement t).2 = c.terminate .connectionGenerationChanged t) := by
  by_cases hs : c.state = .active
  · cases ht : c.terminal with
    | none => exact Or.inr ⟨hs, rfl, by simp [terminalizeReplacement, hs, ht]⟩
    | some d => exact Or.inl ⟨Or.inr (by simp), by simp [terminalizeReplacement, ht]⟩
  · exact Or.inl ⟨Or.inl hs, by simp [terminalizeReplacement, hs]⟩

/-- A permanent close of an active channel changes its state only; any other channel is left as it is. -/
theorem closeUnavailable_cases (c : EventSubscriberChannel T) :
    (c.state ≠ .active ∧ c.closeUnavailable.2 = c) ∨
    (c.state = .active ∧ c.closeUnavailable.2 = { c with state := .terminalUnavailable }) := by
  by_cases hs : c.state = .active
  · exact Or.inr ⟨hs, by simp [closeUnavailable, hs]⟩
  · exact Or.inl ⟨hs, by simp [closeUnavailable, hs]⟩

/-- Every outcome of `acknowledge`: the front record leaves the queue, the terminal closes an empty channel, or nothing happens. -/
theorem acknowledge_cases (c : EventSubscriberChannel T) (p : PeekedEventPublication T) :
    (∃ front rest r, c.state ≠ .closed ∧ p.ordinary = some r ∧ c.queued = front :: rest ∧ front.address = r.address ∧
      c.acknowledge p = (.acknowledged, c.ringPopLocked) ∧ c.ringPopLocked.queued = rest) ∨
    (∃ d, c.state ≠ .closed ∧ p.ordinary = none ∧ p.terminal = some d ∧ c.queued = [] ∧ c.terminal = some d ∧
      c.acknowledge p = (.closed, { c with terminal := none, state := .closed })) ∨
    ((c.acknowledge p).2 = c ∧ (c.acknowledge p).1 ≠ .acknowledged ∧
      ((c.acknowledge p).1 = .closed → c.state = .closed)) := by
  by_cases hc : c.state = .closed
  · exact Or.inr (Or.inr (by simp [acknowledge, hc]))
  · cases ho : p.ordinary with
    | some r =>
      cases hq : c.queued with
      | nil => exact Or.inr (Or.inr (by simp [acknowledge, hc, ho, front_eq, hq]))
      | cons front rest =>
        by_cases ha : front.address = r.address
        · have hpop : c.ringPopLocked.queued = rest := by
            have : c.ringPopLocked.queued = c.queued.tail := c.ordinaryRing.toList_pop
            rw [this, hq]; rfl
          exact Or.inl ⟨front, rest, r, hc, rfl, rfl, ha, by simp [acknowledge, hc, ho, front_eq, hq, ha], hpop⟩
        · exact Or.inr (Or.inr (by simp [acknowledge, hc, ho, front_eq, hq, ha]))
    | none =>
      by_cases ht : p.terminal.isSome ∧ c.ordinaryRing.size = 0 ∧ c.terminal = p.terminal
      · obtain ⟨d, hd⟩ := Option.isSome_iff_exists.mp ht.1
        refine Or.inr (Or.inl ⟨d, hc, rfl, hd, c.ordinaryRing.size_eq_zero_iff.mp ht.2.1, ht.2.2.trans hd, ?_⟩)
        simp [acknowledge, hc, ho, ht]
      · refine Or.inr (Or.inr ?_)
        simp [acknowledge, hc, ho, ht]

/-- A staged channel holds exactly the acceptance. -/
theorem stageAccepted_true {c : EventSubscriberChannel T} {accepted : Shared (EventPublicationRecord T)}
    (h : (c.stageAccepted accepted).1 = true) :
    (c.stageAccepted accepted).2.state = .active ∧ (c.stageAccepted accepted).2.terminal = c.terminal ∧
      (c.stageAccepted accepted).2.nextSessionSequence = 2 ∧ (c.stageAccepted accepted).2.queued = [accepted] ∧
      (c.stageAccepted accepted).2.stream = c.stream ∧
      (c.stageAccepted accepted).2.sourceGeneration = c.sourceGeneration ∧
      (c.stageAccepted accepted).2.subscriptionId = c.subscriptionId := by
  unfold stageAccepted at h ⊢
  split at h
  · cases h
  · rename_i hr
    split at h
    · cases h
    · rename_i hs
      rw [if_neg hr, if_neg hs]
      simp only [not_or, Decidable.not_not, ne_eq] at hs
      obtain ⟨hst, hsz⟩ := hs
      have h0 : c.queued = [] := c.ordinaryRing.size_eq_zero_iff.mp hsz
      obtain ⟨c₁, hp, hq, hst₁, ht₁, hsm₁, hg₁, hid₁⟩ := ringPushLocked_some accepted
        (show c.ordinaryRing.size < _ by have := c.ordinaryRing.pos; omega)
      simp only [hp]
      exact ⟨hst₁.trans hst, ht₁, trivial, by show c₁.queued = [accepted]; rw [hq, h0]; rfl, hsm₁, hg₁, hid₁⟩

/-- A peek of an open channel shows the front of the queue, and the terminal only when the queue is empty. -/
theorem peek_eq {c : EventSubscriberChannel T} (h : c.state ≠ .closed) :
    c.peek = match c.queued with
      | r :: _ => { ordinary := some r }
      | [] => { terminal := c.terminal } := by
  rw [peek, if_neg h, front_eq]
  cases c.queued <;> rfl

end EventSubscriberChannel

end MarketDataGateway.Events
