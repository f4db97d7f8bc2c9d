import MarketDataGateway.Lib.Ring

/-!
# The order-book subscriber channel

One fixed-capacity egress channel per subscription: a ring of ordinary records, one reserved slot for a terminal descriptor, and
the next session sequence. The runtime's owner produces, one RPC handler consumes. Every operation here is one critical section
of the channel's mutex.

The payload types are parameters: `S` is the wire snapshot of the book, `U` the wire depth update.
-/

namespace MarketDataGateway.OrderBook

open Containers

/-- The largest 64-bit counter value. -/
def maxUInt64 : Nat := 2 ^ 64 - 1

/-- A pointer to an object on the heap. Two pointers are the same when their addresses are. -/
structure Shared (α : Type) where
  address : Nat
  value : α

structure PublicationLimits where
  maximumActiveSubscriptions : Nat := 8
  ordinaryQueueCapacity : Nat := 64
  pendingAdmissionCapacity : Nat := 8

structure PublicationTime where
  utcNs : Nat := 0
  monotonicNs : Option Nat := none
  deriving DecidableEq, Repr

/-- A request for a subscription that has passed the checks of the RPC layer. -/
structure ValidatedOrderBookSubscription where
  requestId : String
  gatewayInstanceId : String
  depthLimit : Option Int
  deriving DecidableEq, Repr

inductive ConsumerGapReason where
  | unspecified | slowConsumer | upstreamSequenceGap | connectionGenerationChanged | resumeNotAvailable
  deriving DecidableEq, Repr

inductive RecoveryAction where
  | unspecified | resubscribe | requestNewSnapshot
  deriving DecidableEq, Repr

inductive PublicationPayloadKind where
  | subscriptionAccepted | snapshot | depthUpdate
  deriving DecidableEq, Repr

structure SubscriptionAccepted where
  requestId : String
  subscriptionId : String
  schemaVersion : String
  gatewayInstanceId : String
  acceptedTimeUtcNs : Nat
  negotiatedPayloadSchemaVersions : List String
  deriving DecidableEq, Repr

inductive OrdinaryPayload (S U : Type) where
  | subscriptionAccepted (accepted : SubscriptionAccepted)
  | snapshot (snapshot : S)
  | depthUpdate (update : U)

structure PublicationRecord (S U : Type) where
  sessionSequence : Nat
  connectionGeneration : Option Nat
  publishedAt : PublicationTime
  payload : OrdinaryPayload S U

structure TerminalDescriptor where
  sessionSequence : Nat
  connectionGeneration : Option Nat
  publishedAt : PublicationTime
  reason : ConsumerGapReason
  recoveryAction : RecoveryAction
  deriving DecidableEq, Repr

inductive SubscriberState where
  | active | terminalGap | closed
  deriving DecidableEq, Repr

inductive OrdinaryAdmissionResult where
  | admitted | terminalized | inactive | allocationFailure
  deriving DecidableEq, Repr

inductive AcknowledgeResult where
  | acknowledged | closed | mismatch
  deriving DecidableEq, Repr

variable {S U : Type}

def PublicationRecord.kind (r : PublicationRecord S U) : PublicationPayloadKind :=
  match r.payload with
  | .subscriptionAccepted _ => .subscriptionAccepted
  | .snapshot _ => .snapshot
  | .depthUpdate _ => .depthUpdate

/-- What a peek hands out: the front record, or the terminal descriptor once the ring is empty, or nothing. -/
structure PeekedPublication (S U : Type) where
  ordinary : Option (Shared (PublicationRecord S U)) := none
  terminal : Option TerminalDescriptor := none

def PeekedPublication.hasValue (p : PeekedPublication S U) : Bool := p.ordinary.isSome || p.terminal.isSome

def PeekedPublication.isTerminal (p : PeekedPublication S U) : Bool := p.terminal.isSome

structure SubscriberChannel (S U : Type) where
  subscriptionId : String
  gatewayInstanceId : String
  ordinaryCapacity : Nat
  ordinaryRing : Ring (Shared (PublicationRecord S U)) ordinaryCapacity
  terminal : Option TerminalDescriptor
  state : SubscriberState
  nextSessionSequence : Nat

/-! ## The accepted and snapshot records -/

def makeAcceptedRecord (requestId subscriptionId gatewayInstanceId : String) (publishedAt : PublicationTime) :
    PublicationRecord S U where
  sessionSequence := 1
  connectionGeneration := none
  publishedAt := publishedAt
  payload := .subscriptionAccepted
    { requestId := requestId
      subscriptionId := subscriptionId
      schemaVersion := "subscription-accepted.v1"
      gatewayInstanceId := gatewayInstanceId
      acceptedTimeUtcNs := publishedAt.utcNs
      negotiatedPayloadSchemaVersions := ["local-order-book-snapshot.v1", "depth-update.v1"] }

def makeSnapshotRecord (snapshot : S) (connectionGeneration : Option Nat) (publishedAt : PublicationTime) :
    PublicationRecord S U where
  sessionSequence := 2
  connectionGeneration := connectionGeneration
  publishedAt := publishedAt
  payload := .snapshot snapshot

/-! ## Operations -/

namespace SubscriberChannel

/-- A new channel; the constructor refuses a ring without slots. -/
def create (subscriptionId gatewayInstanceId : String) (ordinaryCapacity : Nat) (h : 0 < ordinaryCapacity) :
    SubscriberChannel S U where
  subscriptionId := subscriptionId
  gatewayInstanceId := gatewayInstanceId
  ordinaryCapacity := ordinaryCapacity
  ordinaryRing := Ring.empty h
  terminal := none
  state := .active
  nextSessionSequence := 1

/-- Write behind the last record; nothing is written to a full ring. -/
def ringPushLocked (c : SubscriberChannel S U) (r : Shared (PublicationRecord S U)) : Option (SubscriberChannel S U) :=
  if h : c.ordinaryRing.size < c.ordinaryCapacity then some { c with ordinaryRing := c.ordinaryRing.push r h } else none

def ringPopLocked (c : SubscriberChannel S U) : SubscriberChannel S U :=
  { c with ordinaryRing := c.ordinaryRing.pop }

def clearFromWriterLocked (c : SubscriberChannel S U) : SubscriberChannel S U :=
  { c with ordinaryRing := c.ordinaryRing.clear, terminal := none }

/-- The counter after a terminal descriptor took its value: it saturates. -/
def afterTerminal (sequence : Nat) : Nat := if sequence ≠ maxUInt64 then sequence + 1 else sequence

/-- What a failed staging leaves. -/
def unstage (c : SubscriberChannel S U) : SubscriberChannel S U :=
  { c.clearFromWriterLocked with state := .active, nextSessionSequence := 1 }

/-- Both mandatory records commit together or neither becomes visible. -/
def stageInitial (c : SubscriberChannel S U) (accepted snapshot : Shared (PublicationRecord S U)) :
    Bool × SubscriberChannel S U :=
  if accepted.value.sessionSequence ≠ 1 ∨ snapshot.value.sessionSequence ≠ 2 ∨
      accepted.value.kind ≠ .subscriptionAccepted ∨ snapshot.value.kind ≠ .snapshot then (false, c)
  else if c.state ≠ .active ∨ c.ordinaryRing.size ≠ 0 ∨ c.ordinaryCapacity < 2 then (false, c)
  else
    match c.ringPushLocked accepted with
    | none => (false, c.unstage)
    | some c₁ =>
      match c₁.ringPushLocked snapshot with
      | none => (false, c₁.unstage)
      | some c₂ => (true, { c₂ with nextSessionSequence := 3 })

/-- Append one update, or end the session when the ring is full. `allocation` is where the new record lives, `none` when its
allocation failed. -/
def admitUpdate (c : SubscriberChannel S U) (update : U) (connectionGeneration : Option Nat)
    (publishedAt : PublicationTime) (allocation : Option Nat) : OrdinaryAdmissionResult × SubscriberChannel S U :=
  if c.state ≠ .active then (.inactive, c)
  else if c.ordinaryRing.size = c.ordinaryCapacity then
    (.terminalized,
      { c with
        terminal := some ⟨c.nextSessionSequence, none, publishedAt, .slowConsumer, .resubscribe⟩
        nextSessionSequence := afterTerminal c.nextSessionSequence
        state := .terminalGap })
  else if c.nextSessionSequence = maxUInt64 then (.allocationFailure, c)
  else
    match allocation with
    | none => (.allocationFailure, c)
    | some address =>
      match c.ringPushLocked ⟨address, ⟨c.nextSessionSequence, connectionGeneration, publishedAt, .depthUpdate update⟩⟩ with
      | none => (.allocationFailure, c)
      | some c₁ => (.admitted, { c₁ with nextSessionSequence := c.nextSessionSequence + 1 })

/-- The first terminal reason wins. -/
def terminalize (c : SubscriberChannel S U) (reason : ConsumerGapReason) (recoveryAction : RecoveryAction)
    (connectionGeneration : Option Nat) (publishedAt : PublicationTime) : Bool × SubscriberChannel S U :=
  if c.state ≠ .active ∨ c.terminal.isSome then (false, c)
  else
    (true,
      { c with
        terminal := some ⟨c.nextSessionSequence, connectionGeneration, publishedAt, reason, recoveryAction⟩
        nextSessionSequence := afterTerminal c.nextSessionSequence
        state := .terminalGap })

def peek (c : SubscriberChannel S U) : PeekedPublication S U :=
  if c.state = .closed then {}
  else
    match c.ordinaryRing.front with
    | some r => { ordinary := some r }
    | none => { terminal := c.terminal }

/-- The writer is done with what it peeked; a publication that is not the current front changes nothing. -/
def acknowledge (c : SubscriberChannel S U) (publication : PeekedPublication S U) :
    AcknowledgeResult × SubscriberChannel S U :=
  if c.state = .closed then (.closed, c)
  else
    match publication.ordinary with
    | some r =>
      match c.ordinaryRing.front with
      | none => (.mismatch, c)
      | some front => if front.address ≠ r.address then (.mismatch, c) else (.acknowledged, c.ringPopLocked)
    | none =>
      if publication.terminal.isSome ∧ c.ordinaryRing.size = 0 ∧ c.terminal = publication.terminal then
        (.closed, { c with terminal := none, state := .closed })
      else (.mismatch, c)

/-- The owner's close leaves the ring alone: the writer may have the front in flight. -/
def closeFromOwner (c : SubscriberChannel S U) : SubscriberChannel S U := { c with state := .closed }

def closeFromWriter (c : SubscriberChannel S U) : SubscriberChannel S U :=
  { c.clearFromWriterLocked with state := .closed }

/-! ## What the operations do -/

/-- What is still to be read from the ring. -/
def queued (c : SubscriberChannel S U) : List (Shared (PublicationRecord S U)) := c.ordinaryRing.toList

/-- The front of the ring is the first of the queue. -/
theorem front_eq (c : SubscriberChannel S U) : c.ordinaryRing.front = c.queued.head? := c.ordinaryRing.front_eq_head?

/-- The queue is as long as the ring is large. -/
theorem queued_length (c : SubscriberChannel S U) : c.queued.length = c.ordinaryRing.size := c.ordinaryRing.toList_length

/-- A push into a ring with a free slot appends one record and touches nothing else. -/
theorem ringPushLocked_some {c : SubscriberChannel S U} (r : Shared (PublicationRecord S U))
    (h : c.ordinaryRing.size < c.ordinaryCapacity) :
    ∃ c₁, c.ringPushLocked r = some c₁ ∧ c₁.queued = c.queued ++ [r] ∧ c₁.state = c.state ∧ c₁.terminal = c.terminal ∧
      c₁.ordinaryCapacity = c.ordinaryCapacity :=
  ⟨_, dif_pos h, c.ordinaryRing.toList_push r h, rfl, rfl, rfl⟩

/-- An update that finds the channel active, a free slot and memory is appended under the next sequence. -/
theorem admitUpdate_admitted {c : SubscriberChannel S U} (u : U) (g : Option Nat) (t : PublicationTime) (address : Nat)
    (hs : c.state = .active) (hf : c.ordinaryRing.size ≠ c.ordinaryCapacity) (hm : c.nextSessionSequence ≠ maxUInt64) :
    ∃ c₁, c.admitUpdate u g t (some address) = (.admitted, c₁) ∧ c₁.state = .active ∧ c₁.terminal = c.terminal ∧
      c₁.nextSessionSequence = c.nextSessionSequence + 1 ∧
      c₁.queued = c.queued ++ [⟨address, ⟨c.nextSessionSequence, g, t, .depthUpdate u⟩⟩] := by
  obtain ⟨c₁, hp, hq, hst, ht, -⟩ := ringPushLocked_some
    (⟨address, ⟨c.nextSessionSequence, g, t, .depthUpdate u⟩⟩ : Shared (PublicationRecord S U))
    (Nat.lt_of_le_of_ne c.ordinaryRing.size_le hf)
  refine ⟨{ c₁ with nextSessionSequence := c.nextSessionSequence + 1 }, ?_, hst.trans hs, ht, rfl, hq⟩
  rw [admitUpdate, if_neg (by simp [hs]), if_neg hf, if_neg hm]
  simp only [hp]

/-- Every outcome of `admitUpdate`, with the channel it leaves. -/
theorem admitUpdate_cases (c : SubscriberChannel S U) (u : U) (g : Option Nat) (t : PublicationTime) (a : Option Nat) :
    (c.state ≠ .active ∧ c.admitUpdate u g t a = (.inactive, c)) ∨
    (c.state = .active ∧ c.admitUpdate u g t a = (.terminalized, { c with
      terminal := some ⟨c.nextSessionSequence, none, t, .slowConsumer, .resubscribe⟩
      nextSessionSequence := afterTerminal c.nextSessionSequence
      state := .terminalGap })) ∨
    (c.state = .active ∧ c.admitUpdate u g t a = (.allocationFailure, c)) ∨
    (c.state = .active ∧ ∃ address c₁, a = some address ∧ c.admitUpdate u g t a = (.admitted, c₁) ∧
      c₁.state = .active ∧ c₁.terminal = c.terminal ∧ c₁.nextSessionSequence = c.nextSessionSequence + 1 ∧
      c₁.queued = c.queued ++ [⟨address, ⟨c.nextSessionSequence, g, t, .depthUpdate u⟩⟩]) := by
  by_cases hs : c.state = .active
  · right
    by_cases hf : c.ordinaryRing.size = c.ordinaryCapacity
    · exact Or.inl ⟨hs, by rw [admitUpdate.eq_def, if_neg (by simp [hs]), if_pos hf]⟩
    · right
      by_cases hm : c.nextSessionSequence = maxUInt64
      · exact Or.inl ⟨hs, by rw [admitUpdate.eq_def, if_neg (by simp [hs]), if_neg hf, if_pos hm]⟩
      · cases a with
        | none => exact Or.inl ⟨hs, by rw [admitUpdate.eq_def, if_neg (by simp [hs]), if_neg hf, if_neg hm]⟩
        | some address =>
          obtain ⟨c₁, h⟩ := admitUpdate_admitted u g t address hs hf hm
          exact Or.inr ⟨hs, address, c₁, rfl, h⟩
  · exact Or.inl ⟨hs, by rw [admitUpdate.eq_def, if_pos hs]⟩

/-- Terminalizing an active channel without a terminal ends its session; any other channel is left as it is. -/
theorem terminalize_cases (c : SubscriberChannel S U) (reason : ConsumerGapReason) (action : RecoveryAction)
    (g : Option Nat) (t : PublicationTime) :
    ((c.state ≠ .active ∨ c.terminal ≠ none) ∧ (c.terminalize reason action g t).2 = c) ∨
    (c.state = .active ∧ c.terminal = none ∧ (c.terminalize reason action g t).2 = { c with
      terminal := some ⟨c.nextSessionSequence, g, t, reason, action⟩
      nextSessionSequence := afterTerminal c.nextSessionSequence
      state := .terminalGap }) := by
  by_cases hs : c.state = .active
  · cases ht : c.terminal with
    | none => exact Or.inr ⟨hs, rfl, by simp [terminalize, hs, ht]⟩
    | some d => exact Or.inl ⟨Or.inr (by simp), by simp [terminalize, ht]⟩
  · exact Or.inl ⟨Or.inl hs, by simp [terminalize, hs]⟩

/-- Every outcome of `acknowledge`: the front record leaves the queue, the terminal closes an empty channel, or nothing happens. -/
theorem acknowledge_cases (c : SubscriberChannel S U) (p : PeekedPublication S U) :
    (∃ front rest r, c.state ≠ .closed ∧ p.ordinary = some r ∧ c.queued = front :: rest ∧ front.address = r.address ∧
      (c.acknowledge p).1 = .acknowledged ∧ (c.acknowledge p).2.queued = rest ∧
      (c.acknowledge p).2.state = c.state ∧ (c.acknowledge p).2.terminal = c.terminal ∧
      (c.acknowledge p).2.nextSessionSequence = c.nextSessionSequence) ∨
    (∃ d, c.state ≠ .closed ∧ p.ordinary = none ∧ p.terminal = some d ∧ c.queued = [] ∧ c.terminal = some d ∧
      c.acknowledge p = (.closed, { c with terminal := none, state := .closed })) ∨
    ((c.acknowledge p).2 = c ∧ (c.acknowledge p).1 ≠ .acknowledged ∧
      ((c.acknowledge p).1 = .closed → c.state = .closed)) := by
  by_cases hc : c.state = .closed
  · exact Or.inr (Or.inr (by simp [acknowledge, hc]))
  · cases ho : p.ordinary with
    | some r =>
      cases hq : c.queued with
      | nil => exact Or.inr (Or.inr (by simp [acknowledge, hc, ho, front_eq, hq]))
      | cons front rest =>
        by_cases ha : front.address = r.address
        · refine Or.inl ⟨front, rest, r, hc, rfl, rfl, ha, ?_⟩
          have hpop : c.ringPopLocked.queued = rest := by
            have : c.ringPopLocked.queued = c.queued.tail := c.ordinaryRing.toList_pop
            rw [this, hq]; rfl
          simp [acknowledge, hc, ho, front_eq, hq, ha, hpop]
          simp [ringPopLocked]
        · exact Or.inr (Or.inr (by simp [acknowledge, hc, ho, front_eq, hq, ha]))
    | none =>
      by_cases ht : p.terminal.isSome ∧ c.ordinaryRing.size = 0 ∧ c.terminal = p.terminal
      · obtain ⟨d, hd⟩ := Option.isSome_iff_exists.mp ht.1
        refine Or.inr (Or.inl ⟨d, hc, rfl, hd, c.ordinaryRing.size_eq_zero_iff.mp ht.2.1, ht.2.2.trans hd, ?_⟩)
        simp [acknowledge, hc, ho, ht]
      · refine Or.inr (Or.inr ?_)
        simp [acknowledge, hc, ho, ht]

/-- A staged channel holds exactly the two initial records. -/
theorem stageInitial_true {c : SubscriberChannel S U} {accepted snapshot : Shared (PublicationRecord S U)}
    (h : (c.stageInitial accepted snapshot).1 = true) :
    (c.stageInitial accepted snapshot).2.state = .active ∧
      (c.stageInitial accepted snapshot).2.terminal = c.terminal ∧
      (c.stageInitial accepted snapshot).2.nextSessionSequence = 3 ∧
      (c.stageInitial accepted snapshot).2.queued = [accepted, snapshot] := by
  unfold stageInitial at h ⊢
  split at h
  · cases h
  · rename_i hr
    split at h
    · cases h
    · rename_i hs
      rw [if_neg hr, if_neg hs]
      simp only [not_or, Decidable.not_not, ne_eq, Nat.not_lt] at hs
      obtain ⟨hst, hsz, hcap⟩ := hs
      obtain ⟨c₁, hp₁, hq₁, hst₁, ht₁, hc₁⟩ := ringPushLocked_some accepted (show c.ordinaryRing.size < _ by omega)
      have hl₁ : c₁.ordinaryRing.size = 1 := by
        have h0 : c.queued = [] := c.ordinaryRing.size_eq_zero_iff.mp hsz
        rw [← queued_length, hq₁, h0]; rfl
      obtain ⟨c₂, hp₂, hq₂, hst₂, ht₂, -⟩ := ringPushLocked_some snapshot (show c₁.ordinaryRing.size < _ by omega)
      have h0 : c.queued = [] := c.ordinaryRing.size_eq_zero_iff.mp hsz
      simp only [hp₁, hp₂]
      refine ⟨hst₂.trans (hst₁.trans hst), ht₂.trans ht₁, trivial, ?_⟩
      show c₂.queued = [accepted, snapshot]
      rw [hq₂, hq₁, h0]; rfl

/-- A peek of an open channel shows the front of the queue, and the terminal only when the queue is empty. -/
theorem peek_eq {c : SubscriberChannel S U} (h : c.state ≠ .closed) :
    c.peek = match c.queued with
      | r :: _ => { ordinary := some r }
      | [] => { terminal := c.terminal } := by
  rw [peek, if_neg h, front_eq]
  cases c.queued <;> rfl

end SubscriberChannel

end MarketDataGateway.OrderBook
