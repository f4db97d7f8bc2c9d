import MarketDataGateway.Lib.QueueSession
import MarketDataGateway.OrderBook.Channel

/-!
# The order-book channel as a queue

What a channel is for: a bounded queue of records with a terminal behind it. Each operation on a channel does to this queue what the
operation of the queue does, and answers the same.

A run is a session with a reader that keeps what it has peeked for as long as it likes. A record that is still referred to keeps its
address, so a new one is elsewhere.
-/

namespace MarketDataGateway.OrderBook

open Containers

variable {S U : Type}

def SubscriberState.standing : SubscriberState → Standing
  | .active => .accepting
  | .terminalGap => .ended
  | .closed => .closed

def OrdinaryAdmissionResult.offer : OrdinaryAdmissionResult → Offer
  | .admitted => .admitted
  | .terminalized => .ended
  | .inactive => .inactive
  | .allocationFailure => .refused

def AcknowledgeResult.receipt : AcknowledgeResult → Receipt
  | .acknowledged => .taken
  | .closed => .over
  | .mismatch => .mismatch

/-- What the queue shows to a reader. -/
abbrev SeenPublication (S U : Type) := Visible (Shared (PublicationRecord S U)) TerminalDescriptor

def PeekedPublication.seen (p : PeekedPublication S U) : SeenPublication S U :=
  match p.ordinary, p.terminal with
  | some r, _ => .element r
  | none, some d => .terminal d
  | none, none => .nothing

/-- A record or a terminal, with its place in the session. -/
abbrev StoredPublication (S U : Type) := Shared (PublicationRecord S U) ⊕ TerminalDescriptor

def StoredPublication.sessionSequence : StoredPublication S U → Nat
  | .inl r => r.value.sessionSequence
  | .inr d => d.sessionSequence

/-! ## Operations -/

inductive ChannelOperation (S U : Type) where
  | admitUpdate (update : U) (connectionGeneration : Option Nat) (publishedAt : PublicationTime) (allocation : Option Nat)
  | terminalize (reason : ConsumerGapReason) (recoveryAction : RecoveryAction) (connectionGeneration : Option Nat)
      (publishedAt : PublicationTime)
  | peek
  | acknowledge (publication : PeekedPublication S U)
  | closeFromOwner
  | closeFromWriter

/-- The operation of the queue that an operation of the channel stands for. -/
def ChannelOperation.onQueue :
    ChannelOperation S U → QueueOperation (Shared (PublicationRecord S U)) TerminalDescriptor
  | .admitUpdate update connectionGeneration publishedAt allocation =>
    .offer (fun n => allocation.map fun address => ⟨address, ⟨n, connectionGeneration, publishedAt, .depthUpdate update⟩⟩)
      fun n => ⟨n, none, publishedAt, .slowConsumer, .resubscribe⟩
  | .terminalize reason recoveryAction connectionGeneration publishedAt =>
    .terminate fun n => ⟨n, connectionGeneration, publishedAt, reason, recoveryAction⟩
  | .peek => .look
  | .acknowledge publication => .take publication.seen
  | .closeFromOwner => .close
  | .closeFromWriter => .empty

/-- What an operation offers carries the number it is given. -/
theorem ChannelOperation.onQueue_numbers (operation : ChannelOperation S U) :
    operation.onQueue.Numbers StoredPublication.sessionSequence := by
  cases operation with
  | admitUpdate u g t a =>
    refine ⟨fun n r hr => ?_, fun n => rfl⟩
    obtain ⟨address, -, rfl⟩ := Option.map_eq_some_iff.mp hr
    rfl
  | terminalize => exact fun n => rfl
  | peek | acknowledge | closeFromOwner | closeFromWriter => trivial

namespace SubscriberChannel

/-- The queue that a channel stands for. -/
def asQueue (c : SubscriberChannel S U) : TerminalQueue (Shared (PublicationRecord S U)) TerminalDescriptor where
  capacity := c.ordinaryCapacity
  last := maxUInt64
  queue := c.queued
  terminal := c.terminal
  standing := c.state.standing
  next := c.nextSessionSequence

/-- The channel's answer in the words of the queue. -/
def perform (c : SubscriberChannel S U) : ChannelOperation S U →
    QueueAnswer (Shared (PublicationRecord S U)) TerminalDescriptor × SubscriberChannel S U
  | .admitUpdate update connectionGeneration publishedAt allocation =>
    let r := c.admitUpdate update connectionGeneration publishedAt allocation
    (.offered r.1.offer, r.2)
  | .terminalize reason recoveryAction connectionGeneration publishedAt =>
    let r := c.terminalize reason recoveryAction connectionGeneration publishedAt
    (.begun r.1, r.2)
  | .peek => (.shown c.peek.seen, c)
  | .acknowledge publication =>
    let r := c.acknowledge publication
    (.received r.1.receipt, r.2)
  | .closeFromOwner => (.done, c.closeFromOwner)
  | .closeFromWriter => (.done, c.closeFromWriter)

/-- The queue accepts while the channel is active. -/
theorem standing_accepting {c : SubscriberChannel S U} : c.asQueue.standing = .accepting ↔ c.state = .active := by
  cases h : c.state <;> simp [asQueue, SubscriberState.standing, h]

/-- The queue is closed when the channel is. -/
theorem standing_closed {c : SubscriberChannel S U} : c.asQueue.standing = .closed ↔ c.state = .closed := by
  cases h : c.state <;> simp [asQueue, SubscriberState.standing, h]

/-! ## One operation -/

/-- An update that is admitted is offered to the queue. -/
theorem offer_asQueue (c : SubscriberChannel S U) (u : U) (g : Option Nat) (t : PublicationTime) (a : Option Nat) :
    c.asQueue.offer (fun n => a.map fun address => ⟨address, ⟨n, g, t, .depthUpdate u⟩⟩)
        (fun n => ⟨n, none, t, .slowConsumer, .resubscribe⟩) =
      ((c.admitUpdate u g t a).1.offer, (c.admitUpdate u g t a).2.asQueue) := by
  by_cases hs : c.state = .active
  · have ha : c.asQueue.standing = .accepting := standing_accepting.mpr hs
    by_cases hf : c.ordinaryRing.size = c.ordinaryCapacity
    · have hfull : c.asQueue.queue.length = c.asQueue.capacity := c.queued_length.trans hf
      have hq : c.admitUpdate u g t a = (.terminalized, { c with
          terminal := some ⟨c.nextSessionSequence, none, t, .slowConsumer, .resubscribe⟩
          nextSessionSequence := afterTerminal c.nextSessionSequence
          state := .terminalGap }) := by simp [admitUpdate, hs, hf]
      rw [hq, TerminalQueue.offer, if_neg (by simp [ha]), if_pos hfull]
      rfl
    have hroom : c.asQueue.queue.length ≠ c.asQueue.capacity := fun h => hf (c.queued_length.symm.trans h)
    by_cases hm : c.nextSessionSequence = maxUInt64
    · have hlast : c.asQueue.next = c.asQueue.last := hm
      have hq : c.admitUpdate u g t a = (.allocationFailure, c) := by simp [admitUpdate, hs, hf, hm]
      rw [hq, TerminalQueue.offer, if_neg (by simp [ha]), if_neg hroom, if_pos hlast]
      rfl
    have hlast : c.asQueue.next ≠ c.asQueue.last := hm
    rw [TerminalQueue.offer, if_neg (by simp [ha]), if_neg hroom, if_neg hlast]
    cases a with
    | none =>
      have hq : c.admitUpdate u g t none = (.allocationFailure, c) := by simp [admitUpdate, hs, hf, hm]
      rw [hq]
      rfl
    | some address =>
      have hlt : c.ordinaryRing.size < c.ordinaryCapacity := Nat.lt_of_le_of_ne c.ordinaryRing.size_le hf
      have hq : c.admitUpdate u g t (some address) = (.admitted, { c with
          ordinaryRing := c.ordinaryRing.push ⟨address, ⟨c.nextSessionSequence, g, t, .depthUpdate u⟩⟩ hlt
          nextSessionSequence := c.nextSessionSequence + 1 }) := by
        simp [admitUpdate, ringPushLocked, hs, hf, hm, hlt]
      rw [hq]
      simp only [asQueue, queued, Option.map_some, Ring.toList_push]
      rfl
  · have hq : c.admitUpdate u g t a = (.inactive, c) := by simp [admitUpdate, hs]
    rw [hq, TerminalQueue.offer, if_pos (fun h => hs (standing_accepting.mp h))]
    rfl

/-- Ending a session ends the queue. -/
theorem terminate_asQueue {c : SubscriberChannel S U} (hu : c.state = .active → c.terminal = none) (reason : ConsumerGapReason)
    (action : RecoveryAction) (g : Option Nat) (t : PublicationTime) :
    c.asQueue.perform (.terminate fun n => ⟨n, g, t, reason, action⟩) =
      (.begun (c.terminalize reason action g t).1, (c.terminalize reason action g t).2.asQueue) := by
  by_cases hs : c.state = .active
  · have hq : c.terminalize reason action g t = (true, { c with
        terminal := some ⟨c.nextSessionSequence, g, t, reason, action⟩
        nextSessionSequence := afterTerminal c.nextSessionSequence
        state := .terminalGap }) := by simp [terminalize, hs, hu hs]
    rw [hq, TerminalQueue.perform, if_neg (by simp [standing_accepting.mpr hs])]
    rfl
  · have hq : c.terminalize reason action g t = (false, c) := by simp [terminalize, hs]
    rw [hq, TerminalQueue.perform, if_pos (fun h => hs (standing_accepting.mp h))]

/-- The writer sees what the queue shows. -/
theorem peek_seen (c : SubscriberChannel S U) : c.peek.seen = c.asQueue.visible := by
  by_cases hc : c.state = .closed
  · rw [TerminalQueue.visible, if_pos (standing_closed.mpr hc)]
    simp [peek, hc, PeekedPublication.seen]
  · rw [peek_eq hc, TerminalQueue.visible, if_neg (fun h => hc (standing_closed.mp h))]
    cases hq : c.queued with
    | cons r rest => simp [PeekedPublication.seen, asQueue, hq]
    | nil => cases ht : c.terminal <;> simp [PeekedPublication.seen, asQueue, hq, ht]

/-- A peek that is the current front is taken, any other one is a mismatch; on a closed channel nothing is looked at. The front is told
by its address. -/
theorem take_asQueue {c : SubscriberChannel S U} {p : PeekedPublication S U}
    (ha : ∀ r front, p.seen = .element r → front ∈ c.queued → front.address = r.address → front = r) :
    c.asQueue.take p.seen = ((c.acknowledge p).1.receipt, (c.acknowledge p).2.asQueue) := by
  by_cases hc : c.state = .closed
  · have hq : c.acknowledge p = (.closed, c) := by simp [acknowledge, hc]
    rw [hq, TerminalQueue.take_closed _ (standing_closed.mpr hc)]
    rfl
  have hopen : c.asQueue.standing ≠ .closed := fun h => hc (standing_closed.mp h)
  cases ho : p.ordinary with
  | some r =>
    have hseen : p.seen = .element r := by simp [PeekedPublication.seen, ho]
    by_cases hfront : c.queued.head? = some r
    · have hq : c.acknowledge p = (.acknowledged, c.ringPopLocked) := by simp [acknowledge, hc, ho, front_eq, hfront]
      have hpop : c.ringPopLocked.queued = c.queued.tail := c.ordinaryRing.toList_pop
      rw [hq, hseen, TerminalQueue.take_element hopen ((TerminalQueue.visible_element hopen).mpr hfront)]
      simp only [asQueue, hpop]
      rfl
    · have hq : c.acknowledge p = (.mismatch, c) := by
        cases hqueue : c.queued with
        | nil => simp [acknowledge, hc, ho, front_eq, hqueue]
        | cons front rest =>
          have haddress : front.address ≠ r.address := by
            intro h
            exact hfront (by rw [hqueue, ha r front hseen (by simp [hqueue]) h]; rfl)
          simp [acknowledge, hc, ho, front_eq, hqueue, haddress]
      rw [hq, hseen, TerminalQueue.take_other hopen fun h => hfront ((TerminalQueue.visible_element hopen).mp h.symm)]
      rfl
  | none =>
    cases ht : p.terminal with
    | none =>
      have hseen : p.seen = .nothing := by simp [PeekedPublication.seen, ho, ht]
      have hq : c.acknowledge p = (.mismatch, c) := by simp [acknowledge, hc, ho, ht]
      rw [hq, hseen, TerminalQueue.take_nothing hopen]
      rfl
    | some d =>
      have hseen : p.seen = .terminal d := by simp [PeekedPublication.seen, ho, ht]
      have hempty : c.ordinaryRing.size = 0 ↔ c.queued = [] := c.ordinaryRing.size_eq_zero_iff
      by_cases hlast : c.queued = [] ∧ c.terminal = some d
      · have hq : c.acknowledge p = (.closed, { c with terminal := none, state := .closed }) := by
          simp [acknowledge, hc, ho, ht, hempty, hlast]
        rw [hq, hseen, TerminalQueue.take_terminal hopen ((TerminalQueue.visible_terminal hopen).mpr hlast)]
        rfl
      · have hq : c.acknowledge p = (.mismatch, c) := by simp [acknowledge, hc, ho, ht, hempty, hlast]
        rw [hq, hseen, TerminalQueue.take_other hopen fun h => hlast ((TerminalQueue.visible_terminal hopen).mp h.symm)]
        rfl

/-! ## Sessions -/

/-- A channel as a queue. Its records are told apart by their addresses. -/
def queueSystem : QueueSystem (SubscriberChannel S U) (ChannelOperation S U) (Shared (PublicationRecord S U)) TerminalDescriptor where
  asQueue := asQueue
  onQueue := ChannelOperation.onQueue
  perform := perform
  address := Shared.address
  number := StoredPublication.sessionSequence

/-- The channel refines the queue. -/
theorem queueSystem_refines : (queueSystem (S := S) (U := U)).Refines := by
  refine ⟨ChannelOperation.onQueue_numbers, ?_⟩
  intro c operation hs ha
  cases operation with
  | admitUpdate u g t a =>
    show (QueueAnswer.offered _, _) = _
    exact congrArg (fun r => (QueueAnswer.offered r.1, r.2)) (c.offer_asQueue u g t a)
  | terminalize reason action g t =>
    exact terminate_asQueue (fun h => hs.unended (standing_accepting.mpr h)) reason action g t
  | peek =>
    show (QueueAnswer.shown c.asQueue.visible, c.asQueue) = (QueueAnswer.shown c.peek.seen, c.asQueue)
    rw [peek_seen]
  | acknowledge p =>
    have htake : c.asQueue.take p.seen = ((c.acknowledge p).1.receipt, (c.acknowledge p).2.asQueue) :=
      take_asQueue fun r front hr hfront => ha r front (by simp [queueSystem, ChannelOperation.onQueue, hr]) hfront
    show (QueueAnswer.received _, _) = _
    exact congrArg (fun r => (QueueAnswer.received r.1, r.2)) htake
  | closeFromOwner => rfl
  | closeFromWriter =>
    have hempty : c.closeFromWriter.queued = [] := c.ordinaryRing.toList_clear
    show (QueueAnswer.done, _) = (QueueAnswer.done, c.closeFromWriter.asQueue)
    simp only [asQueue, hempty]
    rfl

/-- What holds of a session whose channel started as `start`: it went as the queue goes. What has been stored has increasing numbers and
nothing behind the first terminal. A publication that is held but is not what a peek would show is not taken. An ended session stores
nothing more, and a closed channel shows nothing and stays closed. -/
structure ActsAsQueue (start : SubscriberChannel S U) (operations : List (ChannelOperation S U))
    (answers : List (QueueAnswer (Shared (PublicationRecord S U)) TerminalDescriptor)) (items : List (StoredPublication S U))
    (s : Session (SubscriberChannel S U) (Shared (PublicationRecord S U)) TerminalDescriptor) : Prop where
  refines : TerminalQueue.run (operations.map ChannelOperation.onQueue) start.asQueue = (answers, items, s.system.asQueue)
  peeks : s.system.peek.seen = s.system.asQueue.visible
  sequences : ((start.queued.map Sum.inl ++ items).map StoredPublication.sessionSequence).Pairwise (· < ·)
  one_terminal : ∃ (records : List (Shared (PublicationRecord S U))) (terminal : Option TerminalDescriptor),
    items = records.map Sum.inl ++ terminal.toList.map Sum.inr
  terminal_stored : ∀ d, s.system.terminal = some d → Sum.inr d ∈ items
  stale : ∀ p : PeekedPublication S U, p.seen ∈ s.held → p.seen ≠ s.system.peek.seen →
    s.system.acknowledge p = (if s.system.state = .closed then .closed else .mismatch, s.system)
  ended : s.system.state ≠ .active →
    ∀ operations' answers' items' s', queueSystem.Run s operations' answers' items' s' → items' = []
  closed : s.system.state = .closed → s.system.peek = {} ∧
    ∀ operations' answers' items' s', queueSystem.Run s operations' answers' items' s' → s'.system.state = .closed

/-- A peek that is not the current front is a mismatch; a closed channel does not look at it. -/
theorem acknowledge_stale {c : SubscriberChannel S U} {p : PeekedPublication S U}
    (ha : ∀ r front, p.seen = .element r → front ∈ c.queued → front.address = r.address → front = r) (hp : p.seen ≠ c.peek.seen) :
    c.acknowledge p = (if c.state = .closed then .closed else .mismatch, c) := by
  by_cases hc : c.state = .closed
  · simp [acknowledge, hc]
  have htake := take_asQueue ha
  rw [TerminalQueue.take_other (fun h => hc (standing_closed.mp h)) (fun h => hp (h.trans c.peek_seen.symm))] at htake
  have hreceipt : (c.acknowledge p).1.receipt = .mismatch := (congrArg Prod.fst htake).symm
  rw [if_neg hc]
  rcases c.acknowledge_cases p with ⟨_, _, _, -, -, -, -, h₁, -⟩ | ⟨_, -, -, -, -, -, h⟩ | ⟨h₂, -, -⟩
  · rw [h₁] at hreceipt
    cases hreceipt
  · rw [h] at hreceipt
    cases hreceipt
  · have h₁ : (c.acknowledge p).1 = .mismatch := by
      cases h : (c.acknowledge p).1 <;> simp [h, AcknowledgeResult.receipt] at hreceipt
      rfl
    exact Prod.ext h₁ h₂

/-- The records that a session can start with. -/
structure InitialRecords (accepted snapshot : Shared (PublicationRecord S U)) : Prop where
  accepted_sequence : accepted.value.sessionSequence = 1
  accepted_kind : accepted.value.kind = .subscriptionAccepted
  snapshot_sequence : snapshot.value.sessionSequence = 2
  snapshot_kind : snapshot.value.kind = .snapshot
  apart : accepted.address ≠ snapshot.address

/-- A ring with two slots or more takes the initial records. -/
theorem staged_asQueue {accepted snapshot : Shared (PublicationRecord S U)} (hr : InitialRecords accepted snapshot)
    (subscriptionId gatewayInstanceId : String) {capacity : Nat} (h : 2 ≤ capacity) :
    ∃ start, (create subscriptionId gatewayInstanceId capacity (Nat.zero_lt_of_lt h)).stageInitial accepted snapshot = (true, start) ∧
      start.asQueue = ⟨capacity, maxUInt64, [accepted, snapshot], none, .accepting, 3⟩ := by
  have hroom : 0 < capacity := by omega
  have hfirst : (Ring.empty hroom : Ring (Shared (PublicationRecord S U)) capacity).size < capacity := hroom
  have hsecond : ((Ring.empty hroom).push accepted hfirst).size < capacity := h
  let start :=
    { (create subscriptionId gatewayInstanceId capacity hroom : SubscriberChannel S U) with
      ordinaryRing := ((Ring.empty hroom).push accepted hfirst).push snapshot hsecond
      nextSessionSequence := 3 }
  refine ⟨start, ?_, ?_⟩
  · simp [start, stageInitial, hr.accepted_sequence, hr.snapshot_sequence, hr.accepted_kind, hr.snapshot_kind, create, ringPushLocked,
      hroom, Nat.lt_of_succ_le h, Nat.not_lt.mpr h]
  · have hqueued : start.queued = [accepted, snapshot] := by
      show (((Ring.empty hroom).push accepted hfirst).push snapshot hsecond).toList = _
      rw [Ring.toList_push, Ring.toList_push, Ring.toList_empty]
      rfl
    simp only [asQueue, hqueued]
    rfl

/-- A session that starts with the initial records goes as the queue goes. -/
theorem session_acts_as_queue {start : SubscriberChannel S U} {accepted snapshot : Shared (PublicationRecord S U)}
    (hr : InitialRecords accepted snapshot) {capacity : Nat} (h : 2 ≤ capacity)
    (hstart : start.asQueue = ⟨capacity, maxUInt64, [accepted, snapshot], none, .accepting, 3⟩)
    {operations : List (ChannelOperation S U)} {answers : List (QueueAnswer (Shared (PublicationRecord S U)) TerminalDescriptor)}
    {items : List (StoredPublication S U)}
    {s : Session (SubscriberChannel S U) (Shared (PublicationRecord S U)) TerminalDescriptor}
    (hrun : queueSystem.Run ⟨start, []⟩ operations answers items s) : start.ActsAsQueue operations answers items s := by
  have hQ := queueSystem_refines (S := S) (U := U)
  have hqueued : start.queued = [accepted, snapshot] := congrArg TerminalQueue.queue hstart
  have hs : start.asQueue.Sound := by
    rw [hstart]
    exact ⟨h, fun _ => rfl, by simp [maxUInt64]⟩
  have hd : queueSystem.Distinct (⟨start, []⟩ : Session _ (Shared (PublicationRecord S U)) TerminalDescriptor) := by
    refine QueueSystem.distinct_start ?_
    show (start.queued.map Shared.address).Nodup
    simp [hqueued, hr.apart]
  have hrow := hQ.row hrun hs hd
  obtain ⟨hs', hd'⟩ := hQ.run_sound hrun hs hd
  constructor
  case refines => exact hQ.run hrun hs hd
  case peeks => exact s.system.peek_seen
  case sequences =>
    have haccepted : queueSystem.number (.inl accepted) = 1 := hr.accepted_sequence
    have hsnapshot : queueSystem.number (.inl snapshot) = 2 := hr.snapshot_sequence
    have hnext : (queueSystem.asQueue start).next = 3 := congrArg TerminalQueue.next hstart
    refine hrow.behind ?_ ?_
    · simp [hqueued, haccepted, hsnapshot]
    · intro x hx
      simp only [hqueued, List.map_cons, List.map_nil, List.mem_cons, List.not_mem_nil, or_false] at hx
      show queueSystem.number x < (queueSystem.asQueue start).next
      rcases hx with rfl | rfl <;> omega
  case one_terminal => exact hrow.terminal_last
  case terminal_stored =>
    intro d hterminal
    rcases hQ.terminal hrun hs hd hterminal with hbefore | hitem
    · have hnone : (queueSystem.asQueue start).terminal = none := congrArg TerminalQueue.terminal hstart
      rw [hnone] at hbefore
      cases hbefore
    · exact hitem
  case stale =>
    intro p hp hother
    refine acknowledge_stale ?_ hother
    intro r front hseen hfront haddress
    exact hd'.held (hseen ▸ hp) hfront haddress
  case ended =>
    intro hended operations' answers' items' s'' hrun'
    exact hQ.ended hrun' hs' hd' fun h => hended (standing_accepting.mp h)
  case closed =>
    intro hclosed
    refine ⟨by simp [peek, hclosed], ?_⟩
    intro operations' answers' items' s'' hrun'
    exact standing_closed.mp (hQ.closed hrun' hs' hd' (standing_closed.mpr hclosed))

end SubscriberChannel

end MarketDataGateway.OrderBook
