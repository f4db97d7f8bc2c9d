import MarketDataGateway.OrderBook.Refinement
import MarketDataGateway.Events.Publication
import MarketDataGateway.Events.Refinement

/-!
# The two channels

The order-book channel and the event channel were written apart and are the same queue.
-/

namespace MarketDataGateway

open Containers

/-- After its initial stage each channel goes as the queue goes, in every session and to the last sequence number. -/
theorem channels_are_queues :
    (∀ (S U : Type) (accepted snapshot : OrderBook.Shared (OrderBook.PublicationRecord S U))
      (subscriptionId gatewayInstanceId : String) (capacity : Nat) (h : 2 ≤ capacity),
      OrderBook.SubscriberChannel.InitialRecords accepted snapshot →
      ∃ start, (OrderBook.SubscriberChannel.create subscriptionId gatewayInstanceId capacity (Nat.zero_lt_of_lt h)).stageInitial
          accepted snapshot = (true, start) ∧
        start.asQueue = ⟨capacity, OrderBook.maxUInt64, [accepted, snapshot], none, .accepting, 3⟩ ∧
        ∀ operations answers items s, OrderBook.SubscriberChannel.queueSystem.Run ⟨start, []⟩ operations answers items s →
          start.ActsAsQueue operations answers items s) ∧
    ∀ (T : Events.EventTypes) (accepted : Events.Shared (Events.EventPublicationRecord T))
      (subscriptionId gatewayInstanceId : String) (stream : Events.Stream) (generation capacity : Nat)
      (c : Events.EventSubscriberChannel T),
      Events.EventSubscriberChannel.InitialRecord accepted →
      Events.EventSubscriberChannel.create subscriptionId gatewayInstanceId stream generation capacity = some c →
      ∃ start : Events.EventSubscriberChannel.For T stream generation,
        c.stageAccepted accepted = (true, start.1) ∧
        start.1.asQueue = ⟨capacity, Events.maxUInt64, [accepted], none, .accepting, 2⟩ ∧
        ∀ operations answers items s,
          (Events.EventSubscriberChannel.queueSystem stream generation).Run ⟨start, []⟩ operations answers items s →
          Events.EventSubscriberChannel.ActsAsQueue start operations answers items s := by
  refine ⟨?_, ?_⟩
  · intro S U accepted snapshot subscriptionId gatewayInstanceId capacity h hr
    obtain ⟨start, hstaged, hstart⟩ := OrderBook.SubscriberChannel.staged_asQueue hr subscriptionId gatewayInstanceId h
    refine ⟨start, hstaged, hstart, ?_⟩
    intro operations answers items s hrun
    exact OrderBook.SubscriberChannel.session_acts_as_queue hr h hstart hrun
  · intro T accepted subscriptionId gatewayInstanceId stream generation capacity c hr hc
    obtain ⟨start, hstaged, hstart⟩ := Events.EventSubscriberChannel.staged_asQueue hr hc
    have hcapacity : 0 < capacity := by
      have hpositive := start.1.ordinaryRing.pos
      rwa [show start.1.ordinaryCapacity = capacity from congrArg TerminalQueue.capacity hstart] at hpositive
    refine ⟨start, hstaged, hstart, ?_⟩
    intro operations answers items s hrun
    exact Events.EventSubscriberChannel.session_acts_as_queue hr hcapacity hstart hrun

/-! ## A full channel, and a closed one -/

def acceptedRecord : OrderBook.Shared (OrderBook.PublicationRecord Unit Unit) :=
  ⟨1, OrderBook.makeAcceptedRecord "r" "s" "g" {}⟩

def snapshotRecord : OrderBook.Shared (OrderBook.PublicationRecord Unit Unit) :=
  ⟨2, OrderBook.makeSnapshotRecord () none {}⟩

/-- A channel that holds the initial records in a ring with two slots. -/
def stagedChannel : OrderBook.SubscriberChannel Unit Unit :=
  ((OrderBook.SubscriberChannel.create "s" "g" 2 (by decide)).stageInitial acceptedRecord snapshotRecord).2

open OrderBook OrderBook.SubscriberChannel in
/-- The reader of a full channel reads its two records and the terminal, and the channel closes. -/
theorem overflow_run :
    ∃ answers items s, queueSystem.Run ⟨stagedChannel, []⟩
        [.admitUpdate () none {} none, .peek, .acknowledge { ordinary := some acceptedRecord }, .peek,
          .acknowledge { ordinary := some snapshotRecord }, .peek,
          .acknowledge { terminal := some ⟨3, none, {}, .slowConsumer, .resubscribe⟩ }] answers items s ∧
      s.system.state = .closed ∧ items = [.inr ⟨3, none, {}, .slowConsumer, .resubscribe⟩] := by
  refine ⟨_, _, _, .operation ?_ (.operation trivial (.operation ?_ (.operation trivial (.operation ?_
    (.operation trivial (.operation ?_ .done)))))), ?_, ?_⟩
  · intro a ha
    cases ha
  · exact List.mem_cons_self
  · exact List.mem_cons_self
  · exact List.mem_cons_self
  · rfl
  · rfl

/-- Events that carry nothing. -/
def bareTypes : Events.EventTypes := ⟨Unit, Unit, Unit⟩

def acceptedEvent : Events.Shared (Events.EventPublicationRecord bareTypes) :=
  ⟨1, Events.makeAcceptedRecord ⟨"r", .diffDepth, "depth-update.v1"⟩ "s" "g" {}⟩

/-- A depth channel of the first generation that holds its acceptance in a ring with one slot. -/
def stagedEvents : Events.EventSubscriberChannel.For bareTypes .diffDepth 1 :=
  ⟨(Events.EventSubscriberChannel.stageAccepted
    { subscriptionId := "s"
      gatewayInstanceId := "g"
      stream := .diffDepth
      sourceGeneration := 1
      ordinaryCapacity := 1
      ordinaryRing := Ring.empty Nat.one_pos
      terminal := none
      state := .active
      nextSessionSequence := 1 } acceptedEvent).2, rfl, rfl⟩

open Events Events.EventSubscriberChannel in
/-- A full event channel ends in the same way; an event of another stream has done nothing to it. -/
theorem event_overflow_run :
    ∃ answers items s, (queueSystem .diffDepth 1).Run ⟨stagedEvents, []⟩
        [.admitEvent (some (.aggTrade ())) {} none, .admitEvent (some (.depthUpdate ())) {} none, .peek,
          .acknowledge { ordinary := some acceptedEvent }, .peek,
          .acknowledge { terminal := some ⟨2, 1, {}, .slowConsumer, .resubscribe⟩ }] answers items s ∧
      s.system.1.state = .closed ∧ items = [.inr ⟨2, 1, {}, .slowConsumer, .resubscribe⟩] := by
  refine ⟨_, _, _, .operation trivial (.operation ?_ (.operation trivial (.operation ?_ (.operation trivial
    (.operation ?_ .done))))), ?_, ?_⟩
  · intro a ha
    cases ha
  · exact List.mem_cons_self
  · exact List.mem_cons_self
  · rfl
  · rfl

/-- Both channels run into a full queue, and drain it to its terminal. -/
theorem channels_are_queues_full :
    (∃ operations answers items s, OrderBook.SubscriberChannel.queueSystem.Run ⟨stagedChannel, []⟩ operations answers items s ∧
      s.system.state = .closed ∧ stagedChannel.ActsAsQueue operations answers items s) ∧
    ∃ operations answers items s, (Events.EventSubscriberChannel.queueSystem .diffDepth 1).Run ⟨stagedEvents, []⟩ operations answers items s ∧
      s.system.1.state = .closed ∧ Events.EventSubscriberChannel.ActsAsQueue stagedEvents operations answers items s := by
  refine ⟨?_, ?_⟩
  · obtain ⟨answers, items, s, hrun, hclosed, -⟩ := overflow_run
    obtain ⟨start, hstaged, -, hall⟩ := channels_are_queues.1 Unit Unit acceptedRecord snapshotRecord "s" "g" 2 (by decide)
      ⟨rfl, rfl, rfl, rfl, by decide⟩
    obtain rfl : stagedChannel = start := congrArg Prod.snd hstaged
    exact ⟨_, answers, items, s, hrun, hclosed, hall _ answers items s hrun⟩
  · obtain ⟨answers, items, s, hrun, hclosed, -⟩ := event_overflow_run
    obtain ⟨start, hstaged, -, hall⟩ := channels_are_queues.2 bareTypes acceptedEvent "s" "g" .diffDepth 1 1 _ ⟨rfl, rfl, rfl⟩ rfl
    obtain rfl : stagedEvents = start := Subtype.ext (congrArg Prod.snd hstaged)
    exact ⟨_, answers, items, s, hrun, hclosed, hall _ answers items s hrun⟩

open OrderBook OrderBook.SubscriberChannel in
/-- A closed channel does not say that a publication is stale, although its front is gone. -/
theorem closed_channel_is_no_mismatch :
    ∃ answers items s, queueSystem.Run ⟨stagedChannel, []⟩ [.peek, .closeFromOwner] answers items s ∧
      PeekedPublication.seen { ordinary := some acceptedRecord } ∈ s.held ∧
      PeekedPublication.seen { ordinary := some acceptedRecord } ≠ s.system.peek.seen ∧
      s.system.acknowledge { ordinary := some acceptedRecord } = (.closed, s.system) := by
  refine ⟨_, _, _, .operation trivial (.operation trivial .done), ?_, ?_, ?_⟩
  · exact List.mem_cons_self
  · exact fun h => by cases h
  · rfl

end MarketDataGateway
