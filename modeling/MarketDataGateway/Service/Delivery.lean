import MarketDataGateway.Service.Streams

/-!
# What a handler delivers

The loop of a handler against its session: what the handler holds between its sections, what it has written, and what the session has
counted as delivered. A record is on the wire before it is acknowledged, so the wire may be one item ahead.
-/

namespace MarketDataGateway.GrpcService

open MarketRuntime OrderBook Status Threads

variable {L : ProjectionLibrary} {key : MarketKey} {n : Nat} {sub sub' : Subscriber L}
  {records : List (PublicationRecord L.LocalSnapshot L.DepthUpdate)} {gap : Option TerminalDescriptor}

/-! ## The front -/

/-- The writer has been handed the publication, and it is the front of the session still. -/
inductive Fronts (sub : Subscriber L) : PeekedPublication L.LocalSnapshot L.DepthUpdate → Prop where
  | record (r : Shared (PublicationRecord L.LocalSnapshot L.DepthUpdate)) (rest : List (Shared _))
      (hp : { ordinary := some r } ∈ sub.peeked) (hq : sub.channel.queued = r :: rest) : Fronts sub { ordinary := some r }
  | terminal (d : TerminalDescriptor) (hp : { terminal := some d } ∈ sub.peeked) (hq : sub.channel.queued = [])
      (hs : sub.channel.state ≠ .active) (ht : sub.channel.terminal = some d)
      (hd : d.sessionSequence = sub.delivered.length + 1) : Fronts sub { terminal := some d }

/-- What is at the front has been peeked. -/
theorem Fronts.peeked {p : PeekedPublication L.LocalSnapshot L.DepthUpdate} (h : Fronts sub p) : p ∈ sub.peeked := by
  cases h <;> assumption

/-- A peek that is handed something is handed the front. -/
theorem Fronts.of_peek (hf : SubscriberFacts n sub) (hv : sub.channel.peek.hasValue = true) : Fronts sub.peek sub.channel.peek := by
  have hopen : sub.channel.state ≠ .closed := by
    intro hc
    simp [SubscriberChannel.peek, hc, PeekedPublication.hasValue] at hv
  have hmem : sub.channel.peek ∈ sub.peek.peeked := List.mem_cons_self
  rw [SubscriberChannel.peek_eq hopen] at hv hmem ⊢
  cases hq : sub.channel.queued with
  | cons front rest =>
    rw [hq] at hmem
    exact .record front rest hmem hq
  | nil =>
    rw [hq] at hmem hv
    cases ht : sub.channel.terminal with
    | none => simp [ht, PeekedPublication.hasValue] at hv
    | some d =>
      rw [ht] at hmem
      have hinactive : sub.channel.state ≠ .active := by
        intro ha
        rw [(hf.active ha).1] at ht
        cases ht
      have hgap : sub.channel.state = .terminalGap := by
        cases hs : sub.channel.state with
        | active => exact absurd hs hinactive
        | closed => exact absurd hs hopen
        | terminalGap => rfl
      obtain ⟨d', hd', hsequence⟩ := hf.gap hgap
      obtain rfl : d' = d := Option.some.inj (hd'.symm.trans ht)
      refine .terminal d' hmem hq hinactive ht ?_
      rw [hsequence, Subscriber.records, hq, List.map_nil, List.append_nil]
      rfl

/-- The owner leaves the front where it is. -/
theorem Fronts.moved {p : PeekedPublication L.LocalSnapshot L.DepthUpdate} (h : Fronts sub p)
    {c : SubscriberChannel L.LocalSnapshot L.DepthUpdate} (hm : ChannelMove sub.channel c) :
    Fronts { sub with channel := c } p := by
  cases h with
  | record r rest hp hq =>
    rcases hm.queued with he | ⟨q, -, -, -, he⟩
    · exact .record r rest hp (he.trans hq)
    · exact .record r (rest ++ [q]) hp (by rw [he, hq]; rfl)
  | terminal d hp hq hs ht hd =>
    refine .terminal d hp ?_ (hm.inactive hs) ((hm.terminal hs).trans ht) hd
    rcases hm.queued with he | ⟨q, ha, -⟩
    · exact he.trans hq
    · exact absurd ha hs

/-- What is at the front can be made an item of. -/
theorem Fronts.item {p : PeekedPublication L.LocalSnapshot L.DepthUpdate} (h : Fronts sub p)
    (c : SubscriberChannel L.LocalSnapshot L.DepthUpdate) (key : MarketKey) :
    ∃ item, materializeStreamItemFor c p key.market key.symbol = some item := by
  cases h <;> exact ⟨_, rfl⟩

/-! ## What is on the wire -/

/-- Records, and a gap behind them, as they go on the wire. -/
def transcript (key : MarketKey) (c : SubscriberChannel L.LocalSnapshot L.DepthUpdate)
    (records : List (PublicationRecord L.LocalSnapshot L.DepthUpdate)) (gap : Option TerminalDescriptor) :
    List (OrderBookStreamItem L.LocalSnapshot L.DepthUpdate) :=
  records.map (materializeRecord c) ++ gap.toList.map fun d => materializeGap c d key.market key.symbol

/-- A transcript depends on the names of its channel only. -/
theorem transcript_congr {c c' : SubscriberChannel L.LocalSnapshot L.DepthUpdate}
    (h : c'.subscriptionId = c.subscriptionId ∧ c'.gatewayInstanceId = c.gatewayInstanceId) :
    transcript key c' records gap = transcript key c records gap := by
  simp only [transcript, materializeRecord_congr h.1 h.2, materializeGap_congr h.1 h.2]

/-- The item of a publication goes behind the records. -/
theorem transcript_item {p : PeekedPublication L.LocalSnapshot L.DepthUpdate} (h : Fronts sub p)
    {c : SubscriberChannel L.LocalSnapshot L.DepthUpdate} {item : OrderBookStreamItem L.LocalSnapshot L.DepthUpdate}
    (hi : materializeStreamItemFor c p key.market key.symbol = some item) :
    transcript key c records none ++ [item] = transcript key c (records ++ p.ordinary.toList.map (·.value)) p.terminal := by
  cases h with
  | record r rest hp hq =>
    obtain rfl := Option.some.inj hi
    simp [transcript]
  | terminal d hp hq hs ht hd =>
    obtain rfl := Option.some.inj hi
    simp [transcript]

/-! ## Sequence numbers -/

/-- Updates are numbered one after the other. -/
theorem updateContent_sequences (n : Nat) (updates : List (DepthUpdateInput L)) :
    (updateContent n updates).map (·.1) = List.range' n updates.length := by
  induction updates generalizing n with
  | nil => rfl
  | cons input rest ih => rw [updateContent, List.map_cons, ih, List.length_cons, List.range'_succ]

/-- A session is numbered from one on without a hole. -/
theorem sessionContent_sequences (accepted : SubscriptionAccepted) (snapshot : L.LocalSnapshot) (generation : Option Nat)
    (updates : List (DepthUpdateInput L)) :
    (sessionContent accepted snapshot generation updates).map (·.1) = List.range' 1 (updates.length + 2) := by
  rw [sessionContent, List.map_cons, List.map_cons, updateContent_sequences, List.range'_succ, List.range'_succ]

/-- Records that follow their session are numbered from one on. -/
theorem follows_sequences {setup : Setup L} {channel : Nat} {log : List (BookEvent L)} (h : Follows setup channel log records) :
    records.map (·.sessionSequence) = List.range' 1 records.length := by
  obtain ⟨accepted, snapshot, projection, generation, -, -, hp⟩ := h
  have hfst : records.map (·.sessionSequence) = (records.map recordContent).map (·.1) := by
    rw [List.map_map]
    rfl
  have hbegins : records.map (·.sessionSequence) <+: List.range' 1 ((appliedSince channel log).length + 2) := by
    rw [hfst, ← sessionContent_sequences accepted snapshot generation]
    exact hp.map _
  have hlength : records.length ≤ (appliedSince channel log).length + 2 := by
    simpa using hbegins.length_le
  rw [List.prefix_iff_eq_take.mp hbegins, List.length_map, List.take_range'_of_length_ge hlength]

/-- A transcript is numbered from one on, when its gap comes behind its records. -/
theorem transcript_sequences {setup : Setup L} {channel : Nat} {log : List (BookEvent L)} (h : Follows setup channel log records)
    (hg : ∀ d, gap = some d → d.sessionSequence = records.length + 1) (c : SubscriberChannel L.LocalSnapshot L.DepthUpdate) :
    (transcript key c records gap).map (·.deliveryMetadata.sessionSequence) =
      List.range' 1 (transcript key c records gap).length := by
  have hrecords : (records.map (materializeRecord c)).map (·.deliveryMetadata.sessionSequence) = List.range' 1 records.length := by
    rw [← follows_sequences h, List.map_map]
    rfl
  unfold transcript
  rw [List.map_append, hrecords]
  cases gap with
  | none => simp
  | some d =>
    have hlength : (records.map (materializeRecord c) ++ [materializeGap c d key.market key.symbol]).length = records.length + 1 := by
      simp
    show List.range' 1 records.length ++ [d.sessionSequence] = List.range' 1 (_ ++ [_]).length
    rw [hlength, List.range'_concat, hg d rfl, Nat.one_mul, Nat.add_comm]

/-! ## In the loop -/

/-- Between two sections of its loop a handler has written what the session has delivered, and behind it at most the publication it is
about to acknowledge. -/
def InLoop (key : MarketKey) (sub : Subscriber L) (records : List (PublicationRecord L.LocalSnapshot L.DepthUpdate))
    (gap : Option TerminalDescriptor) : StreamPlace L → Prop
  | .looking | .peeking | .deciding | .waiting => records = sub.delivered ∧ gap = none
  | .materializing p => records = sub.delivered ∧ gap = none ∧ Fronts sub p
  | .writing p item => records = sub.delivered ∧ gap = none ∧ Fronts sub p ∧
      materializeStreamItemFor sub.channel p key.market key.symbol = some item
  | .acknowledging p => records = sub.delivered ++ p.ordinary.toList.map (·.value) ∧ gap = p.terminal ∧ Fronts sub p

/-- What is so when a handler has left its loop. -/
structure Over (sub : Subscriber L) (records : List (PublicationRecord L.LocalSnapshot L.DepthUpdate))
    (gap : Option TerminalDescriptor) (ended : StreamEnd) : Prop where
  possible : ended ≠ .mismatch ∧ ended ≠ .terminalAcknowledged
  delivered : sub.delivered <+: records ∧ records.length ≤ sub.delivered.length + 1
  last : ∀ d, gap = some d → records = sub.delivered ∧ d.sessionSequence = records.length + 1
  terminal : sub.deliveredTerminal = none ∨ sub.deliveredTerminal = gap
  level : (∀ cancelled, ended ≠ .writeEnded cancelled) → ended ≠ .acknowledgedClosed → records = sub.delivered ∧ gap = none
  closed : ended = .channelClosed ∨ ended = .acknowledgedClosed → sub.channel.state = .closed

/-- A handler goes on in its loop, or has left it. -/
def Served (key : MarketKey) (sub : Subscriber L) (records : List (PublicationRecord L.LocalSnapshot L.DepthUpdate))
    (gap : Option TerminalDescriptor) : Onward L → Prop
  | .goes place => sub.deliveredTerminal = none ∧ InLoop key sub records gap place
  | .ends ended => Over sub records gap ended

/-- A handler in its loop is at most one record or its gap ahead of what has been delivered. -/
theorem InLoop.ahead {place : StreamPlace L} (h : InLoop key sub records gap place) :
    sub.delivered <+: records ∧ records.length ≤ sub.delivered.length + 1 ∧
      ∀ d, gap = some d → records = sub.delivered ∧ d.sessionSequence = records.length + 1 := by
  have hlevel : records = sub.delivered → gap = none → sub.delivered <+: records ∧ records.length ≤ sub.delivered.length + 1 ∧
      ∀ d, gap = some d → records = sub.delivered ∧ d.sessionSequence = records.length + 1 := by
    rintro rfl rfl
    exact ⟨List.prefix_rfl, Nat.le_succ _, by simp⟩
  cases place with
  | looking | peeking | deciding | waiting => exact hlevel h.1 h.2
  | materializing p => exact hlevel h.1 h.2.1
  | writing p item => exact hlevel h.1 h.2.1
  | acknowledging p =>
    obtain ⟨rfl, rfl, hp⟩ := h
    cases hp with
    | record r rest hp hq => exact ⟨List.prefix_append _ _, by simp, by simp⟩
    | terminal d hp hq hs ht hd =>
      refine ⟨List.prefix_append _ _, by simp, fun d' hd' => ?_⟩
      obtain rfl := Option.some.inj hd'
      simpa using hd

/-- A move of its channel leaves a writer in its loop. -/
theorem InLoop.moved {place : StreamPlace L} (h : InLoop key sub records gap place)
    {c : SubscriberChannel L.LocalSnapshot L.DepthUpdate} (hm : ChannelMove sub.channel c) :
    InLoop key { sub with channel := c } records gap place := by
  cases place with
  | looking | peeking | deciding | waiting => exact h
  | materializing p => exact ⟨h.1, h.2.1, h.2.2.moved hm⟩
  | writing p item =>
    obtain ⟨hr, hg, hp, hi⟩ := h
    refine ⟨hr, hg, hp.moved hm, ?_⟩
    unfold materializeStreamItemFor at hi ⊢
    rw [materializeRecord_congr hm.names.1 hm.names.2, funext fun d => materializeGap_congr hm.names.1 hm.names.2 d _ _]
    exact hi
  | acknowledging p => exact ⟨h.1, h.2.1, h.2.2.moved hm⟩

/-- A move of its channel leaves a writer at its end. -/
theorem Over.moved {ended : StreamEnd} (h : Over sub records gap ended)
    {c : SubscriberChannel L.LocalSnapshot L.DepthUpdate} (hm : ChannelMove sub.channel c) :
    Over { sub with channel := c } records gap ended :=
  { h with closed := fun he => hm.closed (h.closed he) }

/-- A writer at its end may close. -/
theorem Over.closeFromWriter {ended : StreamEnd} (h : Over sub records gap ended) : Over sub.closeFromWriter records gap ended :=
  { h with closed := fun _ => rfl }

/-- Everything on the wire has been delivered, and no gap. -/
theorem Over.of_level {ended : StreamEnd} (hr : records = sub.delivered) (hg : gap = none) (ht : sub.deliveredTerminal = none)
    (hp : ended ≠ .mismatch ∧ ended ≠ .terminalAcknowledged)
    (hc : ended = .channelClosed ∨ ended = .acknowledgedClosed → sub.channel.state = .closed) : Over sub records gap ended where
  possible := hp
  delivered := by rw [hr]; exact ⟨List.prefix_rfl, Nat.le_succ _⟩
  last d hd := by rw [hg] at hd; cases hd
  terminal := Or.inl ht
  level _ _ := ⟨hr, hg⟩
  closed := hc

/-- The publication is on the wire and not acknowledged. -/
theorem Over.of_front {ended : StreamEnd} {p : PeekedPublication L.LocalSnapshot L.DepthUpdate} (hp : Fronts sub p)
    (ht : sub.deliveredTerminal = none) (he : (∃ cancelled, ended = .writeEnded cancelled) ∨ ended = .acknowledgedClosed)
    (hc : ended = .acknowledgedClosed → sub.channel.state = .closed) :
    Over sub (sub.delivered ++ p.ordinary.toList.map (·.value)) p.terminal ended where
  possible := by rcases he with ⟨cancelled, rfl⟩ | rfl <;> simp
  delivered := by
    refine ⟨List.prefix_append _ _, ?_⟩
    cases hp <;> simp
  last d hd := by
    cases hp with
    | record r rest hp hq => cases hd
    | terminal d' hp hq hs ht hsequence =>
      obtain rfl := Option.some.inj hd
      simpa using hsequence
  terminal := Or.inl ht
  level hwrite hack := by
    rcases he with ⟨cancelled, rfl⟩ | rfl
    · exact absurd rfl (hwrite cancelled)
    · exact absurd rfl hack
  closed h := by
    rcases h with rfl | rfl
    · rcases he with ⟨cancelled, he⟩ | he <;> cases he
    · exact hc rfl

/-! ## One section -/

/-- What the acknowledgement of the front does: the record is delivered, the gap is, or the owner has closed the session. -/
theorem Fronts.acknowledge {p : PeekedPublication L.LocalSnapshot L.DepthUpdate} (h : Fronts sub p) :
    (sub.channel.state = .closed ∧ (sub.channel.acknowledge p).1 = .closed ∧ sub.acknowledge p = sub) ∨
    (p.terminal = none ∧ (sub.channel.acknowledge p).1 = .acknowledged ∧
      (sub.acknowledge p).delivered = sub.delivered ++ p.ordinary.toList.map (·.value) ∧
      (sub.acknowledge p).deliveredTerminal = sub.deliveredTerminal) ∨
    ((sub.channel.acknowledge p).1 = .closed ∧ p.ordinary = none ∧ (sub.acknowledge p).channel.state = .closed ∧
      (sub.acknowledge p).delivered = sub.delivered ∧ (sub.acknowledge p).deliveredTerminal = p.terminal) := by
  by_cases hc : sub.channel.state = .closed
  · refine Or.inl ⟨hc, by simp [SubscriberChannel.acknowledge, hc], ?_⟩
    simp [Subscriber.acknowledge, SubscriberChannel.acknowledge, hc]
  · right
    cases h with
    | record r rest hp hq =>
      have hfront : sub.channel.ordinaryRing.front = some r := by rw [SubscriberChannel.front_eq, hq]; rfl
      have hack : (sub.channel.acknowledge { ordinary := some r }).1 = .acknowledged := by
        simp [SubscriberChannel.acknowledge, hc, hfront]
      refine Or.inl ⟨rfl, hack, ?_, ?_⟩
      · simp [Subscriber.acknowledge, hack]
      · simp [Subscriber.acknowledge, hack]
    | terminal d hp hq hs ht hd =>
      have hsize : sub.channel.ordinaryRing.size = 0 := by rw [← SubscriberChannel.queued_length, hq]; rfl
      have hack : sub.channel.acknowledge { terminal := some d } =
          (.closed, { sub.channel with terminal := none, state := .closed }) := by
        simp [SubscriberChannel.acknowledge, hc, ht, hsize]
      refine Or.inr ⟨by rw [hack], rfl, ?_, ?_, ?_⟩
      · simp [Subscriber.acknowledge, hack]
      · simp [Subscriber.acknowledge, hack]
      · simp [Subscriber.acknowledge, hack, hc]

/-- A section of the loop leaves the session as it is or makes one move of its writer. -/
theorem serve_moves {place : StreamPlace L} (hl : InLoop key sub records gap place) (w : StreamOutcome) :
    (serve key w sub place).1 = sub ∨ WriterMove sub (serve key w sub place).1 := by
  cases place with
  | looking | deciding | waiting | materializing _ | writing _ _ => exact Or.inl rfl
  | peeking => exact Or.inr .peek
  | acknowledging p => exact Or.inr (.acknowledge hl.2.2.peeked)

/-- A section of the loop writes what is at the front or nothing, and goes on or ends accordingly. -/
theorem serve_served {place : StreamPlace L} (hf : SubscriberFacts n sub) (hl : InLoop key sub records gap place)
    (ht : sub.deliveredTerminal = none) (w : StreamOutcome) :
    ∃ records' gap', transcript key sub.channel records gap ++ writtenAt w place = transcript key sub.channel records' gap' ∧
      (records' = records ∨ records' <+: sub.records) ∧
      Served key (serve key w sub place).1 records' gap' (serve key w sub place).2 := by
  cases place with
  | looking =>
    obtain ⟨hr, hg⟩ := hl
    refine ⟨records, gap, List.append_nil _, Or.inl rfl, ?_⟩
    show Served key sub records gap (if w.cancelled = true then .ends .clientCancelled else .goes .peeking)
    split
    · exact .of_level hr hg ht (by simp) (by simp)
    · exact ⟨ht, hr, hg⟩
  | peeking =>
    obtain ⟨hr, hg⟩ := hl
    refine ⟨records, gap, List.append_nil _, Or.inl rfl, ht, ?_⟩
    show InLoop key sub.peek records gap (if sub.channel.peek.hasValue = true then .materializing sub.channel.peek else .deciding)
    split
    · rename_i hv
      exact ⟨hr, hg, .of_peek hf hv⟩
    · exact ⟨hr, hg⟩
  | deciding =>
    obtain ⟨hr, hg⟩ := hl
    refine ⟨records, gap, List.append_nil _, Or.inl rfl, ?_⟩
    show Served key sub records gap (if sub.channel.state = .closed then .ends .channelClosed else .goes .waiting)
    split
    · rename_i hc
      exact .of_level hr hg ht (by simp) fun _ => hc
    · exact ⟨ht, hr, hg⟩
  | waiting => exact ⟨records, gap, List.append_nil _, Or.inl rfl, ht, hl⟩
  | materializing p =>
    obtain ⟨hr, hg, hp⟩ := hl
    obtain ⟨item, hi⟩ := hp.item sub.channel key
    refine ⟨records, gap, List.append_nil _, Or.inl rfl, ?_⟩
    simp only [serve, hi]
    split
    · exact ⟨ht, hr, hg, hp, hi⟩
    · exact .of_level hr hg ht (by simp) (by simp)
  | writing p item =>
    obtain ⟨hr, hg, hp, hi⟩ := hl
    obtain rfl := hr
    subst hg
    cases hw : w.write with
    | threw =>
      refine ⟨sub.delivered, none, by simp [writtenAt, hw], Or.inl rfl, ?_⟩
      simp only [serve, hw]
      exact .of_level rfl rfl ht (by simp) (by simp)
    | failed =>
      refine ⟨sub.delivered, none, by simp [writtenAt, hw], Or.inl rfl, ?_⟩
      simp only [serve, hw]
      exact .of_level rfl rfl ht (by simp) (by simp)
    | succeeded =>
      refine ⟨_, _, by simpa [writtenAt, hw] using transcript_item hp hi, Or.inr ?_, ?_⟩
      · cases hp with
        | record r rest hp hq =>
          rw [Subscriber.records, hq]
          exact ⟨rest.map (·.value), by simp⟩
        | terminal d hp hq hs ht hd => exact ⟨sub.channel.queued.map (·.value), by simp [Subscriber.records]⟩
      · simp only [serve, hw]
        split
        · exact .of_front hp ht (Or.inl ⟨_, rfl⟩) (by simp)
        · exact ⟨ht, rfl, rfl, hp⟩
  | acknowledging p =>
    obtain ⟨hr, hg, hp⟩ := hl
    subst hr hg
    refine ⟨_, _, List.append_nil _, Or.inl rfl, ?_⟩
    rcases hp.acknowledge with ⟨hc, hack, he⟩ | ⟨hnone, hack, hd, hdt⟩ | ⟨hack, hnone, hc, hd, hdt⟩
    · simp only [serve, hack, he]
      exact .of_front hp ht (Or.inr rfl) fun _ => hc
    · simp only [serve, hack, PeekedPublication.isTerminal, hnone]
      exact ⟨hdt.trans ht, hd.symm, rfl⟩
    · simp only [serve, hack]
      refine ⟨by simp, ?_, fun d hg => ?_, Or.inr hdt, by simp, fun _ => hc⟩
      · rw [hnone, hd]
        simp
      · cases hp with
        | record r rest hp hq => cases hnone
        | terminal d' hp hq hs ht' hsequence =>
          obtain rfl := Option.some.inj hg
          rw [hd]
          simpa using hsequence

end MarketDataGateway.GrpcService
