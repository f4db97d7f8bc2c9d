import MarketDataGateway.Runtime.Api

/-!
# Sessions

What one subscriber can ever have received: an acceptance, the book as it was at the admission, and then the updates applied to it
since, in order. `sessionContent` is that sequence, read off the history of the book; `Follows` says that a session's records are a
prefix of it, and `Current` how much of it is missing.
-/

namespace MarketDataGateway.MarketRuntime

open OrderBook

variable {L : ProjectionLibrary}

/-- What a record says, its publication time apart. -/
abbrev RecordContent (L : ProjectionLibrary) := Nat × Option Nat × OrdinaryPayload L.LocalSnapshot L.DepthUpdate

def recordContent (r : PublicationRecord L.LocalSnapshot L.DepthUpdate) : RecordContent L :=
  (r.sessionSequence, r.connectionGeneration, r.payload)

/-- Depth updates in consecutive records. -/
def updateContent : Nat → List (DepthUpdateInput L) → List (RecordContent L)
  | _, [] => []
  | n, input :: rest =>
    (n, input.provenance.connectionGeneration, .depthUpdate input.update) :: updateContent (n + 1) rest

/-- The whole of a session: acceptance, snapshot, updates. -/
def sessionContent (accepted : SubscriptionAccepted) (snapshot : L.LocalSnapshot) (generation : Option Nat)
    (updates : List (DepthUpdateInput L)) : List (RecordContent L) :=
  (1, none, .subscriptionAccepted accepted) :: (2, generation, .snapshot snapshot) :: updateContent 3 updates

/-- There is a record for each update. -/
theorem length_updateContent (n : Nat) (updates : List (DepthUpdateInput L)) :
    (updateContent n updates).length = updates.length := by
  induction updates generalizing n with
  | nil => rfl
  | cons u rest ih => simp [updateContent, ih]

/-- A session has two records more than updates. -/
theorem length_sessionContent (accepted : SubscriptionAccepted) (snapshot : L.LocalSnapshot) (generation : Option Nat)
    (updates : List (DepthUpdateInput L)) :
    (sessionContent accepted snapshot generation updates).length = updates.length + 2 := by
  simp [sessionContent, length_updateContent]

/-- More updates continue the numbers of those before. -/
theorem updateContent_append (n : Nat) (updates rest : List (DepthUpdateInput L)) :
    updateContent n (updates ++ rest) = updateContent n updates ++ updateContent (n + updates.length) rest := by
  induction updates generalizing n with
  | nil => rfl
  | cons u updates ih =>
    simp only [List.cons_append, updateContent, ih, List.length_cons]
    rw [show n + 1 + updates.length = n + (updates.length + 1) by omega]

/-- More updates continue a session. -/
theorem sessionContent_append (accepted : SubscriptionAccepted) (snapshot : L.LocalSnapshot) (generation : Option Nat)
    (updates rest : List (DepthUpdateInput L)) :
    sessionContent accepted snapshot generation (updates ++ rest) =
      sessionContent accepted snapshot generation updates ++ updateContent (updates.length + 3) rest := by
  simp [sessionContent, updateContent_append, Nat.add_comm]

/-! ## The history of the book -/

/-- The generation of the last baseline since the last reset. -/
def installedGeneration : List (BookEvent L) → Option Nat
  | [] => none
  | .installed generation :: _ => generation
  | .reset :: _ => none
  | _ :: past => installedGeneration past

/-- The book a session was admitted with, and its generation. -/
def admission (channel : Nat) : List (BookEvent L) → Option (L.Projection × Option Nat)
  | [] => none
  | .admitted c projection :: past =>
    if c = channel then some (projection, installedGeneration past) else admission channel past
  | _ :: past => admission channel past

/-- The updates applied since a session was admitted, oldest first. -/
def appliedSince (channel : Nat) : List (BookEvent L) → List (DepthUpdateInput L)
  | [] => []
  | .admitted c _ :: past => if c = channel then [] else appliedSince channel past
  | .applied input :: past => appliedSince channel past ++ [input]
  | _ :: past => appliedSince channel past

/-- A reset has been served since a session was admitted, to its end or until the projection threw. -/
def resetSince (channel : Nat) : List (BookEvent L) → Bool
  | [] => false
  | .admitted c _ :: past => if c = channel then false else resetSince channel past
  | .reset :: _ | .resetThrew :: _ => true
  | _ :: past => resetSince channel past

/-- An event that neither admits a session nor applies an update. -/
def BookEvent.isSilent : BookEvent L → Bool
  | .admitted _ _ | .applied _ => false
  | _ => true

/-- A silent event leaves the admission of a session as it is. -/
theorem admission_silent {e : BookEvent L} (he : e.isSilent = true) (channel : Nat) (log : List (BookEvent L)) :
    admission channel (e :: log) = admission channel log := by
  cases e <;> first | rfl | cases he

/-- A silent event applies nothing. -/
theorem appliedSince_silent {e : BookEvent L} (he : e.isSilent = true) (channel : Nat) (log : List (BookEvent L)) :
    appliedSince channel (e :: log) = appliedSince channel log := by
  cases e <;> first | rfl | cases he

/-- The snapshot is what the library makes of the projection. -/
def SnapshotOf (setup : Setup L) (projection : L.Projection) (snapshot : L.LocalSnapshot) : Prop :=
  ∃ (publishedAt : PublicationTime) (depthLimit : Option L.DepthLimit),
    L.makeLocalOrderBookSnapshot projection setup.expectedIdentity
      ⟨"gateway-g7-publication", "1.0.0", publishedAt.utcNs, publishedAt.monotonicNs⟩ depthLimit = .ok snapshot

/-- The records are a prefix of what the session should have received. -/
def Follows (setup : Setup L) (channel : Nat) (log : List (BookEvent L))
    (records : List (PublicationRecord L.LocalSnapshot L.DepthUpdate)) : Prop :=
  ∃ accepted snapshot projection generation, admission channel log = some (projection, generation) ∧
    SnapshotOf setup projection snapshot ∧
    records.map recordContent <+: sessionContent accepted snapshot generation (appliedSince channel log)

/-- The records are all the session should have received but for the last few updates. -/
def Current (setup : Setup L) (channel : Nat) (log : List (BookEvent L)) (missing : List (DepthUpdateInput L))
    (records : List (PublicationRecord L.LocalSnapshot L.DepthUpdate)) : Prop :=
  ∃ accepted snapshot projection generation updates, admission channel log = some (projection, generation) ∧
    SnapshotOf setup projection snapshot ∧ appliedSince channel log = updates ++ missing ∧
    records.map recordContent = sessionContent accepted snapshot generation updates

variable {setup : Setup L} {channel : Nat} {log : List (BookEvent L)}
  {records records' : List (PublicationRecord L.LocalSnapshot L.DepthUpdate)} {missing : List (DepthUpdateInput L)}

/-- A session that is current follows the book. -/
theorem Current.follows (h : Current setup channel log missing records) : Follows setup channel log records := by
  obtain ⟨a, sn, p, g, us, had, hsn, hap, hr⟩ := h
  exact ⟨a, sn, p, g, had, hsn, by rw [hap, hr, sessionContent_append]; exact List.prefix_append _ _⟩

/-- Fewer records follow the book too. -/
theorem Follows.narrowed (h : Follows setup channel log records) (hp : records' <+: records) :
    Follows setup channel log records' := by
  obtain ⟨a, sn, p, g, had, hsn, hr⟩ := h
  exact ⟨a, sn, p, g, had, hsn, (hp.map recordContent).trans hr⟩

/-- A silent event leaves a session following. -/
theorem Follows.silent {e : BookEvent L} (he : e.isSilent = true) (h : Follows setup channel log records) :
    Follows setup channel (e :: log) records := by
  unfold Follows
  rw [admission_silent he, appliedSince_silent he]
  exact h

/-- A silent event leaves a session current. -/
theorem Current.silent {e : BookEvent L} (he : e.isSilent = true) (h : Current setup channel log missing records) :
    Current setup channel (e :: log) missing records := by
  unfold Current
  rw [admission_silent he, appliedSince_silent he]
  exact h

/-- One more update is applied. -/
theorem Follows.applied (input : DepthUpdateInput L) (h : Follows setup channel log records) :
    Follows setup channel (.applied input :: log) records := by
  obtain ⟨a, sn, p, g, had, hsn, hr⟩ := h
  refine ⟨a, sn, p, g, had, hsn, ?_⟩
  rw [appliedSince, sessionContent_append]
  exact hr.trans (List.prefix_append _ _)

/-- A session that has everything lacks the update that has just been applied. -/
theorem Current.applied (input : DepthUpdateInput L) (h : Current setup channel log missing records) :
    Current setup channel (.applied input :: log) (missing ++ [input]) records := by
  obtain ⟨a, sn, p, g, us, had, hsn, hap, hr⟩ := h
  exact ⟨a, sn, p, g, us, had, hsn, by rw [appliedSince, hap, List.append_assoc], hr⟩

/-- A session that lacks one update gets it, with the next sequence. -/
theorem Current.extend {input : DepthUpdateInput L} (h : Current setup channel log [input] records)
    (publishedAt : PublicationTime) :
    Current setup channel log [] (records ++
      [⟨records.length + 1, input.provenance.connectionGeneration, publishedAt, .depthUpdate input.update⟩]) := by
  obtain ⟨a, sn, p, g, us, had, hsn, hap, hr⟩ := h
  have hlen : records.length = us.length + 2 := by
    have := congrArg List.length hr
    rwa [List.length_map, length_sessionContent] at this
  refine ⟨a, sn, p, g, us ++ [input], had, hsn, by rw [hap, List.append_nil], ?_⟩
  rw [List.map_append, hr, sessionContent_append, hlen]
  rfl

/-- Another session is admitted. -/
theorem Follows.admitted {c : Nat} (hc : c ≠ channel) (projection : L.Projection) (h : Follows setup channel log records) :
    Follows setup channel (.admitted c projection :: log) records := by
  unfold Follows
  rw [admission, appliedSince, if_neg hc, if_neg hc]
  exact h

/-- The admission of another session leaves this one current. -/
theorem Current.admitted {c : Nat} (hc : c ≠ channel) (projection : L.Projection)
    (h : Current setup channel log missing records) :
    Current setup channel (.admitted c projection :: log) missing records := by
  unfold Current
  rw [admission, appliedSince, if_neg hc, if_neg hc]
  exact h

/-- A new session with its two initial records has all there is. -/
theorem current_of_staged {projection : L.Projection} {snapshot : L.LocalSnapshot} (hs : SnapshotOf setup projection snapshot)
    (requestId subscriptionId gatewayInstanceId : String) (publishedAt : PublicationTime) :
    Current setup channel (.admitted channel projection :: log) []
      [makeAcceptedRecord requestId subscriptionId gatewayInstanceId publishedAt,
        makeSnapshotRecord snapshot (installedGeneration log) publishedAt] := by
  refine ⟨_, snapshot, projection, installedGeneration log, [], ?_, hs, ?_, rfl⟩
  · rw [admission, if_pos rfl]
  · rw [appliedSince, if_pos rfl]; rfl

/-! ## One subscriber -/

/-- The record is queued, or the writer has been handed it. -/
def Subscriber.Holds (s : Subscriber L) (r : Shared (PublicationRecord L.LocalSnapshot L.DepthUpdate)) : Prop :=
  r ∈ s.channel.queued ∨ ∃ p ∈ s.peeked, p.ordinary = some r

/-- Addresses identify records, the sequence counter counts them, and the terminal comes right behind them. -/
structure SubscriberFacts (nextAddress : Nat) (s : Subscriber L) : Prop where
  below : ∀ r, s.Holds r → r.address < nextAddress
  distinct : ∀ r, s.Holds r → ∀ q ∈ s.channel.queued, r.address = q.address → r.value = q.value
  active : s.channel.state = .active → s.channel.terminal = none ∧ s.channel.nextSessionSequence = s.records.length + 1
  gap : s.channel.state = .terminalGap →
    ∃ d, s.channel.terminal = some d ∧ d.sessionSequence = s.records.length + 1
  ended : ∀ d, s.deliveredTerminal = some d → s.channel.state = .closed ∧ d.sessionSequence = s.delivered.length + 1

/-- From `s` to `t` the session has got nothing new to deliver, and if it was closed it has delivered nothing. -/
structure Narrows (s t : Subscriber L) : Prop where
  active : t.channel.state = .active → s.channel.state = .active ∧ t.records = s.records
  records : t.records <+: s.records
  closed : s.channel.state = .closed →
    t.channel.state = .closed ∧ t.delivered = s.delivered ∧ t.deliveredTerminal = s.deliveredTerminal

/-- A subscriber narrows to itself. -/
theorem Narrows.refl (s : Subscriber L) : Narrows s s := ⟨fun h => ⟨h, rfl⟩, List.prefix_refl _, fun h => ⟨h, rfl, rfl⟩⟩

/-- Narrowing twice is narrowing. -/
theorem Narrows.trans {s t u : Subscriber L} (h : Narrows s t) (h' : Narrows t u) : Narrows s u where
  active hu := ⟨(h.active (h'.active hu).1).1, (h'.active hu).2.trans (h.active (h'.active hu).1).2⟩
  records := h'.records.trans h.records
  closed hs :=
    have ⟨hc, hd, ht⟩ := h.closed hs
    have ⟨hc', hd', ht'⟩ := h'.closed hc
    ⟨hc', hd'.trans hd, ht'.trans ht⟩

/-- What narrows from a session that is not active is not active. -/
theorem Narrows.inactive {s t : Subscriber L} (h : Narrows s t) (hs : s.channel.state ≠ .active) :
    t.channel.state ≠ .active :=
  fun ht => hs (h.active ht).1

/-- Every outcome of an acknowledgement, with the subscriber it leaves. -/
theorem Subscriber.acknowledge_cases (s : Subscriber L) (p : PeekedPublication L.LocalSnapshot L.DepthUpdate) :
    (∃ front rest r c, s.channel.state ≠ .closed ∧ p.ordinary = some r ∧ s.channel.queued = front :: rest ∧
      front.address = r.address ∧ s.acknowledge p = { s with channel := c, delivered := s.delivered ++ [r.value] } ∧
      c.queued = rest ∧ c.state = s.channel.state ∧ c.terminal = s.channel.terminal ∧
      c.nextSessionSequence = s.channel.nextSessionSequence) ∨
    (∃ d, s.channel.state ≠ .closed ∧ s.channel.queued = [] ∧ s.channel.terminal = some d ∧
      s.acknowledge p = { s with
        channel := { s.channel with terminal := none, state := .closed }
        deliveredTerminal := some d }) ∨
    s.acknowledge p = s := by
  unfold Subscriber.acknowledge
  rcases s.channel.acknowledge_cases p with
    ⟨front, rest, r, hst, hr, hq, ha, h1, hq', hst', hterm', hnext'⟩ | ⟨d, hst, hpo, hpt, hq, hterm, heq⟩ | ⟨heq, h1, h2⟩
  · refine Or.inl ⟨front, rest, r, (s.channel.acknowledge p).2, hst, hr, hq, ha, ?_, hq', hst', hterm', hnext'⟩
    have hnc : ¬(AcknowledgeResult.acknowledged = .closed ∧ s.channel.state ≠ .closed) := by rintro ⟨hh, -⟩; cases hh
    simp only [h1, hr, if_neg hnc]
  · exact Or.inr (Or.inl ⟨d, hst, hq, hterm, by simp only [heq, hpt, if_pos (⟨trivial, hst⟩ : True ∧ s.channel.state ≠ .closed)]⟩)
  · right; right
    have hnc : ¬((s.channel.acknowledge p).1 = .closed ∧ s.channel.state ≠ .closed) := fun hh => hh.2 (h2 hh.1)
    cases hres : (s.channel.acknowledge p).1 with
    | acknowledged => exact absurd hres h1
    | closed => simp only [heq, hres, h2 hres, ne_eq, not_true_eq_false, and_false, if_false]
    | mismatch => rw [hres] at hnc; simp only [heq, hres, if_neg hnc]

/-- What a writer does to its own subscriber. -/
inductive WriterMove (s : Subscriber L) : Subscriber L → Prop where
  | peek : WriterMove s s.peek
  | acknowledge {p} (h : p ∈ s.peeked) : WriterMove s (s.acknowledge p)
  | close : WriterMove s s.closeFromWriter

namespace SubscriberFacts

variable {n : Nat} {s : Subscriber L}

/-- A look of the writer keeps the facts about its subscriber. -/
theorem peek (h : SubscriberFacts n s) : SubscriberFacts n s.peek := by
  have hold : ∀ r, s.peek.Holds r → s.Holds r := by
    rintro r (hq | ⟨p, hp, hr⟩)
    · exact Or.inl hq
    · rcases List.mem_cons.mp hp with rfl | hp
      · left
        by_cases hc : s.channel.state = .closed
        · simp [SubscriberChannel.peek, hc] at hr
        · rw [SubscriberChannel.peek_eq hc] at hr
          cases hq : s.channel.queued with
          | nil => rw [hq] at hr; cases hr
          | cons front rest => rw [hq] at hr; cases hr; exact List.mem_cons_self
      · exact Or.inr ⟨p, hp, hr⟩
  exact ⟨fun r hr => h.below r (hold r hr), fun r hr => h.distinct r (hold r hr), h.active, h.gap, h.ended⟩

/-- An acknowledgement moves the front record to the delivered ones, or delivers the terminal, or does nothing. -/
theorem acknowledge (h : SubscriberFacts n s) {p : PeekedPublication L.LocalSnapshot L.DepthUpdate} (hp : p ∈ s.peeked) :
    SubscriberFacts n (s.acknowledge p) ∧ Narrows s (s.acknowledge p) := by
  rcases s.acknowledge_cases p with
    ⟨front, rest, r, c, hst, hr, hq, ha, he, hq', hst', hterm', hnext'⟩ | ⟨d, hst, hq, hterm, he⟩ | he
  · -- the peeked record is the front, because their addresses are the same
    have hval : r.value = front.value := h.distinct r (Or.inr ⟨p, hp, hr⟩) front (by rw [hq]; exact List.mem_cons_self) ha.symm
    have hrec : (s.acknowledge p).records = s.records := by
      rw [he, Subscriber.records, Subscriber.records, hq', hq, hval, List.map_cons, List.append_assoc]; rfl
    have hold : ∀ q, (s.acknowledge p).Holds q → s.Holds q := by
      rw [he]
      rintro q (hm | hm)
      · have hm' : q ∈ c.queued := hm
        exact Or.inl (by rw [hq]; rw [hq'] at hm'; exact List.mem_cons_of_mem _ hm')
      · exact Or.inr hm
    constructor
    · refine ⟨fun q hh => h.below q (hold q hh), fun q hh q' hm => h.distinct q (hold q hh) q' ?_, fun hs => ?_, fun hs => ?_,
        fun d hd => ?_⟩
      · rw [he] at hm
        have hm' : q' ∈ c.queued := hm
        rw [hq]; rw [hq'] at hm'; exact List.mem_cons_of_mem _ hm'
      · rw [hrec]; rw [he] at hs ⊢; rw [hterm', hnext']; exact h.active (hst' ▸ hs)
      · rw [hrec]; rw [he] at hs ⊢; rw [hterm']; exact h.gap (hst' ▸ hs)
      · rw [he] at hd; exact absurd (h.ended d hd).1 hst
    · exact ⟨fun hs => ⟨by rw [he] at hs; exact hst' ▸ hs, hrec⟩, hrec ▸ List.prefix_refl _, fun hc => absurd hc hst⟩
  · have hgap : s.channel.state = .terminalGap := by
      cases hs : s.channel.state with
      | active => rw [(h.active hs).1] at hterm; cases hterm
      | terminalGap => rfl
      | closed => exact absurd hs hst
    obtain ⟨d', hd', hseq⟩ := h.gap hgap
    obtain rfl : d' = d := by rw [hterm] at hd'; exact (Option.some.inj hd').symm
    have hlen : s.records.length = s.delivered.length := by rw [Subscriber.records, hq]; simp
    rw [he]
    constructor
    · refine ⟨h.below, h.distinct, fun hs => (by cases hs), fun hs => (by cases hs), fun e hd => ⟨rfl, ?_⟩⟩
      obtain rfl := Option.some.inj hd
      rw [hseq, hlen]
    · exact ⟨fun hs => (by cases hs), List.prefix_refl _, fun hc => absurd hc hst⟩
  · rw [he]
    exact ⟨h, Narrows.refl s⟩

/-- A channel that closes keeps its queue or loses it. -/
theorem close {c : SubscriberChannel L.LocalSnapshot L.DepthUpdate} (h : SubscriberFacts n s) (hs : c.state = .closed)
    (hq : c.queued = s.channel.queued ∨ c.queued = []) :
    SubscriberFacts n { s with channel := c } ∧ Narrows s { s with channel := c } := by
  have hsub : ∀ r ∈ c.queued, r ∈ s.channel.queued := by
    rcases hq with hq | hq <;> rw [hq]
    · exact fun r hr => hr
    · exact fun r hr => by cases hr
  have hrec : ({ s with channel := c } : Subscriber L).records <+: s.records := by
    unfold Subscriber.records
    rcases hq with hq | hq <;> simp only [hq]
    · exact List.prefix_refl _
    · rw [List.map_nil, List.append_nil]; exact List.prefix_append _ _
  constructor
  · refine ⟨fun r hr => h.below r (hr.imp_left (hsub r)), fun r hr q hm => h.distinct r (hr.imp_left (hsub r)) q (hsub q hm),
      fun ha => ?_, fun ha => ?_, fun d hd => ⟨hs, (h.ended d hd).2⟩⟩
    · have : c.state = .active := ha
      rw [hs] at this; cases this
    · have : c.state = .terminalGap := ha
      rw [hs] at this; cases this
  · refine ⟨fun ha => ?_, hrec, fun _ => ⟨hs, rfl, rfl⟩⟩
    have : c.state = .active := ha
    rw [hs] at this; cases this

/-- A terminal behind the last record ends the session. -/
theorem terminal (h : SubscriberFacts n s) (ha : s.channel.state = .active) (d : TerminalDescriptor)
    (hd : d.sessionSequence = s.channel.nextSessionSequence) (next : Nat) :
    SubscriberFacts n { s with
        channel := { s.channel with
          terminal := some d
          nextSessionSequence := next
          state := .terminalGap } } ∧
      Narrows s { s with
        channel := { s.channel with
          terminal := some d
          nextSessionSequence := next
          state := .terminalGap } } := by
  constructor
  · refine ⟨h.below, h.distinct, fun hs => (by cases hs), fun _ => ⟨d, rfl, ?_⟩, fun e he => ?_⟩
    · rw [hd]; exact (h.active ha).2
    · have := (h.ended e he).1
      rw [ha] at this; cases this
  · exact ⟨fun hs => (by cases hs), List.prefix_refl _, fun hs => by rw [ha] at hs; cases hs⟩

/-- What a terminalization by the owner does. -/
theorem terminalize (h : SubscriberFacts n s) (reason : ConsumerGapReason) (action : RecoveryAction)
    (generation : Option Nat) (publishedAt : PublicationTime) :
    SubscriberFacts n { s with channel := (s.channel.terminalize reason action generation publishedAt).2 } ∧
      Narrows s { s with channel := (s.channel.terminalize reason action generation publishedAt).2 } ∧
      (s.channel.terminalize reason action generation publishedAt).2.state ≠ .active := by
  rcases s.channel.terminalize_cases reason action generation publishedAt with ⟨hs, he⟩ | ⟨ha, -, he⟩
  · rw [he]
    refine ⟨h, Narrows.refl s, fun ha => ?_⟩
    rcases hs with hs | hs
    · exact hs ha
    · exact hs (h.active ha).1
  · rw [he]
    exact ⟨(h.terminal ha _ rfl _).1, (h.terminal ha _ rfl _).2, by simp⟩

/-- The facts stay when more has been numbered. -/
theorem mono {m : Nat} (h : SubscriberFacts n s) (hm : n ≤ m) : SubscriberFacts m s :=
  { h with below := fun r hr => Nat.lt_of_lt_of_le (h.below r hr) hm }

/-- A record at a fresh address is appended to an active session. -/
theorem push (h : SubscriberFacts n s) (ha : s.channel.state = .active)
    {c : SubscriberChannel L.LocalSnapshot L.DepthUpdate} {r : PublicationRecord L.LocalSnapshot L.DepthUpdate}
    (hst : c.state = .active) (hterm : c.terminal = s.channel.terminal)
    (hnext : c.nextSessionSequence = s.channel.nextSessionSequence + 1) (hq : c.queued = s.channel.queued ++ [⟨n, r⟩]) :
    SubscriberFacts (n + 1) { s with channel := c } ∧ ({ s with channel := c } : Subscriber L).records = s.records ++ [r] := by
  have hrec : ({ s with channel := c } : Subscriber L).records = s.records ++ [r] := by
    unfold Subscriber.records
    simp [hq]
  have hold : ∀ q, ({ s with channel := c } : Subscriber L).Holds q → s.Holds q ∨ q = ⟨n, r⟩ := by
    rintro q (hm | hm)
    · have hm' : q ∈ c.queued := hm
      rw [hq] at hm'
      rcases List.mem_append.mp hm' with hm' | hm'
      · exact Or.inl (Or.inl hm')
      · exact Or.inr (List.mem_singleton.mp hm')
    · exact Or.inl (Or.inr hm)
  refine ⟨⟨fun q hh => ?_, fun q hh q' hq' heq => ?_, fun _ => ?_, fun hs => ?_, fun d hd => ?_⟩, hrec⟩
  · rcases hold q hh with hh | rfl
    · exact Nat.lt_succ_of_lt (h.below q hh)
    · exact Nat.lt_succ_self n
  · have hm : q' ∈ c.queued := hq'
    rw [hq] at hm
    rcases List.mem_append.mp hm with hm | hm
    · rcases hold q hh with hh | rfl
      · exact h.distinct q hh q' hm heq
      · have := h.below q' (Or.inl hm)
        exact absurd heq.symm (Nat.ne_of_lt this)
    · obtain rfl := List.mem_singleton.mp hm
      rcases hold q hh with hh | rfl
      · exact absurd heq (Nat.ne_of_lt (h.below q hh))
      · rfl
  · rw [hrec, List.length_append]
    exact ⟨hterm.trans (h.active ha).1, by rw [hnext, (h.active ha).2]; rfl⟩
  · have : c.state = .terminalGap := hs
    rw [hst] at this; cases this
  · have := (h.ended d hd).1
    rw [ha] at this; cases this

/-- A writer keeps the facts and adds nothing. -/
theorem writer {t : Subscriber L} (h : SubscriberFacts n s) (hm : WriterMove s t) : SubscriberFacts n t ∧ Narrows s t := by
  cases hm with
  | peek => exact ⟨h.peek, ⟨fun hs => ⟨hs, rfl⟩, List.prefix_refl _, fun hs => ⟨hs, rfl, rfl⟩⟩⟩
  | acknowledge hp => exact h.acknowledge hp
  | close =>
    refine h.close (c := s.channel.closeFromWriter) rfl (Or.inr ?_)
    exact s.channel.ordinaryRing.toList_clear

end SubscriberFacts

end MarketDataGateway.MarketRuntime
