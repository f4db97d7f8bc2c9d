import MarketDataGateway.Events.Channel

/-!
# Event sessions

One subscription: its channel, every record the publication has put into it, and what its writer has read and acknowledged so far.
`SessionMove` lists all that ever happens to a session in one section, and `SessionFacts` what each of these moves keeps.
-/

namespace MarketDataGateway.Events

variable {T : EventTypes}

/-- A channel with its history: the records ever put into it, what the writer has been handed, what it has acknowledged, and
whether it has closed the channel. -/
structure EventSession (T : EventTypes) where
  channel : EventSubscriberChannel T
  admitted : List (EventPublicationRecord T)
  peeked : List (PeekedEventPublication T) := []
  delivered : List (EventPublicationRecord T) := []
  deliveredTerminal : Option EventTerminalDescriptor := none
  writerClosed : Bool := false

namespace EventSession

/-- The writer is handed the publication at the front. -/
def peek (s : EventSession T) : EventSession T := { s with peeked := s.channel.peek :: s.peeked }

/-- The writer acknowledges what it has written; only what the channel takes back counts as delivered. -/
def acknowledge (publication : PeekedEventPublication T) (s : EventSession T) : EventSession T :=
  let result := s.channel.acknowledge publication
  { s with
    channel := result.2
    delivered :=
      match result.1, publication.ordinary with
      | .acknowledged, some record => s.delivered ++ [record.value]
      | _, _ => s.delivered
    deliveredTerminal :=
      if result.1 = .closed ∧ s.channel.state ≠ .closed then publication.terminal else s.deliveredTerminal }

def closeFromWriter (s : EventSession T) : EventSession T :=
  { s with channel := s.channel.closeFromWriter, writerClosed := true }

/-- The record that the next event becomes. -/
def nextRecord (s : EventSession T) (event : NormalizedMarketEvent T) (publishedAt : EventPublicationTime) :
    EventPublicationRecord T :=
  ⟨s.channel.nextSessionSequence, some s.channel.sourceGeneration, publishedAt, .event event⟩

/-- Publish one event to the session. -/
def admitEvent (event : NormalizedMarketEvent T) (publishedAt : EventPublicationTime) (allocation : Option Nat)
    (s : EventSession T) : EventAdmissionResult × EventSession T :=
  let result := s.channel.admitEvent event publishedAt allocation
  (result.1,
    { s with
      channel := result.2
      admitted := if result.1 = .admitted then s.admitted ++ [s.nextRecord event publishedAt] else s.admitted })

/-- The ordinary records that are acknowledged or can still be read. -/
def records (s : EventSession T) : List (EventPublicationRecord T) := s.delivered ++ s.channel.queued.map (·.value)

/-- The record is queued, or the writer has been handed it. -/
def Holds (s : EventSession T) (r : Shared (EventPublicationRecord T)) : Prop :=
  r ∈ s.channel.queued ∨ ∃ p ∈ s.peeked, p.ordinary = some r

/-- Every outcome of an acknowledgement, with the session it leaves. -/
theorem acknowledge_cases (s : EventSession T) (p : PeekedEventPublication T) :
    (∃ front rest r, s.channel.state ≠ .closed ∧ p.ordinary = some r ∧ s.channel.queued = front :: rest ∧
      front.address = r.address ∧ s.channel.ringPopLocked.queued = rest ∧
      s.acknowledge p = { s with channel := s.channel.ringPopLocked, delivered := s.delivered ++ [r.value] }) ∨
    (∃ d, s.channel.state ≠ .closed ∧ s.channel.queued = [] ∧ s.channel.terminal = some d ∧
      s.acknowledge p = { s with
        channel := { s.channel with terminal := none, state := .closed }
        deliveredTerminal := some d }) ∨
    s.acknowledge p = s := by
  unfold acknowledge
  rcases s.channel.acknowledge_cases p with
    ⟨front, rest, r, hst, hr, hq, ha, he, hrest⟩ | ⟨d, hst, hpo, hpt, hq, hterm, he⟩ | ⟨he, h1, h2⟩
  · refine Or.inl ⟨front, rest, r, hst, hr, hq, ha, hrest, ?_⟩
    have hnc : ¬(EventAcknowledgeResult.acknowledged = .closed ∧ s.channel.state ≠ .closed) := by rintro ⟨hh, -⟩; cases hh
    simp only [he, hr, if_neg hnc]
  · refine Or.inr (Or.inl ⟨d, hst, hq, hterm, ?_⟩)
    simp only [he, hpt, if_pos (⟨trivial, hst⟩ : True ∧ s.channel.state ≠ .closed)]
  · right; right
    have hnc : ¬((s.channel.acknowledge p).1 = .closed ∧ s.channel.state ≠ .closed) := fun hh => hh.2 (h2 hh.1)
    cases hres : (s.channel.acknowledge p).1 with
    | acknowledged => exact absurd hres h1
    | closed => simp only [he, hres, h2 hres, ne_eq, not_true_eq_false, and_false, if_false]
    | mismatch => rw [hres] at hnc; simp only [he, hres, if_neg hnc]

/-- Every outcome of a publish to the session, with the session it leaves. -/
theorem admitEvent_cases (s : EventSession T) (event : NormalizedMarketEvent T) (t : EventPublicationTime) (a : Option Nat) :
    (s.channel.state ≠ .active ∧ s.admitEvent event t a = (.inactive, s)) ∨
    (s.channel.state = .active ∧
      s.admitEvent event t a = (.terminalized, { s with channel := s.channel.terminate .slowConsumer t })) ∨
    (s.channel.state = .active ∧ s.admitEvent event t a = (.allocationFailure, s)) ∨
    (s.channel.state = .active ∧ ∃ address c, a = some address ∧
      s.admitEvent event t a = (.admitted, { s with channel := c, admitted := s.admitted ++ [s.nextRecord event t] }) ∧
      c.state = .active ∧ c.terminal = s.channel.terminal ∧ c.stream = s.channel.stream ∧
      c.sourceGeneration = s.channel.sourceGeneration ∧ c.subscriptionId = s.channel.subscriptionId ∧
      c.nextSessionSequence = s.channel.nextSessionSequence + 1 ∧
      c.queued = s.channel.queued ++ [⟨address, s.nextRecord event t⟩]) := by
  unfold admitEvent
  rcases s.channel.admitEvent_cases event t a with
    ⟨ha, he⟩ | ⟨ha, he⟩ | ⟨ha, he⟩ | ⟨ha, address, c, hal, he, hc⟩
  · exact Or.inl ⟨ha, by simp only [he, reduceCtorEq, if_false]⟩
  · exact Or.inr (Or.inl ⟨ha, by simp only [he, reduceCtorEq, if_false]⟩)
  · exact Or.inr (Or.inr (Or.inl ⟨ha, by simp only [he, reduceCtorEq, if_false]⟩))
  · exact Or.inr (Or.inr (Or.inr ⟨ha, address, c, hal, by simp only [he, if_true], hc⟩))

end EventSession

/-! ## Moves -/

/-- What one section does to one session. `n` and `m` are the first free addresses before and after it; `writer` is what must hold for
a section of the session's writer, and `shut` for the owner to close it. -/
inductive SessionMove (writer shut : Prop) (n m : Nat) : EventSession T → EventSession T → Prop where
  | same {s} : SessionMove writer shut n m s s
  | peek {s} (hw : writer) : SessionMove writer shut n m s s.peek
  | acknowledge {s p} (hw : writer) (h : p ∈ s.peeked) : SessionMove writer shut n m s (s.acknowledge p)
  | closeFromWriter {s} (hw : writer) : SessionMove writer shut n m s s.closeFromWriter
  | push {s} (c : EventSubscriberChannel T) (r : EventPublicationRecord T) (hn : n < m) (ha : s.channel.state = .active)
      (hst : c.state = .active) (hterm : c.terminal = s.channel.terminal) (hsm : c.stream = s.channel.stream)
      (hg : c.sourceGeneration = s.channel.sourceGeneration) (hid : c.subscriptionId = s.channel.subscriptionId)
      (hnext : c.nextSessionSequence = s.channel.nextSessionSequence + 1) (hq : c.queued = s.channel.queued ++ [⟨n, r⟩]) :
      SessionMove writer shut n m s { s with channel := c, admitted := s.admitted ++ [r] }
  | terminate {s} (reason : ConsumerGapReason) (publishedAt : EventPublicationTime) (ha : s.channel.state = .active)
      (hr : reason = .slowConsumer ∨ reason = .connectionGenerationChanged) :
      SessionMove writer shut n m s { s with channel := s.channel.terminate reason publishedAt }
  | closeUnavailable {s} (ha : s.channel.state = .active) :
      SessionMove writer shut n m s { s with channel := { s.channel with state := .terminalUnavailable } }
  | closeFromOwner {s} (h : shut) : SessionMove writer shut n m s { s with channel := s.channel.closeFromOwner }

variable {writer shut : Prop}

/-- Publishing an event to a session is one of the moves. -/
theorem SessionMove.of_admitEvent (s : EventSession T) (event : NormalizedMarketEvent T) (publishedAt : EventPublicationTime)
    {allocation : Option Nat} {n m : Nat} (hn : n < m) (hal : allocation = some n ∨ allocation = none) :
    SessionMove writer shut n m s (s.admitEvent event publishedAt allocation).2 := by
  rcases s.admitEvent_cases event publishedAt allocation with
    ⟨-, he⟩ | ⟨ha, he⟩ | ⟨-, he⟩ | ⟨ha, address, c, hal', he, hst, hterm, hsm, hg, hid, hnext, hq⟩ <;> rw [he]
  · exact .same
  · exact .terminate .slowConsumer publishedAt ha (Or.inl rfl)
  · exact .same
  · obtain rfl : address = n := by
      rcases hal with hal | hal <;> rw [hal] at hal' <;> cases hal'
      rfl
    exact .push c _ hn ha hst hterm hsm hg hid hnext hq

/-- A replacement is one of the moves, for a session whose terminal slot is free while it is active. -/
theorem SessionMove.of_terminalizeReplacement (s : EventSession T) (publishedAt : EventPublicationTime) (n m : Nat) :
    SessionMove writer shut n m s { s with channel := (s.channel.terminalizeReplacement publishedAt).2 } := by
  rcases s.channel.terminalizeReplacement_cases publishedAt with ⟨-, he⟩ | ⟨ha, -, he⟩ <;> rw [he]
  · exact .same
  · exact .terminate _ publishedAt ha (Or.inr rfl)

/-- Closing a session as unavailable is a move. -/
theorem SessionMove.of_closeUnavailable (s : EventSession T) (n m : Nat) :
    SessionMove writer shut n m s { s with channel := s.channel.closeUnavailable.2 } := by
  rcases s.channel.closeUnavailable_cases with ⟨-, he⟩ | ⟨ha, he⟩ <;> rw [he]
  · exact .same
  · exact .closeUnavailable ha

/-- A move without a fresh address adds no record and revives no session. -/
theorem SessionMove.quiet {n : Nat} {s t : EventSession T} (h : SessionMove writer shut n n s t) :
    t.admitted = s.admitted ∧ t.channel.stream = s.channel.stream ∧ t.channel.sourceGeneration = s.channel.sourceGeneration ∧
      t.channel.subscriptionId = s.channel.subscriptionId ∧ (t.channel.state = .active → s.channel.state = .active) := by
  cases h with
  | @acknowledge p _ hp =>
    rcases s.acknowledge_cases p with ⟨_, _, _, -, -, -, -, -, he⟩ | ⟨_, -, -, -, he⟩ | he <;> rw [he]
    · exact ⟨rfl, rfl, rfl, rfl, id⟩
    · exact ⟨rfl, rfl, rfl, rfl, fun hs => (by cases hs)⟩
    · exact ⟨rfl, rfl, rfl, rfl, id⟩
  | push _ _ hn => exact absurd hn (Nat.lt_irrefl n)
  | same | peek _ => exact ⟨rfl, rfl, rfl, rfl, id⟩
  | closeFromWriter _ | terminate _ _ _ _ | closeUnavailable _ | closeFromOwner _ =>
    exact ⟨rfl, rfl, rfl, rfl, fun hs => (by cases hs)⟩

/-- Who may have closed a session: its writer, the terminal it has acknowledged, or the owner. -/
def ClosedBy (shut : Prop) (s : EventSession T) : Prop :=
  s.channel.state = .closed → s.writerClosed = true ∨ s.deliveredTerminal ≠ none ∨ shut

/-- A move keeps who may have closed a session. -/
theorem SessionMove.closedBy {n m : Nat} {s t : EventSession T} (hs : ClosedBy shut s) (h : SessionMove writer shut n m s t) :
    ClosedBy shut t := by
  intro hc
  cases h with
  | same | peek _ => exact hs hc
  | @acknowledge p _ hp =>
    rcases s.acknowledge_cases p with ⟨_, _, _, hst, -, -, -, -, he⟩ | ⟨d, -, -, -, he⟩ | he
    · rw [he] at hc
      exact absurd hc hst
    · rw [he]
      exact Or.inr (Or.inl (by simp))
    · rw [he] at hc ⊢
      exact hs hc
  | closeFromWriter _ => exact Or.inl rfl
  | push c _ _ _ hst =>
    have : c.state = .closed := hc
    rw [hst] at this; cases this
  | terminate _ _ _ _ | closeUnavailable _ => cases hc
  | closeFromOwner h => exact Or.inr (Or.inr h)

/-! ## What every move keeps -/

/-- A terminal that ends a session of one generation right behind `records` records. -/
structure EndsAfter (sourceGeneration records : Nat) (d : EventTerminalDescriptor) : Prop where
  sequence : d.sessionSequence = records + 1
  generation : d.connectionGeneration = sourceGeneration
  reason : d.reason = .slowConsumer ∨ d.reason = .connectionGenerationChanged

/-- Addresses identify records, the sequence counter counts them, nothing is lost before the writer closes the channel, and a
terminal comes right behind the last record. -/
structure SessionFacts (n : Nat) (s : EventSession T) : Prop where
  below : ∀ r, s.Holds r → r.address < n
  distinct : ∀ r, s.Holds r → ∀ q ∈ s.channel.queued, r.address = q.address → r.value = q.value
  active : s.channel.state = .active → s.channel.terminal = none ∧ s.channel.nextSessionSequence = s.admitted.length + 1
  gap : s.channel.state = .terminalGap → ∃ d, s.channel.terminal = some d ∧ EndsAfter s.channel.sourceGeneration s.admitted.length d
  unavailable : s.channel.state = .terminalUnavailable → s.channel.terminal = none
  opened : s.channel.state ≠ .closed → s.writerClosed = false ∧ s.deliveredTerminal = none
  kept : s.writerClosed = false → s.records = s.admitted
  delivered : s.delivered <+: s.admitted
  ended : ∀ d, s.deliveredTerminal = some d → s.channel.state = .closed ∧ EndsAfter s.channel.sourceGeneration s.delivered.length d

namespace SessionFacts

variable {n m : Nat} {s t : EventSession T}

/-- The facts stay when more has been numbered. -/
theorem mono (h : SessionFacts n s) (hm : n ≤ m) : SessionFacts m s :=
  { h with below := fun r hr => Nat.lt_of_lt_of_le (h.below r hr) hm }

/-- A session that is not closed has all its records. -/
theorem records_of_open (h : SessionFacts n s) (hs : s.channel.state ≠ .closed) : s.records = s.admitted :=
  h.kept (h.opened hs).1

/-- A session that is not closed and has nothing queued has delivered everything. -/
theorem delivered_of_empty (h : SessionFacts n s) (hs : s.channel.state ≠ .closed) (hq : s.channel.queued = []) :
    s.delivered = s.admitted := by
  rw [← h.records_of_open hs, EventSession.records, hq, List.map_nil, List.append_nil]

/-- A look of the writer keeps the facts about its session. -/
theorem peek (h : SessionFacts n s) : SessionFacts n s.peek := by
  have hold : ∀ r, s.peek.Holds r → s.Holds r := by
    intro r hr
    rcases hr with hq | ⟨p, hp, hr⟩
    · exact Or.inl hq
    · rcases List.mem_cons.mp hp with rfl | hp
      · left
        by_cases hc : s.channel.state = .closed
        · simp [EventSubscriberChannel.peek, hc] at hr
        · rw [EventSubscriberChannel.peek_eq hc] at hr
          cases hq : s.channel.queued with
          | nil => rw [hq] at hr; cases hr
          | cons front rest => rw [hq] at hr; cases hr; exact List.mem_cons_self
      · exact Or.inr ⟨p, hp, hr⟩
  exact ⟨fun r hr => h.below r (hold r hr), fun r hr => h.distinct r (hold r hr), h.active, h.gap, h.unavailable, h.opened,
    h.kept, h.delivered, h.ended⟩

/-- An acknowledgement moves the front record to the delivered ones, or delivers the terminal, or does nothing. -/
theorem acknowledge (h : SessionFacts n s) {p : PeekedEventPublication T} (hp : p ∈ s.peeked) :
    SessionFacts n (s.acknowledge p) := by
  rcases s.acknowledge_cases p with
    ⟨front, rest, r, hst, hr, hq, ha, hrest, he⟩ | ⟨d, hst, hq, hterm, he⟩ | he
  · -- the peeked record is the front, because their addresses are the same
    have hval : r.value = front.value := h.distinct r (Or.inr ⟨p, hp, hr⟩) front (by simp [hq]) ha.symm
    have hrec : (s.acknowledge p).records = s.records := by
      rw [he]
      simp [EventSession.records, hrest, hq, hval]
    have hsub : ∀ q ∈ (s.acknowledge p).channel.queued, q ∈ s.channel.queued := by
      intro q hm
      rw [he] at hm
      have hm' : q ∈ s.channel.ringPopLocked.queued := hm
      rw [hrest] at hm'
      rw [hq]
      exact List.mem_cons_of_mem _ hm'
    have hold : ∀ q, (s.acknowledge p).Holds q → s.Holds q := by
      intro q hm
      rcases hm with hm | hm
      · exact Or.inl (hsub q hm)
      · rw [he] at hm; exact Or.inr hm
    have hkept := h.records_of_open hst
    refine ⟨fun q hh => h.below q (hold q hh), fun q hh q' hm => h.distinct q (hold q hh) q' (hsub q' hm), ?_, ?_, ?_, ?_, ?_,
      ?_, fun d hd => ?_⟩
    · rw [he]; exact h.active
    · rw [he]; exact h.gap
    · rw [he]; exact h.unavailable
    · rw [he]; exact h.opened
    · intro _
      rw [hrec, hkept, he]
    · rw [he]
      show s.delivered ++ [r.value] <+: s.admitted
      rw [← hkept, EventSession.records, hq, hval]
      exact ⟨rest.map (·.value), by simp⟩
    · rw [he] at hd
      exact absurd (h.ended d hd).1 hst
  · have hgap : s.channel.state = .terminalGap := by
      cases hs : s.channel.state with
      | active => rw [(h.active hs).1] at hterm; cases hterm
      | terminalGap => rfl
      | terminalUnavailable => rw [h.unavailable hs] at hterm; cases hterm
      | closed => exact absurd hs hst
    obtain ⟨d', hd', hends⟩ := h.gap hgap
    obtain rfl : d' = d := by rw [hterm] at hd'; exact (Option.some.inj hd').symm
    have hall : s.delivered = s.admitted := h.delivered_of_empty hst hq
    rw [he]
    refine ⟨h.below, h.distinct, fun hs => (by cases hs), fun hs => (by cases hs), fun hs => (by cases hs), fun hs => absurd rfl hs,
      h.kept, h.delivered, fun e hd => ⟨rfl, ?_⟩⟩
    obtain rfl := Option.some.inj hd
    exact ⟨by rw [hall]; exact hends.sequence, hends.generation, hends.reason⟩
  · rw [he]
    exact h

/-- A writer that closes keeps the facts about its session. -/
theorem closeFromWriter (h : SessionFacts n s) : SessionFacts n s.closeFromWriter := by
  have hnone : s.closeFromWriter.channel.queued = [] := s.channel.ordinaryRing.toList_clear
  have hold : ∀ q, s.closeFromWriter.Holds q → s.Holds q := by
    intro q hm
    rcases hm with hm | hm
    · rw [hnone] at hm; cases hm
    · exact Or.inr hm
  refine ⟨fun q hh => h.below q (hold q hh), fun q _ q' hm => ?_, fun hs => (by cases hs), fun hs => (by cases hs),
    fun hs => (by cases hs), fun hs => absurd rfl hs, fun hw => (by cases hw), h.delivered,
    fun d hd => ⟨rfl, (h.ended d hd).2⟩⟩
  rw [hnone] at hm
  cases hm

/-- A record at a fresh address is appended to an active session. -/
theorem push (h : SessionFacts n s) (hn : n < m) (ha : s.channel.state = .active) {c : EventSubscriberChannel T}
    {r : EventPublicationRecord T} (hst : c.state = .active) (hterm : c.terminal = s.channel.terminal)
    (hnext : c.nextSessionSequence = s.channel.nextSessionSequence + 1) (hq : c.queued = s.channel.queued ++ [⟨n, r⟩]) :
    SessionFacts m { s with channel := c, admitted := s.admitted ++ [r] } := by
  have hopen : s.writerClosed = false ∧ s.deliveredTerminal = none := h.opened (by rw [ha]; simp)
  have hold : ∀ q, ({ s with channel := c, admitted := s.admitted ++ [r] } : EventSession T).Holds q →
      s.Holds q ∨ q = ⟨n, r⟩ := by
    intro q hh
    rcases hh with hm | hm
    · have hm' : q ∈ c.queued := hm
      rw [hq] at hm'
      rcases List.mem_append.mp hm' with hm' | hm'
      · exact Or.inl (Or.inl hm')
      · exact Or.inr (List.mem_singleton.mp hm')
    · exact Or.inl (Or.inr hm)
  refine ⟨fun q hh => ?_, fun q hh q' hm heq => ?_, fun _ => ?_, fun hs => ?_, fun hs => ?_, fun _ => hopen, fun hw => ?_, ?_,
    fun d hd => ?_⟩
  · rcases hold q hh with hh | rfl
    · exact Nat.lt_trans (h.below q hh) hn
    · exact hn
  · have hm' : q' ∈ c.queued := hm
    rw [hq] at hm'
    rcases List.mem_append.mp hm' with hm' | hm'
    · rcases hold q hh with hh | rfl
      · exact h.distinct q hh q' hm' heq
      · exact absurd heq.symm (Nat.ne_of_lt (h.below q' (Or.inl hm')))
    · obtain rfl := List.mem_singleton.mp hm'
      rcases hold q hh with hh | rfl
      · exact absurd heq (Nat.ne_of_lt (h.below q hh))
      · rfl
  · rw [hterm, hnext, (h.active ha).2, List.length_append]
    exact ⟨(h.active ha).1, rfl⟩
  · have : c.state = .terminalGap := hs
    rw [hst] at this; cases this
  · have : c.state = .terminalUnavailable := hs
    rw [hst] at this; cases this
  · have hkept := h.kept hw
    rw [EventSession.records] at hkept ⊢
    show s.delivered ++ c.queued.map (·.value) = s.admitted ++ [r]
    rw [hq, ← hkept]
    simp
  · exact h.delivered.trans (List.prefix_append _ _)
  · have hd' : s.deliveredTerminal = some d := hd
    rw [hopen.2] at hd'; cases hd'

/-- A terminal behind the last record ends the session. -/
theorem terminate (h : SessionFacts n s) (ha : s.channel.state = .active) {reason : ConsumerGapReason}
    (hr : reason = .slowConsumer ∨ reason = .connectionGenerationChanged) (publishedAt : EventPublicationTime) :
    SessionFacts n { s with channel := s.channel.terminate reason publishedAt } := by
  have hopen : s.writerClosed = false ∧ s.deliveredTerminal = none := h.opened (by rw [ha]; simp)
  refine ⟨h.below, h.distinct, fun hs => (by cases hs), fun _ => ⟨_, rfl, (h.active ha).2, rfl, hr⟩, fun hs => (by cases hs),
    fun _ => hopen, h.kept, h.delivered, fun d hd => ?_⟩
  have hd' : s.deliveredTerminal = some d := hd
  rw [hopen.2] at hd'; cases hd'

/-- An active session that is closed as unavailable keeps its facts. -/
theorem closeUnavailable (h : SessionFacts n s) (ha : s.channel.state = .active) :
    SessionFacts n { s with channel := { s.channel with state := .terminalUnavailable } } := by
  have hopen : s.writerClosed = false ∧ s.deliveredTerminal = none := h.opened (by rw [ha]; simp)
  refine ⟨h.below, h.distinct, fun hs => (by cases hs), fun hs => (by cases hs), fun _ => (h.active ha).1, fun _ => hopen, h.kept,
    h.delivered, fun d hd => ?_⟩
  have hd' : s.deliveredTerminal = some d := hd
  rw [hopen.2] at hd'; cases hd'

/-- A session that is closed by its owner keeps its facts. -/
theorem closeFromOwner (h : SessionFacts n s) : SessionFacts n { s with channel := s.channel.closeFromOwner } :=
  ⟨h.below, h.distinct, fun hs => (by cases hs), fun hs => (by cases hs), fun hs => (by cases hs), fun hs => absurd rfl hs, h.kept,
    h.delivered, fun d hd => ⟨rfl, (h.ended d hd).2⟩⟩

/-- Every move keeps the facts. -/
theorem move (h : SessionFacts n s) (hm : n ≤ m) (hmove : SessionMove writer shut n m s t) : SessionFacts m t := by
  cases hmove with
  | same => exact h.mono hm
  | peek _ => exact h.peek.mono hm
  | acknowledge _ hp => exact (h.acknowledge hp).mono hm
  | closeFromWriter _ => exact h.closeFromWriter.mono hm
  | push c r hn ha hst hterm _ _ _ hnext hq => exact h.push hn ha hst hterm hnext hq
  | terminate reason publishedAt ha hr => exact (h.terminate ha hr publishedAt).mono hm
  | closeUnavailable ha => exact (h.closeUnavailable ha).mono hm
  | closeFromOwner _ => exact h.closeFromOwner.mono hm

end SessionFacts

/-! ## What a session that is no longer active becomes -/

/-- From `s` to `t` the session stays with its stream, an inactive one gets no more records, one that the source has left for good
stays readable until it is closed, and a closed one delivers nothing more. -/
structure Ages (s t : EventSession T) : Prop where
  stream : t.channel.stream = s.channel.stream
  generation : t.channel.sourceGeneration = s.channel.sourceGeneration
  inactive : s.channel.state ≠ .active → t.channel.state ≠ .active ∧ t.admitted = s.admitted
  unavailable : s.channel.state = .terminalUnavailable → t.channel.state = .terminalUnavailable ∨ t.channel.state = .closed
  noTerminal : s.channel.state = .terminalUnavailable ∨ (s.channel.state = .closed ∧ s.deliveredTerminal = none) →
    t.deliveredTerminal = none
  closed : s.channel.state = .closed →
    t.channel.state = .closed ∧ t.delivered = s.delivered ∧ t.deliveredTerminal = s.deliveredTerminal

/-- A session ages when nothing happens. -/
theorem Ages.refl {n : Nat} {s : EventSession T} (h : SessionFacts n s) : Ages s s where
  stream := rfl
  generation := rfl
  inactive hs := ⟨hs, rfl⟩
  unavailable hs := Or.inl hs
  noTerminal hs := hs.elim (fun hu => (h.opened (by rw [hu]; simp)).2) (·.2)
  closed hs := ⟨hs, rfl, rfl⟩

/-- A session that ages twice ages. -/
theorem Ages.trans {s t u : EventSession T} (h : Ages s t) (h' : Ages t u) : Ages s u where
  stream := h'.stream.trans h.stream
  generation := h'.generation.trans h.generation
  inactive hs := ⟨(h'.inactive (h.inactive hs).1).1, (h'.inactive (h.inactive hs).1).2.trans (h.inactive hs).2⟩
  unavailable hs := (h.unavailable hs).elim h'.unavailable (fun hc => Or.inr (h'.closed hc).1)
  noTerminal hs := by
    have ht := h.noTerminal hs
    rcases hs with hs | ⟨hs, -⟩
    · rcases h.unavailable hs with hu | hc
      · exact h'.noTerminal (Or.inl hu)
      · exact h'.noTerminal (Or.inr ⟨hc, ht⟩)
    · exact h'.noTerminal (Or.inr ⟨(h.closed hs).1, ht⟩)
  closed hs :=
    have ⟨hc, hd, ht⟩ := h.closed hs
    have ⟨hc', hd', ht'⟩ := h'.closed hc
    ⟨hc', hd'.trans hd, ht'.trans ht⟩

/-- A move of a session that is not active and gives it no more than a changed channel. -/
theorem SessionMove.ages {n m : Nat} {s t : EventSession T} (hf : SessionFacts n s) (h : SessionMove writer shut n m s t) : Ages s t := by
  have hnone : s.channel.state = .terminalUnavailable → s.deliveredTerminal = none := fun hu =>
    (hf.opened (by rw [hu]; simp)).2
  have hstays : s.channel.state = .terminalUnavailable ∨ (s.channel.state = .closed ∧ s.deliveredTerminal = none) →
      s.deliveredTerminal = none := fun hs => hs.elim hnone (·.2)
  cases h with
  | same => exact .refl hf
  | peek _ => exact ⟨rfl, rfl, fun hs => ⟨hs, rfl⟩, Or.inl, hstays, fun hs => ⟨hs, rfl, rfl⟩⟩
  | @acknowledge p _ hp =>
    rcases s.acknowledge_cases p with ⟨front, rest, r, hst, -, -, -, -, he⟩ | ⟨d, hst, -, hterm, he⟩ | he
    · rw [he]
      exact ⟨rfl, rfl, fun hs => ⟨hs, rfl⟩, Or.inl, hstays, fun hs => absurd hs hst⟩
    · rw [he]
      refine ⟨rfl, rfl, fun _ => ⟨by simp, rfl⟩, fun _ => Or.inr rfl, fun hs => ?_, fun hs => absurd hs hst⟩
      rcases hs with hu | ⟨hc, -⟩
      · rw [hf.unavailable hu] at hterm; cases hterm
      · exact absurd hc hst
    · rw [he]
      exact .refl hf
  | closeFromWriter _ => exact ⟨rfl, rfl, fun _ => ⟨by simp [EventSession.closeFromWriter, EventSubscriberChannel.closeFromWriter],
      rfl⟩, fun _ => Or.inr rfl, hstays, fun _ => ⟨rfl, rfl, rfl⟩⟩
  | push c r _ ha _ _ hsm hg =>
    refine ⟨hsm, hg, fun hs => absurd ha hs, fun hs => ?_, fun hs => ?_, fun hs => ?_⟩
    · rw [ha] at hs; cases hs
    · exact hstays hs
    · rw [ha] at hs; cases hs
  | terminate reason publishedAt ha _ =>
    refine ⟨rfl, rfl, fun hs => absurd ha hs, fun hs => ?_, hstays, fun hs => ?_⟩ <;> rw [ha] at hs <;> cases hs
  | closeUnavailable ha => exact ⟨rfl, rfl, fun hs => absurd ha hs, fun _ => Or.inl rfl, hstays, fun hs => by rw [ha] at hs; cases hs⟩
  | closeFromOwner _ =>
    exact ⟨rfl, rfl, fun _ => ⟨by simp [EventSubscriberChannel.closeFromOwner], rfl⟩, fun _ => Or.inr rfl, hstays,
      fun _ => ⟨rfl, rfl, rfl⟩⟩

end MarketDataGateway.Events
