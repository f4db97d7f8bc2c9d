import MarketDataGateway.Runtime.Counting
import MarketDataGateway.Service.Handlers

/-!
# Streams are faithful

In every run of a service, with any number of calls: no session has two handlers, and what a handler has written is the beginning of its
session as the history of the book has it, under consecutive sequence numbers, with at most one gap, which comes last. The session has
counted all of it as delivered, but for the last item at most.
-/

namespace MarketDataGateway.GrpcService

open MarketRuntime OrderBook Status Threads

variable {L : ProjectionLibrary} {config : OrderBookConfig L} {c c' : OrderBookService L}

/-! ## The invariant -/

/-- What always holds of a service: of its runtimes, of each of its handlers, and of the sessions that have no handler yet. -/
structure StreamsInv (config : OrderBookConfig L) (c : OrderBookService L) : Prop where
  reachable : ∀ (product : Nat) entry, config.products[product]? = some entry →
    MarketRuntime.Reachable entry.setup (c.phases product) (c.states product)
  points : ∀ (n : Nat) handler, c.handlers[n]? = some handler → PointInv config c.states handler handler.point
  own : ∀ (n m : Nat) handler handler' request, c.handlers[n]? = some handler → c.handlers[m]? = some handler' →
    handler.point.asked = some request → handler'.point.asked = some request → n = m
  untouched : ∀ (product : Nat) entry (channel : Nat) sub, config.products[product]? = some entry →
    (c.states product).channels[channel]? = some sub → sub.delivered = [] ∧ sub.deliveredTerminal = none ∨
      ∃ (n : Nat) (handler : OrderBookHandler L) (σ : SessionRef), c.handlers[n]? = some handler ∧
        handler.point.session = some σ ∧ σ.product = product ∧ σ.channel = channel

/-- No session has two handlers: its request has not, and no two requests have one session. -/
theorem StreamsInv.apart (hi : StreamsInv config c) {n m : Nat} {handler handler' : OrderBookHandler L} {σ σ' : SessionRef}
    (hn : c.handlers[n]? = some handler) (hm : c.handlers[m]? = some handler') (hσ : handler.point.session = some σ)
    (hσ' : handler'.point.session = some σ') (hproduct : σ.product = σ'.product) (hchannel : σ.channel = σ'.channel) : n = m := by
  obtain ⟨entry, sub, records, gap, hs⟩ := (hi.points n handler hn).session hσ
  obtain ⟨entry', sub', records', gap', hs'⟩ := (hi.points m handler' hm).session hσ'
  obtain ⟨r, hr, ha, -⟩ := hs.accepted
  obtain ⟨r', hr', ha', -⟩ := hs'.accepted
  rw [← hproduct] at hr'
  rw [← hchannel] at ha'
  have hrequest : σ.request = σ'.request := (hi.reachable _ _ hs.product).acceptances.own _ _ r r' _ hr hr' ha ha'
  refine hi.own n m handler handler' (σ.product, σ.request) hn hm (StreamPoint.asked_of_session hσ) ?_
  rw [hproduct, hrequest]
  exact StreamPoint.asked_of_session hσ'

/-- The invariant holds of a service without handlers. -/
theorem streamsInv_initial (hp : ∀ (product : Nat) entry, config.products[product]? = some entry →
    c.phases product = .running ownerPrologue ∧ c.states product = Impl.initial entry.setup) (hh : c.handlers = []) :
    StreamsInv config c where
  reachable product entry he := by
    rw [(hp product entry he).1, (hp product entry he).2]
    exact .initial
  points n handler hn := by simp [hh] at hn
  own n m handler handler' request hn := by simp [hh] at hn
  untouched product entry channel sub he hs := by simp [(hp product entry he).2, Impl.initial] at hs

/-! ## A call comes in -/

/-- A new call keeps the invariant. -/
theorem StreamsInv.call (hi : StreamsInv config c) (request : OrderBookSubscriptionRequest) :
    StreamsInv config { c with handlers := c.handlers ++ [{ request := request }] } := by
  have hcases : ∀ (n : Nat) handler, (c.handlers ++ [{ request := request }])[n]? = some handler →
      c.handlers[n]? = some handler ∨ handler = { request := request } := by
    intro n handler hn
    rw [List.getElem?_append] at hn
    split at hn
    · exact Or.inl hn
    · exact Or.inr (List.mem_singleton.mp (List.mem_of_getElem? hn))
  refine ⟨hi.reachable, fun n handler hn => ?_, fun n m handler handler' asked hn hm ha ha' => ?_,
    fun product entry channel sub he hs => ?_⟩
  · rcases hcases n handler hn with hn | rfl
    · exact hi.points n handler hn
    · exact rfl
  · rcases hcases n handler hn with hn | rfl
    · rcases hcases m handler' hm with hm | rfl
      · exact hi.own n m handler handler' asked hn hm ha ha'
      · cases ha'
    · cases ha
  · rcases hi.untouched product entry channel sub he hs with h | ⟨n, handler, σ, hn, hσ⟩
    · exact Or.inl h
    · exact Or.inr ⟨n, handler, σ, by rw [List.getElem?_append_left (List.getElem?_eq_some_iff.mp hn).1]; exact hn, hσ⟩

/-! ## A runtime takes a section -/

/-- What a section of a runtime is to the handlers, and to the sessions that have none. -/
theorem runtime_section {setup : Setup L} {ph ph' : Phase (Impl L) (Outcome L)} {s t : Impl L} (h : MarketRuntime.Reachable setup ph s)
    (hs : LoopStep (Bystander setup) (ownerRound setup) ph s ph' t) :
    (∀ channel, Elsewhere channel s t) ∧
      ∀ (channel : Nat) sub', t.channels[channel]? = some sub' → sub'.delivered = [] ∧ sub'.deliveredTerminal = none ∨
        ∃ sub, s.channels[channel]? = some sub ∧ sub'.delivered = sub.delivered ∧ sub'.deliveredTerminal = sub.deliveredTerminal := by
  rcases (LoopStep.guarantee sections_round h.sections hs).1 with ⟨hc, he⟩ | ho | rfl
  · exact ⟨fun channel => elsewhere_client hc (by rw [he]), fun channel sub' ht => Or.inr ⟨sub', by rw [← he]; exact ht, rfl, rfl⟩⟩
  · refine ⟨fun channel => elsewhere_owner ho channel, fun channel sub' ht => ?_⟩
    rcases ho.sessions channel ht with ⟨sub, c, hsub, rfl⟩ | ⟨c, rfl⟩
    · exact Or.inr ⟨sub, hsub, rfl, rfl⟩
    · exact Or.inl ⟨rfl, rfl⟩
  · exact ⟨fun channel => .refl channel t, fun channel sub' ht => Or.inr ⟨sub', ht, rfl, rfl⟩⟩

/-- A runtime's step keeps the invariant. -/
theorem StreamsInv.runtime (hi : StreamsInv config c) {product : Nat} {entry : OrderBookProduct L}
    {ph : Phase (Impl L) (Outcome L)} {s : Impl L} (he : config.products[product]? = some entry)
    (h : LoopStep (Bystander entry.setup) (ownerRound entry.setup) (c.phases product) (c.states product) ph s) :
    StreamsInv config { c with
      phases := Function.update c.phases product ph
      states := Function.update c.states product s } := by
  have hreach : MarketRuntime.Reachable entry.setup (c.phases product) (c.states product) := hi.reachable product entry he
  obtain ⟨helse, hsessions⟩ := runtime_section hreach h
  have helse' : ∀ other channel, Elsewhere channel (c.states other) (Function.update c.states product s other) := fun other channel =>
    update_all (P := fun i t => Elsewhere channel (c.states i) t) (helse channel) (fun i => .refl channel _) other
  refine ⟨fun other entry' he' => ?_, fun n handler hn => ?_, hi.own, fun other entry' channel sub he' hsub => ?_⟩
  · show MarketRuntime.Reachable entry'.setup (Function.update c.phases product ph other) (Function.update c.states product s other)
    by_cases ho : other = product
    · subst ho
      obtain rfl := Option.some.inj (he.symm.trans he')
      rw [Function.update_self, Function.update_self]
      exact .step hreach (h.mono fun hb => hb.1)
    · rw [Function.update_of_ne ho, Function.update_of_ne ho]
      exact hi.reachable other entry' he'
  · exact (hi.points n handler hn).elsewhere (fun other => (helse' other 0).heeds) fun σ _ => helse' σ.product σ.channel
  · have hsub' : (Function.update c.states product s other).channels[channel]? = some sub := hsub
    by_cases ho : other = product
    · subst ho
      rw [Function.update_self] at hsub'
      rcases hsessions channel sub hsub' with hfresh | ⟨old, hold, hd, ht⟩
      · exact Or.inl hfresh
      · rw [hd, ht]
        exact hi.untouched other entry' channel old he' hold
    · rw [Function.update_of_ne ho] at hsub'
      exact hi.untouched other entry' channel sub he' hsub'

/-! ## A handler takes a section -/

/-- The session of an accepted request whose handler has not come for it has been read by nobody. -/
theorem StreamsInv.unread (hi : StreamsInv config c) {n : Nat} {handler : OrderBookHandler L} (hn : c.handlers[n]? = some handler)
    {product request channel : Nat} {r : AdmissionRequest} {sub : Subscriber L} (hp : handler.point = .awaiting product request)
    (hr : (c.states product).mail.admissions[request]? = some r) (ha : r.result = some (.accepted channel))
    (hs : (c.states product).channels[channel]? = some sub) : sub.delivered = [] ∧ sub.deliveredTerminal = none := by
  have hpoint := hi.points n handler hn
  rw [hp] at hpoint
  obtain ⟨-, subscription, hasks, -⟩ := hpoint
  obtain ⟨entry, he⟩ := OrderBookConfig.select_product hasks.2
  rcases hi.untouched product entry channel sub he hs with h | ⟨m, handler', σ, hm, hσ, rfl, rfl⟩
  · exact h
  · -- another handler has the session already: then it was the other handler's request
    obtain ⟨entry', sub', records, gap, hsession⟩ := (hi.points m handler' hm).session hσ
    obtain ⟨r', hr', ha', -⟩ := hsession.accepted
    have hrequest : request = σ.request := (hi.reachable _ _ he).acceptances.own _ _ r r' _ hr hr' ha ha'
    have hasked : handler.point.asked = some (σ.product, σ.request) := by rw [hp, hrequest]; rfl
    have hsame : n = m := hi.own n m handler handler' _ hn hm hasked (StreamPoint.asked_of_session hσ)
    subst hsame
    obtain rfl := Option.some.inj (hn.symm.trans hm)
    rw [hp] at hσ
    cases hσ

/-- A handler's section keeps the invariant of its own and of the other handlers. -/
theorem StreamsInv.advance (hi : StreamsInv config c) {n : Nat} {handler handler' : OrderBookHandler L} {states' : Nat → Impl L}
    (hn : c.handlers[n]? = some handler) (h : Advance config c.states handler states' handler') :
    StreamsInv config { c with states := states', handlers := c.handlers.set n handler' } := by
  have hpoint : PointInv config c.states handler handler.point := hi.points n handler hn
  have hget : ∀ (m : Nat) other, (c.handlers.set n handler')[m]? = some other →
      m = n ∧ other = handler' ∨ m ≠ n ∧ c.handlers[m]? = some other := by
    intro m other hm
    by_cases hmn : n = m
    · subst hmn
      rw [List.getElem?_set_self (List.getElem?_eq_some_iff.mp hn).1] at hm
      exact Or.inl ⟨rfl, (Option.some.inj hm).symm⟩
    · rw [List.getElem?_set_ne hmn] at hm
      exact Or.inr ⟨fun he => hmn he.symm, hm⟩
  obtain ⟨hkeeps, hasks⟩ := h.asked
  refine ⟨fun product entry he => ?_, fun m other hm => ?_, fun m m' other other' asked hm hm' ha ha' => ?_,
    fun product entry channel sub he hs => ?_⟩
  · show MarketRuntime.Reachable entry.setup (c.phases product) (states' product)
    rcases h.client hpoint product with hsame | ⟨entry', he', hc⟩
    · rw [hsame]
      exact hi.reachable product entry he
    · obtain rfl := Option.some.inj (he.symm.trans he')
      exact .step (hi.reachable product entry he) (.env hc)
  · rcases hget m other hm with ⟨-, rfl⟩ | ⟨hne, hm⟩
    · exact h.point hpoint (fun product entry he => (hi.reachable product entry he).book.inv)
        (fun product entry he => (hi.reachable product entry he).acceptances)
        fun product request r channel sub hp hr ha hs => hi.unread hn hp hr ha hs
    · refine (hi.points m other hm).elsewhere (h.heeds hpoint) fun σ hσ => h.elsewhere hpoint fun σ' hσ' hproduct hchannel => ?_
      exact hne (hi.apart hm hn hσ hσ' hproduct.symm hchannel.symm)
  · -- what a handler asks for anew nobody has asked for before
    have hnew : ∀ (m : Nat) other, c.handlers[m]? = some other → m ≠ n → other.point.asked = some asked →
        handler'.point.asked = some asked → False := by
      intro m other hm hne ha ha'
      rcases hasks asked ha' with ha' | hlength
      · exact hne (hi.own m n other handler asked hm hn ha ha')
      · obtain ⟨r, hr⟩ := (hi.points m other hm).asked ha
        have hlt := (List.getElem?_eq_some_iff.mp hr).1
        omega
    rcases hget m other hm with ⟨rfl, rfl⟩ | ⟨hne, hbefore⟩
    · rcases hget m' other' hm' with ⟨rfl, -⟩ | ⟨hne', hbefore'⟩
      · rfl
      · exact (hnew m' other' hbefore' hne' ha' ha).elim
    · rcases hget m' other' hm' with ⟨rfl, rfl⟩ | ⟨hne', hbefore'⟩
      · exact (hnew m other hbefore hne ha ha').elim
      · exact hi.own m m' other other' asked hbefore hbefore' ha ha'
  · have howner : ∀ σ, handler.point.session = some σ → σ.product = product → σ.channel = channel →
        ∃ (m : Nat) (other : OrderBookHandler L) (σ : SessionRef), (c.handlers.set n handler')[m]? = some other ∧
          other.point.session = some σ ∧ σ.product = product ∧ σ.channel = channel := fun σ hσ hproduct hchannel =>
      ⟨n, handler', σ, List.getElem?_set_self (List.getElem?_eq_some_iff.mp hn).1, hkeeps σ hσ, hproduct, hchannel⟩
    rcases h.channels hpoint product channel with hsame | ⟨σ, hσ, hproduct, hchannel⟩
    · have hs' : (c.states product).channels[channel]? = some sub := hsame.symm.trans hs
      rcases hi.untouched product entry channel sub he hs' with h | ⟨m, other, σ, hm, hσ, hproduct, hchannel⟩
      · exact Or.inl h
      · by_cases hmn : n = m
        · subst hmn
          obtain rfl := Option.some.inj (hn.symm.trans hm)
          exact Or.inr (howner σ hσ hproduct hchannel)
        · exact Or.inr ⟨m, other, σ, (List.getElem?_set_ne hmn).trans hm, hσ, hproduct, hchannel⟩
    · exact Or.inr (howner σ hσ hproduct hchannel)

/-- A step of a handler keeps the invariant. -/
theorem StreamsInv.handle (hi : StreamsInv config c) (w : StreamOutcome) (n : Nat) : StreamsInv config (c.handle config w n) := by
  unfold OrderBookService.handle
  split
  · exact hi
  · rename_i handler hn
    exact hi.advance hn (handler_advances config w c.states handler)

/-- In every run. -/
theorem Streams.inv (h : Streams config c) : StreamsInv config c := by
  induction h with
  | initial hp hh => exact streamsInv_initial hp hh
  | step h hs ih =>
    cases hs with
    | call request => exact ih.call request
    | handle w n => exact ih.handle w n
    | runtime he hl => exact ih.runtime he hl

/-! ## The streams -/

/-- What is so of a session that a handler has: the session has counted as delivered all that is on the wire but for one item at the
most, and once the handler has returned nothing is left of the session. -/
structure Counted (point : StreamPoint L) (sub : Subscriber L)
    (records : List (PublicationRecord L.LocalSnapshot L.DepthUpdate)) (gap : Option TerminalDescriptor) : Prop where
  delivered : sub.delivered <+: records ∧ records.length ≤ sub.delivered.length + 1
  last : ∀ d, gap = some d → records = sub.delivered ∧ d.sessionSequence = records.length + 1
  terminal : sub.deliveredTerminal = none ∨ sub.deliveredTerminal = gap
  level : ∀ ended, point.ended = some ended → (∀ cancelled, ended ≠ .writeEnded cancelled) → ended ≠ .acknowledgedClosed →
    records = sub.delivered ∧ gap = none
  left : ∀ session ended reported, point = .returned session ended reported → sub.channel.state = .closed ∧ sub.channel.queued = []

/-- A handler with a session has counted it as delivered, up to the last item. -/
theorem PointInv.counted {states : Nat → Impl L} {handler : OrderBookHandler L} {point : StreamPoint L}
    (h : PointInv config states handler point) {σ : SessionRef} (hσ : point.session = some σ) :
    ∃ entry sub records gap, HasSession config (states σ.product) handler σ entry sub records gap ∧ Counted point sub records gap := by
  cases point with
  | arrived | admitting _ _ | awaiting _ _ => cases hσ
  | serving σ' place =>
    obtain rfl := Option.some.inj hσ
    obtain ⟨entry, sub, records, gap, hs, ht, hl⟩ := h
    obtain ⟨hbegins, hlength, hlast⟩ := hl.ahead
    exact ⟨entry, sub, records, gap, hs, ⟨hbegins, hlength⟩, hlast, Or.inl ht, by simp [StreamPoint.ended], by simp⟩
  | closing σ' ended reported =>
    obtain rfl := Option.some.inj hσ
    obtain ⟨entry, sub, records, gap, hs, ho⟩ := h
    refine ⟨entry, sub, records, gap, hs, ho.delivered, ho.last, ho.terminal, fun e he => ?_, by simp⟩
    obtain rfl : ended = e := Option.some.inj he
    exact ho.level
  | notifying σ' ended reported =>
    obtain rfl := Option.some.inj hσ
    obtain ⟨entry, sub, records, gap, hs, ho, -⟩ := h
    refine ⟨entry, sub, records, gap, hs, ho.delivered, ho.last, ho.terminal, fun e he => ?_, by simp⟩
    obtain rfl : ended = e := Option.some.inj he
    exact ho.level
  | returned session ended reported =>
    obtain rfl : session = some σ := hσ
    obtain ⟨entry, sub, records, gap, hs, ho, hleft⟩ := h
    refine ⟨entry, sub, records, gap, hs, ho.delivered, ho.last, ho.terminal, fun e he => ?_, fun _ _ _ _ => hleft⟩
    obtain rfl : ended = e := Option.some.inj he
    exact ho.level

/-- A handler does not end by a mismatch, or by a terminal that does not close. -/
theorem PointInv.possible {states : Nat → Impl L} {handler : OrderBookHandler L} {point : StreamPoint L}
    (h : PointInv config states handler point) {ended : StreamEnd} (he : point.ended = some ended) :
    ended ≠ .mismatch ∧ ended ≠ .terminalAcknowledged := by
  cases point with
  | arrived | admitting _ _ | awaiting _ _ | serving _ _ => cases he
  | closing σ e reported =>
    obtain rfl : e = ended := Option.some.inj he
    obtain ⟨_, _, _, _, _, ho⟩ := h
    exact ho.possible
  | notifying σ e reported =>
    obtain rfl : e = ended := Option.some.inj he
    obtain ⟨_, _, _, _, _, ho, _⟩ := h
    exact ho.possible
  | returned session e reported =>
    obtain rfl : e = ended := Option.some.inj he
    cases session with
    | none => exact h.2
    | some σ =>
      obtain ⟨_, _, _, _, _, ho, _⟩ := h
      exact ho.possible

/-- A handler without a session has written nothing. -/
theorem PointInv.silent {states : Nat → Impl L} {handler : OrderBookHandler L} {point : StreamPoint L}
    (h : PointInv config states handler point) (hnone : point.session = none) : handler.written = [] := by
  cases point with
  | arrived => exact h
  | admitting _ _ => exact h.1
  | awaiting _ _ => exact h.1
  | serving _ _ | closing _ _ _ | notifying _ _ _ => cases hnone
  | returned session ended reported =>
    obtain rfl : session = none := hnone
    exact h.1

/-- No session has two handlers. A handler without a session has written nothing. One with a session has written the beginning of that
session, as it follows from the history of the book of the product that was asked for, under consecutive numbers from one on, and behind
it at most one gap; the session has counted all of it, but for the last item at most. No handler finds that what it acknowledges is not
at the front, and none goes on behind a gap. -/
theorem streams_faithful (h : Streams config c) :
    (∀ (n m : Nat) handler handler' (σ σ' : SessionRef), c.handlers[n]? = some handler → c.handlers[m]? = some handler' →
      handler.point.session = some σ → handler'.point.session = some σ' → σ.product = σ'.product → σ.channel = σ'.channel → n = m) ∧
    ∀ (n : Nat) handler, c.handlers[n]? = some handler →
      (handler.point.session = none → handler.written = []) ∧
      (∀ σ, handler.point.session = some σ → ∃ entry sub records gap,
        HasSession config (c.states σ.product) handler σ entry sub records gap ∧ Counted handler.point sub records gap ∧
        handler.written.map (·.deliveryMetadata.sessionSequence) = List.range' 1 handler.written.length) ∧
      ∀ ended, handler.point.ended = some ended → ended ≠ .mismatch ∧ ended ≠ .terminalAcknowledged := by
  have hi : StreamsInv config c := h.inv
  refine ⟨fun n m handler handler' σ σ' hn hm hσ hσ' hp hc => hi.apart hn hm hσ hσ' hp hc, fun n handler hn => ?_⟩
  have hpoint : PointInv config c.states handler handler.point := hi.points n handler hn
  refine ⟨hpoint.silent, fun σ hσ => ?_, fun ended he => hpoint.possible he⟩
  obtain ⟨entry, sub, records, gap, hs, hcounted⟩ := hpoint.counted hσ
  refine ⟨entry, sub, records, gap, hs, hcounted, ?_⟩
  rw [hs.written]
  exact transcript_sequences hs.follows (fun d hd => (hcounted.last d hd).2) sub.channel

/-! ## A stream of the counting book -/

/-- A service with one runtime of counting books. -/
def countingConfig : OrderBookConfig countingLibrary where
  source := .runtime countingSetup
  gatewayInstanceId := "gateway"

/-- The service with its runtime in this configuration. -/
def countingService (p : CountingConfig) (handlers : List (OrderBookHandler countingLibrary)) : OrderBookService countingLibrary where
  phases := Function.update (fun _ => .running ownerPrologue) 0 p.1
  states := Function.update (fun _ => Impl.initial countingSetup) 0 p.2
  handlers := handlers

/-- The sample service begins without handlers. -/
theorem countingService_initial :
    Streams countingConfig (countingService (.running ownerPrologue, Impl.initial countingSetup) []) := by
  refine .initial (fun product entry he => ?_) rfl
  have hzero : product = 0 := by
    have hlt := (List.getElem?_eq_some_iff.mp he).1
    exact Nat.lt_one_iff.mp hlt
  subst hzero
  obtain rfl := Option.some.inj he
  exact ⟨rfl, rfl⟩

section

variable {p q : CountingConfig} {handlers : List (OrderBookHandler countingLibrary)}

/-- A step of the runtime is one of the sample service. -/
theorem countingService_step (h : Streams countingConfig (countingService p handlers))
    (hs : LoopStep (Bystander countingSetup) (ownerRound countingSetup) p.1 p.2 q.1 q.2) :
    Streams countingConfig (countingService q handlers) := by
  have hentry : countingConfig.products[0]? = some ⟨spotBtcusdtKey, countingSetup⟩ := rfl
  have hnext := h.step (.runtime hentry hs)
  simpa only [countingService, Function.update_idem] using hnext

/-- Another caller's section is one of the sample service. -/
theorem countingService_call (h : Streams countingConfig (countingService p handlers))
    {f : Impl countingLibrary → Impl countingLibrary} (hf : Bystander countingSetup p.2 (f p.2)) :
    Streams countingConfig (countingService (p.call f) handlers) :=
  countingService_step h (q := p.call f) (.env hf)

/-- Letting the owner run is a run of the sample service. -/
theorem countingService_run (n : Nat) (h : Streams countingConfig (countingService p handlers)) :
    Streams countingConfig (countingService (p.run n) handlers) := by
  induction n generalizing p with
  | zero => exact h
  | succ n ih =>
    refine ih (p := Phase.advance (ownerRound countingSetup) calmOutcome p) ?_
    rcases Phase.advance_step (Bystander countingSetup) (ownerRound countingSetup) calmOutcome p with hs | he
    · exact countingService_step h hs
    · rw [he]
      exact h

end

/-- The live sample is reached. -/
theorem countingLive_streams : Streams countingConfig (countingService countingLive []) := by
  have hstarted : Streams countingConfig (countingService countingStarted []) :=
    countingService_run 2 (countingService_call countingService_initial (f := (·.start.2)) ⟨.start, rfl⟩)
  have hsnapshot := countingService_call hstarted (f := fun s => (s.submit countingSetup (snapshotInput 5 (some 1)) false).2)
    ⟨.submit _ false, rfl⟩
  have hdepth := countingService_call hsnapshot (f := fun s => (s.submit countingSetup (depthInput 6 (some 1)) false).2)
    ⟨.submit _ false, rfl⟩
  exact countingService_run 30 hdepth

def countingRequest : OrderBookSubscriptionRequest where
  requestId := "request-1"
  schemaVersion := kOrderBookRequestSchema
  venue := .binance
  market := .spot
  symbol := Ascii.bytes "BTCUSDT"
  initialSnapshotMode := .required
  depthLimit := none
  supportedSnapshotSchemaVersions := [kSnapshotSchema]
  supportedUpdateSchemaVersions := [kUpdateSchema]

/-- The live runtime with the request for a session that the handler makes. -/
def countingAsked : CountingConfig :=
  countingLive.call fun s => (s.admitOrderBookSubscription countingSetup ⟨"request-1", "gateway", none⟩ false).2

/-- The sample with its call is reached. -/
theorem countingAsked_streams :
    Streams countingConfig (countingService countingAsked [{ request := countingRequest, point := .awaiting 0 0 }]) := by
  have hcalled := countingLive_streams.step (.call countingRequest)
  have hadmitting := (hcalled.step (.handle {} 0)).step (.handle {} 0)
  have hvalid : countingConfig.validate countingRequest = .ok ⟨"request-1", "gateway", none⟩ := by decide +kernel
  obtain ⟨haccepted, hlength⟩ :
      (countingLive.2.admitOrderBookSubscription countingSetup ⟨"request-1", "gateway", none⟩ false).1 = none ∧
        countingLive.2.mail.admissions.length = 0 := by
    decide +kernel
  have hselect : countingConfig.select countingRequest = some 0 := rfl
  have hproduct : countingConfig.products[0]? = some ⟨spotBtcusdtKey, countingSetup⟩ := rfl
  simpa [OrderBookService.handle, OrderBookHandler.step, countingService, hvalid, hselect, hproduct, haccepted, hlength, countingAsked,
    CountingConfig.call] using hadmitting

/-- Sections of the handler of the first call, when nothing is in its way. -/
def countingServe : Nat → OrderBookService countingLibrary → OrderBookService countingLibrary
  | 0, c => c
  | n + 1, c => countingServe n (c.handle countingConfig {} 0)

/-- Letting the handler run is a run of the sample service. -/
theorem countingServe_streams (n : Nat) {c : OrderBookService countingLibrary} (h : Streams countingConfig c) :
    Streams countingConfig (countingServe n c) := by
  induction n generalizing c with
  | zero => exact h
  | succ n ih => exact ih (h.step (.handle {} 0))

/-- The owner admits the session, and takes an update that fits and one behind a gap. -/
def countingCut : CountingConfig :=
  ((((countingAsked.run 20).call fun s => (s.submit countingSetup (depthInput 7 (some 1)) false).2).run 20).call
    fun s => (s.submit countingSetup (depthInput 9 (some 1)) false).2).run 30

/-- The sample whose session is cut is reached. -/
theorem countingCut_streams :
    Streams countingConfig (countingService countingCut [{ request := countingRequest, point := .awaiting 0 0 }]) := by
  have hupdate := countingService_call (countingService_run 20 countingAsked_streams)
    (f := fun s => (s.submit countingSetup (depthInput 7 (some 1)) false).2) ⟨.submit _ false, rfl⟩
  have hbeyond := countingService_call (countingService_run 20 hupdate)
    (f := fun s => (s.submit countingSetup (depthInput 9 (some 1)) false).2) ⟨.submit _ false, rfl⟩
  exact countingService_run 30 hbeyond

/-- The handler has written all that the session has held, and has returned. -/
def countingStream : OrderBookService countingLibrary :=
  countingServe 30 (countingService countingCut [{ request := countingRequest, point := .awaiting 0 0 }])

/-- The fields of the payloads, as they stand on the wire. -/
def payloadField : StreamPayload countingLibrary.LocalSnapshot countingLibrary.DepthUpdate → String
  | .subscriptionAccepted _ => "subscription_accepted"
  | .snapshot _ => "snapshot"
  | .depthUpdate _ => "depth_update"
  | .consumerGap _ => "consumer_gap"

/-- The handler has written a session up to its gap, and ended with it. -/
theorem streams_faithful_counting : ∃ handler entry sub records gap, countingStream.handlers[0]? = some handler ∧
    handler.point.ended = some .acknowledgedClosed ∧
    handler.written.map (fun item => payloadField item.payload) =
      ["subscription_accepted", "snapshot", "depth_update", "consumer_gap"] ∧
    HasSession countingConfig (countingStream.states 0) handler ⟨0, 0, 0⟩ entry sub records gap ∧
    handler.written.map (·.deliveryMetadata.sessionSequence) = [1, 2, 3, 4] := by
  have hstream : Streams countingConfig countingStream := countingServe_streams 30 countingCut_streams
  have hread : (countingStream.handlers[0]?.map fun handler =>
      (handler.point.session, handler.point.ended, handler.written.map fun item => payloadField item.payload)) =
      some (some ⟨0, 0, 0⟩, some .acknowledgedClosed, ["subscription_accepted", "snapshot", "depth_update", "consumer_gap"]) := by
    decide +kernel
  obtain ⟨handler, hn, hfound⟩ := Option.map_eq_some_iff.mp hread
  obtain ⟨hsession, hended, hfields⟩ : handler.point.session = some ⟨0, 0, 0⟩ ∧ handler.point.ended = some .acknowledgedClosed ∧
      handler.written.map (fun item => payloadField item.payload) = _ := by
    simpa only [Prod.mk.injEq] using hfound
  obtain ⟨-, hserved, -⟩ := (streams_faithful hstream).2 0 handler hn
  obtain ⟨entry, sub, records, gap, hs, -, hnumbers⟩ := hserved ⟨0, 0, 0⟩ hsession
  have hlength : handler.written.length = 4 := by
    have hfour := congrArg List.length hfields
    rwa [List.length_map] at hfour
  rw [hlength] at hnumbers
  dsimp only at hs
  exact ⟨handler, entry, sub, records, gap, hn, hended, hfields, hs, hnumbers⟩

end MarketDataGateway.GrpcService
