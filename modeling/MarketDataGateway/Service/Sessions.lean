import MarketDataGateway.Service.Delivery

/-!
# What a handler keeps

A handler has its session to itself: the owner of the runtime moves the session's channel, and everybody else leaves it alone. `PointInv`
says what is so wherever a handler is, and it stays so whatever the others do.
-/

namespace MarketDataGateway.GrpcService

open Ascii MarketRuntime OrderBook Status Threads

variable {L : ProjectionLibrary} {config : OrderBookConfig L} {setup : Setup L} {s t : Impl L}

/-! ## The request -/

namespace OrderBookConfig

variable {request : OrderBookSubscriptionRequest} {subscription : ValidatedOrderBookSubscription} {product : Nat}
  {entry : OrderBookProduct L}

/-- A validated subscription is what the request asks for, on this gateway. -/
theorem validate_ok (h : config.validate request = .ok subscription) :
    subscription = ⟨request.requestId, config.gatewayInstanceId, request.depthLimit⟩ := by
  unfold validate at h
  split at h
  · exact (validateOrderBookRequestImpl_ok h).1
  · exact (validateOrderBookRequestImpl_ok h).1

/-- The product that is selected is the one that is asked for. -/
theorem select_key (hv : config.validate request = .ok subscription) (hs : config.select request = some product)
    (he : config.products[product]? = some entry) : entry.key = ⟨request.venue, request.market, request.symbol⟩ := by
  unfold validate at hv
  unfold select at hs
  unfold products at he
  split at hs
  · rename_i setup hsource
    rw [hsource] at hv he
    obtain rfl := Option.some.inj hs
    obtain ⟨hvenue, hmarket, hsymbol⟩ := validateOrderBookRequest_market hv
    obtain rfl := Option.some.inj he
    rw [hvenue, hmarket, hsymbol]
    rfl
  · rename_i products hsource
    rw [hsource] at he
    obtain ⟨hlt, hkey, -⟩ := List.findIdx?_eq_some_iff_getElem.mp hs
    rw [List.getElem?_eq_getElem hlt] at he
    obtain rfl := Option.some.inj he
    simpa using hkey

end OrderBookConfig

/-! ## What the others do -/

/-- Requests stay, and their answers. -/
structure Heeds (s t : Impl L) : Prop where
  asks : ∀ request subscription, AsksWith request subscription s → AsksWith request subscription t
  answers : ∀ (i : Nat) r, s.mail.admissions[i]? = some r → r.result.isSome = true → t.mail.admissions[i]? = some r

/-- What a section of somebody else is to the handler that has the session. -/
structure Elsewhere (channel : Nat) (s t : Impl L) : Prop where
  heeds : Heeds s t
  session : ∀ sub, s.channels[channel]? = some sub →
    (∃ c, ChannelMove sub.channel c ∧ t.channels[channel]? = some { sub with channel := c }) ∧
      ∃ other, other ≠ some channel ∧ NotesBut other s.bookLog t.bookLog

/-- Doing nothing heeds every session. -/
theorem Heeds.refl (s : Impl L) : Heeds s s := ⟨fun _ _ h => h, fun _ _ h _ => h⟩

/-- Doing nothing happens elsewhere. -/
theorem Elsewhere.refl (channel : Nat) (s : Impl L) : Elsewhere channel s s :=
  ⟨.refl s, fun sub hs => ⟨⟨sub.channel, .same, hs⟩, none, by simp, .of_same rfl⟩⟩

/-- A caller's section heeds every session. -/
theorem heeds_client (h : ClientStep setup s t) : Heeds s t :=
  ⟨fun _ _ ha => h.requests.asksWith ha, fun _ _ hr ha => h.requests.answered hr ha⟩

/-- A caller that leaves the session alone. -/
theorem elsewhere_client {channel : Nat} (h : ClientStep setup s t) (hc : t.channels[channel]? = s.channels[channel]?) :
    Elsewhere channel s t :=
  ⟨heeds_client h, fun sub hs => ⟨⟨sub.channel, .same, hc.trans hs⟩, none, by simp, .of_same h.aside.log⟩⟩

/-- A section of the owner happens elsewhere than at the writer. -/
theorem elsewhere_owner (h : OwnerSection setup s t) (channel : Nat) : Elsewhere channel s t where
  heeds := ⟨fun _ _ ha => h.asksWith ha, fun _ _ hr ha => h.answered hr ha⟩
  session sub hs := by
    refine ⟨h.channels channel hs, some s.channels.length, fun he => ?_, h.notes⟩
    have hlt : channel < s.channels.length := (List.getElem?_eq_some_iff.mp hs).1
    rw [Option.some.inj he] at hlt
    exact Nat.lt_irrefl _ hlt

/-! ## Where a handler is -/

namespace StreamPoint

/-- The session a handler has. -/
def session : StreamPoint L → Option SessionRef
  | .serving σ _ | .closing σ _ _ | .notifying σ _ _ => some σ
  | .returned σ _ _ => σ
  | .arrived | .admitting _ _ | .awaiting _ _ => none

/-- The request a handler has made to a runtime. -/
def asked : StreamPoint L → Option (Nat × Nat)
  | .awaiting product request => some (product, request)
  | .serving σ _ | .closing σ _ _ | .notifying σ _ _ => some (σ.product, σ.request)
  | .returned σ _ _ => σ.map fun σ => (σ.product, σ.request)
  | .arrived | .admitting _ _ => none

/-- The end a handler has come to. -/
def ended : StreamPoint L → Option StreamEnd
  | .closing _ ended _ | .notifying _ ended _ | .returned _ ended _ => some ended
  | .arrived | .admitting _ _ | .awaiting _ _ | .serving _ _ => none

/-- A handler with a session has asked for it. -/
theorem asked_of_session {point : StreamPoint L} {σ : SessionRef} (h : point.session = some σ) :
    point.asked = some (σ.product, σ.request) := by
  cases point with
  | arrived | admitting _ _ | awaiting _ _ => cases h
  | serving _ _ | closing _ _ _ | notifying _ _ _ => rw [← Option.some.inj h]; rfl
  | returned _ _ _ => unfold session at h; subst h; rfl

end StreamPoint

/-! ## What a handler keeps -/

/-- The handler's request is in order, and for this product. -/
def Asks (config : OrderBookConfig L) (handler : OrderBookHandler L) (product : Nat) (subscription : ValidatedOrderBookSubscription) :
    Prop :=
  config.validate handler.request = .ok subscription ∧ config.select handler.request = some product

/-- The session `σ` is the answer to the handler's request, and the handler has written the records, and the gap behind them. -/
structure HasSession (config : OrderBookConfig L) (s : Impl L) (handler : OrderBookHandler L) (σ : SessionRef)
    (entry : OrderBookProduct L) (sub : Subscriber L) (records : List (PublicationRecord L.LocalSnapshot L.DepthUpdate))
    (gap : Option TerminalDescriptor) : Prop where
  product : config.products[σ.product]? = some entry
  key : entry.key = ⟨handler.request.venue, handler.request.market, handler.request.symbol⟩
  accepted : ∃ r, s.mail.admissions[σ.request]? = some r ∧ r.result = some (.accepted σ.channel) ∧
    r.subscription = ⟨handler.request.requestId, config.gatewayInstanceId, handler.request.depthLimit⟩
  session : s.channels[σ.channel]? = some sub
  gateway : sub.channel.gatewayInstanceId = config.gatewayInstanceId
  follows : Follows entry.setup σ.channel s.bookLog records
  acceptance : ∀ r ∈ records, ∀ a, r.payload = .subscriptionAccepted a → a.requestId = handler.request.requestId ∧
    a.subscriptionId = sub.channel.subscriptionId ∧ a.gatewayInstanceId = config.gatewayInstanceId
  written : handler.written = transcript entry.key sub.channel records gap

/-- What is so of a handler at each point, among the states of the products' runtimes. -/
def PointInv (config : OrderBookConfig L) (states : Nat → Impl L) (handler : OrderBookHandler L) : StreamPoint L → Prop
  | .arrived => handler.written = []
  | .admitting product subscription => handler.written = [] ∧ Asks config handler product subscription
  | .awaiting product request => handler.written = [] ∧
      ∃ subscription, Asks config handler product subscription ∧ AsksWith request subscription (states product)
  | .serving σ place => ∃ entry sub records gap, HasSession config (states σ.product) handler σ entry sub records gap ∧
      sub.deliveredTerminal = none ∧ InLoop entry.key sub records gap place
  | .closing σ ended _ => ∃ entry sub records gap, HasSession config (states σ.product) handler σ entry sub records gap ∧
      Over sub records gap ended
  | .notifying σ ended _ | .returned (some σ) ended _ =>
      ∃ entry sub records gap, HasSession config (states σ.product) handler σ entry sub records gap ∧ Over sub records gap ended ∧
        sub.channel.state = .closed ∧ sub.channel.queued = []
  | .returned none ended _ => handler.written = [] ∧ ended ≠ .mismatch ∧ ended ≠ .terminalAcknowledged

variable {handler : OrderBookHandler L} {σ : SessionRef} {entry : OrderBookProduct L} {sub : Subscriber L}
  {records : List (PublicationRecord L.LocalSnapshot L.DepthUpdate)} {gap : Option TerminalDescriptor}

/-- A section of somebody else keeps what the handler has of its session; its channel may have been moved. -/
theorem HasSession.elsewhere (h : HasSession config s handler σ entry sub records gap) (he : Elsewhere σ.channel s t) :
    ∃ c, ChannelMove sub.channel c ∧ HasSession config t handler σ entry { sub with channel := c } records gap := by
  obtain ⟨⟨c, hm, hc⟩, other, hne, hnotes⟩ := he.session sub h.session
  obtain ⟨r, hr, ha, hsubscription⟩ := h.accepted
  exact ⟨c, hm,
    { h with
      accepted := ⟨r, he.heeds.answers _ r hr (by rw [ha]; rfl), ha, hsubscription⟩
      session := hc
      gateway := hm.names.2.trans h.gateway
      follows := h.follows.noted hnotes hne
      acceptance := fun r hr a ha => hm.names.1 ▸ h.acceptance r hr a ha
      written := h.written.trans (transcript_congr hm.names).symm }⟩

/-- A session that is closed and empty stays so. -/
theorem empty_moved {S U : Type} {c c' : SubscriberChannel S U} (h : ChannelMove c c') (hs : c.state = .closed) (hq : c.queued = []) :
    c'.state = .closed ∧ c'.queued = [] := by
  refine ⟨h.closed hs, ?_⟩
  rcases h.queued with he | ⟨r, ha, -⟩
  · exact he.trans hq
  · rw [hs] at ha
    cases ha

/-- A section of somebody else keeps what is so of a handler. -/
theorem PointInv.elsewhere {states states' : Nat → Impl L} {point : StreamPoint L} (h : PointInv config states handler point)
    (hheeds : ∀ product, Heeds (states product) (states' product))
    (hsession : ∀ σ, point.session = some σ → Elsewhere σ.channel (states σ.product) (states' σ.product)) :
    PointInv config states' handler point := by
  cases point with
  | arrived | admitting _ _ => exact h
  | awaiting product request =>
    obtain ⟨hw, subscription, hasks, ha⟩ := h
    exact ⟨hw, subscription, hasks, (hheeds product).asks _ _ ha⟩
  | serving σ place =>
    obtain ⟨entry, sub, records, gap, hs, ht, hl⟩ := h
    obtain ⟨c, hm, hs'⟩ := hs.elsewhere (hsession σ rfl)
    exact ⟨entry, _, records, gap, hs', ht, hl.moved hm⟩
  | closing σ ended reported =>
    obtain ⟨entry, sub, records, gap, hs, ho⟩ := h
    obtain ⟨c, hm, hs'⟩ := hs.elsewhere (hsession σ rfl)
    exact ⟨entry, _, records, gap, hs', ho.moved hm⟩
  | notifying σ ended reported =>
    obtain ⟨entry, sub, records, gap, hs, ho, hc, hq⟩ := h
    obtain ⟨c, hm, hs'⟩ := hs.elsewhere (hsession σ rfl)
    exact ⟨entry, _, records, gap, hs', ho.moved hm, empty_moved hm hc hq⟩
  | returned session ended reported =>
    cases session with
    | none => exact h
    | some σ =>
      obtain ⟨entry, sub, records, gap, hs, ho, hc, hq⟩ := h
      obtain ⟨c, hm, hs'⟩ := hs.elsewhere (hsession σ rfl)
      exact ⟨entry, _, records, gap, hs', ho.moved hm, empty_moved hm hc hq⟩

/-- A request that a handler has made is there. -/
theorem PointInv.asked {states : Nat → Impl L} {point : StreamPoint L} (h : PointInv config states handler point) {product request : Nat}
    (ha : point.asked = some (product, request)) : ∃ r, (states product).mail.admissions[request]? = some r := by
  have hhas : ∀ {σ : SessionRef} {entry sub records gap}, HasSession config (states σ.product) handler σ entry sub records gap →
      some (σ.product, σ.request) = some (product, request) → ∃ r, (states product).mail.admissions[request]? = some r := by
    intro σ entry sub records gap hs he
    obtain ⟨r, hr, -⟩ := hs.accepted
    obtain ⟨rfl, rfl⟩ := Prod.mk.inj (Option.some.inj he)
    exact ⟨r, hr⟩
  cases point with
  | arrived | admitting _ _ => cases ha
  | awaiting p q =>
    obtain ⟨-, subscription, -, r, hr, -⟩ := h
    obtain ⟨rfl, rfl⟩ := Prod.mk.inj (Option.some.inj ha)
    exact ⟨r, hr⟩
  | serving σ place => obtain ⟨entry, sub, records, gap, hs, -⟩ := h; exact hhas hs ha
  | closing σ ended reported => obtain ⟨entry, sub, records, gap, hs, -⟩ := h; exact hhas hs ha
  | notifying σ ended reported => obtain ⟨entry, sub, records, gap, hs, -⟩ := h; exact hhas hs ha
  | returned session ended reported =>
    cases session with
    | none => cases ha
    | some σ => obtain ⟨entry, sub, records, gap, hs, -⟩ := h; exact hhas hs ha

/-- A handler that has a session knows it. -/
theorem PointInv.session {states : Nat → Impl L} {point : StreamPoint L} (h : PointInv config states handler point)
    (hσ : point.session = some σ) :
    ∃ entry sub records gap, HasSession config (states σ.product) handler σ entry sub records gap := by
  cases point with
  | arrived | admitting _ _ | awaiting _ _ => cases hσ
  | serving σ' place | closing σ' ended reported | notifying σ' ended reported =>
    obtain rfl := Option.some.inj hσ
    obtain ⟨entry, sub, records, gap, hs, -⟩ := h
    exact ⟨entry, sub, records, gap, hs⟩
  | returned session ended reported =>
    obtain rfl : session = some σ := hσ
    obtain ⟨entry, sub, records, gap, hs, -⟩ := h
    exact ⟨entry, sub, records, gap, hs⟩

end MarketDataGateway.GrpcService
