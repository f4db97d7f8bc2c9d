import MarketDataGateway.Service.Sessions

/-!
# What a handler does

Every way a handler can go on, what that is to the runtimes, and what it keeps of the handler.
-/

namespace MarketDataGateway.GrpcService

open MarketRuntime OrderBook Status Threads

variable {L : ProjectionLibrary} {config : OrderBookConfig L} {setup : Setup L} {s t : Impl L} {states states' : Nat → Impl L}
  {handler handler' : OrderBookHandler L}

/-! ## What a section of a handler does -/

/-- Every way a handler can go on. -/
inductive Advance (config : OrderBookConfig L) (states : Nat → Impl L) (handler : OrderBookHandler L) :
    (Nat → Impl L) → OrderBookHandler L → Prop where
  | stays : Advance config states handler states handler
  | leaves {ended reported} (hs : handler.point.session = none) (he : ended ≠ .mismatch ∧ ended ≠ .terminalAcknowledged) :
      Advance config states handler states { handler with point := .returned none ended reported }
  | admits {product subscription} (hp : handler.point = .arrived) (ha : Asks config handler product subscription) :
      Advance config states handler states { handler with point := .admitting product subscription }
  | refused {product subscription entry throws error reported} (hp : handler.point = .admitting product subscription)
      (he : config.products[product]? = some entry) :
      Advance config states handler
        (Function.update states product ((states product).admitOrderBookSubscription entry.setup subscription throws).2)
        { handler with point := .returned none (.refused error) reported }
  | asks {product subscription entry throws} (hp : handler.point = .admitting product subscription)
      (he : config.products[product]? = some entry)
      (ha : ((states product).admitOrderBookSubscription entry.setup subscription throws).1 = none) :
      Advance config states handler
        (Function.update states product ((states product).admitOrderBookSubscription entry.setup subscription throws).2)
        { handler with point := .awaiting product (states product).mail.admissions.length }
  | accepted {product request channel r} (hp : handler.point = .awaiting product request)
      (hr : (states product).mail.admissions[request]? = some r) (ha : r.result = some (.accepted channel)) :
      Advance config states handler states { handler with point := .serving ⟨product, request, channel⟩ .looking }
  | serves {σ place entry sub next} (w : StreamOutcome) (hp : handler.point = .serving σ place)
      (he : config.products[σ.product]? = some entry) (hs : (states σ.product).channels[σ.channel]? = some sub)
      (hn : (serve entry.key w sub place).2 = .goes next) :
      Advance config states handler
        (Function.update states σ.product ((states σ.product).onSubscriber σ.channel fun _ => (serve entry.key w sub place).1))
        { handler with written := handler.written ++ writtenAt w place, point := .serving σ next }
  | ends {σ place entry sub ended reported} (w : StreamOutcome) (hp : handler.point = .serving σ place)
      (he : config.products[σ.product]? = some entry) (hs : (states σ.product).channels[σ.channel]? = some sub)
      (hn : (serve entry.key w sub place).2 = .ends ended) :
      Advance config states handler
        (Function.update states σ.product ((states σ.product).onSubscriber σ.channel fun _ => (serve entry.key w sub place).1))
        { handler with written := handler.written ++ writtenAt w place, point := .closing σ ended reported }
  | closes {σ ended reported} (hp : handler.point = .closing σ ended reported) :
      Advance config states handler
        (Function.update states σ.product ((states σ.product).onSubscriber σ.channel (·.closeFromWriter)))
        { handler with point := .notifying σ ended reported }
  | notifies {σ ended reported} (hp : handler.point = .notifying σ ended reported) :
      Advance config states handler (Function.update states σ.product (states σ.product).notifySubscriberClosed)
        { handler with point := .returned (some σ) ended reported }

/-- Each section of a handler is one of those listed. -/
theorem handler_advances (config : OrderBookConfig L) (w : StreamOutcome) (states : Nat → Impl L) (handler : OrderBookHandler L) :
    Advance config states handler (handler.step config w states).1 (handler.step config w states).2 := by
  have hleave : ∀ ended, handler.point.session = none → ended ≠ .mismatch ∧ ended ≠ .terminalAcknowledged →
      Advance config states handler states { handler with point := OrderBookHandler.leave w ended } := fun _ hs he => .leaves hs he
  unfold OrderBookHandler.step
  split
  · rename_i hp
    have hnone : handler.point.session = none := by rw [hp]; rfl
    split
    · exact hleave _ hnone (by simp)
    · exact hleave _ hnone (by simp)
    · rename_i subscription hv
      split
      · exact hleave _ hnone (by simp)
      · rename_i product hs
        exact .admits hp ⟨hv, hs⟩
  · rename_i product subscription hp
    split
    · exact .stays
    · rename_i entry he
      dsimp only
      split
      · exact .refused hp he
      · rename_i ha
        exact .asks hp he ha
  · rename_i product request hp
    have hnone : handler.point.session = none := by rw [hp]; rfl
    split
    · split
      · exact hleave _ hnone (by simp)
      · exact hleave _ hnone (by simp)
      · rename_i channel ha
        obtain ⟨r, hr, ha⟩ := Option.bind_eq_some_iff.mp ha
        exact .accepted hp hr ha
    · exact .stays
  · rename_i σ place hp
    split
    · rename_i entry sub he hs
      dsimp only
      split
      · rename_i next hn
        exact .serves w hp he hs hn
      · rename_i ended hn
        exact .ends w hp he hs hn
    · exact .stays
  · rename_i σ ended reported hp
    exact .closes hp
  · rename_i σ ended reported hp
    exact .notifies hp
  · exact .stays

/-! ## What it does to the runtimes -/

/-- An operation on a subscriber that is known may use what is known of it. -/
theorem onSubscriber_const {channel : Nat} {sub : Subscriber L} (hs : s.channels[channel]? = some sub)
    (f : Subscriber L → Subscriber L) : (s.onSubscriber channel fun _ => f sub) = s.onSubscriber channel f := by
  have hmodify : (s.channels.modify channel fun _ => f sub) = s.channels.modify channel f := by
    apply List.ext_getElem?
    intro i
    rw [List.getElem?_modify, List.getElem?_modify]
    by_cases hc : channel = i
    · subst hc
      rw [hs]
      rfl
    · simp [hc]
  unfold Impl.onSubscriber
  rw [hmodify]

/-- A handler that leaves its session alone, or moves it as its writer, leaves the runtime alone or is a caller of it. -/
theorem client_of_writer {channel : Nat} {sub next : Subscriber L} (hs : s.channels[channel]? = some sub)
    (hm : next = sub ∨ WriterMove sub next) :
    (s.onSubscriber channel fun _ => next) = s ∨ ClientStep setup s (s.onSubscriber channel fun _ => next) := by
  rcases hm with rfl | hm
  · left
    refine (onSubscriber_const hs id).trans ?_
    unfold Impl.onSubscriber
    rw [List.modify_id]
  · right
    cases hm with
    | peek =>
      rw [onSubscriber_const hs (·.peek)]
      exact .peek channel
    | @acknowledge p hp =>
      rw [onSubscriber_const hs (·.acknowledge p)]
      exact .acknowledge hs hp
    | close =>
      rw [onSubscriber_const hs (·.closeFromWriter)]
      exact .closeFromWriter channel

/-- The other sessions stay as they are. -/
theorem onSubscriber_other {channel other : Nat} (f : Subscriber L → Subscriber L) (h : channel ≠ other) :
    (s.onSubscriber channel f).channels[other]? = s.channels[other]? := by
  show (s.channels.modify channel f)[other]? = _
  rw [List.getElem?_modify]
  simp [h]

/-- A section of a handler is a caller's section of one runtime, or touches none, and of the sessions it may touch its own. -/
theorem Advance.touches (h : Advance config states handler states' handler') (hi : PointInv config states handler handler.point) :
    states' = states ∨ ∃ product entry t, config.products[product]? = some entry ∧ states' = Function.update states product t ∧
      (t = states product ∨ ClientStep entry.setup (states product) t) ∧
      ∀ channel : Nat, t.channels[channel]? = (states product).channels[channel]? ∨
        ∃ σ, handler.point.session = some σ ∧ σ.product = product ∧ σ.channel = channel := by
  have hown : ∀ {σ : SessionRef} (f : Subscriber L → Subscriber L) (channel : Nat), handler.point.session = some σ →
      ((states σ.product).onSubscriber σ.channel f).channels[channel]? = (states σ.product).channels[channel]? ∨
        ∃ σ', handler.point.session = some σ' ∧ σ'.product = σ.product ∧ σ'.channel = channel := by
    intro σ f channel hσ
    by_cases hc : σ.channel = channel
    · exact Or.inr ⟨σ, hσ, rfl, hc⟩
    · exact Or.inl (onSubscriber_other f hc)
  have hserved : ∀ {σ : SessionRef} {place entry sub} (w : StreamOutcome), handler.point = .serving σ place →
      config.products[σ.product]? = some entry → (states σ.product).channels[σ.channel]? = some sub →
      (serve entry.key w sub place).1 = sub ∨ WriterMove sub (serve entry.key w sub place).1 := by
    intro σ place entry sub w hp he hs
    rw [hp] at hi
    obtain ⟨entry', sub', records, gap, hsession, -, hl⟩ := hi
    obtain rfl := Option.some.inj (hsession.product.symm.trans he)
    obtain rfl := Option.some.inj (hsession.session.symm.trans hs)
    exact serve_moves hl w
  cases h with
  | stays | leaves | admits | accepted => exact Or.inl rfl
  | @refused product subscription entry throws error reported hp he =>
    refine Or.inr ⟨product, entry, _, he, rfl, Or.inr (.admitSubscription subscription throws), fun channel => Or.inl ?_⟩
    unfold Impl.admitOrderBookSubscription
    split_ifs <;> rfl
  | @asks product subscription entry throws hp he ha =>
    refine Or.inr ⟨product, entry, _, he, rfl, Or.inr (.admitSubscription subscription throws), fun channel => Or.inl ?_⟩
    unfold Impl.admitOrderBookSubscription
    split_ifs <;> rfl
  | serves w hp he hs hn =>
    exact Or.inr ⟨_, _, _, he, rfl, client_of_writer hs (hserved w hp he hs), fun channel => hown _ channel (by rw [hp]; rfl)⟩
  | ends w hp he hs hn =>
    exact Or.inr ⟨_, _, _, he, rfl, client_of_writer hs (hserved w hp he hs), fun channel => hown _ channel (by rw [hp]; rfl)⟩
  | @closes σ ended reported hp =>
    rw [hp] at hi
    obtain ⟨entry, sub, records, gap, hs, -⟩ := hi
    exact Or.inr ⟨_, _, _, hs.product, rfl, Or.inr (.closeFromWriter σ.channel), fun channel => hown _ channel (by rw [hp]; rfl)⟩
  | @notifies σ ended reported hp =>
    rw [hp] at hi
    obtain ⟨entry, sub, records, gap, hs, -⟩ := hi
    exact Or.inr ⟨_, _, _, hs.product, rfl, Or.inr .notifySubscriberClosed, fun channel => Or.inl rfl⟩

/-- What holds of the value at one place and of all others holds of an updated function. -/
theorem update_all {α : Type} {f : Nat → α} {place : Nat} {new : α} {P : Nat → α → Prop} (hnew : P place new) (hold : ∀ i, P i (f i))
    (i : Nat) : P i (Function.update f place new i) := by
  by_cases hi : i = place
  · subst hi
    rw [Function.update_self]
    exact hnew
  · rw [Function.update_of_ne hi]
    exact hold i

/-- To a runtime a handler is a caller. -/
theorem Advance.client (h : Advance config states handler states' handler') (hi : PointInv config states handler handler.point)
    (product : Nat) : states' product = states product ∨
      ∃ entry, config.products[product]? = some entry ∧ ClientStep entry.setup (states product) (states' product) := by
  rcases h.touches hi with rfl | ⟨touched, entry, t, he, rfl, ht, -⟩
  · exact Or.inl rfl
  · refine update_all (P := fun i t => t = states i ∨ ∃ entry, config.products[i]? = some entry ∧ ClientStep entry.setup (states i) t) ?_
      (fun _ => Or.inl rfl) product
    exact ht.imp_right fun hc => ⟨entry, he, hc⟩

/-- A handler touches no channel but its own. -/
theorem Advance.channels (h : Advance config states handler states' handler') (hi : PointInv config states handler handler.point)
    (product channel : Nat) : (states' product).channels[channel]? = (states product).channels[channel]? ∨
      ∃ σ, handler.point.session = some σ ∧ σ.product = product ∧ σ.channel = channel := by
  rcases h.touches hi with rfl | ⟨touched, entry, t, he, rfl, -, hc⟩
  · exact Or.inl rfl
  · exact update_all (P := fun i (t : Impl L) => t.channels[channel]? = (states i).channels[channel]? ∨
      ∃ σ, handler.point.session = some σ ∧ σ.product = i ∧ σ.channel = channel) (hc channel) (fun _ => Or.inl rfl) product

/-- A handler heeds the other sessions. -/
theorem Advance.heeds (h : Advance config states handler states' handler') (hi : PointInv config states handler handler.point)
    (product : Nat) : Heeds (states product) (states' product) := by
  rcases h.client hi product with he | ⟨entry, -, hc⟩
  · rw [he]
    exact .refl _
  · exact heeds_client hc

/-- To a session that is not its own a handler is somebody else. -/
theorem Advance.elsewhere (h : Advance config states handler states' handler') (hi : PointInv config states handler handler.point)
    {product channel : Nat} (hother : ∀ σ, handler.point.session = some σ → σ.product = product → σ.channel ≠ channel) :
    Elsewhere channel (states product) (states' product) := by
  have hsame : (states' product).channels[channel]? = (states product).channels[channel]? := by
    rcases h.channels hi product channel with hsame | ⟨σ, hσ, hproduct, hchannel⟩
    · exact hsame
    · exact absurd hchannel (hother σ hσ hproduct)
  rcases h.client hi product with he | ⟨entry, -, hc⟩
  · rw [he]
    exact .refl _ _
  · exact elsewhere_client hc hsame

/-! ## What it does to the handler -/

variable {σ : SessionRef} {entry : OrderBookProduct L} {sub : Subscriber L}
  {records : List (PublicationRecord L.LocalSnapshot L.DepthUpdate)} {gap : Option TerminalDescriptor}

/-- Serving renames nothing. -/
theorem serve_names {place : StreamPlace L} {key : MarketKey} (hl : InLoop key sub records gap place) (w : StreamOutcome) :
    (serve key w sub place).1.channel.subscriptionId = sub.channel.subscriptionId ∧
      (serve key w sub place).1.channel.gatewayInstanceId = sub.channel.gatewayInstanceId := by
  rcases serve_moves hl w with he | hm
  · rw [he]
    exact ⟨rfl, rfl⟩
  · exact hm.names

/-- A session that a writer has moved. -/
theorem onSubscriber_session {channel : Nat} (hs : s.channels[channel]? = some sub) (f : Subscriber L → Subscriber L) :
    (s.onSubscriber channel f).channels[channel]? = some (f sub) := by
  show (s.channels.modify channel f)[channel]? = _
  rw [List.getElem?_modify, hs]
  simp

/-- A section of the loop writes on, and the handler still has of its session what it is to have. -/
theorem HasSession.served {place : StreamPlace L} (h : HasSession config s handler σ entry sub records gap)
    (hb : BookInv entry.setup s) (ha : AcceptanceInv s) (hl : InLoop entry.key sub records gap place)
    (ht : sub.deliveredTerminal = none) (w : StreamOutcome) (point : StreamPoint L) :
    ∃ records' gap', HasSession config (s.onSubscriber σ.channel fun _ => (serve entry.key w sub place).1)
        { handler with written := handler.written ++ writtenAt w place, point := point } σ entry (serve entry.key w sub place).1
        records' gap' ∧
      Served entry.key (serve entry.key w sub place).1 records' gap' (serve entry.key w sub place).2 := by
  obtain ⟨records', gap', hwritten, hrecords, hserved⟩ := serve_served (hb.facts _ sub h.session) hl ht w
  have hnames := serve_names hl w
  refine ⟨records', gap', ⟨h.product, h.key, h.accepted, ?_, ?_, ?_, ?_, ?_⟩, hserved⟩
  · exact onSubscriber_session h.session _
  · exact hnames.2.trans h.gateway
  · rcases hrecords with rfl | hp
    · exact h.follows
    · exact (hb.follows σ.channel sub h.session).narrowed hp
  · rw [hnames.1]
    rcases hrecords with rfl | hp
    · exact h.acceptance
    · intro r hr a hpayload
      obtain ⟨q, hq, haccepted, hsubscription⟩ := h.accepted
      obtain ⟨sub', hsub', hfor⟩ := ha.session σ.request q σ.channel hq haccepted
      obtain rfl := Option.some.inj (hsub'.symm.trans h.session)
      rw [hsubscription] at hfor
      exact hfor.accepted r (hp.subset hr) a hpayload
  · rw [transcript_congr hnames, ← hwritten, ← h.written]

/-- A product that is selected is configured. -/
theorem OrderBookConfig.select_product {request : OrderBookSubscriptionRequest} {product : Nat}
    (h : config.select request = some product) : ∃ entry, config.products[product]? = some entry := by
  unfold OrderBookConfig.select at h
  unfold OrderBookConfig.products
  split at h
  · obtain rfl := Option.some.inj h
    exact ⟨_, rfl⟩
  · obtain ⟨hlt, -⟩ := List.findIdx?_eq_some_iff_getElem.mp h
    exact ⟨_, List.getElem?_eq_getElem hlt⟩

/-- A request that has just been accepted has a session that nobody has read from, and its handler has written nothing. -/
theorem HasSession.accepted_now {product request channel : Nat} {subscription : ValidatedOrderBookSubscription} {r : AdmissionRequest}
    (hw : handler.written = []) (hasks : Asks config handler product subscription) (he : config.products[product]? = some entry)
    (hb : BookInv entry.setup s) (hsub : s.channels[channel]? = some sub) (hfor : SessionFor subscription sub)
    (hr : s.mail.admissions[request]? = some r) (ha : r.result = some (.accepted channel)) (hsubscription : r.subscription = subscription)
    (point : StreamPoint L) :
    HasSession config s { handler with point := point } ⟨product, request, channel⟩ entry sub [] none where
  product := he
  key := OrderBookConfig.select_key hasks.1 hasks.2 he
  accepted := ⟨r, hr, ha, hsubscription.trans (OrderBookConfig.validate_ok hasks.1)⟩
  session := hsub
  gateway := by rw [hfor.gateway, OrderBookConfig.validate_ok hasks.1]
  follows := (hb.follows channel sub hsub).narrowed (List.nil_prefix)
  acceptance r hr := by cases hr
  written := hw

/-- A section of a handler keeps what is so of it. -/
theorem Advance.point (h : Advance config states handler states' handler') (hi : PointInv config states handler handler.point)
    (hb : ∀ (product : Nat) entry, config.products[product]? = some entry → BookInv entry.setup (states product))
    (ha : ∀ (product : Nat) entry, config.products[product]? = some entry → AcceptanceInv (states product))
    (hfresh : ∀ product request r channel sub, handler.point = .awaiting product request →
      (states product).mail.admissions[request]? = some r → r.result = some (.accepted channel) →
      (states product).channels[channel]? = some sub → sub.delivered = [] ∧ sub.deliveredTerminal = none) :
    PointInv config states' handler' handler'.point := by
  cases h with
  | stays => exact hi
  | @leaves ended reported hs he =>
    refine ⟨?_, he⟩
    cases hp : handler.point with
    | arrived => rw [hp] at hi; exact hi
    | admitting product subscription => rw [hp] at hi; exact hi.1
    | awaiting product request => rw [hp] at hi; exact hi.1
    | serving _ _ | closing _ _ _ | notifying _ _ _ => rw [hp] at hs; cases hs
    | returned session ended' reported' =>
      rw [hp] at hs hi
      obtain rfl : session = none := hs
      exact hi.1
  | admits hp hasks =>
    rw [hp] at hi
    exact ⟨hi, hasks⟩
  | refused hp he =>
    rw [hp] at hi
    exact ⟨hi.1, by simp⟩
  | @asks product subscription entry throws hp he hnone =>
    rw [hp] at hi
    refine ⟨hi.1, subscription, hi.2, ?_⟩
    rw [Function.update_self]
    unfold Impl.admitOrderBookSubscription at hnone ⊢
    split_ifs at hnone ⊢
    exact ⟨_, List.getElem?_concat_length, rfl⟩
  | @accepted product request channel r hp hr hacc =>
    rw [hp] at hi
    obtain ⟨hw, subscription, hasks, q, hq, rfl⟩ := hi
    obtain rfl := Option.some.inj (hq.symm.trans hr)
    obtain ⟨entry, he⟩ := OrderBookConfig.select_product hasks.2
    obtain ⟨sub, hsub, hfor⟩ := (ha product entry he).session request q channel hr hacc
    obtain ⟨hdelivered, hterminal⟩ := hfresh product request q channel sub hp hr hacc hsub
    exact ⟨entry, sub, [], none, .accepted_now hw hasks he (hb product entry he) hsub hfor hr hacc rfl _, hterminal,
      hdelivered.symm, rfl⟩
  | @serves σ place entry sub next w hp he hs hn =>
    rw [hp] at hi
    obtain ⟨entry', sub', records, gap, hsession, hterminal, hl⟩ := hi
    obtain rfl := Option.some.inj (hsession.product.symm.trans he)
    obtain rfl := Option.some.inj (hsession.session.symm.trans hs)
    obtain ⟨records', gap', hsession', hserved⟩ := hsession.served (hb _ _ he) (ha _ _ he) hl hterminal w (.serving σ next)
    rw [hn] at hserved
    refine ⟨entry', _, records', gap', ?_, hserved⟩
    rw [Function.update_self]
    exact hsession'
  | @ends σ place entry sub ended reported w hp he hs hn =>
    rw [hp] at hi
    obtain ⟨entry', sub', records, gap, hsession, hterminal, hl⟩ := hi
    obtain rfl := Option.some.inj (hsession.product.symm.trans he)
    obtain rfl := Option.some.inj (hsession.session.symm.trans hs)
    obtain ⟨records', gap', hsession', hserved⟩ := hsession.served (hb _ _ he) (ha _ _ he) hl hterminal w (.closing σ ended reported)
    rw [hn] at hserved
    refine ⟨entry', _, records', gap', ?_, hserved⟩
    rw [Function.update_self]
    exact hsession'
  | @closes σ ended reported hp =>
    rw [hp] at hi
    obtain ⟨entry, sub, records, gap, hs, ho⟩ := hi
    refine ⟨entry, sub.closeFromWriter, records, gap, ?_, ho.closeFromWriter, rfl, sub.channel.ordinaryRing.toList_clear⟩
    rw [Function.update_self]
    exact ⟨hs.product, hs.key, hs.accepted, onSubscriber_session hs.session _, hs.gateway, hs.follows, hs.acceptance, hs.written⟩
  | @notifies σ ended reported hp =>
    rw [hp] at hi
    obtain ⟨entry, sub, records, gap, hs, ho⟩ := hi
    refine ⟨entry, sub, records, gap, ?_, ho⟩
    rw [Function.update_self]
    exact ⟨hs.product, hs.key, hs.accepted, hs.session, hs.gateway, hs.follows, hs.acceptance, hs.written⟩

/-- A handler keeps its session, and asks a runtime for one but once. -/
theorem Advance.asked (h : Advance config states handler states' handler') :
    (∀ σ, handler.point.session = some σ → handler'.point.session = some σ) ∧
    ∀ request, handler'.point.asked = some request →
      handler.point.asked = some request ∨ request.2 = (states request.1).mail.admissions.length := by
  cases h with
  | stays => exact ⟨fun _ h => h, fun _ h => Or.inl h⟩
  | leaves hs he => exact ⟨fun σ h => (by rw [hs] at h; cases h), fun _ h => (by cases h)⟩
  | admits hp ha => exact ⟨fun σ h => (by rw [hp] at h; cases h), fun _ h => (by cases h)⟩
  | refused hp he => exact ⟨fun σ h => (by rw [hp] at h; cases h), fun _ h => (by cases h)⟩
  | asks hp he ha =>
    refine ⟨fun σ h => (by rw [hp] at h; cases h), fun request h => Or.inr ?_⟩
    rw [← Option.some.inj h]
  | accepted hp hr ha => exact ⟨fun σ h => (by rw [hp] at h; cases h), fun _ h => Or.inl (by rw [hp]; exact h)⟩
  | serves w hp he hs hn => rw [hp]; exact ⟨fun _ h => h, fun _ h => Or.inl h⟩
  | ends w hp he hs hn => rw [hp]; exact ⟨fun _ h => h, fun _ h => Or.inl h⟩
  | closes hp => rw [hp]; exact ⟨fun _ h => h, fun _ h => Or.inl h⟩
  | notifies hp => rw [hp]; exact ⟨fun _ h => h, fun _ h => Or.inl h⟩

end MarketDataGateway.GrpcService
