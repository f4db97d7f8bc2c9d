import MarketDataGateway.Runtime.Atomicity
import MarketDataGateway.Runtime.Moves

/-!
# Whose session it is

A request that has been accepted has a session to itself, and what the session says of its acceptance is the request's.
-/

namespace MarketDataGateway.MarketRuntime

open OrderBook Threads

variable {L : ProjectionLibrary} {setup : Setup L} {s t : Impl L}

/-! ## Whose a session is -/

/-- The session is for this subscription: its channel has the caller's instance, and its acceptance is the answer to the caller. -/
structure SessionFor (subscription : ValidatedOrderBookSubscription) (sub : Subscriber L) : Prop where
  gateway : sub.channel.gatewayInstanceId = subscription.gatewayInstanceId
  accepted : ∀ r ∈ sub.records, ∀ a, r.payload = .subscriptionAccepted a →
    a.requestId = subscription.requestId ∧ a.subscriptionId = sub.channel.subscriptionId ∧
      a.gatewayInstanceId = subscription.gatewayInstanceId

/-- Each accepted request has a session, which is for its subscription, and no other request has it. -/
structure AcceptanceInv (s : Impl L) : Prop where
  session : ∀ (i : Nat) r channel, s.mail.admissions[i]? = some r → r.result = some (.accepted channel) →
    ∃ sub, s.channels[channel]? = some sub ∧ SessionFor r.subscription sub
  own : ∀ (i j : Nat) r r' channel, s.mail.admissions[i]? = some r → s.mail.admissions[j]? = some r' →
    r.result = some (.accepted channel) → r'.result = some (.accepted channel) → i = j

/-- The request is there, and this is its subscription. -/
def AsksWith (request : Nat) (subscription : ValidatedOrderBookSubscription) (s : Impl L) : Prop :=
  ∃ r, s.mail.admissions[request]? = some r ∧ r.subscription = subscription

variable {subscription : ValidatedOrderBookSubscription} {sub sub' : Subscriber L}

/-- A move of its channel leaves a session for its subscription. -/
theorem SessionFor.moved (h : SessionFor subscription sub) {c : SubscriberChannel L.LocalSnapshot L.DepthUpdate}
    (hm : ChannelMove sub.channel c) : SessionFor subscription { sub with channel := c } where
  gateway := hm.names.2.trans h.gateway
  accepted r hr a ha := by
    show _ ∧ a.subscriptionId = c.subscriptionId ∧ _
    rw [hm.names.1]
    rcases hm.queued with hq | ⟨q, -, -, hkind, hq⟩
    · refine h.accepted r ?_ a ha
      simpa [Subscriber.records, hq] using hr
    · have hr' : r ∈ sub.records ∨ r = q.value := by
        simpa [Subscriber.records, hq, or_assoc] using hr
      rcases hr' with hr' | rfl
      · exact h.accepted r hr' a ha
      · simp [PublicationRecord.kind, ha] at hkind

/-- A writer renames nothing. -/
theorem WriterMove.names (h : WriterMove sub sub') :
    sub'.channel.subscriptionId = sub.channel.subscriptionId ∧ sub'.channel.gatewayInstanceId = sub.channel.gatewayInstanceId := by
  cases h with
  | peek | close => exact ⟨rfl, rfl⟩
  | @acknowledge p hp =>
    show (sub.channel.acknowledge p).2.subscriptionId = _ ∧ (sub.channel.acknowledge p).2.gatewayInstanceId = _
    unfold SubscriberChannel.acknowledge
    split
    · exact ⟨rfl, rfl⟩
    · split
      · split
        · exact ⟨rfl, rfl⟩
        · split <;> exact ⟨rfl, rfl⟩
      · split <;> exact ⟨rfl, rfl⟩

/-- A writer leaves a session for its subscription. -/
theorem SessionFor.written {n : Nat} (h : SessionFor subscription sub) (hf : SubscriberFacts n sub) (hm : WriterMove sub sub') :
    SessionFor subscription sub' where
  gateway := hm.names.2.trans h.gateway
  accepted r hr a ha := by
    rw [hm.names.1]
    exact h.accepted r ((hf.writer hm).2.records.subset hr) a ha

/-- A new session, with its two initial records. -/
theorem sessionFor_initial {c : SubscriberChannel L.LocalSnapshot L.DepthUpdate}
    (hgateway : c.gatewayInstanceId = subscription.gatewayInstanceId) (hi : Initial setup subscription c s) :
    SessionFor subscription ({ channel := c } : Subscriber L) where
  gateway := hgateway
  accepted r hr a ha := by
    obtain ⟨publishedAt, depthLimit, snapshot, -, -, hq⟩ := hi.records
    have hr' : r ∈ c.queued.map (·.value) := by simpa [Subscriber.records] using hr
    rw [hq] at hr'
    rcases List.mem_cons.mp hr' with rfl | hr'
    · obtain rfl := OrdinaryPayload.subscriptionAccepted.inj ha
      exact ⟨rfl, rfl, rfl⟩
    · rw [List.mem_singleton.mp hr'] at ha
      cases ha

/-! ## Every section keeps the acceptances -/

variable {requests requests' : List AdmissionRequest}

/-- What was not accepted before is not accepted now. -/
theorem RequestMove.accepted (h : RequestMove requests requests') {i channel : Nat} {r : AdmissionRequest}
    (hr : requests'[i]? = some r) (ha : r.result = some (.accepted channel)) : requests[i]? = some r := by
  cases h with
  | same => exact hr
  | push q hq =>
    rw [List.getElem?_append] at hr
    split at hr
    · exact hr
    · obtain rfl : q = r := by
        have := List.mem_of_getElem? hr
        simpa [eq_comm] using this
      rw [hq] at ha
      cases ha
  | refuse queue error =>
    induction queue generalizing requests with
    | nil => exact hr
    | cons j queue ih =>
      have hr' := ih hr
      rw [List.getElem?_modify] at hr'
      by_cases hij : j = i
      · subst hij
        cases hold : requests[j]? with
        | none => simp [hold] at hr'
        | some old =>
          obtain ⟨target, asked, result⟩ := old
          cases result with
          | some given => simpa [hold, AdmissionRequest.answer] using hr'
          | none =>
            rw [hold] at hr'
            obtain rfl : _ = r := by simpa [AdmissionRequest.answer] using hr'
            cases ha
      · simpa [hij] using hr'

/-- An answer leaves a request its subscription. -/
theorem answerAll_subscription {request : Nat} {r : AdmissionRequest} (queue : List Nat) (result : SubscriptionAdmissionResult)
    (hr : requests[request]? = some r) :
    ∃ r', (answerAll queue result requests)[request]? = some r' ∧ r'.subscription = r.subscription := by
  induction queue generalizing requests r with
  | nil => exact ⟨r, hr, rfl⟩
  | cons j queue ih =>
    have hone : ∃ r', (requests.modify j (·.answer result))[request]? = some r' ∧ r'.subscription = r.subscription := by
      rw [List.getElem?_modify, hr]
      by_cases hij : j = request
      · refine ⟨r.answer result, by simp [hij], ?_⟩
        unfold AdmissionRequest.answer
        split <;> rfl
      · exact ⟨r, by simp [hij], rfl⟩
    obtain ⟨r', hr', hsame⟩ := hone
    obtain ⟨r'', hr'', hsame'⟩ := ih hr'
    exact ⟨r'', hr'', hsame'.trans hsame⟩

/-- A request keeps its subscription. -/
theorem RequestMove.asksWith (h : RequestMove s.mail.admissions t.mail.admissions) {request : Nat}
    (ha : AsksWith request subscription s) : AsksWith request subscription t := by
  obtain ⟨r, hr, rfl⟩ := ha
  unfold AsksWith
  generalize t.mail.admissions = requests' at h
  cases h with
  | same => exact ⟨r, hr, rfl⟩
  | push q hq => exact ⟨r, by rw [List.getElem?_append_left (List.getElem?_eq_some_iff.mp hr).1]; exact hr, rfl⟩
  | refuse queue error => exact answerAll_subscription queue _ hr

/-- Requests that move on and sessions that stay for their subscriptions keep the acceptances. -/
theorem AcceptanceInv.step (hi : AcceptanceInv s) (hr : RequestMove s.mail.admissions t.mail.admissions)
    (hs : ∀ (i : Nat) sub, s.channels[i]? = some sub → ∃ sub', t.channels[i]? = some sub' ∧
      ∀ subscription, SessionFor subscription sub → SessionFor subscription sub') : AcceptanceInv t where
  session i r channel ht ha := by
    obtain ⟨sub, hsub, hfor⟩ := hi.session i r channel (hr.accepted ht ha) ha
    obtain ⟨sub', hsub', hkeep⟩ := hs channel sub hsub
    exact ⟨sub', hsub', hkeep _ hfor⟩
  own i j r r' channel ht ht' ha ha' := hi.own i j r r' channel (hr.accepted ht ha) (hr.accepted ht' ha') ha ha'

/-- What passes keeps the acceptances. -/
theorem AcceptanceInv.passes (hi : AcceptanceInv s) (h : Passes s t) : AcceptanceInv t :=
  hi.step h.requests fun i sub hs =>
    have ⟨_, hc, ht⟩ := h.channels i sub hs
    ⟨_, ht, fun _ hf => hf.moved hc⟩

/-- Callers and writers keep the acceptances. -/
theorem AcceptanceInv.client (hi : AcceptanceInv s) (hb : BookInv setup s) (h : ClientStep setup s t) : AcceptanceInv t := by
  refine hi.step h.requests fun i sub hs => ?_
  obtain ⟨sub', ht, rfl | hw⟩ := h.writers i hs
  · exact ⟨sub', ht, fun _ hf => hf⟩
  · exact ⟨sub', ht, fun _ hf => hf.written (hb.facts i sub hs) hw⟩

/-- The callers find the book in order. -/
def acceptanceRely (setup : Setup L) : Rely (Impl L) where
  env s t := BookInv setup s ∧ ClientStep setup s t
  inv := AcceptanceInv
  inv_env _ _ hi h := hi.client h.1 h.2

/-- Callers leave the request its subscription. -/
theorem stable_asksWith (request : Nat) (subscription : ValidatedOrderBookSubscription) :
    (acceptanceRely setup).Stable (AsksWith request subscription) := fun _ _ _ ha h => h.2.requests.asksWith ha

/-- A piece that passes keeps the acceptances and the request that is served. -/
theorem passes_acceptances {α : Type} {p : OwnerProgram L α} (hp : p.All Passes) (request : Nat)
    (subscription : ValidatedOrderBookSubscription) :
    Triple (acceptanceRely setup) (AsksWith request subscription) p fun _ => AsksWith request subscription :=
  Triple.of_all hp (stable_asksWith request subscription) fun _ _ hi ha h => ⟨hi.passes h, h.requests.asksWith ha⟩

/-- Staging the first two records leaves a channel's instance as it is. -/
theorem stageInitial_gateway (c : SubscriberChannel L.LocalSnapshot L.DepthUpdate)
    (accepted snapshot : Shared (PublicationRecord L.LocalSnapshot L.DepthUpdate)) :
    (c.stageInitial accepted snapshot).2.gatewayInstanceId = c.gatewayInstanceId := by
  unfold SubscriberChannel.stageInitial SubscriberChannel.ringPushLocked
  split_ifs
  · rfl
  · rfl
  · dsimp only
    split_ifs <;> rfl
  · rfl

/-- A session that has been staged is for its subscription. -/
theorem stage_sessionFor {depthLimit : Option L.DepthLimit} {publishedAt : PublicationTime} {w : Outcome L}
    {c : SubscriberChannel L.LocalSnapshot L.DepthUpdate} (hl : AsksFor subscription depthLimit)
    (hc : (s.stageSession setup subscription depthLimit publishedAt w).1 = .staged c) :
    SessionFor subscription ({ channel := c } : Subscriber L) := by
  refine sessionFor_initial ?_ ((stage_cases hl).1 c hc)
  unfold Impl.stageSession at hc
  split at hc
  · cases hc
  · split at hc
    · cases hc
    · dsimp only at hc
      split at hc
      · obtain rfl := Staging.staged.inj hc
        exact stageInitial_gateway _ _ _
      · cases hc

/-- The section that accepts a request. -/
theorem AcceptanceInv.commit {request : Nat} {c : SubscriberChannel L.LocalSnapshot L.DepthUpdate} (hi : AcceptanceInv s)
    (ha : AsksWith request subscription s) (hc : SessionFor subscription ({ channel := c } : Subscriber L)) :
    AcceptanceInv (s.commitAdmission request c) := by
  rw [commitAdmission_eq]
  split
  swap
  · exact hi.passes (passes_gate request s)
  have hold : ∀ (i : Nat) sub, s.channels[i]? = some sub → (s.enrolled c).channels[i]? = some sub := fun i sub hs =>
    (List.getElem?_append_left (List.getElem?_eq_some_iff.mp hs).1).trans hs
  have henrolled : AcceptanceInv (s.enrolled c) :=
    hi.step (t := s.enrolled c) .same fun i sub hs => ⟨sub, hold i sub hs, fun _ hf => hf⟩
  unfold Impl.completeAdmissionRequestUnlocked
  split
  swap
  · exact henrolled
  rename_i target asked hr
  obtain ⟨r, hr', rfl⟩ := ha
  obtain rfl := Option.some.inj (hr'.symm.trans hr)
  have hnew : (s.enrolled c).channels[s.channels.length]? = some { channel := c } := by simp [Impl.enrolled]
  -- each request is as it was, or it is the one that is accepted now
  have hcases : ∀ (i : Nat) r, ((s.enrolled c).mail.admissions.modify request (·.answer (.accepted s.channels.length)))[i]? = some r →
      s.mail.admissions[i]? = some r ∧ i ≠ request ∨
        i = request ∧ r = ⟨target, asked, some (.accepted s.channels.length)⟩ := by
    intro i r hget
    rw [List.getElem?_modify] at hget
    by_cases hri : request = i
    · subst hri
      rw [show (s.enrolled c).mail.admissions[request]? = _ from hr] at hget
      simp only [if_true, Option.map_eq_map, Option.map_some, Option.some.injEq] at hget
      exact Or.inr ⟨rfl, hget.symm⟩
    · refine Or.inl ⟨?_, fun he => hri he.symm⟩
      simpa [hri, Impl.enrolled] using hget
  -- no session there was is the new one
  have hplace : ∀ (i : Nat) r channel, s.mail.admissions[i]? = some r → r.result = some (.accepted channel) →
      channel ≠ s.channels.length := by
    rintro i r channel hget hacc rfl
    obtain ⟨sub, hsub, -⟩ := hi.session i r _ hget hacc
    exact absurd (List.getElem?_eq_some_iff.mp hsub).1 (Nat.lt_irrefl _)
  refine ⟨fun i r channel hget hacc => ?_, fun i j r r' channel hget hget' hacc hacc' => ?_⟩
  · rcases hcases i r hget with ⟨hbefore, -⟩ | ⟨rfl, rfl⟩
    · exact henrolled.session i r channel hbefore hacc
    · obtain rfl : s.channels.length = channel := by simpa using hacc
      exact ⟨_, hnew, hc⟩
  · rcases hcases i r hget with ⟨hbefore, -⟩ | ⟨rfl, rfl⟩
    · rcases hcases j r' hget' with ⟨hbefore', -⟩ | ⟨rfl, rfl⟩
      · exact hi.own i j r r' channel hbefore hbefore' hacc hacc'
      · obtain rfl : s.channels.length = channel := by simpa using hacc'
        exact absurd rfl (hplace i r _ hbefore hacc)
    · rcases hcases j r' hget' with ⟨hbefore', -⟩ | ⟨rfl, -⟩
      · obtain rfl : s.channels.length = channel := by simpa using hacc
        exact absurd rfl (hplace j r' _ hbefore' hacc')
      · rfl

/-- A commit leaves the request its subscription. -/
theorem asksWith_commit {request : Nat} (c : SubscriberChannel L.LocalSnapshot L.DepthUpdate) (ha : AsksWith request subscription s) :
    AsksWith request subscription (s.commitAdmission request c) := by
  rw [commitAdmission_eq]
  split
  · unfold Impl.completeAdmissionRequestUnlocked
    split
    · obtain ⟨r, hr, rfl⟩ := ha
      exact answerAll_subscription [request] _ hr
    · exact ha
  · exact (passes_gate request s).requests.asksWith ha

/-- A request keeps its subscription whatever the owner does. -/
theorem OwnerSection.asksWith {request : Nat} (h : OwnerSection setup s t) (ha : AsksWith request subscription s) :
    AsksWith request subscription t := by
  have hcomplete : ∀ (other : Nat) (result : SubscriptionAdmissionResult) (s : Impl L), AsksWith request subscription s →
      AsksWith request subscription (s.completeAdmissionRequestUnlocked other result) := by
    rintro other result s ⟨r, hr, rfl⟩
    unfold AsksWith
    rcases (complete_same other result s).2.2 with he | he <;> rw [he]
    · exact ⟨r, hr, rfl⟩
    · exact answerAll_subscription [other] result hr
  rcases h.passes_or with hp | ⟨other, result, rfl⟩ | ⟨other, c, rfl⟩
  · exact hp.requests.asksWith ha
  · exact hcomplete other result s ha
  · exact hcomplete other _ (s.enrolled c) ha

/-! ## An admission keeps the acceptances -/

variable {request : Nat}

/-- A refusal adds no session. -/
theorem refuse_acceptances (error : SubscriptionAdmissionError) :
    Triple (acceptanceRely setup) (AsksWith request subscription) (completeAdmissionRequest request (.error error))
      fun _ => AsksWith request subscription :=
  passes_acceptances (Program.All.atomic fun _ s => passes_refusal request error s) request subscription

/-- A commit gives the request the session that was staged for it. -/
theorem admitStaged_acceptances {depthLimit : Option L.DepthLimit} (hl : AsksFor subscription depthLimit) :
    Triple (acceptanceRely setup) (AsksWith request subscription) (admitStaged setup request subscription depthLimit)
      fun _ => AsksWith request subscription := by
  have hstable : (acceptanceRely setup).Stable (AsksWith request subscription) := stable_asksWith request subscription
  refine Triple.bind (Triple.choose hstable) fun sampled => ?_
  cases sampled with
  | none => exact refuse_acceptances _
  | some publishedAt =>
    refine Triple.bind (Triple.read hstable (fun _ => hstable) fun _ _ h => h) fun next => ?_
    split
    · exact refuse_acceptances _
    · have hstaged : ∀ staging : Staging L, (acceptanceRely setup).Stable fun t : Impl L =>
          AsksWith request subscription t ∧
            ∀ c, staging = .staged c → SessionFor subscription ({ channel := c } : Subscriber L) := fun staging =>
        hstable.and (Rely.Stable.const _)
      refine Triple.bind (Triple.atomic hstable hstaged fun w t hi ha => ?_) fun staging => ?_
      · have hpass : Passes t (t.stageSession setup subscription depthLimit publishedAt w).2 := passes_stage _ _ _ _ t
        exact ⟨hi.passes hpass, hpass.requests.asksWith ha, fun c hc => stage_sessionFor hl hc⟩
      · cases staging with
        | threw | adapterError _ | notStaged => exact (refuse_acceptances _).pre fun _ _ h => h.1
        | staged c =>
          refine Triple.bind (Triple.atomic (hstaged _) (fun _ => hstable) fun w t hi h => ?_) fun completion => ?_
          · unfold Impl.tryCommitAdmission
            split
            · exact ⟨hi, h.1⟩
            · exact ⟨AcceptanceInv.commit hi h.1 (h.2 c rfl), asksWith_commit c h.1⟩
          · cases completion with
            | threw => exact refuse_acceptances _
            | returned => exact Triple.done hstable fun _ _ h => h

/-- An admission is refused or answered with a session of its own. -/
theorem performAdmissionRequest_acceptances :
    Triple (acceptanceRely setup) (AsksWith request subscription) (performAdmissionRequest setup request subscription)
      fun _ => AsksWith request subscription := by
  have hstable : (acceptanceRely setup).Stable (AsksWith request subscription) := stable_asksWith request subscription
  refine Triple.bind (passes_acceptances passes_sweep request subscription) fun _ => ?_
  refine Triple.bind (passes_acceptances (Program.All.atomic fun _ s => passes_gate request s) request subscription) fun mayGoOn => ?_
  split
  · exact Triple.done hstable fun _ _ h => h
  · refine Triple.bind (Triple.read hstable (fun _ => hstable) fun _ _ h => h) fun subscribers => ?_
    split
    · exact refuse_acceptances _
    · split
      · rename_i hnone
        exact admitStaged_acceptances (by unfold AsksFor; rw [hnone])
      · rename_i depth hsome
        split
        · exact refuse_acceptances _
        · rename_i limit hlimit
          exact admitStaged_acceptances (by unfold AsksFor; rw [hsome]; exact ⟨limit, hlimit, rfl⟩)

/-! ## Runs -/

/-- A piece of the owner that keeps the acceptances, whatever the callers do meanwhile. -/
def KeepsAcceptances (setup : Setup L) (α : Type) (p : OwnerProgram L α) : Prop :=
  Triple (acceptanceRely setup) (fun _ => True) p fun _ _ => True

/-- Keeping the acceptances is closed under composition. -/
theorem composed_acceptances : Composed setup Passes (KeepsAcceptances setup) where
  plain := plain_passes
  all hp := Triple.of_all hp (Rely.Stable.const _) fun _ _ hi _ h => ⟨hi.passes h, trivial⟩
  bind hp hk := Triple.bind hp hk
  sweep := Triple.of_all passes_sweep (Rely.Stable.const _) fun _ _ hi _ h => ⟨hi.passes h, trivial⟩
  closeAll := Triple.of_all passes_closeAll (Rely.Stable.const _) fun _ _ hi _ h => ⟨hi.passes h, trivial⟩

/-- The request that the owner takes from the queue asks with the subscription it is served for. -/
theorem takeWork_asksWith (h : s.takeWork.1 = .admission request subscription) : AsksWith request subscription s.takeWork.2 := by
  obtain ⟨r, hready, rfl, he⟩ := takeWork_admission h
  obtain ⟨rest, -, hr, -⟩ := readyAdmission_some hready
  rw [he]
  exact ⟨r, hr, rfl⟩

/-- A round of the owner keeps the acceptances. -/
theorem ownerRound_acceptances : KeepsAcceptances setup Bool (ownerRound setup) := by
  have hasked : ∀ work : Work L, (acceptanceRely setup).Stable fun s : Impl L =>
      ∀ request subscription, work = .admission request subscription → AsksWith request subscription s := fun work =>
    Rely.Stable.all fun request => Rely.Stable.all fun subscription => Rely.Stable.imp (stable_asksWith request subscription)
  have htrue : (acceptanceRely setup).Stable fun _ : Impl L => True := Rely.Stable.const _
  refine Triple.bind (Triple.await htrue hasked fun w s hi _ _ =>
    ⟨hi.passes ((plain_passes : Plain setup _).takeWork s), fun request subscription h => takeWork_asksWith h⟩) fun work => ?_
  by_cases hwork : ∃ request subscription, work = .admission request subscription
  · obtain ⟨request, subscription, rfl⟩ := hwork
    refine Triple.bind (Q := fun _ _ => True) ?_ fun _ => Triple.done htrue fun _ _ _ => trivial
    exact (performAdmissionRequest_acceptances.pre fun s _ hs => hs request subscription rfl).post fun _ _ _ _ => trivial
  · refine (composed_acceptances.perform (fun input => composed_acceptances.applyUpdate (passes_apply input) (passes_recordApply input))
      fun request subscription he => absurd ⟨request, subscription, he⟩ hwork).pre fun _ _ _ => trivial

/-- A new runtime has accepted nobody. -/
theorem acceptanceInv_initial (setup : Setup L) : AcceptanceInv (Impl.initial setup) where
  session i r channel h := by simp [Impl.initial] at h
  own i j r r' channel h := by simp [Impl.initial] at h

/-- In every reachable state. -/
theorem Reachable.acceptances {ph : Phase (Impl L) (Outcome L)} (h : Reachable setup ph s) : AcceptanceInv s := by
  have htrue : (acceptanceRely setup).Stable fun _ : Impl L => True := Rely.Stable.const _
  have hloop : LoopInv (acceptanceRely setup) (fun _ => True) (fun _ => True) ph s := by
    induction h with
    | initial =>
      exact (composed_acceptances.prologue _ (acceptanceInv_initial setup) trivial).mono fun again t _ _ => afterRound_const again t
    | step h hs ih =>
      refine ih.step htrue htrue (ownerRound_acceptances.post fun again t _ _ => afterRound_const again t) ?_
      exact hs.mono fun he => ⟨h.book.inv, he⟩
  exact hloop.inv

end MarketDataGateway.MarketRuntime
