import MarketDataGateway.Lib.Next
import MarketDataGateway.Runtime.Progress
import MarketDataGateway.Runtime.Roster

/-!
# Admissions are atomic

However the service of an admission request is interleaved with the callers, one of its sections answers the request and all others
leave the sessions alone. What that section does is all that the admission does.
-/

namespace MarketDataGateway.MarketRuntime

open OrderBook Threads Relation

variable {L : ProjectionLibrary} {setup : Setup L} {s t u : Impl L}

/-! ## What always holds -/

/-- The list of subscribers has room for its members, names are given in order, and the requests in the queue have no result. -/
structure AdmissionInv (setup : Setup L) (s : Impl L) : Prop where
  limit : s.roster.subscribers.length ≤ setup.limits.publication.maximumActiveSubscriptions
  next : s.roster.nextSubscriptionId = s.names.length + 1
  names : s.names = (List.range s.names.length).map fun i => subscriptionName (i + 1)
  queue : s.mail.admissionRequests.Nodup
  unanswered : ∀ i ∈ s.mail.admissionRequests, ∃ r, s.mail.admissions[i]? = some r ∧ r.result = none
  counted : s.mail.admissionRequests.length ≤ s.mail.pendingAdmissionCount
  observed : s.mail.observation.pendingAdmissionCount = s.mail.pendingAdmissionCount

/-- What spares the admissions keeps their invariant. -/
theorem AdmissionInv.spares {last : Prop} (hi : AdmissionInv setup s) (h : Spares last s t) : AdmissionInv setup t := by
  obtain ⟨hr, ⟨hn, -⟩, hq⟩ := h
  have hroster : t.roster.subscribers.length ≤ setup.limits.publication.maximumActiveSubscriptions ∧
      t.roster.nextSubscriptionId = t.names.length + 1 ∧
      t.names = (List.range t.names.length).map fun i => subscriptionName (i + 1) := by
    rw [hr, hn]
    exact ⟨hi.limit, hi.next, hi.names⟩
  cases hq with
  | same ha hq hp ho =>
    refine ⟨hroster.1, hroster.2.1, hroster.2.2, ?_, ?_, ?_, ?_⟩
    · rw [hq]; exact hi.queue
    · rw [hq, ha]; exact hi.unanswered
    · rw [hq, hp]; exact hi.counted
    · rw [ho, hp]; exact hi.observed
  | push r hr ha hq hp ho =>
    refine ⟨hroster.1, hroster.2.1, hroster.2.2, ?_, ?_, ?_, ho⟩
    · rw [hq]
      refine List.nodup_append.mpr ⟨hi.queue, by simp, fun i hin j hj => ?_⟩
      obtain ⟨r', hr', -⟩ := hi.unanswered i hin
      have hlt := (List.getElem?_eq_some_iff.mp hr').1
      rw [List.mem_singleton.mp hj]
      omega
    · rw [hq, ha]
      intro i hin
      rcases List.mem_append.mp hin with hin | hin
      · obtain ⟨r', hr', hn'⟩ := hi.unanswered i hin
        exact ⟨r', by rw [List.getElem?_append_left (List.getElem?_eq_some_iff.mp hr').1]; exact hr', hn'⟩
      · rw [List.mem_singleton.mp hin]
        exact ⟨r, by simp, hr⟩
    · rw [hq, hp, List.length_append, List.length_singleton]
      exact Nat.succ_le_succ hi.counted
  | take ha hq hp ho =>
    refine ⟨hroster.1, hroster.2.1, hroster.2.2, ?_, ?_, ?_, ?_⟩
    · rw [hq]; exact hi.queue.sublist (List.tail_sublist _)
    · rw [hq, ha]; exact fun i hin => hi.unanswered i (List.mem_of_mem_tail hin)
    · rw [hq, hp, List.length_tail]
      have := hi.counted
      omega
    · rw [ho, hp]; exact hi.observed
  | answerAll result _ ha hq hp ho =>
    refine ⟨hroster.1, hroster.2.1, hroster.2.2, ?_, ?_, ?_, ?_⟩
    · rw [hq]; exact List.nodup_nil
    · rw [hq]; exact fun i hin => (by cases hin)
    · rw [hq]; exact Nat.zero_le _
    · rw [ho, hp]

/-- The list of subscribers is replaced by one that is no longer than the limit. -/
theorem AdmissionInv.roster (hi : AdmissionInv setup s) {remaining : List Nat}
    (h : remaining.length ≤ setup.limits.publication.maximumActiveSubscriptions) (n : Nat) :
    AdmissionInv setup { s with roster.subscribers := remaining, mail.observation.residentSubscriptionCount := n } :=
  ⟨h, hi.next, hi.names, hi.queue, hi.unanswered, hi.counted, hi.observed⟩

/-- A new runtime has no admissions. -/
theorem admissionInv_initial (setup : Setup L) : AdmissionInv setup (Impl.initial setup) :=
  ⟨Nat.zero_le _, rfl, rfl, List.nodup_nil, fun _ hi => (by cases hi), Nat.le_refl _, rfl⟩

/-- The owner's environment. The callers find the mailbox in order. -/
def admissionRely (setup : Setup L) : Rely (Impl L) where
  env s t := MailboxInv setup s ∧ ClientStep setup s t
  inv := AdmissionInv setup
  inv_env _ _ h hs := h.spares hs.2.spares

/-! ## A request in service -/

/-- The request has no result, is out of the queue, and counts among the pending ones. -/
structure InService (request target : Nat) (subscription : ValidatedOrderBookSubscription) (s : Impl L) : Prop where
  unanswered : s.mail.admissions[request]? = some ⟨target, subscription, none⟩
  unqueued : request ∉ s.mail.admissionRequests
  counted : s.mail.admissionRequests.length < s.mail.pendingAdmissionCount

/-- A section of the service that does not answer the request: it only takes closed sessions from the list of subscribers. -/
structure Prepares (s t : Impl L) : Prop where
  mail : ∃ n, t.mail = { s.mail with observation.residentSubscriptionCount := n }
  channels : t.channels = s.channels
  next : t.roster.nextSubscriptionId = s.roster.nextSubscriptionId
  kept : t.roster.subscribers.Sublist s.roster.subscribers
  swept : ∀ i ∈ s.roster.subscribers, i ∉ t.roster.subscribers → s.channelState i = some .closed

/-- From `s` to `t` the request has been in service, and nothing but the callers' sections and preparations has happened. -/
structure Underway (setup : Setup L) (request target : Nat) (subscription : ValidatedOrderBookSubscription) (s t : Impl L) :
    Prop where
  service : InService request target subscription t
  path : ReflTransGen (fun a b => ClientStep setup a b ∨ Prepares a b) s t
  closed : ∀ i, s.channelState i = some .closed → t.channelState i = some .closed

/-- Nobody on the list of `t` was closed in `s`. -/
def Swept (s t : Impl L) : Prop := ∀ i ∈ t.roster.subscribers, s.channelState i ≠ some .closed

def Room (setup : Setup L) (s : Impl L) : Prop :=
  s.roster.subscribers.length < setup.limits.publication.maximumActiveSubscriptions

/-- The depth limit a session is asked for with. -/
def AsksFor (subscription : ValidatedOrderBookSubscription) (depthLimit : Option L.DepthLimit) : Prop :=
  match subscription.depthLimit with
  | none => depthLimit = none
  | some depth => ∃ limit, L.createDepthLimit depth = .ok limit ∧ depthLimit = some limit

/-- The channel is new and holds exactly an acceptance and a snapshot of the book. -/
structure Initial (setup : Setup L) (subscription : ValidatedOrderBookSubscription)
    (c : SubscriberChannel L.LocalSnapshot L.DepthUpdate) (s : Impl L) : Prop where
  name : c.subscriptionId = subscriptionName s.roster.nextSubscriptionId
  active : c.state = .active
  terminal : c.terminal = none
  sequence : c.nextSessionSequence = 3
  records : ∃ publishedAt depthLimit snapshot, AsksFor subscription depthLimit ∧
    L.makeLocalOrderBookSnapshot s.book.projection setup.expectedIdentity
      ⟨"gateway-g7-publication", "1.0.0", publishedAt.utcNs, publishedAt.monotonicNs⟩ depthLimit = .ok snapshot ∧
    c.queued.map (·.value) =
      [makeAcceptedRecord subscription.requestId c.subscriptionId subscription.gatewayInstanceId publishedAt,
        makeSnapshotRecord snapshot s.book.currentProjectionGeneration publishedAt]

/-- The session of an accepted request: one channel more, with a name no session has ever had. -/
structure Admits (setup : Setup L) (subscription : ValidatedOrderBookSubscription) (s : Impl L) (channel : Nat) (t : Impl L) :
    Prop where
  room : Room setup s
  place : channel = s.channels.length
  enrolled : t.roster = ⟨s.roster.subscribers ++ [channel], s.roster.nextSubscriptionId + 1⟩
  added : ∃ c, t.channels = s.channels ++ [{ channel := c }] ∧ Initial setup subscription c s ∧ c.subscriptionId ∉ s.names

/-- The section that answers the request: it gives the result, takes one off the count, and adds a session only with an acceptance. -/
structure Answers (setup : Setup L) (request target : Nat) (subscription : ValidatedOrderBookSubscription)
    (result : SubscriptionAdmissionResult) (s t : Impl L) : Prop where
  unanswered : s.mail.admissions[request]? = some ⟨target, subscription, none⟩
  answered : t.mail.admissions = s.mail.admissions.set request ⟨target, subscription, some result⟩
  pending : t.mail.pendingAdmissionCount + 1 = s.mail.pendingAdmissionCount
  observed : t.mail.observation.pendingAdmissionCount = t.mail.pendingAdmissionCount
  refused : ∀ error, result = .error error → t.roster = s.roster ∧ t.channels = s.channels
  limited : result = .error .activeLimit →
    setup.limits.publication.maximumActiveSubscriptions ≤ s.roster.subscribers.length ∨
      setup.limits.publication.ordinaryQueueCapacity < 2
  accepted : ∀ channel, result = .accepted channel → Admits setup subscription s channel t

/-- From `s` to `t` no name has been given, and the list of subscribers has only lost sessions that are closed. -/
structure Sweeps (s t : Impl L) : Prop where
  next : t.roster.nextSubscriptionId = s.roster.nextSubscriptionId
  kept : t.roster.subscribers.Sublist s.roster.subscribers
  dropped : ∀ i ∈ s.roster.subscribers, i ∉ t.roster.subscribers → t.channelState i = some .closed

/-- From `s` to `t` the request has been served: its answer is one section, behind preparations, and only callers have moved since. -/
def Served (setup : Setup L) (request target : Nat) (subscription : ValidatedOrderBookSubscription) (s t : Impl L) : Prop :=
  ∃ u v result, ReflTransGen (fun a b => ClientStep setup a b ∨ Prepares a b) s u ∧ Sweeps s u ∧ Swept s u ∧
    Answers setup request target subscription result u v ∧ ReflTransGen (ClientStep setup) v t ∧
    t.mail.admissions[request]? = some ⟨target, subscription, some result⟩

/-! ## What the callers leave alone -/

variable {request target : Nat} {subscription : ValidatedOrderBookSubscription}

/-- Callers leave the request in service. -/
theorem InService.client (hm : MailboxInv setup s) (he : ClientStep setup s t) (h : InService request target subscription s) :
    InService request target subscription t := by
  obtain ⟨hr, hu, hc⟩ := h
  have hlt := (List.getElem?_eq_some_iff.mp hr).1
  cases he.spares.requests with
  | same ha hq hp _ => exact ⟨by rw [ha]; exact hr, by rw [hq]; exact hu, by rw [hq, hp]; exact hc⟩
  | push r _ ha hq hp _ =>
    refine ⟨by rw [ha, List.getElem?_append_left hlt]; exact hr, ?_, ?_⟩
    · rw [hq, List.mem_append, List.mem_singleton, not_or]
      exact ⟨hu, Nat.ne_of_lt hlt⟩
    · rw [hq, hp, List.length_append, List.length_singleton]
      exact Nat.succ_lt_succ hc
  | take ha hq hp _ =>
    refine ⟨by rw [ha]; exact hr, ?_, ?_⟩
    · rw [hq]; exact fun hin => hu (List.mem_of_mem_tail hin)
    · rw [hq, hp, List.length_tail]; omega
  | answerAll _ hexited _ _ _ _ =>
    -- an owner that has left leaves no request without a result
    obtain ⟨-, -, -, -, -, hall, -⟩ := hm.lifecycle.exited hexited
    exact absurd (hall _ (List.mem_of_getElem? hr)) (by simp)

/-- The request stays under way while callers go on. -/
theorem stable_underway : (admissionRely setup).Stable (Underway setup request target subscription s) := fun _ _ _ h he =>
  ⟨h.service.client he.1 he.2, h.path.tail (.inl he.2), fun i hi => he.2.spares.rings.closed i (h.closed i hi)⟩

/-- Only the owner changes the list of subscribers. -/
theorem stable_roster (P : Roster → Prop) : (admissionRely setup).Stable fun t : Impl L => P t.roster := by
  rintro t u _ h ⟨-, he⟩
  rw [ClientStep.roster he]
  exact h

/-- What a channel holds initially stays so while callers go on. -/
theorem stable_initial (c : SubscriberChannel L.LocalSnapshot L.DepthUpdate) :
    (admissionRely setup).Stable (Initial setup subscription c) := by
  rintro t u _ ⟨hname, hactive, hterminal, hsequence, hrecords⟩ ⟨-, he⟩
  refine ⟨?_, hactive, hterminal, hsequence, ?_⟩
  · rw [ClientStep.roster he]; exact hname
  · rw [he.aside.projection, he.aside.generation]; exact hrecords

/-- A served request stays served. -/
theorem stable_served : (admissionRely setup).Stable (Served setup request target subscription s) := by
  rintro t u _ ⟨v, w, result, hpath, hsweeps, hswept, hanswers, hafter, hresult⟩ ⟨-, he⟩
  exact ⟨v, w, result, hpath, hsweeps, hswept, hanswers, hafter.tail he, he.spares.requests.answered hresult rfl⟩

/-! ## The sections of a service -/

/-- A request in service is under way from where it stands. -/
theorem Underway.refl (h : InService request target subscription s) : Underway setup request target subscription s s :=
  ⟨h, .refl, fun _ => id⟩

/-- A preparation keeps the request in service, and the invariant. -/
theorem Underway.prepare (h : Underway setup request target subscription s t) (hp : Prepares t u) :
    Underway setup request target subscription s u := by
  obtain ⟨⟨n, hm⟩, hc, -, -, -⟩ := id hp
  refine ⟨⟨?_, ?_, ?_⟩, h.path.tail (.inr hp), fun i hi => ?_⟩
  · rw [hm]; exact h.service.unanswered
  · rw [hm]; exact h.service.unqueued
  · rw [hm]; exact h.service.counted
  · unfold Impl.channelState
    rw [hc]
    exact h.closed i hi

/-- Preparing a session keeps the invariant of the admissions. -/
theorem AdmissionInv.prepare (hi : AdmissionInv setup s) (hp : Prepares s t) : AdmissionInv setup t := by
  obtain ⟨⟨n, hm⟩, hc, hnext, hkept, -⟩ := hp
  have hnames : t.names = s.names := congrArg (List.map _) hc
  refine ⟨hkept.length_le.trans hi.limit, ?_, ?_, ?_, ?_, ?_, ?_⟩
  · rw [hnext, hnames]; exact hi.next
  · rw [hnames]; exact hi.names
  · rw [hm]; exact hi.queue
  · rw [hm]; exact hi.unanswered
  · rw [hm]; exact hi.counted
  · rw [hm]; exact hi.observed

/-- The sweep takes the closed sessions from the list, and no others. -/
theorem sweep_underway : Triple (admissionRely setup) (Underway setup request target subscription s) sweepClosedSubscribers
    fun _ t => Underway setup request target subscription s t ∧ Swept s t := by
  refine Triple.bind (Triple.read stable_underway (fun subscribers => stable_underway.and (stable_roster (·.subscribers = subscribers)))
    fun t _ h => ⟨h, rfl⟩) fun subscribers => ?_
  have hclosed : ∀ i, (admissionRely setup).Stable fun t : Impl L => t.channelState i = some .closed :=
    fun i t u _ h he => he.2.spares.rings.closed i h
  refine Triple.bind (openSubscribers_triple (I := fun i => s.channelState i ≠ some .closed) subscribers
    (stable_underway.and (stable_roster (·.subscribers = subscribers))) hclosed (fun i t _ _ h => h)
    fun i t _ h hopen hs => hopen (h.1.closed i hs)) fun remaining => ?_
  refine Triple.modify ((stable_underway.and (stable_roster (·.subscribers = subscribers))).and
    ((Rely.Stable.const _).and ((Rely.Stable.const _).and (Rely.Stable.all fun i => (hclosed i).imp))))
    (stable_underway.and (stable_roster fun r => ∀ i ∈ r.subscribers, s.channelState i ≠ some .closed)) ?_
  rintro t hi ⟨⟨h, hr⟩, hsub, hin, hout⟩
  have hprepares : Prepares t
      { t with roster.subscribers := remaining, mail.observation.residentSubscriptionCount := remaining.length } :=
    ⟨⟨_, rfl⟩, rfl, rfl, by rw [hr]; exact hsub, fun i hin hnot => hout i ⟨by rw [← hr]; exact hin, hnot⟩⟩
  exact ⟨hi.prepare hprepares, h.prepare hprepares, hin⟩

/-- Completing touches the request, the counter, its queue and the histories only. -/
theorem complete_eq (h : InService request target subscription s) (result : SubscriptionAdmissionResult) :
    ∃ log, s.completeAdmissionRequestUnlocked request result = { s with
      mail.admissions := s.mail.admissions.set request ⟨target, subscription, some result⟩
      mail.pendingAdmissionCount := s.mail.pendingAdmissionCount - 1
      mail.observation.pendingAdmissionCount := s.mail.pendingAdmissionCount - 1
      ticketLog := log } := by
  have hmodify : s.mail.admissions.modify request (·.answer result) =
      s.mail.admissions.set request ⟨target, subscription, some result⟩ := by
    refine List.ext_getElem? fun i => ?_
    rw [List.getElem?_modify, List.getElem?_set]
    by_cases hi : request = i
    · subst hi
      rw [h.unanswered]
      simp [AdmissionRequest.answer, (List.getElem?_eq_some_iff.mp h.unanswered).1]
    · simp [hi]
  unfold Impl.completeAdmissionRequestUnlocked
  rw [h.unanswered]
  dsimp only
  rw [hmodify]
  exact ⟨_, rfl⟩

/-- The invariant survives the answer. -/
theorem AdmissionInv.complete (hi : AdmissionInv setup s) (h : InService request target subscription s)
    (result : SubscriptionAdmissionResult) : AdmissionInv setup (s.completeAdmissionRequestUnlocked request result) := by
  obtain ⟨log, he⟩ := complete_eq h result
  rw [he]
  refine ⟨hi.limit, hi.next, hi.names, hi.queue, fun i hin => ?_, Nat.le_sub_one_of_lt h.counted, rfl⟩
  obtain ⟨r, hr, hn⟩ := hi.unanswered i hin
  refine ⟨r, ?_, hn⟩
  show (s.mail.admissions.set request _)[i]? = some r
  rw [List.getElem?_set_ne (fun heq => h.unqueued (by rw [heq]; exact hin))]
  exact hr

/-- A refusal answers the request. -/
theorem refusal_answers (h : InService request target subscription s) {error : SubscriptionAdmissionError}
    (hl : error = .activeLimit → setup.limits.publication.maximumActiveSubscriptions ≤ s.roster.subscribers.length ∨
      setup.limits.publication.ordinaryQueueCapacity < 2) :
    Answers setup request target subscription (.error error) s (s.completeAdmissionRequestUnlocked request (.error error)) := by
  have hpending := h.counted
  obtain ⟨log, he⟩ := complete_eq h (.error error)
  rw [he]
  refine ⟨h.unanswered, rfl, ?_, rfl, fun _ _ => ⟨rfl, rfl⟩, fun hr => hl (by cases hr; rfl), fun channel hr => by cases hr⟩
  show s.mail.pendingAdmissionCount - 1 + 1 = s.mail.pendingAdmissionCount
  omega

/-- The answer stands in the request's place. -/
theorem Answers.result {result : SubscriptionAdmissionResult} (h : Answers setup request target subscription result s t) :
    t.mail.admissions[request]? = some ⟨target, subscription, some result⟩ := by
  rw [h.answered, List.getElem?_set_self (List.getElem?_eq_some_iff.mp h.unanswered).1]

/-- Callers and preparations only sweep. -/
theorem sweeps_of_path (h : ReflTransGen (fun a b => ClientStep setup a b ∨ Prepares a b) s t) : Sweeps s t := by
  induction h with
  | refl => exact ⟨rfl, List.Sublist.refl _, fun i hi hn => absurd hi hn⟩
  | @tail t u _ hstep ih =>
    obtain ⟨hnext, hkept, hdropped⟩ := ih
    rcases hstep with he | hp
    · have hroster := ClientStep.roster he
      rw [← hroster] at hnext hkept hdropped
      exact ⟨hnext, hkept, fun i hi hn => he.spares.rings.closed i (hdropped i hi hn)⟩
    · refine ⟨hp.next.trans hnext, hp.kept.trans hkept, fun i hi hn => ?_⟩
      unfold Impl.channelState
      rw [hp.channels]
      by_cases hin : i ∈ t.roster.subscribers
      · exact hp.swept i hin hn
      · exact hdropped i hi hin

/-- A request in service that is answered has been served. -/
theorem Underway.served {result : SubscriptionAdmissionResult} (h : Underway setup request target subscription s t) (hs : Swept s t)
    (ha : Answers setup request target subscription result t u) : Served setup request target subscription s u :=
  ⟨t, u, result, h.path, sweeps_of_path h.path, hs, ha, .refl, ha.result⟩

/-- The request is in service, and the closed sessions have been swept. -/
def Sweeping (setup : Setup L) (request target : Nat) (subscription : ValidatedOrderBookSubscription) (s t : Impl L) : Prop :=
  Underway setup request target subscription s t ∧ Swept s t

/-- The request stays in service while closed subscribers are swept. -/
theorem stable_sweeping : (admissionRely setup).Stable (Sweeping setup request target subscription s) :=
  stable_underway.and (stable_roster fun r => ∀ i ∈ r.subscribers, s.channelState i ≠ some .closed)

/-- A refusal serves the request; the active limit is given as the reason only when it is reached. -/
theorem refuse_served {A : Impl L → Prop} (hA : (admissionRely setup).Stable A)
    (h : ∀ t, AdmissionInv setup t → A t → Sweeping setup request target subscription s t) {error : SubscriptionAdmissionError}
    (hl : error = .activeLimit → ∀ t, A t → setup.limits.publication.maximumActiveSubscriptions ≤ t.roster.subscribers.length ∨
      setup.limits.publication.ordinaryQueueCapacity < 2) :
    Triple (admissionRely setup) A (completeAdmissionRequest request (.error error))
      fun _ => Served setup request target subscription s := by
  refine Triple.modify hA stable_served fun t hi ha => ?_
  obtain ⟨hu, hs⟩ := h t hi ha
  exact ⟨AdmissionInv.complete hi hu.service _, hu.served hs (refusal_answers hu.service fun he => hl he t ha)⟩

/-- The gate answers the request, or changes nothing. -/
theorem gate_served (hi : AdmissionInv setup t) (h : Sweeping setup request target subscription s t) :
    AdmissionInv setup (t.gateAdmission request).2 ∧
      ((t.gateAdmission request).1 = true → (t.gateAdmission request).2 = t) ∧
      ((t.gateAdmission request).1 = false → Served setup request target subscription s (t.gateAdmission request).2) := by
  unfold Impl.gateAdmission
  split_ifs
  · exact ⟨hi.complete h.1.service _, fun hc => (by cases hc),
      fun _ => h.1.served h.2 (refusal_answers h.1.service fun he => by cases he)⟩
  · exact ⟨hi.complete h.1.service _, fun hc => (by cases hc),
      fun _ => h.1.served h.2 (refusal_answers h.1.service fun he => by cases he)⟩
  · exact ⟨hi, fun _ => rfl, fun hc => by cases hc⟩

/-- Staging the first two records leaves a channel's name as it is. -/
theorem stageInitial_name (c : SubscriberChannel L.LocalSnapshot L.DepthUpdate)
    (accepted snapshot : Shared (PublicationRecord L.LocalSnapshot L.DepthUpdate)) :
    (c.stageInitial accepted snapshot).2.subscriptionId = c.subscriptionId := by
  unfold SubscriberChannel.stageInitial SubscriberChannel.ringPushLocked
  split_ifs
  · rfl
  · rfl
  · dsimp only
    split_ifs <;> rfl
  · rfl

/-- A new channel that cannot be staged has no room for the two initial records. -/
theorem capacity_of_not_staged {c : SubscriberChannel L.LocalSnapshot L.DepthUpdate}
    {accepted snapshot : Shared (PublicationRecord L.LocalSnapshot L.DepthUpdate)} (hactive : c.state = .active)
    (hempty : c.ordinaryRing.size = 0) (haccepted : accepted.value.sessionSequence = 1 ∧ accepted.value.kind = .subscriptionAccepted)
    (hsnapshot : snapshot.value.sessionSequence = 2 ∧ snapshot.value.kind = .snapshot)
    (h : (c.stageInitial accepted snapshot).1 = false) : c.ordinaryCapacity < 2 := by
  by_contra hcapacity
  obtain ⟨c₁, hp₁, hq₁, -, -, hc₁⟩ := SubscriberChannel.ringPushLocked_some accepted (show c.ordinaryRing.size < _ by omega)
  have hsize : c₁.ordinaryRing.size = 1 := by
    rw [← SubscriberChannel.queued_length, hq₁, List.length_append, SubscriberChannel.queued_length, hempty]
    rfl
  obtain ⟨c₂, hp₂, -⟩ := SubscriberChannel.ringPushLocked_some snapshot (show c₁.ordinaryRing.size < _ by omega)
  unfold SubscriberChannel.stageInitial at h
  rw [if_neg (by simp [haccepted, hsnapshot]), if_neg (by simp [hactive, hempty]; omega)] at h
  simp [hp₁, hp₂] at h

variable {depthLimit : Option L.DepthLimit} {publishedAt : PublicationTime} {w : Outcome L}

/-- Staging a session prepares it. -/
theorem prepares_stage : Prepares s (s.stageSession setup subscription depthLimit publishedAt w).2 := by
  have hsame : Prepares s s := ⟨⟨_, rfl⟩, rfl, rfl, List.Sublist.refl _, fun i hi hn => absurd hi hn⟩
  unfold Impl.stageSession
  split
  · exact hsame
  · split
    · exact hsame
    · exact ⟨⟨_, rfl⟩, rfl, rfl, List.Sublist.refl _, fun i hi hn => absurd hi hn⟩

/-- What staging a session comes to. -/
theorem stage_cases (hl : AsksFor subscription depthLimit) :
    (∀ c, (s.stageSession setup subscription depthLimit publishedAt w).1 = .staged c →
      Initial setup subscription c (s.stageSession setup subscription depthLimit publishedAt w).2) ∧
    ((s.stageSession setup subscription depthLimit publishedAt w).1 = .notStaged →
      setup.limits.publication.ordinaryQueueCapacity < 2) := by
  unfold Impl.stageSession
  split
  · exact ⟨fun c hc => (by cases hc), fun hc => by cases hc⟩
  · split
    · exact ⟨fun c hc => (by cases hc), fun hc => by cases hc⟩
    · rename_i snapshot hsnapshot
      dsimp only
      split
      · rename_i hstaged
        refine ⟨fun c hc => ?_, fun hc => by cases hc⟩
        obtain ⟨hactive, hterminal, hsequence, hqueued⟩ := SubscriberChannel.stageInitial_true hstaged
        obtain rfl := Staging.staged.inj hc
        have hname := stageInitial_name (SubscriberChannel.create ("ob-" ++ toString s.roster.nextSubscriptionId)
          subscription.gatewayInstanceId setup.limits.publication.ordinaryQueueCapacity setup.limits.queue_pos)
          ⟨s.nextAddress, makeAcceptedRecord subscription.requestId ("ob-" ++ toString s.roster.nextSubscriptionId)
            subscription.gatewayInstanceId publishedAt⟩
          ⟨s.nextAddress + 1, makeSnapshotRecord snapshot s.book.currentProjectionGeneration publishedAt⟩
        refine ⟨hname, hactive, hterminal, hsequence, publishedAt, depthLimit, snapshot, hl, hsnapshot, ?_⟩
        rw [hqueued, hname]
        rfl
      · rename_i hnot
        exact ⟨fun c hc => (by cases hc), fun _ => capacity_of_not_staged rfl rfl ⟨rfl, rfl⟩ ⟨rfl, rfl⟩ (by simpa using hnot)⟩

/-- A name that is next has never been used. -/
theorem name_unused (hi : AdmissionInv setup s) : subscriptionName s.roster.nextSubscriptionId ∉ s.names := by
  rw [hi.names, List.mem_map]
  rintro ⟨i, hin, he⟩
  have hlt := List.mem_range.mp hin
  have heq := subscriptionName_injective he
  rw [hi.next] at heq
  omega

/-- The state with one session more. -/
def Impl.enrolled (c : SubscriberChannel L.LocalSnapshot L.DepthUpdate) (s : Impl L) : Impl L :=
  { s with
    channels := s.channels ++ [{ channel := c }]
    roster.subscribers := s.roster.subscribers ++ [s.channels.length]
    roster.nextSubscriptionId := s.roster.nextSubscriptionId + 1
    mail.observation.residentSubscriptionCount := s.roster.subscribers.length + 1
    bookLog := .admitted s.channels.length s.book.projection :: s.bookLog }

/-- A commit enrols the session behind its gate, or what the gate has left stands. -/
theorem commitAdmission_eq (request : Nat) (c : SubscriberChannel L.LocalSnapshot L.DepthUpdate) (s : Impl L) :
    s.commitAdmission request c =
      if (s.gateAdmission request).1 then (s.enrolled c).completeAdmissionRequestUnlocked request (.accepted s.channels.length)
      else (s.gateAdmission request).2 := rfl

/-- Enrolling a session under the next name keeps the invariant when there is room. -/
theorem AdmissionInv.enrolled {c : SubscriberChannel L.LocalSnapshot L.DepthUpdate} (hi : AdmissionInv setup s) (hr : Room setup s)
    (hc : c.subscriptionId = subscriptionName s.roster.nextSubscriptionId) : AdmissionInv setup (s.enrolled c) := by
  have hnames : (s.enrolled c).names = s.names ++ [subscriptionName (s.names.length + 1)] := by
    rw [← hi.next, ← hc]
    simp [Impl.names, Impl.enrolled]
  refine ⟨?_, ?_, ?_, hi.queue, hi.unanswered, hi.counted, hi.observed⟩
  · show (s.roster.subscribers ++ [s.channels.length]).length ≤ _
    rw [List.length_append, List.length_singleton]
    exact hr
  · show s.roster.nextSubscriptionId + 1 = (s.enrolled c).names.length + 1
    rw [hnames, List.length_append, List.length_singleton, hi.next]
  · rw [hnames, List.length_append, List.length_singleton, List.range_succ, List.map_append, ← hi.names]
    rfl

/-- The section that admits the session. -/
theorem commit_served {c : SubscriberChannel L.LocalSnapshot L.DepthUpdate} (hi : AdmissionInv setup t)
    (h : Sweeping setup request target subscription s t) (hr : Room setup t) (hc : Initial setup subscription c t) :
    AdmissionInv setup (t.commitAdmission request c) ∧ Served setup request target subscription s (t.commitAdmission request c) := by
  obtain ⟨hi', -, hrefused⟩ := gate_served hi h
  rw [commitAdmission_eq]
  split
  · have hservice : InService request target subscription (t.enrolled c) :=
      ⟨h.1.service.unanswered, h.1.service.unqueued, h.1.service.counted⟩
    have hanswers : Answers setup request target subscription (.accepted t.channels.length) t
        ((t.enrolled c).completeAdmissionRequestUnlocked request (.accepted t.channels.length)) := by
      have hpending := h.1.service.counted
      obtain ⟨log, he⟩ := complete_eq hservice (.accepted t.channels.length)
      rw [he]
      refine ⟨h.1.service.unanswered, rfl, ?_, rfl, fun error hr => (by cases hr), fun hr => (by cases hr), fun channel hchannel => ?_⟩
      · show t.mail.pendingAdmissionCount - 1 + 1 = t.mail.pendingAdmissionCount
        omega
      · cases hchannel
        exact ⟨hr, rfl, rfl, c, rfl, hc, by rw [hc.name]; exact name_unused hi⟩
    exact ⟨(hi.enrolled hr hc.name).complete hservice _, h.1.served h.2 hanswers⟩
  · rename_i hg
    exact ⟨hi', hrefused (by simpa using hg)⟩

/-! ## The service -/

/-- A request with room left for it is served by staging and committing its session. -/
theorem admitStaged_served (hl : AsksFor subscription depthLimit) :
    Triple (admissionRely setup) (fun t => Sweeping setup request target subscription s t ∧ Room setup t)
      (admitStaged setup request subscription depthLimit) fun _ => Served setup request target subscription s := by
  have hstable : (admissionRely setup).Stable fun t : Impl L => Sweeping setup request target subscription s t ∧ Room setup t :=
    stable_sweeping.and (stable_roster fun r => r.subscribers.length < setup.limits.publication.maximumActiveSubscriptions)
  refine Triple.bind (Triple.choose hstable) fun sampled => ?_
  cases sampled with
  | none => exact refuse_served hstable (fun _ _ h => h.1) fun he => by cases he
  | some publishedAt =>
    refine Triple.bind (Triple.read hstable (fun _ => hstable) fun _ _ h => h) fun next => ?_
    split
    · exact refuse_served hstable (fun _ _ h => h.1) fun he => by cases he
    · have hstaged : ∀ staging : Staging L, (admissionRely setup).Stable fun t : Impl L =>
          (Sweeping setup request target subscription s t ∧ Room setup t) ∧
            (∀ c, staging = .staged c → Initial setup subscription c t) ∧
            (staging = .notStaged → setup.limits.publication.ordinaryQueueCapacity < 2) := fun staging =>
        hstable.and ((Rely.Stable.all fun c => (stable_initial c).imp).and (Rely.Stable.const _))
      refine Triple.bind (Triple.atomic hstable hstaged fun w t hi h => ?_) fun staging => ?_
      · have hprepares : Prepares t (t.stageSession setup subscription depthLimit publishedAt w).2 := prepares_stage
        refine ⟨hi.prepare hprepares, ⟨⟨h.1.1.prepare hprepares, ?_⟩, ?_⟩, stage_cases hl⟩
        · exact fun i hin => h.1.2 i (hprepares.kept.subset hin)
        · exact Nat.lt_of_le_of_lt hprepares.kept.length_le h.2
      · cases staging with
        | threw => exact refuse_served (hstaged _) (fun _ _ h => h.1.1) fun he => by cases he
        | adapterError error => exact refuse_served (hstaged _) (fun _ _ h => h.1.1) fun he => by split at he <;> cases he
        | notStaged => exact refuse_served (hstaged _) (fun _ _ h => h.1.1) fun _ t h => .inr (h.2.2 rfl)
        | staged c =>
          refine Triple.bind (Q := fun completion t => if completion = .threw then Sweeping setup request target subscription s t
            else Served setup request target subscription s t)
            (Triple.atomic (hstaged _) (fun completion => ?_) fun w t hi h => ?_) fun completion => ?_
          · cases completion
            · exact stable_served
            · exact stable_sweeping
          · unfold Impl.tryCommitAdmission
            split
            · exact ⟨hi, h.1.1⟩
            · exact commit_served hi h.1.1 h.1.2 (h.2.1 c rfl)
          · cases completion with
            | threw => exact refuse_served stable_sweeping (fun _ _ h => h) fun he => by cases he
            | returned => exact Triple.done stable_served fun _ _ h => h

/-- A request in service is served. -/
theorem performAdmissionRequest_served :
    Triple (admissionRely setup) (Underway setup request target subscription s)
      (performAdmissionRequest setup request subscription) fun _ => Served setup request target subscription s := by
  have hstable : (admissionRely setup).Stable (Sweeping setup request target subscription s) := stable_sweeping
  refine Triple.bind sweep_underway fun _ => ?_
  refine Triple.bind (Q := fun mayGoOn t => if mayGoOn then Sweeping setup request target subscription s t
      else Served setup request target subscription s t)
    (Triple.atomic hstable (fun mayGoOn => ?_) fun w t hi h => ?_) fun mayGoOn => ?_
  · cases mayGoOn
    · exact stable_served
    · exact hstable
  · obtain ⟨hi', hgo, hrefused⟩ := gate_served hi h
    refine ⟨hi', ?_⟩
    cases hg : (t.gateAdmission request).1 with
    | true => rw [hgo hg]; exact h
    | false => exact hrefused hg
  · cases mayGoOn with
    | false => exact Triple.done stable_served fun _ _ h => h
    | true =>
      have hread : ∀ subscribers, (admissionRely setup).Stable fun t : Impl L =>
          Sweeping setup request target subscription s t ∧ t.roster.subscribers = subscribers := fun subscribers =>
        hstable.and (stable_roster (·.subscribers = subscribers))
      refine Triple.bind (Triple.read hstable hread fun t _ h => ⟨h, rfl⟩) fun subscribers => ?_
      split
      · rename_i hfull
        exact refuse_served (hread _) (fun _ _ h => h.1) fun _ t h => .inl (by rw [h.2]; exact hfull)
      · rename_i hroom
        have hpre : ∀ t : Impl L, Sweeping setup request target subscription s t ∧ t.roster.subscribers = subscribers →
            Sweeping setup request target subscription s t ∧ Room setup t := fun t h =>
          ⟨h.1, by unfold Room; rw [h.2]; exact Nat.lt_of_not_le hroom⟩
        split
        · rename_i hnone
          exact (admitStaged_served (by unfold AsksFor; rw [hnone])).pre fun t _ h => hpre t h
        · rename_i depth hsome
          split
          · exact refuse_served (hread _) (fun _ _ h => h.1) fun he => by cases he
          · rename_i limit hlimit
            exact (admitStaged_served (by unfold AsksFor; rw [hsome]; exact ⟨limit, hlimit, rfl⟩)).pre fun t _ h => hpre t h

/-! ## Runs -/

/-- A piece of the owner that keeps the invariant, whatever the callers do meanwhile. -/
def KeepsAdmissions (setup : Setup L) (α : Type) (p : OwnerProgram L α) : Prop :=
  Triple (admissionRely setup) (fun _ => True) p fun _ _ => True

/-- What says nothing is stable. -/
theorem stable_true : (admissionRely setup).Stable fun _ : Impl L => True := Rely.Stable.const _

/-- Keeping the admissions is closed under composition. -/
theorem composed_admissions : Composed setup (Spares True) (KeepsAdmissions setup) where
  plain := plain_spares
  all hp := Triple.of_all hp stable_true fun _ _ hi _ h => ⟨hi.spares h, trivial⟩
  bind hp hk := Triple.bind hp hk
  sweep := by
    have hbound : ∀ subscribers : List Nat, (admissionRely setup).Stable fun _ : Impl L =>
        subscribers.length ≤ setup.limits.publication.maximumActiveSubscriptions := fun _ => Rely.Stable.const _
    refine Triple.bind (Triple.read stable_true hbound fun s hi _ => hi.limit) fun subscribers => ?_
    refine Triple.bind (openSubscribers_triple (O := fun _ _ => True) (I := fun _ => True) subscribers (hbound subscribers)
      (fun _ => stable_true) (fun _ _ _ _ _ => trivial) fun _ _ _ _ _ => trivial) fun remaining => ?_
    refine Triple.modify ((hbound subscribers).and ((Rely.Stable.const _).and ((Rely.Stable.const _).and (Rely.Stable.const _))))
      stable_true ?_
    rintro s hi ⟨hlength, hsub, -, -⟩
    exact ⟨hi.roster (hsub.length_le.trans hlength) _, trivial⟩
  closeAll := by
    refine Triple.bind (Q := fun _ _ => True) (Triple.read stable_true (fun _ => stable_true) fun _ _ _ => trivial) fun subscribers => ?_
    have hclose : (Program.forEach subscribers fun i => Program.modify (Impl.onChannel i (·.closeFromOwner)) : OwnerProgram L Unit).All
        (Spares True) := Program.All.forEach fun i => Program.All.atomic fun _ s => (plain_spares : Plain setup _).close i s
    refine Triple.bind (Triple.of_all hclose stable_true fun _ _ hi _ h => ⟨hi.spares h, trivial⟩) fun _ => ?_
    exact Triple.modify stable_true stable_true fun s hi _ => ⟨hi.roster (Nat.zero_le _) 0, trivial⟩

/-- What the owner has found when it takes a request from the queue. -/
theorem takeWork_admission (h : s.takeWork.1 = .admission request subscription) :
    ∃ r, s.readyAdmission = some (request, r) ∧ r.subscription = subscription ∧
      s.takeWork.2 = { s with mail.admissionRequests := s.mail.admissionRequests.tail } := by
  unfold Impl.takeWork at h ⊢
  split at h
  · cases h
  · rename_i hshut
    rw [if_neg hshut]
    split at h
    · cases h
    · split at h
      · cases h
      · rename_i hfault hreset
        rw [if_neg hreset]
        split at h
        · rename_i front r hready
          obtain ⟨rfl, rfl⟩ := Work.admission.inj h
          exact ⟨r, hready, rfl, rfl⟩
        · revert h
          repeat' split
          all_goals exact fun h => by cases h

/-- The request that the owner takes from the queue is in service. -/
theorem takeWork_inService (hi : AdmissionInv setup s) (h : s.takeWork.1 = .admission request subscription) :
    ∃ target, InService request target subscription s.takeWork.2 := by
  obtain ⟨r, hready, rfl, he⟩ := takeWork_admission h
  obtain ⟨rest, hq, hr, -⟩ := readyAdmission_some hready
  have hqueue := hi.queue
  have hcounted := hi.counted
  rw [hq] at hqueue hcounted
  obtain ⟨r', hr', hn⟩ := hi.unanswered request (by rw [hq]; exact List.mem_cons_self)
  obtain rfl := Option.some.inj (hr.symm.trans hr')
  rw [he, hq]
  refine ⟨r.target, ?_, (List.nodup_cons.mp hqueue).1, hcounted⟩
  rw [← hn]
  exact hr

/-- A round of the owner keeps the invariant of the admissions. -/
theorem ownerRound_admissions : KeepsAdmissions setup Bool (ownerRound setup) := by
  have hservice : ∀ work : Work L, (admissionRely setup).Stable fun s : Impl L =>
      ∀ request subscription, work = .admission request subscription → ∃ target, InService request target subscription s := fun work =>
    Rely.Stable.all fun request => Rely.Stable.all fun subscription => Rely.Stable.imp (Rely.Stable.exists fun target =>
      fun _ _ _ h he => h.client he.1 he.2)
  refine Triple.bind (Triple.await stable_true hservice fun w s hi _ _ =>
    ⟨hi.spares ((plain_spares : Plain setup _).takeWork s), fun request subscription h => takeWork_inService hi h⟩) fun work => ?_
  by_cases hwork : ∃ request subscription, work = .admission request subscription
  · obtain ⟨request, subscription, rfl⟩ := hwork
    refine Triple.bind (Q := fun _ _ => True) ?_ fun _ => Triple.done stable_true fun _ _ _ => trivial
    intro s hi hs
    obtain ⟨target, h⟩ := hs request subscription rfl
    exact (performAdmissionRequest_served s hi (Underway.refl h)).mono fun _ _ _ _ => trivial
  · refine (composed_admissions.perform (fun input => composed_admissions.applyUpdate (spares_apply input) (spares_recordApply input))
      fun request subscription he => absurd ⟨request, subscription, he⟩ hwork).pre fun _ _ _ => trivial

/-- Behind a round nothing in particular has to hold. -/
theorem afterRound_const (again : Bool) (s : Impl L) : afterRound (fun _ => True) (fun _ => True) again s := by
  cases again <;> trivial

/-- The invariant in every reachable state. -/
theorem Reachable.admissions {ph : Phase (Impl L) (Outcome L)} (h : Reachable setup ph s) : AdmissionInv setup s := by
  have hloop : LoopInv (admissionRely setup) (fun _ => True) (fun _ => True) ph s := by
    induction h with
    | initial =>
      exact (composed_admissions.prologue _ (admissionInv_initial setup) trivial).mono fun again t _ _ => afterRound_const again t
    | step h hs ih =>
      refine ih.step stable_true stable_true (ownerRound_admissions.post fun again t _ _ => afterRound_const again t) ?_
      exact hs.mono fun he => ⟨h.inv, he⟩
  exact hloop.inv

end MarketDataGateway.MarketRuntime
