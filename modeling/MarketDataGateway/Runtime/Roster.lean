import MarketDataGateway.Runtime.Publication
import MarketDataGateway.Runtime.Sections

/-!
# The list of subscribers and the queue of admissions

What the admissions need to know of the rest of the runtime: no channel changes its name or is opened again, only the owner changes
the list of subscribers, a request in the queue has no result, and one that has a result keeps it.
-/

namespace MarketDataGateway.MarketRuntime

open OrderBook Threads

variable {L : ProjectionLibrary} {setup : Setup L} {s t : Impl L}

/-! ## Names -/

/-- The `n`-th session's name. -/
def subscriptionName (n : Nat) : String := "ob-" ++ toString n

/-- Different numbers give different names. -/
theorem subscriptionName_injective : Function.Injective subscriptionName := by
  intro m n h
  have hrepr : m.repr = n.repr := (String.append_right_inj _).mp h
  have hdigits : Nat.toDigits 10 m = Nat.toDigits 10 n := by
    rw [← Nat.toList_repr, ← Nat.toList_repr, hrepr]
  rw [← @Nat.ofDigitChars_toDigits 10 m (by decide) (by decide), hdigits, Nat.ofDigitChars_toDigits (by decide) (by decide)]

/-- The names of all sessions, those that have ended included. -/
def Impl.names (s : Impl L) : List String := s.channels.map (·.channel.subscriptionId)

/-- A step of a channel keeps its name, and a closed channel closed. -/
structure Persists (c c' : SubscriberChannel L.LocalSnapshot L.DepthUpdate) : Prop where
  name : c'.subscriptionId = c.subscriptionId
  closed : c.state = .closed → c'.state = .closed

/-- A channel persists when nothing happens to it. -/
theorem Persists.refl (c : SubscriberChannel L.LocalSnapshot L.DepthUpdate) : Persists c c := ⟨rfl, id⟩

/-- Ending a session keeps the name of its channel, and a closed channel closed. -/
theorem persists_terminalize (c : SubscriberChannel L.LocalSnapshot L.DepthUpdate) (reason : ConsumerGapReason)
    (action : RecoveryAction) (generation : Option Nat) (publishedAt : PublicationTime) :
    Persists c (c.terminalize reason action generation publishedAt).2 := by
  unfold SubscriberChannel.terminalize
  split
  · exact .refl c
  · rename_i h
    exact ⟨rfl, fun hc => absurd (Or.inl (by simp [hc])) h⟩

/-- An update keeps the name of a channel, and a closed channel closed. -/
theorem persists_admitUpdate (c : SubscriberChannel L.LocalSnapshot L.DepthUpdate) (update : L.DepthUpdate)
    (generation : Option Nat) (publishedAt : PublicationTime) (allocation : Option Nat) :
    Persists c (c.admitUpdate update generation publishedAt allocation).2 := by
  by_cases hc : c.state = .closed
  · have hsame : (c.admitUpdate update generation publishedAt allocation).2 = c := by
      simp [SubscriberChannel.admitUpdate, hc]
    rw [hsame]
    exact .refl c
  · refine ⟨?_, fun h => absurd h hc⟩
    unfold SubscriberChannel.admitUpdate SubscriberChannel.ringPushLocked
    split_ifs
    · rfl
    · rfl
    · rfl
    · cases allocation <;> rfl
    · cases allocation <;> rfl

/-- An acknowledgement keeps the name of a channel, and a closed channel closed. -/
theorem persists_acknowledge (c : SubscriberChannel L.LocalSnapshot L.DepthUpdate)
    (publication : PeekedPublication L.LocalSnapshot L.DepthUpdate) : Persists c (c.acknowledge publication).2 := by
  by_cases hc : c.state = .closed
  · have hsame : (c.acknowledge publication).2 = c := by simp [SubscriberChannel.acknowledge, hc]
    rw [hsame]
    exact .refl c
  · refine ⟨?_, fun h => absurd h hc⟩
    unfold SubscriberChannel.acknowledge
    repeat' split
    all_goals rfl

/-- A runtime of which one channel has taken a step. -/
structure Rings (s t : Impl L) : Prop where
  names : t.names = s.names
  closed : ∀ i, s.channelState i = some .closed → t.channelState i = some .closed

/-- Channels that are as they were persist. -/
theorem Rings.of_same (h : t.channels = s.channels) : Rings s t := by
  refine ⟨?_, fun i hi => ?_⟩
  · rw [Impl.names, h]
    rfl
  · rw [Impl.channelState, h]
    exact hi

/-- Channels persist when each of them does. -/
theorem Rings.of_each
    (h : ∀ i : Nat, Option.Rel (fun sub sub' : Subscriber L => Persists sub.channel sub'.channel) s.channels[i]? t.channels[i]?) :
    Rings s t := by
  refine ⟨List.ext_getElem? fun i => ?_, fun i hi => ?_⟩
  · unfold Impl.names
    rw [List.getElem?_map, List.getElem?_map]
    have hi := h i
    generalize s.channels[i]? = sub, t.channels[i]? = sub' at hi
    cases hi with
    | some hsub => simp [hsub.name]
    | none => rfl
  · unfold Impl.channelState at hi ⊢
    have hrel := h i
    generalize s.channels[i]? = sub, t.channels[i]? = sub' at hi hrel
    cases hrel with
    | some hsub => simpa using hsub.closed (by simpa using hi)
    | none => exact hi

/-- Each channel persists in itself. -/
theorem persists_each (sub : Option (Subscriber L)) :
    Option.Rel (fun sub sub' : Subscriber L => Persists sub.channel sub'.channel) sub sub := by
  cases sub with
  | none => exact .none
  | some sub => exact .some (.refl _)

/-- An operation on one channel leaves the others. -/
theorem Rings.modify {i : Nat} {f : Subscriber L → Subscriber L} (hf : ∀ sub, Persists sub.channel (f sub).channel)
    (h : t.channels = s.channels.modify i f) : Rings s t := by
  refine .of_each fun j => ?_
  rw [h, List.getElem?_modify]
  cases s.channels[j]? with
  | none => exact .none
  | some sub =>
    refine .some ?_
    split
    · exact hf sub
    · exact .refl _

/-- A write to one channel leaves the others. -/
theorem Rings.set {i : Nat} {sub sub' : Subscriber L} (hi : s.channels[i]? = some sub) (hsub : Persists sub.channel sub'.channel)
    (h : t.channels = s.channels.set i sub') : Rings s t := by
  refine .of_each fun j => ?_
  rw [h, List.getElem?_set]
  by_cases hij : i = j
  · subst hij
    rw [if_pos rfl, if_pos (List.getElem?_eq_some_iff.mp hi).1, hi]
    exact .some hsub
  · rw [if_neg hij]
    exact persists_each _

/-! ## Requests -/

/-- What a section makes of the requests when it serves none of them. `last` is when it may answer them all at once. -/
inductive QueueMove (last : Prop) (m m' : Mailbox L) : Prop where
  | same (ha : m'.admissions = m.admissions) (hq : m'.admissionRequests = m.admissionRequests)
      (hp : m'.pendingAdmissionCount = m.pendingAdmissionCount)
      (ho : m'.observation.pendingAdmissionCount = m.observation.pendingAdmissionCount)
  | push (r : AdmissionRequest) (hr : r.result = none) (ha : m'.admissions = m.admissions ++ [r])
      (hq : m'.admissionRequests = m.admissionRequests ++ [m.admissions.length])
      (hp : m'.pendingAdmissionCount = m.pendingAdmissionCount + 1)
      (ho : m'.observation.pendingAdmissionCount = m'.pendingAdmissionCount)
  | take (ha : m'.admissions = m.admissions) (hq : m'.admissionRequests = m.admissionRequests.tail)
      (hp : m'.pendingAdmissionCount = m.pendingAdmissionCount)
      (ho : m'.observation.pendingAdmissionCount = m.observation.pendingAdmissionCount)
  | answerAll (result : SubscriptionAdmissionResult) (h : last) (ha : m'.admissions = answerAll m.admissionRequests result m.admissions)
      (hq : m'.admissionRequests = []) (hp : m'.pendingAdmissionCount = 0) (ho : m'.observation.pendingAdmissionCount = 0)

/-- A request that has a result keeps it. -/
theorem answer_of_answered {request : AdmissionRequest} (h : request.result.isSome = true) (result : SubscriptionAdmissionResult) :
    request.answer result = request := if_pos h

/-- An answer to another request, or a second one, leaves an answer as it is. -/
theorem modify_answered {heap : List AdmissionRequest} {i j : Nat} {r : AdmissionRequest} (h : heap[j]? = some r)
    (hr : r.result.isSome = true) (result : SubscriptionAdmissionResult) : (heap.modify i (·.answer result))[j]? = some r := by
  rw [List.getElem?_modify, h]
  by_cases hij : i = j
  · simp [hij, answer_of_answered hr]
  · simp [hij]

/-- Answering a queue leaves the answers given before. -/
theorem answerAll_answered {queue : List Nat} {heap : List AdmissionRequest} {j : Nat} {r : AdmissionRequest}
    (h : heap[j]? = some r) (hr : r.result.isSome = true) (result : SubscriptionAdmissionResult) :
    (answerAll queue result heap)[j]? = some r := by
  induction queue generalizing heap with
  | nil => exact h
  | cons i queue ih => exact ih (modify_answered h hr result)

/-- What is on the heap stays there, a request with a result as it is. -/
theorem QueueMove.answered {last : Prop} {m m' : Mailbox L} (h : QueueMove last m m') {i : Nat} {r : AdmissionRequest}
    (hi : m.admissions[i]? = some r) (hr : r.result.isSome = true) : m'.admissions[i]? = some r := by
  cases h with
  | same ha _ _ _ | take ha _ _ _ => rw [ha]; exact hi
  | push r' _ ha _ _ _ =>
    rw [ha, List.getElem?_append_left (List.getElem?_eq_some_iff.mp hi).1]
    exact hi
  | answerAll result _ ha _ _ _ =>
    rw [ha]
    exact answerAll_answered hi hr result

/-- A section that neither serves an admission nor touches the list of subscribers. -/
structure Spares (last : Prop) (s t : Impl L) : Prop where
  roster : t.roster = s.roster
  rings : Rings s t
  requests : QueueMove last s.mail t.mail

variable {last : Prop}

/-- Neither a channel nor a request is touched. -/
theorem Spares.of_same (hr : t.roster = s.roster) (hc : t.channels = s.channels) (ha : t.mail.admissions = s.mail.admissions)
    (hq : t.mail.admissionRequests = s.mail.admissionRequests)
    (hp : t.mail.pendingAdmissionCount = s.mail.pendingAdmissionCount)
    (ho : t.mail.observation.pendingAdmissionCount = s.mail.observation.pendingAdmissionCount) : Spares last s t :=
  ⟨hr, .of_same hc, .same ha hq hp ho⟩

/-- Doing nothing spares the admissions. -/
theorem Spares.refl (s : Impl L) : Spares last s s := .of_same rfl rfl rfl rfl rfl rfl

/-- One channel takes a step. -/
theorem Spares.onSubscriber (s : Impl L) (i : Nat) {f : Subscriber L → Subscriber L}
    (hf : ∀ sub, Persists sub.channel (f sub).channel) : Spares last s (s.onSubscriber i f) :=
  ⟨rfl, .modify hf rfl, .same rfl rfl rfl rfl⟩

/-- A caller answers requests only once the owner has left. -/
theorem ClientStep.spares (h : ClientStep setup s t) : Spares (s.ownerExited = true) s t := by
  cases h with
  | start => unfold Impl.start; split_ifs <;> exact .of_same rfl rfl rfl rfl rfl rfl
  | requestStop => unfold Impl.requestStop; split_ifs <;> exact .of_same rfl rfl rfl rfl rfl rfl
  | finishStop _ _ hj =>
    unfold Impl.finishStop
    dsimp only
    rw [Impl.answerSnapshotLocked_eq]
    exact ⟨rfl, .of_same rfl, .answerAll _ hj rfl rfl rfl rfl⟩
  | submit input throws => unfold Impl.submit; split_ifs <;> exact .of_same rfl rfl rfl rfl rfl rfl
  | observe => unfold Impl.observe; split <;> exact .of_same rfl rfl rfl rfl rfl rfl
  | requestReset kind => unfold Impl.requestReset; split_ifs <;> exact .of_same rfl rfl rfl rfl rfl rfl
  | returnReset _ => unfold Impl.returnReset; split <;> exact .of_same rfl rfl rfl rfl rfl rfl
  | captureSnapshot => unfold Impl.captureSnapshot; split_ifs <;> exact .of_same rfl rfl rfl rfl rfl rfl
  | returnSnapshot _ => unfold Impl.returnSnapshot; split <;> exact .of_same rfl rfl rfl rfl rfl rfl
  | admitSubscription subscription throws =>
    unfold Impl.admitOrderBookSubscription
    split_ifs
    iterate 6 exact .refl s
    exact ⟨rfl, .of_same rfl, .push _ rfl rfl rfl rfl rfl⟩
  | shutdownPublication => unfold Impl.shutdownPublication; dsimp only; split_ifs <;> exact .of_same rfl rfl rfl rfl rfl rfl
  | observeReturns _ _ | observeTimesOut _ | waitReturns _ | notifySubscriberClosed | closePublicationAdmission =>
    exact .of_same rfl rfl rfl rfl rfl rfl
  | peek i => exact .onSubscriber s i fun sub => .refl sub.channel
  | acknowledge _ _ => exact .onSubscriber s _ fun sub => persists_acknowledge sub.channel _
  | closeFromWriter i => exact .onSubscriber s i fun sub => ⟨rfl, fun _ => rfl⟩

/-- The owner's sections, those of an update's application and of an admission apart. -/
theorem plain_spares : Plain setup (Spares True : Impl L → Impl L → Prop) where
  look s := .refl s
  begin _ := .of_same rfl rfl rfl rfl rfl rfl
  takeWork s := by
    unfold Impl.takeWork
    repeat' split
    all_goals first
      | exact ⟨rfl, .of_same rfl, .take rfl rfl rfl rfl⟩
      | exact .of_same rfl rfl rfl rfl rfl rfl
  terminalize i reason action generation publishedAt s :=
    .onSubscriber s i fun sub => persists_terminalize sub.channel reason action generation publishedAt
  close i s := .onSubscriber s i fun _ => ⟨rfl, fun _ => rfl⟩
  fault reason adapterError s := by
    unfold Impl.faultLocked
    dsimp only
    rw [Impl.answerSnapshotLocked_eq]
    obtain ⟨processed, occupancy, log, he⟩ := discardIngressLocked_eq
      ({ ({ s with
            book.bootstrap := []
            mail.accepting := false
            mail.observation.bootstrapOccupancy := 0
            mail.observation.faultReason := some reason
            mail.observation.adapterError := adapterError } : Impl L).refreshProjectionObservationLocked with
          mail.observation.state := .faulted } : Impl L)
    rw [he]
    exact .of_same rfl rfl rfl rfl rfl rfl
  publish s := by
    unfold Impl.publishProjectionStateLocked
    dsimp only
    split
    · obtain ⟨processed, occupancy, log, he⟩ := discardIngressLocked_eq
        ({ s.refreshProjectionObservationLocked with
          mail.accepting := false
          mail.observation.bootstrapOccupancy := s.book.bootstrap.length
          mail.observation.state :=
            if s.mail.observation.state ≠ .faulted ∧ s.mail.observation.state ≠ .stopping ∧
                s.mail.observation.state ≠ .stopped then
              stateForProjection (L.status s.book.projection)
            else s.mail.observation.state } : Impl L)
      rw [he]
      exact .of_same rfl rfl rfl rfl rfl rfl
    · exact .of_same rfl rfl rfl rfl rfl rfl
  admitUpdate i input publishedAt w s := by
    unfold Impl.admitUpdate
    split
    · exact .refl s
    · rename_i sub hsub
      exact ⟨rfl, .set hsub (persists_admitUpdate _ _ _ _ _) rfl, .same rfl rfl rfl rfl⟩
  buffer input w s := by
    unfold Impl.bufferDepthUpdate
    dsimp only
    split_ifs <;> exact .of_same rfl rfl rfl rfl rfl rfl
  popBootstrap s := by unfold Impl.popBootstrap; split <;> exact .of_same rfl rfl rfl rfl rfl rfl
  clearBootstrap _ := .of_same rfl rfl rfl rfl rfl rfl
  install input w s := by
    unfold Impl.installBaseline
    repeat' split
    all_goals exact .of_same rfl rfl rfl rfl rfl rfl
  recordInstall _ _ := .of_same rfl rfl rfl rfl rfl rfl
  setGeneration _ _ := .of_same rfl rfl rfl rfl rfl rfl
  finishTicket _ _ := .of_same rfl rfl rfl rfl rfl rfl
  completeSnapshot result s := by unfold Impl.completeSnapshotLocked; split <;> exact .of_same rfl rfl rfl rfl rfl rfl
  checkReset s := by
    unfold Impl.checkReset
    split
    · exact .refl s
    · dsimp only
      split <;> exact .of_same rfl rfl rfl rfl rfl rfl
  reset _ := .of_same rfl rfl rfl rfl rfl rfl
  abandonReset _ _ := .of_same rfl rfl rfl rfl rfl rfl
  failReset _ := .of_same rfl rfl rfl rfl rfl rfl
  completeReset result s := by unfold Impl.completeResetLocked; split <;> exact .of_same rfl rfl rfl rfl rfl rfl
  completeShutdown _ := ⟨rfl, .of_same rfl, .answerAll _ trivial rfl rfl rfl rfl⟩
  leave s := by
    unfold Impl.leaveLocked
    dsimp only
    rw [Impl.answerSnapshotLocked_eq, Impl.answerResetLocked_eq]
    exact ⟨rfl, .of_same rfl, .answerAll _ trivial rfl rfl rfl rfl⟩
  exit _ := .of_same rfl rfl rfl rfl rfl rfl

/-- An application spares the admissions. -/
theorem spares_apply (input : DepthUpdateInput L) (w : Outcome L) (s : Impl L) :
    Spares last s (s.applyToProjection setup input w).2 := by
  unfold Impl.applyToProjection
  repeat' split
  all_goals exact .of_same rfl rfl rfl rfl rfl rfl

/-- Recording an application spares the admissions. -/
theorem spares_recordApply (input : DepthUpdateInput L) (result : L.ApplyResult) (s : Impl L) :
    Spares last s (s.recordApply input result) := .of_same rfl rfl rfl rfl rfl rfl

end MarketDataGateway.MarketRuntime
