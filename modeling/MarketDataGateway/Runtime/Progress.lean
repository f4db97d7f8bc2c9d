import MarketDataGateway.Runtime.Control
import MarketDataGateway.Runtime.Sections

/-!
# What every section guarantees

Whatever section any thread runs, the processed ticket does not go back, and the gate of the ingress, once shut, is opened by a reset
and by nothing else. Both follow for whole runs.
-/

namespace MarketDataGateway.MarketRuntime

open OrderBook Threads Relation

variable {L : ProjectionLibrary} {setup : Setup L}

/-- From `s` to `t` the counter has not gone back, a started runtime is still started, and unless a reset has happened the gate has stayed shut if it was. -/
structure Advances (s t : Impl L) : Prop where
  processed : s.mail.processedTicket ≤ t.mail.processedTicket
  started : s.mail.started = true → t.mail.started = true
  log : ∃ new, t.ticketLog = new ++ s.ticketLog ∧
    (.reset ∉ new → s.mail.accepting = false → t.mail.accepting = false ∧ ∀ n, .accepted n ∉ new)

namespace Advances

/-- Nothing advances when nothing happens. -/
theorem refl (s : Impl L) : Advances s s := ⟨Nat.le_refl _, id, [], rfl, fun _ h => ⟨h, fun _ hm => by cases hm⟩⟩

/-- Advances add up. -/
theorem trans {s t u : Impl L} (h : Advances s t) (h' : Advances t u) : Advances s u := by
  obtain ⟨hp, hs, new, hl, hg⟩ := h
  obtain ⟨hp', hs', new', hl', hg'⟩ := h'
  refine ⟨Nat.le_trans hp hp', fun h => hs' (hs h), new' ++ new, by rw [hl', hl, List.append_assoc], fun hr ha => ?_⟩
  rw [List.mem_append, not_or] at hr
  obtain ⟨ha₁, hn₁⟩ := hg hr.2 ha
  obtain ⟨ha₂, hn₂⟩ := hg' hr.1 ha₁
  exact ⟨ha₂, fun n hm => (List.mem_append.mp hm).elim (hn₂ n) (hn₁ n)⟩

/-- A section that leaves the counter, the gate and the history alone. -/
theorem same {s t : Impl L} (hp : t.mail.processedTicket = s.mail.processedTicket)
    (hst : t.mail.started = s.mail.started) (ha : t.mail.accepting = s.mail.accepting) (hl : t.ticketLog = s.ticketLog) :
    Advances s t :=
  ⟨Nat.le_of_eq hp.symm, fun h => hst.trans h, [], hl, fun _ h => ⟨ha.trans h, fun _ hm => by cases hm⟩⟩

/-- A section that shuts the gate, or leaves it shut, and writes down one event that is no submission. -/
theorem event {s t : Impl L} {e : TicketEvent} (hp : s.mail.processedTicket ≤ t.mail.processedTicket)
    (hst : t.mail.started = s.mail.started) (ha : s.mail.accepting = false → t.mail.accepting = false)
    (hl : t.ticketLog = e :: s.ticketLog) (he : ∀ n, e ≠ .accepted n) : Advances s t :=
  ⟨hp, fun h => hst.trans h, [e], hl, fun _ h => ⟨ha h, fun n hm => he n (List.mem_singleton.mp hm).symm⟩⟩

/-- Discarding the ingress advances the processed ticket. -/
theorem discard (s : Impl L) : Advances s s.discardIngressLocked := by
  unfold Impl.discardIngressLocked
  split
  · exact refl s
  · exact event (Nat.le_max_left _ _) rfl id rfl (by simp)

/-- A fault advances the processed ticket over what it discards. -/
theorem fault (reason : FaultReason) (adapterError : Option L.AdapterError) (s : Impl L) :
    Advances s (s.faultLocked reason adapterError) := by
  unfold Impl.faultLocked
  dsimp only
  rw [Impl.answerSnapshotLocked_eq]
  refine trans (t := Impl.discardIngressLocked _) (trans ?_ (discard _)) (same rfl rfl rfl rfl)
  exact ⟨Nat.le_refl _, id, [], rfl, fun _ _ => ⟨rfl, fun _ hm => by cases hm⟩⟩

/-- Publishing a gap advances the processed ticket over what it discards. -/
theorem publish (s : Impl L) : Advances s s.publishProjectionStateLocked := by
  unfold Impl.publishProjectionStateLocked
  dsimp only
  split
  · refine trans ?_ (discard _)
    exact ⟨Nat.le_refl _, id, [], rfl, fun _ _ => ⟨rfl, fun _ hm => by cases hm⟩⟩
  · exact same rfl rfl rfl rfl

/-- Completing an admission leaves the tickets alone. -/
theorem complete (request : Nat) (result : SubscriptionAdmissionResult) (s : Impl L) :
    Advances s (s.completeAdmissionRequestUnlocked request result) := by
  unfold Impl.completeAdmissionRequestUnlocked
  split
  · cases result with
    | accepted channel => exact event (Nat.le_refl _) rfl id rfl (by simp)
    | error error => exact same rfl rfl rfl rfl
  · exact refl s

/-- The gate of an admission leaves the tickets alone. -/
theorem gate (request : Nat) (s : Impl L) : Advances s (s.gateAdmission request).2 := by
  unfold Impl.gateAdmission
  split_ifs
  · exact complete _ _ s
  · exact complete _ _ s
  · exact refl s

/-- Committing an admission leaves the tickets alone. -/
theorem commit (request : Nat) (channel : SubscriberChannel L.LocalSnapshot L.DepthUpdate) (s : Impl L) :
    Advances s (s.commitAdmission request channel) := by
  unfold Impl.commitAdmission
  dsimp only
  split
  · refine trans ?_ (complete _ _ _)
    exact same rfl rfl rfl rfl
  · exact gate request s

/-- Taking work takes the first ticket. -/
theorem takeWork (s : Impl L) : Advances s s.takeWork.2 := by
  unfold Impl.takeWork
  repeat' split
  all_goals first
    | exact refl s
    | exact same rfl rfl rfl rfl
    | exact event (Nat.le_refl _) rfl id rfl (by simp)

/-- The owner's leaving leaves the tickets alone. -/
theorem leave (s : Impl L) : Advances s s.leaveLocked := by
  unfold Impl.leaveLocked
  dsimp only
  rw [Impl.answerSnapshotLocked_eq, Impl.answerResetLocked_eq]
  exact same rfl rfl rfl rfl

end Advances

/-! ## The owner -/

/-- Each section of the owner advances. -/
theorem Advances.section {s t : Impl L} (h : OwnerSection setup s t) : Advances s t := by
  cases h with
  | look => exact refl s
  | takeWork => exact takeWork s
  | fault reason adapterError => exact fault reason adapterError s
  | publish => exact publish s
  | complete request result => exact complete request result s
  | gate request => exact gate request s
  | commit request channel => exact commit request channel s
  | leave => exact leave s
  | begin | terminalize _ _ _ _ _ | close _ | roster _ _ | recordApply _ _ | clearBootstrap | recordInstall _ | setGeneration _
  | completeShutdown | exit | abandonReset _ => exact same rfl rfl rfl rfl
  | admitUpdate channel input publishedAt w => unfold Impl.admitUpdate; split <;> exact same rfl rfl rfl rfl
  | apply input w =>
    obtain ⟨projection, log, he⟩ := applyToProjection_eq setup input w s
    rw [he]
    exact same rfl rfl rfl rfl
  | buffer input w =>
    rcases bufferDepthUpdate_cases setup input w s with ⟨-, he⟩ | ⟨-, -, he⟩ | ⟨-, he⟩ <;> rw [he] <;> exact same rfl rfl rfl rfl
  | popBootstrap => unfold Impl.popBootstrap; split <;> exact same rfl rfl rfl rfl
  | install input w =>
    obtain ⟨projection, he⟩ := installBaseline_eq setup input w s
    rw [he]
    exact same rfl rfl rfl rfl
  | finishTicket ticket => exact event (Nat.le_max_left _ _) rfl id rfl (by simp)
  | stage subscription depthLimit publishedAt w =>
    unfold Impl.stageSession
    split
    · exact refl s
    · split <;> exact same rfl rfl rfl rfl
  | completeSnapshot result =>
    unfold Impl.completeSnapshotLocked
    split
    · exact refl s
    · cases result with
      | captured snapshot => exact event (Nat.le_refl _) rfl id rfl (by simp)
      | adapterError _ | error _ => exact same rfl rfl rfl rfl
  | checkReset =>
    unfold Impl.checkReset
    split
    · exact refl s
    · dsimp only
      split <;> exact same rfl rfl rfl rfl
  | reset => exact ⟨Nat.le_refl _, id, [.reset], rfl, fun hr => absurd List.mem_cons_self hr⟩
  | failReset => exact event (Nat.le_refl _) rfl (fun _ => rfl) rfl (by simp)
  | completeReset result =>
    unfold Impl.completeResetLocked
    split
    · exact refl s
    · dsimp only
      split
      · exact event (Nat.le_refl _) rfl id rfl (by simp)
      · exact same rfl rfl rfl rfl

/-! ## The callers -/

/-- Each step of a caller advances. -/
theorem Advances.client {s t : Impl L} (hst : s.mail.started = true) (h : ClientStep setup s t) : Advances s t := by
  cases h with
  | start => simp only [Impl.start, hst]; split <;> exact Advances.same rfl rfl rfl rfl
  | requestStop =>
    unfold Impl.requestStop
    split_ifs
    · exact Advances.refl s
    all_goals exact ⟨Nat.le_refl _, id, [], rfl, fun _ _ => ⟨rfl, fun _ hm => by cases hm⟩⟩
  | finishStop =>
    unfold Impl.finishStop
    dsimp only
    rw [Impl.answerSnapshotLocked_eq]
    exact Advances.same rfl rfl rfl rfl
  | submit input throws =>
    unfold Impl.submit
    split_ifs with h1 h2 h3 h4 h5 h6
    iterate 4 exact Advances.refl s
    · exact Advances.event (Nat.le_refl _) rfl (fun _ => rfl) rfl (by simp)
    · exact Advances.event (Nat.le_refl _) rfl id rfl (by simp)
    · refine ⟨Nat.le_refl _, id, [_], rfl, fun _ ha => ?_⟩
      rw [ha] at h4
      exact absurd rfl h4
  | observe =>
    unfold Impl.observe
    split
    · exact Advances.event (Nat.le_refl _) rfl id rfl (by simp)
    · exact ⟨Nat.le_refl _, id, [_, _], rfl, fun _ ha => ⟨ha, fun n hm => by simp at hm⟩⟩
  | observeReturns _ _ => exact Advances.event (Nat.le_refl _) rfl id rfl (by simp)
  | requestReset kind => unfold Impl.requestReset; split_ifs <;> exact Advances.same rfl rfl rfl rfl
  | returnReset _ => unfold Impl.returnReset; split <;> exact Advances.same rfl rfl rfl rfl
  | captureSnapshot => unfold Impl.captureSnapshot; split_ifs <;> exact Advances.same rfl rfl rfl rfl
  | returnSnapshot _ => unfold Impl.returnSnapshot; split <;> exact Advances.same rfl rfl rfl rfl
  | admitSubscription subscription throws =>
    unfold Impl.admitOrderBookSubscription; split_ifs <;> exact Advances.same rfl rfl rfl rfl
  | shutdownPublication =>
    unfold Impl.shutdownPublication; dsimp only; split_ifs <;> exact Advances.same rfl rfl rfl rfl
  | observeTimesOut _ | waitReturns _ | notifySubscriberClosed | closePublicationAdmission | peek _ | acknowledge _ _
  | closeFromWriter _ => exact Advances.same rfl rfl rfl rfl

/-- No caller processes a ticket. -/
theorem processed_client {s t : Impl L} (h : ClientStep setup s t) : t.mail.processedTicket = s.mail.processedTicket := by
  cases h with
  | start => unfold Impl.start; split_ifs <;> rfl
  | requestStop => unfold Impl.requestStop; split_ifs <;> rfl
  | finishStop => unfold Impl.finishStop; dsimp only; rw [Impl.answerSnapshotLocked_eq]; rfl
  | submit input throws => unfold Impl.submit; split_ifs <;> rfl
  | observe => unfold Impl.observe; split <;> rfl
  | requestReset kind => unfold Impl.requestReset; split_ifs <;> rfl
  | returnReset _ => unfold Impl.returnReset; split <;> rfl
  | captureSnapshot => unfold Impl.captureSnapshot; split_ifs <;> rfl
  | returnSnapshot _ => unfold Impl.returnSnapshot; split <;> rfl
  | admitSubscription subscription throws => unfold Impl.admitOrderBookSubscription; split_ifs <;> rfl
  | shutdownPublication => unfold Impl.shutdownPublication; dsimp only; split_ifs <;> rfl
  | observeReturns _ _ | observeTimesOut _ | waitReturns _ | notifySubscriberClosed | closePublicationAdmission | peek _
  | acknowledge _ _ | closeFromWriter _ => rfl

/-! ## Runs -/

/-- A finite sequence of steps, from one configuration to another. -/
inductive Run (setup : Setup L) : Phase (Impl L) (Outcome L) → Impl L → Phase (Impl L) (Outcome L) → Impl L → Prop where
  | none {ph s} : Run setup ph s ph s
  | step {ph s ph' s' ph'' s''} (h : Run setup ph s ph' s') (hs : RunStep setup ph' s' ph'' s'') : Run setup ph s ph'' s''

/-- What a run leads to from a reachable state is reachable. -/
theorem Run.reachable {ph ph' : Phase (Impl L) (Outcome L)} {s t : Impl L} (h : Run setup ph s ph' t)
    (hr : Reachable setup ph s) : Reachable setup ph' t := by
  induction h with
  | none => exact hr
  | step _ hs ih => exact .step ih hs

/-- Once started, a run advances. -/
theorem Run.advances {ph ph' : Phase (Impl L) (Outcome L)} {s t : Impl L} (h : Run setup ph s ph' t)
    (hr : Reachable setup ph s) (hst : s.mail.started = true) : Advances s t ∧ t.mail.started = true := by
  induction h with
  | none => exact ⟨Advances.refl s, hst⟩
  | step h' hs ih =>
    obtain ⟨ha, hst'⟩ := ih
    have hreach := h'.reachable hr
    rcases hreach.move hs with he | hg | he
    · have hc := Advances.client hst' he
      exact ⟨ha.trans hc, hc.started hst'⟩
    · exact ⟨ha.trans (.section hg), (Advances.section hg).started hst'⟩
    · rw [he]; exact ⟨ha, hst'⟩

end MarketDataGateway.MarketRuntime
