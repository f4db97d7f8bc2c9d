import MarketDataGateway.Lib.Next
import MarketDataGateway.Runtime.Sections

/-!
# The depth update that was applied last

The owner applies an update to the projection, which is its own, and records it in the observation in the next section, under the
mutex. In between nobody can know of it. `AppliedSoFar` is the history of what has been applied and recorded; the observation shows the
last update of that history since the last reset.
-/

namespace MarketDataGateway.MarketRuntime

open OrderBook Threads

variable {L : ProjectionLibrary} {setup : Setup L}

/-- The update that was applied last since the last reset. -/
def lastApplied : List (BookEvent L) → Option (DepthUpdateInput L)
  | [] => none
  | .applied input :: _ => some input
  | .reset :: _ => none
  | _ :: past => lastApplied past

/-- What the observation shows of an update that has been applied. -/
def DepthUpdateInput.observed (input : DepthUpdateInput L) : AppliedDepthObservation :=
  ⟨L.receiveTimeUtcNs input.update, L.receiveMonotonicNs input.update, input.provenance.connectionGeneration⟩

/-- The section records that the update has been applied. -/
def Records (input : DepthUpdateInput L) (update : Outcome L → Impl L → Impl L) : Prop :=
  ∃ result, L.applyDisposition result = .applied ∧ update = fun _ s => s.recordApply input result

/-- What has been applied and recorded by now: all of it, or all but the update that the owner's next section records. -/
inductive AppliedSoFar : Phase (Impl L) (Outcome L) → Impl L → List (BookEvent L) → Prop where
  | all {ph s} : AppliedSoFar ph s s.bookLog
  | recording {guard update next s input past} (hr : Records input update) (hlog : s.bookLog = .applied input :: past) :
      AppliedSoFar (.running (.sect guard update next)) s past

namespace Impl

/-- What there is to compare. -/
def depthView (s : Impl L) : List (BookEvent L) × Option AppliedDepthObservation :=
  (s.bookLog, s.mail.observation.lastAppliedDepth)

/-- The observation shows the update that was applied last. -/
def Current (s : Impl L) : Prop := s.mail.observation.lastAppliedDepth = (lastApplied s.bookLog).map (·.observed)

/-- The observation is current, or the owner's next section makes it so. -/
def CurrentSoon (update : Outcome L → Impl L → Impl L) (s : Impl L) : Prop :=
  s.Current ∨ ∃ input past, Records input update ∧ s.bookLog = .applied input :: past ∧
    s.mail.observation.lastAppliedDepth = (lastApplied past).map (·.observed)

variable {s t : Impl L}

/-- Being current can be told from the depth view. -/
theorem current_of_view (h : t.depthView = s.depthView) (hs : s.Current) : t.Current := by
  obtain ⟨hlog, hdepth⟩ := Prod.mk.inj h
  unfold Current at hs ⊢
  rw [hdepth, hlog]
  exact hs

/-! ## What leaves the observation alone -/

/-- Discarding the ingress leaves the depth view alone. -/
theorem depthView_discardIngressLocked (s : Impl L) : s.discardIngressLocked.depthView = s.depthView := by
  unfold discardIngressLocked
  split <;> rfl

/-- Answering a snapshot request leaves the depth view alone. -/
theorem depthView_answerSnapshotLocked (error : SnapshotRequestError) (s : Impl L) :
    (s.answerSnapshotLocked error).depthView = s.depthView := by
  unfold answerSnapshotLocked
  split <;> rfl

/-- Answering a reset request leaves the depth view alone. -/
theorem depthView_answerResetLocked (result : RebootstrapResetResult) (s : Impl L) :
    (s.answerResetLocked result).depthView = s.depthView := by
  unfold answerResetLocked
  split <;> rfl

/-- A fault leaves the depth view alone. -/
theorem depthView_faultLocked (reason : FaultReason) (adapterError : Option L.AdapterError) (s : Impl L) :
    (s.faultLocked reason adapterError).depthView = s.depthView := by
  unfold faultLocked
  rw [depthView_answerSnapshotLocked, depthView_discardIngressLocked]
  rfl

/-- Publishing the projection's state leaves the depth view alone. -/
theorem depthView_publishProjectionStateLocked (s : Impl L) : s.publishProjectionStateLocked.depthView = s.depthView := by
  unfold publishProjectionStateLocked
  dsimp only
  split
  · rw [depthView_discardIngressLocked]
    rfl
  · rfl

/-- Completing an admission leaves the depth view alone. -/
theorem depthView_completeAdmissionRequestUnlocked (request : Nat) (result : SubscriptionAdmissionResult) (s : Impl L) :
    (s.completeAdmissionRequestUnlocked request result).depthView = s.depthView := by
  unfold completeAdmissionRequestUnlocked
  split <;> rfl

/-- The gate of an admission leaves the depth view alone. -/
theorem depthView_gateAdmission (request : Nat) (s : Impl L) : (s.gateAdmission request).2.depthView = s.depthView := by
  unfold gateAdmission
  split_ifs
  · exact depthView_completeAdmissionRequestUnlocked _ _ s
  · exact depthView_completeAdmissionRequestUnlocked _ _ s
  · rfl

/-- Taking work leaves the depth view alone. -/
theorem depthView_takeWork (s : Impl L) : s.takeWork.2.depthView = s.depthView := by
  unfold takeWork
  repeat' split
  all_goals rfl

/-- An install leaves the depth view alone. -/
theorem depthView_installBaseline (input : SnapshotInput L) (w : Outcome L) (s : Impl L) :
    (s.installBaseline setup input w).2.depthView = s.depthView := by
  unfold installBaseline
  repeat' split
  all_goals rfl

/-- Taking from the buffer leaves the depth view alone. -/
theorem depthView_popBootstrap (s : Impl L) : s.popBootstrap.2.depthView = s.depthView := by
  unfold popBootstrap
  split <;> rfl

/-- Staging a session leaves the depth view alone. -/
theorem depthView_stageSession (subscription : ValidatedOrderBookSubscription) (depthLimit : Option L.DepthLimit)
    (publishedAt : PublicationTime) (w : Outcome L) (s : Impl L) :
    (s.stageSession setup subscription depthLimit publishedAt w).2.depthView = s.depthView := by
  unfold stageSession
  repeat' split
  all_goals rfl

/-- The check of a reset leaves the depth view alone. -/
theorem depthView_checkReset (s : Impl L) : s.checkReset.2.depthView = s.depthView := by
  unfold checkReset
  split
  · rfl
  · dsimp only
    split_ifs <;> rfl

/-- Completing a snapshot request leaves the depth view alone. -/
theorem depthView_completeSnapshotLocked (result : SnapshotResult L) (s : Impl L) :
    (s.completeSnapshotLocked result).depthView = s.depthView := by
  unfold completeSnapshotLocked
  split <;> rfl

/-- Completing a reset request leaves the depth view alone. -/
theorem depthView_completeResetLocked (result : RebootstrapResetResult) (s : Impl L) :
    (s.completeResetLocked result).depthView = s.depthView := by
  unfold completeResetLocked
  split <;> rfl

/-- The owner's leaving leaves the depth view alone. -/
theorem depthView_leaveLocked (s : Impl L) : s.leaveLocked.depthView = s.depthView := by
  show (Impl.answerResetLocked .stopped _).depthView = s.depthView
  rw [depthView_answerResetLocked, depthView_answerSnapshotLocked]
  rfl

/-- What the log gains that says nothing of an applied update. -/
theorem Current.logged {event : BookEvent L} (hs : s.Current) (hlog : t.bookLog = event :: s.bookLog)
    (hdepth : t.mail.observation.lastAppliedDepth = s.mail.observation.lastAppliedDepth)
    (he : lastApplied (event :: s.bookLog) = lastApplied s.bookLog) : t.Current := by
  unfold Current at hs ⊢
  rw [hdepth, hlog, he]
  exact hs

/-- Publishing an update to a session keeps the view current. -/
theorem Current.admitUpdate (hs : s.Current) (channel : Nat) (input : DepthUpdateInput L) (publishedAt : PublicationTime)
    (w : Outcome L) : (s.admitUpdate channel input publishedAt w).2.Current := by
  unfold Impl.admitUpdate
  split
  · exact hs
  · dsimp only
    rename_i subscriber _
    by_cases h : (subscriber.channel.admitUpdate input.update input.provenance.connectionGeneration publishedAt
        (if w.throws then none else some s.nextAddress)).1 = .admitted
    · exact hs.logged (if_pos h) rfl rfl
    · exact current_of_view (Prod.ext (if_neg h) rfl) hs

/-- Buffering an update keeps the view current. -/
theorem Current.bufferDepthUpdate (hs : s.Current) (input : DepthUpdateInput L) (w : Outcome L) :
    (s.bufferDepthUpdate setup input w).2.Current := by
  have hreceived : ({ s with bookLog := .received input :: s.bookLog } : Impl L).Current := hs.logged rfl rfl rfl
  unfold Impl.bufferDepthUpdate
  dsimp only
  split_ifs
  · exact hreceived
  · exact hreceived
  · exact hreceived
  · exact hreceived

/-- Committing an admission keeps the view current. -/
theorem Current.commitAdmission (hs : s.Current) (request : Nat) (channel : SubscriberChannel L.LocalSnapshot L.DepthUpdate) :
    (s.commitAdmission request channel).Current := by
  unfold Impl.commitAdmission
  dsimp only
  split
  · exact current_of_view (depthView_completeAdmissionRequestUnlocked _ _ _) (hs.logged rfl rfl rfl)
  · exact current_of_view (depthView_gateAdmission request s) hs

/-- Between an update's application and its record the owner does nothing else, so every other section keeps the observation
current. -/
theorem sectionwise_current : Sectionwise setup (fun s t : Impl L => s.Current → t.Current) where
  look _ := id
  begin _ := id
  takeWork s := current_of_view (depthView_takeWork s)
  terminalize _ _ _ _ _ _ := id
  close _ _ := id
  roster _ _ _ := id
  fault _ _ s := current_of_view (depthView_faultLocked _ _ s)
  publish s := current_of_view (depthView_publishProjectionStateLocked s)
  admitUpdate _ _ _ _ _ h := h.admitUpdate _ _ _ _
  buffer _ _ _ h := h.bufferDepthUpdate _ _
  popBootstrap s := current_of_view (depthView_popBootstrap s)
  clearBootstrap _ := id
  install _ _ s := current_of_view (depthView_installBaseline _ _ s)
  recordInstall _ _ := id
  setGeneration _ _ h := h.logged rfl rfl rfl
  finishTicket _ _ := id
  complete _ _ s := current_of_view (depthView_completeAdmissionRequestUnlocked _ _ s)
  gate _ s := current_of_view (depthView_gateAdmission _ s)
  stage _ _ _ _ s := current_of_view (depthView_stageSession _ _ _ _ s)
  commit _ _ _ h := h.commitAdmission _ _
  completeSnapshot _ s := current_of_view (depthView_completeSnapshotLocked _ s)
  checkReset s := current_of_view (depthView_checkReset s)
  reset _ _ := rfl
  abandonReset _ _ h := h.logged rfl rfl rfl
  failReset _ := id
  completeReset _ s := current_of_view (depthView_completeResetLocked _ s)
  completeShutdown _ := id
  leave s := current_of_view (depthView_leaveLocked s)
  exit _ := id

end Impl

open Impl

/-- The callers neither apply nor record. -/
theorem ClientStep.depthView {s t : Impl L} (h : ClientStep setup s t) : t.depthView = s.depthView := by
  cases h with
  | start => unfold Impl.start; split_ifs <;> rfl
  | requestStop h => unfold Impl.requestStop; split_ifs <;> rfl
  | finishStop hr hs hj =>
    show (Impl.answerSnapshotLocked .stopped _).depthView = s.depthView
    rw [depthView_answerSnapshotLocked]
    rfl
  | submit input throws => unfold Impl.submit; split_ifs <;> rfl
  | observe => unfold Impl.observe; dsimp only; split_ifs <;> rfl
  | requestReset kind => unfold Impl.requestReset; split_ifs <;> rfl
  | returnReset h => unfold Impl.returnReset; split <;> rfl
  | captureSnapshot => unfold Impl.captureSnapshot; split_ifs <;> rfl
  | returnSnapshot h => unfold Impl.returnSnapshot; split <;> rfl
  | admitSubscription subscription throws => unfold Impl.admitOrderBookSubscription; split_ifs <;> rfl
  | shutdownPublication => unfold Impl.shutdownPublication; dsimp only; split_ifs <;> rfl
  | _ => rfl

/-- Callers keep the view current. -/
theorem stable_current (s t : Impl L) (hs : s.Current) (h : ClientStep setup s t) : t.Current :=
  current_of_view h.depthView hs

/-- What the owner and the callers keep is kept all along. -/
theorem along_current {α : Type} {p : OwnerProgram L α} (hp : p.All fun s t => s.Current → t.Current) {s : Impl L} (hs : s.Current) :
    Along (ClientStep setup) CurrentSoon (fun _ => Current) p s :=
  .of_all hp stable_current (fun _ _ h => Or.inl h) (fun _ _ h => h) hs

/-- An update that has been applied is recorded next, and then the observation is current again. -/
theorem along_recordApply {input : DepthUpdateInput L} {result : L.ApplyResult} {past : List (BookEvent L)} {s : Impl L}
    (hr : L.applyDisposition result = .applied) (hlog : s.bookLog = .applied input :: past)
    (hdepth : s.mail.observation.lastAppliedDepth = (lastApplied past).map (·.observed)) :
    Along (ClientStep setup) CurrentSoon (fun _ => Current)
      (Program.modify (Impl.recordApply input result) : OwnerProgram L Unit) s := by
  intro t ht
  have hview : t.depthView = s.depthView := by
    induction ht with
    | refl => rfl
    | tail _ he ih => exact he.depthView.trans ih
  obtain ⟨htlog, htdepth⟩ := Prod.mk.inj hview
  refine ⟨Or.inr ⟨input, past, ⟨result, hr, rfl⟩, htlog.trans hlog, htdepth.trans hdepth⟩, fun _ w => ?_⟩
  refine Along.done stable_current ?_
  show (if L.applyDisposition result = .applied then _ else _) = (lastApplied t.bookLog).map (·.observed)
  rw [if_pos hr, htlog, hlog]
  rfl

/-- What is left to do once the projection has been called. -/
def AfterApply (input : DepthUpdateInput L) (call : ApplyCall L) (s : Impl L) : Prop :=
  match call with
  | .result result =>
    if L.applyDisposition result = .applied then
      ∃ past, s.bookLog = .applied input :: past ∧ s.mail.observation.lastAppliedDepth = (lastApplied past).map (·.observed)
    else s.Current
  | _ => s.Current

/-- What follows an application can be told from the depth view. -/
theorem afterApply_of_view {input : DepthUpdateInput L} {call : ApplyCall L} {s t : Impl L} (h : t.depthView = s.depthView)
    (hs : AfterApply input call s) : AfterApply input call t := by
  obtain ⟨hlog, hdepth⟩ := Prod.mk.inj h
  cases call with
  | result result =>
    unfold AfterApply at hs ⊢
    dsimp only at hs ⊢
    split_ifs at hs ⊢
    · obtain ⟨past, hpast, hlatest⟩ := hs
      exact ⟨past, hlog.trans hpast, hdepth.trans hlatest⟩
    · exact current_of_view h hs
  | _ => exact current_of_view h hs

/-- The call into the library leaves what is due behind it. -/
theorem applyToProjection_after (input : DepthUpdateInput L) (w : Outcome L) {s : Impl L} (hs : s.Current) :
    AfterApply input (s.applyToProjection setup input w).1 (s.applyToProjection setup input w).2 := by
  unfold Impl.applyToProjection
  split
  · exact hs.logged rfl rfl rfl
  split
  · exact hs
  split
  · exact hs
  split
  · exact hs
  · rename_i result projection _
    unfold AfterApply
    dsimp only
    split_ifs with hr
    · exact ⟨s.bookLog, rfl, hs⟩
    · exact hs

/-- The observation is current, or soon will be, all along of a piece of the owner that finds it current. -/
def StaysCurrent (setup : Setup L) (α : Type) (p : OwnerProgram L α) : Prop :=
  ∀ s : Impl L, s.Current → Along (ClientStep setup) CurrentSoon (fun _ => Current) p s

/-- Staying current is closed under composition. -/
theorem composed_current : Composed setup (fun s t : Impl L => s.Current → t.Current) (StaysCurrent setup) :=
  sectionwise_current.composed (fun hp _ => along_current hp) fun hp hk s hs => (hp s hs).bind fun a t ht => hk a t ht

/-- An application and its record together stay current. -/
theorem applyUpdate_current (input : DepthUpdateInput L) : StaysCurrent setup Completion (applyUpdate setup input) := by
  have hS : Composed setup (fun s t : Impl L => s.Current → t.Current) (StaysCurrent setup) := composed_current
  intro s hs
  have hcall : Along (ClientStep setup) CurrentSoon (AfterApply input) (Program.atomic (Impl.applyToProjection setup input)) s :=
    .atomic stable_current (fun _ _ h => Or.inl h) (fun _ _ _ h he => afterApply_of_view he.depthView h)
      (fun w _ => applyToProjection_after input w) hs
  refine hcall.bind fun call t ht => ?_
  cases call with
  | generationMismatch => exact hS.faulting _ _ _ t ht
  | threw => exact hS.done _ t ht
  | adapterError error => exact hS.faulting _ _ _ t ht
  | result result =>
    have hrest : StaysCurrent setup Completion
        (do publishDisposition input (L.applyDisposition result); publishProjectionState; pure Completion.returned) :=
      hS.bind (hS.publishDisposition _ _) fun _ => hS.publishing _
    by_cases hr : L.applyDisposition result = .applied
    · obtain ⟨past, hlog, hdepth⟩ := (if_pos hr).mp ht
      exact (along_recordApply hr hlog hdepth).bind fun _ => hrest
    · have hcurrent : t.Current := (if_neg hr).mp ht
      have hrecord : ∀ r : Impl L, r.Current → (r.recordApply input result).Current := by
        intro r hc
        refine current_of_view ?_ hc
        unfold Impl.depthView Impl.recordApply
        rw [if_neg hr]
      exact (hS.modify hrecord t hcurrent).bind fun _ => hrest

/-! ## Runs -/

/-- In every reachable state the observation shows the last update that has been applied and recorded since the last reset. -/
theorem Reachable.lastAppliedDepth {ph : Phase (Impl L) (Outcome L)} {s : Impl L} (h : Reachable setup ph s) :
    ∃ history, AppliedSoFar ph s history ∧ s.mail.observation.lastAppliedDepth = (lastApplied history).map (·.observed) := by
  have hround : ∀ {p : Program (Impl L) (Outcome L) Bool} {r : Impl L}, Along (ClientStep setup) CurrentSoon (fun _ => Current) p r →
      Along (ClientStep setup) CurrentSoon (afterRound Current Current) p r :=
    fun hp => hp.mono fun again _ hr => by cases again <;> exact hr
  have halong : AlongPhase (ClientStep setup) CurrentSoon Current Current ph s := by
    induction h with
    | initial =>
      exact hround (composed_current.prologue _ rfl)
    | step _ hs ih =>
      refine ih.step stable_current stable_current (fun r _ _ hr hp => hround (Along.step ?_ hp)) hs
      exact composed_current.round applyUpdate_current (fun _ _ _ => along_current (sectionwise_current.all_performAdmission _ _)) r hr
  cases ph with
  | head => exact ⟨s.bookLog, .all, halong⟩
  | exited => exact ⟨s.bookLog, .all, halong⟩
  | running p =>
    cases p with
    | done b => cases b <;> exact ⟨s.bookLog, .all, halong s .refl⟩
    | sect guard update next =>
      rcases (halong s .refl).1 with hc | ⟨input, past, hr, hlog, hdepth⟩
      · exact ⟨s.bookLog, .all, hc⟩
      · exact ⟨past, .recording hr hlog, hdepth⟩

end MarketDataGateway.MarketRuntime
