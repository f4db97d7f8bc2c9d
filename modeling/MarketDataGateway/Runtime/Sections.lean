import MarketDataGateway.Runtime.Api

/-!
# The sections of the owner

Every section the owner ever runs, once: what is to hold of all of them is then shown section by section. `Reachable.move` says that
a step of a run is a caller's section or one of these.
-/

namespace MarketDataGateway.MarketRuntime

open OrderBook Threads

variable {L : ProjectionLibrary}

/-- One section of the owner. -/
inductive OwnerSection (setup : Setup L) : Impl L → Impl L → Prop where
  | look {s} : OwnerSection setup s s
  | begin {s} : OwnerSection setup s s.beginLocked
  | takeWork {s} : OwnerSection setup s s.takeWork.2
  | terminalize {s} (channel : Nat) (reason : ConsumerGapReason) (action : RecoveryAction) (generation : Option Nat)
      (publishedAt : PublicationTime) :
      OwnerSection setup s (s.onChannel channel (fun c => (c.terminalize reason action generation publishedAt).2))
  | close {s} (channel : Nat) : OwnerSection setup s (s.onChannel channel (·.closeFromOwner))
  | roster {s} (remaining : List Nat) (count : Nat) :
      OwnerSection setup s { s with
        roster.subscribers := remaining
        mail.observation.residentSubscriptionCount := count }
  | fault {s} (reason : FaultReason) (adapterError : Option L.AdapterError) :
      OwnerSection setup s (s.faultLocked reason adapterError)
  | publish {s} : OwnerSection setup s s.publishProjectionStateLocked
  | admitUpdate {s} (channel : Nat) (input : DepthUpdateInput L) (publishedAt : PublicationTime) (w : Outcome L) :
      OwnerSection setup s (s.admitUpdate channel input publishedAt w).2
  | apply {s} (input : DepthUpdateInput L) (w : Outcome L) :
      OwnerSection setup s (s.applyToProjection setup input w).2
  | recordApply {s} (input : DepthUpdateInput L) (result : L.ApplyResult) :
      OwnerSection setup s (s.recordApply input result)
  | buffer {s} (input : DepthUpdateInput L) (w : Outcome L) :
      OwnerSection setup s (s.bufferDepthUpdate setup input w).2
  | popBootstrap {s} : OwnerSection setup s s.popBootstrap.2
  | clearBootstrap {s} : OwnerSection setup s { s with book.bootstrap := [] }
  | install {s} (input : SnapshotInput L) (w : Outcome L) : OwnerSection setup s (s.installBaseline setup input w).2
  | recordInstall {s} (result : L.InstallResult) :
      OwnerSection setup s { s with mail.observation.lastInstall := some result }
  | setGeneration {s} (generation : Option Nat) : OwnerSection setup s (s.setGeneration generation)
  | finishTicket {s} (ticket : Nat) : OwnerSection setup s (s.finishTicket ticket)
  | complete {s} (request : Nat) (result : SubscriptionAdmissionResult) :
      OwnerSection setup s (s.completeAdmissionRequestUnlocked request result)
  | gate {s} (request : Nat) : OwnerSection setup s (s.gateAdmission request).2
  | stage {s} (subscription : ValidatedOrderBookSubscription) (depthLimit : Option L.DepthLimit)
      (publishedAt : PublicationTime) (w : Outcome L) :
      OwnerSection setup s (s.stageSession setup subscription depthLimit publishedAt w).2
  | commit {s} (request : Nat) (channel : SubscriberChannel L.LocalSnapshot L.DepthUpdate) :
      OwnerSection setup s (s.commitAdmission request channel)
  | completeSnapshot {s} (result : SnapshotResult L) : OwnerSection setup s (s.completeSnapshotLocked result)
  | checkReset {s} : OwnerSection setup s s.checkReset.2
  | reset {s} : OwnerSection setup s s.resetLocked
  | abandonReset {s} (left : L.Projection) : OwnerSection setup s (s.abandonReset left)
  | failReset {s} : OwnerSection setup s s.failResetLocked
  | completeReset {s} (result : RebootstrapResetResult) : OwnerSection setup s (s.completeResetLocked result)
  | completeShutdown {s} : OwnerSection setup s s.completeShutdownLocked
  | leave {s} : OwnerSection setup s s.leaveLocked
  | exit {s} : OwnerSection setup s { s with ownerExited := true }

variable {setup : Setup L}

/-- `G` holds of every section of the owner but those that apply an update and record it, and those of an admission and of the list of
subscribers. -/
structure Plain (setup : Setup L) (G : Impl L → Impl L → Prop) : Prop where
  look : ∀ s, G s s
  begin : ∀ s, G s s.beginLocked
  takeWork : ∀ s, G s s.takeWork.2
  terminalize : ∀ channel reason action generation publishedAt s,
    G s (s.onChannel channel (fun c => (c.terminalize reason action generation publishedAt).2))
  close : ∀ channel s, G s (s.onChannel channel (·.closeFromOwner))
  fault : ∀ reason adapterError s, G s (s.faultLocked reason adapterError)
  publish : ∀ s, G s s.publishProjectionStateLocked
  admitUpdate : ∀ channel input publishedAt w s, G s (s.admitUpdate channel input publishedAt w).2
  buffer : ∀ input w s, G s (s.bufferDepthUpdate setup input w).2
  popBootstrap : ∀ s, G s s.popBootstrap.2
  clearBootstrap : ∀ s, G s { s with book.bootstrap := [] }
  install : ∀ input w s, G s (s.installBaseline setup input w).2
  recordInstall : ∀ result s, G s { s with mail.observation.lastInstall := some result }
  setGeneration : ∀ generation s, G s (s.setGeneration generation)
  finishTicket : ∀ ticket s, G s (s.finishTicket ticket)
  completeSnapshot : ∀ result s, G s (s.completeSnapshotLocked result)
  checkReset : ∀ s, G s s.checkReset.2
  reset : ∀ s, G s s.resetLocked
  abandonReset : ∀ left s, G s (s.abandonReset left)
  failReset : ∀ s, G s s.failResetLocked
  completeReset : ∀ result s, G s (s.completeResetLocked result)
  completeShutdown : ∀ s, G s s.completeShutdownLocked
  leave : ∀ s, G s s.leaveLocked
  exit : ∀ s, G s { s with ownerExited := true }

/-- A relation that holds of the plain sections holds of them when it is weakened. -/
theorem Plain.mono {G G' : Impl L → Impl L → Prop} (hG : Plain setup G) (h : ∀ s t, G s t → G' s t) : Plain setup G' where
  look _ := h _ _ (hG.look _)
  begin _ := h _ _ (hG.begin _)
  takeWork _ := h _ _ (hG.takeWork _)
  terminalize _ _ _ _ _ _ := h _ _ (hG.terminalize _ _ _ _ _ _)
  close _ _ := h _ _ (hG.close _ _)
  fault _ _ _ := h _ _ (hG.fault _ _ _)
  publish _ := h _ _ (hG.publish _)
  admitUpdate _ _ _ _ _ := h _ _ (hG.admitUpdate _ _ _ _ _)
  buffer _ _ _ := h _ _ (hG.buffer _ _ _)
  popBootstrap _ := h _ _ (hG.popBootstrap _)
  clearBootstrap _ := h _ _ (hG.clearBootstrap _)
  install _ _ _ := h _ _ (hG.install _ _ _)
  recordInstall _ _ := h _ _ (hG.recordInstall _ _)
  setGeneration _ _ := h _ _ (hG.setGeneration _ _)
  finishTicket _ _ := h _ _ (hG.finishTicket _ _)
  completeSnapshot _ _ := h _ _ (hG.completeSnapshot _ _)
  checkReset _ := h _ _ (hG.checkReset _)
  reset _ := h _ _ (hG.reset _)
  abandonReset _ _ := h _ _ (hG.abandonReset _ _)
  failReset _ := h _ _ (hG.failReset _)
  completeReset _ _ := h _ _ (hG.completeReset _ _)
  completeShutdown _ := h _ _ (hG.completeShutdown _)
  leave _ := h _ _ (hG.leave _)
  exit _ := h _ _ (hG.exit _)

/-- What is left of the sections of a round when the owner takes no work on and receives no update. -/
structure Chores (setup : Setup L) (G : Impl L → Impl L → Prop) : Prop where
  look : ∀ s, G s s
  begin : ∀ s, G s s.beginLocked
  terminalize : ∀ channel reason action generation publishedAt s,
    G s (s.onChannel channel (fun c => (c.terminalize reason action generation publishedAt).2))
  close : ∀ channel s, G s (s.onChannel channel (·.closeFromOwner))
  fault : ∀ reason adapterError s, G s (s.faultLocked reason adapterError)
  publish : ∀ s, G s s.publishProjectionStateLocked
  admitUpdate : ∀ channel input publishedAt w s, G s (s.admitUpdate channel input publishedAt w).2
  popBootstrap : ∀ s, G s s.popBootstrap.2
  clearBootstrap : ∀ s, G s { s with book.bootstrap := [] }
  install : ∀ input w s, G s (s.installBaseline setup input w).2
  recordInstall : ∀ result s, G s { s with mail.observation.lastInstall := some result }
  setGeneration : ∀ generation s, G s (s.setGeneration generation)
  finishTicket : ∀ ticket s, G s (s.finishTicket ticket)
  completeSnapshot : ∀ result s, G s (s.completeSnapshotLocked result)
  checkReset : ∀ s, G s s.checkReset.2
  reset : ∀ s, G s s.resetLocked
  abandonReset : ∀ left s, G s (s.abandonReset left)
  failReset : ∀ s, G s s.failResetLocked
  completeReset : ∀ result s, G s (s.completeResetLocked result)
  completeShutdown : ∀ s, G s s.completeShutdownLocked
  leave : ∀ s, G s s.leaveLocked
  exit : ∀ s, G s { s with ownerExited := true }

/-- A reset is carried out or abandoned. -/
theorem Chores.tryReset {G : Impl L → Impl L → Prop} (hG : Chores setup G) (w : Outcome L) (s : Impl L) : G s (s.tryReset w).2 := by
  unfold Impl.tryReset
  split
  · exact hG.abandonReset w.left s
  · exact hG.reset s

/-- The chores of the owner are plain sections. -/
theorem Plain.chores {G : Impl L → Impl L → Prop} (hG : Plain setup G) : Chores setup G :=
  { hG with }

/-- `G` holds of every section of the owner except the two that apply an update and record it. -/
structure Sectionwise (setup : Setup L) (G : Impl L → Impl L → Prop) : Prop extends Plain setup G where
  roster : ∀ remaining count s, G s { s with
    roster.subscribers := remaining
    mail.observation.residentSubscriptionCount := count }
  complete : ∀ request result s, G s (s.completeAdmissionRequestUnlocked request result)
  gate : ∀ request s, G s (s.gateAdmission request).2
  stage : ∀ subscription depthLimit publishedAt w s, G s (s.stageSession setup subscription depthLimit publishedAt w).2
  commit : ∀ request channel s, G s (s.commitAdmission request channel)

/-- The same with the sections of an admission and of the list of subscribers. -/
structure AllChores (setup : Setup L) (G : Impl L → Impl L → Prop) : Prop extends Chores setup G where
  roster : ∀ remaining count s, G s { s with
    roster.subscribers := remaining
    mail.observation.residentSubscriptionCount := count }
  complete : ∀ request result s, G s (s.completeAdmissionRequestUnlocked request result)
  gate : ∀ request s, G s (s.gateAdmission request).2
  stage : ∀ subscription depthLimit publishedAt w s, G s (s.stageSession setup subscription depthLimit publishedAt w).2
  commit : ∀ request channel s, G s (s.commitAdmission request channel)

/-- Every chore is a section. -/
theorem Sectionwise.allChores {G : Impl L → Impl L → Prop} (hG : Sectionwise setup G) : AllChores setup G :=
  { hG with toChores := hG.toPlain.chores }

/-! ## What the owner is composed of -/

/-- `K` holds of what the owner is composed of, updates and admissions apart, and carries over to sequences. `G` is what `K` asks of a section. -/
structure Composed (setup : Setup L) (G : Impl L → Impl L → Prop) (K : (α : Type) → OwnerProgram L α → Prop) : Prop where
  plain : Plain setup G
  all : ∀ {α : Type} {p : OwnerProgram L α}, p.All G → K α p
  bind : ∀ {α β : Type} {p : OwnerProgram L α} {k : α → OwnerProgram L β}, K α p → (∀ a, K β (k a)) → K β (p.bind k)
  sweep : K Unit sweepClosedSubscribers
  closeAll : K Unit closeAllSubscribersForShutdown

/-- The same of what a round is composed of when it takes no work on and receives no update. -/
structure Routine (setup : Setup L) (G : Impl L → Impl L → Prop) (K : (α : Type) → OwnerProgram L α → Prop) : Prop where
  chores : Chores setup G
  all : ∀ {α : Type} {p : OwnerProgram L α}, p.All G → K α p
  bind : ∀ {α β : Type} {p : OwnerProgram L α} {k : α → OwnerProgram L β}, K α p → (∀ a, K β (k a)) → K β (p.bind k)
  sweep : K Unit sweepClosedSubscribers
  closeAll : K Unit closeAllSubscribersForShutdown

/-- What is composed of the owner's sections has its routine among them. -/
theorem Composed.routine {G : Impl L → Impl L → Prop} {K : (α : Type) → OwnerProgram L α → Prop} (hK : Composed setup G K) :
    Routine setup G K :=
  { hK with chores := hK.plain.chores }

namespace Routine

variable {G : Impl L → Impl L → Prop} {K : (α : Type) → OwnerProgram L α → Prop} {α : Type} (hK : Routine setup G K)

include hK

/-- Returning has no section. -/
theorem done (a : α) : K α (.done a) := hK.all trivial

/-- A section that ends in the relation whatever the surroundings decide. -/
theorem atomic {f : Outcome L → Impl L → α × Impl L} (h : ∀ w s, G s (f w s).2) : K α (Program.atomic f) :=
  hK.all (Program.All.atomic h)

/-- An update of the state that is in the relation. -/
theorem modify {f : Impl L → Impl L} (h : ∀ s, G s (f s)) : K Unit (Program.modify f) := hK.atomic fun _ s => h s

/-- A look at the state is in every relation that is reflexive. -/
theorem read (f : Impl L → α) : K α (Program.read f) := hK.atomic fun _ s => hK.chores.look s

/-- A choice of the surroundings leaves the state alone. -/
theorem choose (f : Outcome L → α) : K α (Program.choose f) := hK.atomic fun _ s => hK.chores.look s

/-- A loop is composed when its body is. -/
theorem forEach {γ : Type} {body : γ → OwnerProgram L Unit} (h : ∀ x, K Unit (body x)) (xs : List γ) :
    K Unit (Program.forEach xs body) := by
  induction xs with
  | nil => exact hK.done ()
  | cons x xs ih => exact hK.bind (h x) fun _ => ih

/-! ## Faults and the published state -/

/-- Ending the sessions is composed of chores. -/
theorem terminalize (reason : ConsumerGapReason) (action : RecoveryAction) (generation : Option Nat) :
    K Unit (terminalizeActiveSubscribers reason action generation) :=
  hK.bind hK.sweep fun _ => hK.bind (hK.choose _) fun _ => hK.bind (hK.read _) fun subscribers =>
    hK.forEach (fun _ => hK.modify fun _ => hK.chores.terminalize _ _ _ _ _ _) subscribers

/-- Faulting is composed of chores. -/
theorem fault (reason : FaultReason) (adapterError : Option L.AdapterError) : K Unit (transitionToFault reason adapterError) :=
  hK.bind (hK.read _) fun _ => hK.bind (hK.terminalize _ _ _) fun _ => hK.modify fun _ => hK.chores.fault _ _ _

/-- A fault in front of a return. -/
theorem faulting (reason : FaultReason) (adapterError : Option L.AdapterError) (a : α) :
    K α ((transitionToFault reason adapterError).bind fun _ => .done a) :=
  hK.bind (hK.fault _ _) fun _ => hK.done a

/-- Publishing the projection's state is composed of chores. -/
theorem publishState : K Unit publishProjectionState := hK.modify fun _ => hK.chores.publish _

/-- The state is published in front of a return. -/
theorem publishing (a : α) : K α (publishProjectionState.bind fun _ => .done a) := hK.bind hK.publishState fun _ => hK.done a

/-! ## Items -/

/-- The fan-out of an update is a loop over the subscribers. -/
theorem fanOut (input : DepthUpdateInput L) (publishedAt : PublicationTime) (subscribers : List Nat) :
    K Unit (fanOut input publishedAt subscribers) := by
  induction subscribers with
  | nil => exact hK.done ()
  | cons i rest ih =>
    refine hK.bind (hK.atomic fun w s => hK.chores.admitUpdate i input publishedAt w s) fun result => ?_
    split
    · exact hK.fault _ _
    · exact ih

/-- Publishing an applied update is composed of chores and the fan-out. -/
theorem publishAppliedUpdate (input : DepthUpdateInput L) : K Unit (publishAppliedUpdate input) := by
  refine hK.bind (hK.read _) fun shutDown => ?_
  split
  · exact hK.done ()
  · refine hK.bind hK.sweep fun _ => hK.bind (hK.read _) fun subscribers => ?_
    split
    · exact hK.done ()
    · refine hK.bind (hK.choose _) fun sampled => ?_
      cases sampled with
      | none => exact hK.fault _ _
      | some publishedAt =>
        refine hK.bind (hK.choose _) fun throws => ?_
        split
        · exact hK.fault _ _
        · exact hK.fanOut _ _ _

/-- What follows an application, by its disposition. -/
theorem publishDisposition (input : DepthUpdateInput L) (disposition : ApplyDisposition) :
    K Unit (publishDisposition input disposition) := by
  cases disposition with
  | applied => exact hK.publishAppliedUpdate input
  | gapDetected => exact hK.terminalize _ _ _
  | ignoredStale | ignoredDuplicate | rejectedWrongState => exact hK.done ()

/-- What the owner does with an update, but for the sections that apply it and record it. -/
theorem applyUpdate {input : DepthUpdateInput L} (hcall : K (ApplyCall L) (Program.atomic (Impl.applyToProjection setup input)))
    (hrecord : ∀ result, K Unit (Program.modify (Impl.recordApply input result))) : K Completion (applyUpdate setup input) := by
  refine hK.bind hcall fun call => ?_
  cases call with
  | generationMismatch => exact hK.faulting _ _ _
  | threw => exact hK.done _
  | adapterError error => exact hK.faulting _ _ _
  | result result =>
    exact hK.bind (hrecord result) fun _ => hK.bind (hK.publishDisposition _ _) fun _ => hK.publishing _

/-- Whatever came of its input, an item is finished. -/
theorem finishing (ticket : Nat) (completion : Completion) :
    K Unit ((faultOnThrow completion).bind fun _ => Program.modify (Impl.finishTicket ticket)) := by
  refine hK.bind ?_ fun _ => hK.modify fun s => hK.chores.finishTicket ticket s
  cases completion with
  | threw => exact hK.fault _ _
  | returned => exact hK.done ()

section

variable (hupdate : ∀ input, K Completion (MarketRuntime.applyUpdate setup input))

include hupdate

/-- The replay applies one buffered update after the other. -/
theorem replay (bound : Nat) : K Completion (replayBootstrap setup bound) := by
  induction bound with
  | zero => exact hK.done _
  | succ bound ih =>
    refine hK.bind (hK.atomic fun _ s => hK.chores.popBootstrap s) fun front => ?_
    cases front with
    | none => exact hK.done _
    | some update =>
      refine hK.bind (hupdate update) fun completion => ?_
      cases completion with
      | threw => exact hK.done _
      | returned =>
        refine hK.bind (hK.read _) fun ends => ?_
        split
        · exact hK.bind (hK.modify fun s => hK.chores.clearBootstrap s) fun _ => hK.done _
        · exact ih

/-- An install and the replay behind it. -/
theorem processSnapshot (input : SnapshotInput L) : K Completion (processSnapshot setup input) := by
  refine hK.bind (hK.atomic fun w s => hK.chores.install input w s) fun call => ?_
  cases call with
  | threw => exact hK.done _
  | adapterError error => exact hK.faulting _ _ _
  | result result =>
    refine hK.bind (hK.modify fun s => hK.chores.recordInstall _ s) fun _ => ?_
    split
    · exact hK.faulting _ _ _
    · refine hK.bind (hK.modify fun s => hK.chores.setGeneration _ s) fun _ =>
        hK.bind (hK.read _) fun n => hK.bind (hK.replay hupdate n) fun completion => ?_
      cases completion with
      | threw => exact hK.done _
      | returned => exact hK.publishing _

end

/-! ## Requests -/

/-- A snapshot request is served by chores. -/
theorem performSnapshot : K Unit (performSnapshotRequest setup) := by
  refine hK.bind (hK.read _) fun live => ?_
  split
  · exact hK.modify fun s => hK.chores.completeSnapshot _ s
  · refine hK.bind (hK.choose _) fun sampled => ?_
    cases sampled with
    | none => exact hK.modify fun s => hK.chores.completeSnapshot _ s
    | some sample =>
      exact hK.bind (hK.atomic fun _ s => hK.chores.look s) fun _ => hK.modify fun s => hK.chores.completeSnapshot _ s

/-- A reset request is served by chores and the reset of the projection. -/
theorem performReset : K Unit performResetRequest := by
  refine hK.bind (hK.atomic fun _ s => hK.chores.checkReset s) fun kind => ?_
  cases kind with
  | none => exact hK.done ()
  | some kind =>
    refine hK.bind (hK.read _) fun generation => hK.bind ?_ fun _ =>
      hK.bind (hK.atomic fun w s => hK.chores.tryReset w s) fun completion => ?_
    · cases kind <;> exact hK.terminalize _ _ _
    · cases completion with
      | returned => exact hK.modify fun s => hK.chores.completeReset _ s
      | threw => exact hK.bind (hK.modify fun s => hK.chores.failReset s) fun _ => hK.modify fun s => hK.chores.completeReset _ s

/-! ## Work -/

/-- Work that is no item and no admission. -/
theorem perform {work : Work L} (hitem : ∀ item, work = .item item → K Unit (MarketRuntime.processItem setup item))
    (hadmission : ∀ request subscription, work = .admission request subscription →
      K Unit (performAdmissionRequest setup request subscription)) : K Bool (perform setup work) := by
  cases work with
  | publicationShutdown =>
    exact hK.bind (hK.bind hK.closeAll fun _ => hK.modify fun s => hK.chores.completeShutdown s) fun _ => hK.done _
  | fault reason => exact hK.faulting _ _ _
  | reset => exact hK.bind hK.performReset fun _ => hK.done _
  | admission request subscription => exact hK.bind (hadmission _ _ rfl) fun _ => hK.done _
  | snapshot => exact hK.bind hK.performSnapshot fun _ => hK.done _
  | removalSweep => exact hK.bind hK.sweep fun _ => hK.done _
  | item item => exact hK.bind (hitem _ rfl) fun _ => hK.done _
  | exit =>
    exact hK.bind (hK.bind (hK.modify fun s => hK.chores.leave s) fun _ =>
      hK.bind hK.closeAll fun _ => hK.modify fun s => hK.chores.exit s) fun _ => hK.done _
  | nothing => exact hK.done _

end Routine

namespace Composed

variable {G : Impl L → Impl L → Prop} {K : (α : Type) → OwnerProgram L α → Prop} {α : Type} (hK : Composed setup G K)

include hK

/-- Returning has no section. -/
theorem done (a : α) : K α (.done a) := hK.routine.done a

/-- A section that ends in the relation whatever the surroundings decide. -/
theorem atomic {f : Outcome L → Impl L → α × Impl L} (h : ∀ w s, G s (f w s).2) : K α (Program.atomic f) := hK.routine.atomic h

/-- An update of the state that is in the relation. -/
theorem modify {f : Impl L → Impl L} (h : ∀ s, G s (f s)) : K Unit (Program.modify f) := hK.routine.modify h

/-- A fault in front of a return. -/
theorem faulting (reason : FaultReason) (adapterError : Option L.AdapterError) (a : α) :
    K α ((transitionToFault reason adapterError).bind fun _ => .done a) := hK.routine.faulting _ _ a

/-- The state is published in front of a return. -/
theorem publishing (a : α) : K α (publishProjectionState.bind fun _ => .done a) := hK.routine.publishing a

/-! ## Items -/

/-- What follows an application, by its disposition. -/
theorem publishDisposition (input : DepthUpdateInput L) (disposition : ApplyDisposition) :
    K Unit (publishDisposition input disposition) := hK.routine.publishDisposition _ _

/-- An application is in the relation when its call into the library and its record are. -/
theorem applyUpdate {input : DepthUpdateInput L} (happly : ∀ w s, G s (s.applyToProjection setup input w).2)
    (hrecord : ∀ result s, G s (s.recordApply input result)) : K Completion (applyUpdate setup input) :=
  hK.routine.applyUpdate (hK.atomic happly) fun result => hK.modify (hrecord result)

section

variable (hupdate : ∀ input, K Completion (MarketRuntime.applyUpdate setup input))

include hupdate

/-- An update is buffered or applied. -/
theorem processDepthUpdate (input : DepthUpdateInput L) : K Completion (processDepthUpdate setup input) := by
  refine hK.bind (hK.atomic fun w s => hK.plain.buffer input w s) fun call => ?_
  cases call with
  | overflow => exact hK.faulting _ _ _
  | threw => exact hK.done _
  | buffered => exact hK.publishing _
  | apply => exact hupdate input

/-- An item is processed by its kind, and its ticket is finished. -/
theorem processItem (item : IngressItem L) : K Unit (processItem setup item) := by
  refine hK.bind ?_ fun completion => hK.routine.finishing _ completion
  cases item.input with
  | depthUpdate input => exact hK.processDepthUpdate hupdate input
  | snapshot input => exact hK.routine.processSnapshot hupdate input
  | failure failure => exact hK.faulting _ _ _

end

/-! ## The loop -/

/-- One piece of work is in the relation when the application and the admission are. -/
theorem perform (hupdate : ∀ input, K Completion (MarketRuntime.applyUpdate setup input)) {work : Work L}
    (hadmission : ∀ request subscription, work = .admission request subscription →
      K Unit (performAdmissionRequest setup request subscription)) : K Bool (perform setup work) :=
  hK.routine.perform (fun item _ => hK.processItem hupdate item) hadmission

/-- A round of the owner takes one piece of work and performs it. -/
theorem round (hupdate : ∀ input, K Completion (MarketRuntime.applyUpdate setup input))
    (hadmission : ∀ request subscription, K Unit (performAdmissionRequest setup request subscription)) : K Bool (ownerRound setup) :=
  hK.bind (hK.all (Program.All.await fun _ s _ => hK.plain.takeWork s)) fun _ =>
    hK.perform hupdate fun request subscription _ => hadmission request subscription

/-- The owner's first section. -/
theorem prologue : K Bool ownerPrologue :=
  hK.bind (hK.all (Program.All.await fun _ s _ => hK.plain.begin s)) fun _ => hK.done _

end Composed

namespace AllChores

variable {G : Impl L → Impl L → Prop} (hG : AllChores setup G)

include hG

/-! ## Subscribers and admissions -/

/-- A look at the state is in every relation that is reflexive. -/
theorem all_read {α : Type} (f : Impl L → α) : (Program.read f : OwnerProgram L α).All G :=
  Program.All.atomic fun _ s => hG.look s

/-- Looking for the subscribers that are still open only reads. -/
theorem all_openSubscribers (subscribers : List Nat) : (openSubscribers subscribers : OwnerProgram L _).All G := by
  induction subscribers with
  | nil => trivial
  | cons i rest ih => exact Program.All.bind (hG.all_read _) (fun _ => Program.All.bind ih (fun _ => trivial))

/-- The sweep drops closed subscribers. -/
theorem all_sweep : (sweepClosedSubscribers : OwnerProgram L Unit).All G :=
  Program.All.bind (hG.all_read _) fun subscribers =>
    Program.All.bind (hG.all_openSubscribers subscribers) fun _ => Program.All.atomic fun _ _ => hG.roster _ _ _

/-- The shutdown closes every channel and completes every request. -/
theorem all_closeAll : (closeAllSubscribersForShutdown : OwnerProgram L Unit).All G :=
  Program.All.bind (hG.all_read _) fun _ =>
    Program.All.bind (Program.All.forEach (fun i => Program.All.atomic fun _ _ => hG.close i _)) fun _ =>
      Program.All.atomic fun _ _ => hG.roster _ _ _

/-- Completing an admission request is a section of the owner. -/
theorem all_complete (request : Nat) (result : SubscriptionAdmissionResult) :
    (completeAdmissionRequest request result : OwnerProgram L Unit).All G :=
  Program.All.atomic fun _ s => hG.complete request result s

/-- A commit either enrols the session or leaves the state as it was. -/
theorem all_tryCommit (request : Nat) (channel : SubscriberChannel L.LocalSnapshot L.DepthUpdate) (w : Outcome L) (s : Impl L) :
    G s (s.tryCommitAdmission request channel w).2 := by
  unfold Impl.tryCommitAdmission
  split
  · exact hG.look s
  · exact hG.commit request channel s

/-- An admission stages a session and commits it. -/
theorem all_admitStaged (request : Nat) (subscription : ValidatedOrderBookSubscription)
    (depthLimit : Option L.DepthLimit) : (admitStaged setup request subscription depthLimit).All G := by
  refine Program.All.bind (Program.All.atomic fun _ s => hG.look s) fun sampled => ?_
  cases sampled with
  | none => exact hG.all_complete _ _
  | some publishedAt =>
    refine Program.All.bind (hG.all_read _) fun next => ?_
    split
    · exact hG.all_complete _ _
    · refine Program.All.bind (Program.All.atomic fun w s => hG.stage _ _ _ w s) fun staging => ?_
      cases staging with
      | threw | adapterError _ | notStaged => exact hG.all_complete _ _
      | staged channel =>
        refine Program.All.bind (Program.All.atomic fun w s => hG.all_tryCommit request channel w s) fun completion => ?_
        cases completion with
        | threw => exact hG.all_complete _ _
        | returned => trivial

/-- An admission request is checked, staged and answered. -/
theorem all_performAdmission (request : Nat) (subscription : ValidatedOrderBookSubscription) :
    (performAdmissionRequest setup request subscription).All G := by
  refine Program.All.bind hG.all_sweep fun _ =>
    Program.All.bind (Program.All.atomic fun _ s => hG.gate request s) fun mayGoOn => ?_
  split
  · trivial
  · refine Program.All.bind (hG.all_read _) fun subscribers => ?_
    split
    · exact hG.all_complete _ _
    · split
      · exact hG.all_admitStaged _ _ _
      · split
        · exact hG.all_complete _ _
        · exact hG.all_admitStaged _ _ _

/-- What `G` is enough for. -/
theorem routine {K : (α : Type) → OwnerProgram L α → Prop} (hall : ∀ {α : Type} {p : OwnerProgram L α}, p.All G → K α p)
    (hbind : ∀ {α β : Type} {p : OwnerProgram L α} {k : α → OwnerProgram L β}, K α p → (∀ a, K β (k a)) → K β (p.bind k)) :
    Routine setup G K where
  chores := hG.toChores
  all := hall
  bind := hbind
  sweep := hall hG.all_sweep
  closeAll := hall hG.all_closeAll

end AllChores

namespace Sectionwise

variable {G : Impl L → Impl L → Prop} (hG : Sectionwise setup G)

include hG

/-- An admission request is served by the owner's sections. -/
theorem all_performAdmission (request : Nat) (subscription : ValidatedOrderBookSubscription) :
    (performAdmissionRequest setup request subscription).All G := hG.allChores.all_performAdmission request subscription

/-- What `G` is enough for. -/
theorem composed {K : (α : Type) → OwnerProgram L α → Prop} (hall : ∀ {α : Type} {p : OwnerProgram L α}, p.All G → K α p)
    (hbind : ∀ {α β : Type} {p : OwnerProgram L α} {k : α → OwnerProgram L β}, K α p → (∀ a, K β (k a)) → K β (p.bind k)) :
    Composed setup G K where
  plain := hG.toPlain
  all := hall
  bind := hbind
  sweep := hall hG.allChores.all_sweep
  closeAll := hall hG.allChores.all_closeAll

/-- What has all its sections in a relation is closed under composition. -/
theorem sections : Composed setup G fun _ p => p.All G := hG.composed id Program.All.bind

/-- What holds of the sections that apply and record an update too holds of every section of a round. -/
theorem all_round (happly : ∀ input w s, G s (s.applyToProjection setup input w).2)
    (hrecord : ∀ input result s, G s (s.recordApply input result)) : (ownerRound setup).All G :=
  hG.sections.round (fun input => hG.sections.applyUpdate (happly input) (hrecord input)) hG.all_performAdmission

end Sectionwise

/-! ## The sections of a run -/

/-- Every section of the owner is one of those listed. -/
theorem sectionwise_ownerSection : Sectionwise setup (OwnerSection (L := L) setup) where
  look _ := .look
  begin _ := .begin
  takeWork _ := .takeWork
  terminalize _ _ _ _ _ _ := .terminalize _ _ _ _ _
  close _ _ := .close _
  roster _ _ _ := .roster _ _
  fault _ _ _ := .fault _ _
  publish _ := .publish
  admitUpdate _ _ _ _ _ := .admitUpdate _ _ _ _
  buffer _ _ _ := .buffer _ _
  popBootstrap _ := .popBootstrap
  clearBootstrap _ := .clearBootstrap
  install _ _ _ := .install _ _
  recordInstall _ _ := .recordInstall _
  setGeneration _ _ := .setGeneration _
  finishTicket _ _ := .finishTicket _
  complete _ _ _ := .complete _ _
  gate _ _ := .gate _
  stage _ _ _ _ _ := .stage _ _ _ _
  commit _ _ _ := .commit _ _
  completeSnapshot _ _ := .completeSnapshot _
  checkReset _ := .checkReset
  reset _ := .reset
  abandonReset _ _ := .abandonReset _
  failReset _ := .failReset
  completeReset _ _ := .completeReset _
  completeShutdown _ := .completeShutdown
  leave _ := .leave
  exit _ := .exit

/-- A round of the owner has the owner's sections. -/
theorem sections_round : (ownerRound setup).All (OwnerSection (L := L) setup) :=
  sectionwise_ownerSection.all_round (fun input w _ => .apply input w) fun input result _ => .recordApply input result

/-- Wherever the owner stands, what is left of its round has the owner's sections. -/
theorem Reachable.sections {ph : Phase (Impl L) (Outcome L)} {s : Impl L} (h : Reachable setup ph s) :
    PhaseAll (OwnerSection setup) ph := by
  induction h with
  | initial => exact sectionwise_ownerSection.sections.prologue
  | step _ hs ih => exact (LoopStep.guarantee sections_round ih hs).2

/-- A step of a run is a caller's section, one of the owner's, or none. -/
theorem Reachable.move {ph ph' : Phase (Impl L) (Outcome L)} {s t : Impl L} (h : Reachable setup ph s)
    (hs : RunStep setup ph s ph' t) : ClientStep setup s t ∨ OwnerSection setup s t ∨ t = s :=
  (LoopStep.guarantee sections_round h.sections hs).1

end MarketDataGateway.MarketRuntime
