import MarketDataGateway.Recovery.Honesty

/-!
# The coordinator's code, piece by piece

Between the creation of an attempt and its end the coordinator's sections touch neither the attempt it has published nor what it has
noted of attempts: they are minor. What holds of every such piece and of a quiescence, and carries over to sequences, holds of
whatever the coordinator does with an attempt; `Wholes` says so. `coordinatorRound_all` is about the whole loop, and the history's
growth is a case of it.
-/

namespace MarketDataGateway.Recovery

open BinanceTransport MarketRuntime OrderBook Threads

variable {L : ProjectionLibrary} {X ω α : Type} {c : Collaborators L X ω}

/-- No attempt is made, published or released; nothing that has been done is forgotten. -/
structure Minor (s t : World L X) : Prop where
  calls : s.calls <:+ t.calls
  created : ∀ g, .attemptCreated g ∈ t.calls → .attemptCreated g ∈ s.calls
  submissions : t.submissions = s.submissions
  active : t.coordinator.activeAttempt = s.coordinator.activeAttempt
  thread : t.coordinator.threadCreated = s.coordinator.threadCreated ∧ t.coordinator.exited = s.coordinator.exited

namespace Minor

variable {s t : World L X}

/-- A section that touches neither the calls nor the attempt nor the thread is minor. -/
theorem same (hcalls : t.calls = s.calls) (hsubmissions : t.submissions = s.submissions)
    (hactive : t.coordinator.activeAttempt = s.coordinator.activeAttempt)
    (hthread : t.coordinator.threadCreated = s.coordinator.threadCreated ∧ t.coordinator.exited = s.coordinator.exited) :
    Minor s t :=
  ⟨hcalls ▸ List.suffix_refl _, fun _ h => hcalls ▸ h, hsubmissions, hactive, hthread⟩

/-- Doing nothing is minor. -/
theorem refl (s : World L X) : Minor s s := same rfl rfl rfl ⟨rfl, rfl⟩

/-- What goes on outside is minor. -/
theorem of_outside (h : OutsideOnly s t) : Minor s t := by
  rw [h]
  exact same rfl rfl rfl ⟨rfl, rfl⟩

/-- Noting a call that makes no attempt is minor. -/
theorem noted (call : RecoveryCall) (hcall : ∀ g, call ≠ .attemptCreated g) (hcalls : t.calls = call :: s.calls)
    (hsubmissions : t.submissions = s.submissions) (hactive : t.coordinator.activeAttempt = s.coordinator.activeAttempt)
    (hthread : t.coordinator.threadCreated = s.coordinator.threadCreated ∧ t.coordinator.exited = s.coordinator.exited) :
    Minor s t :=
  ⟨hcalls ▸ List.suffix_cons _ _, fun g hg => (List.mem_cons.mp (hcalls ▸ hg)).resolve_left fun he => hcall g he.symm,
    hsubmissions, hactive, hthread⟩

/-- A section of what the coordinator shows. -/
theorem onObservation (f : RecoveryObservation L → RecoveryObservation L) (s : World L X) :
    Minor s (s.onCoordinator (Coordinator.onObservation f)) :=
  same rfl rfl rfl ⟨rfl, rfl⟩

end Minor

/-- A section of the coordinator's own that is minor and leaves what is outside, and how the thread began, as they are. -/
structure Ours (s t : World L X) : Prop extends Minor s t where
  outside : t.outside = s.outside
  begun : t.coordinator.started = s.coordinator.started ∧ t.coordinator.startPending = s.coordinator.startPending
  stopped : t.coordinator.stopped = s.coordinator.stopped

/-- One that neither ends the recovery nor touches the time at which its attempt began, and records no failure. -/
structure Ordinary (s t : World L X) : Prop extends Ours s t where
  terminal : t.coordinator.observation.terminal = s.coordinator.observation.terminal
  since : t.coordinator.observation.generationStartedMonotonicNs = s.coordinator.observation.generationStartedMonotonicNs
  failures : lastFailure t.calls = lastFailure s.calls

section Sections

variable {s t : World L X}

/-- A note behind a minor section is minor. -/
theorem Minor.note (h : Minor s t) {call : RecoveryCall} (hcall : ∀ g, call ≠ .attemptCreated g) : Minor s (t.note call) :=
  ⟨h.calls.trans (List.suffix_cons _ _), fun g hg => h.created g ((List.mem_cons.mp hg).resolve_left fun he => hcall g he.symm),
    h.submissions, h.active, h.thread⟩

/-- A note behind a section of the coordinator's own is one too. -/
theorem Ours.note (h : Ours s t) {call : RecoveryCall} (hcall : ∀ g, call ≠ .attemptCreated g) : Ours s (t.note call) :=
  ⟨h.toMinor.note hcall, h.outside, h.begun, h.stopped⟩

/-- A note that records no failure keeps a section ordinary. -/
theorem Ordinary.note (h : Ordinary s t) {call : RecoveryCall} (hcall : ∀ g, call ≠ .attemptCreated g) (hfailure : call.failure = none) :
    Ordinary s (t.note call) :=
  ⟨h.toOurs.note hcall, h.terminal, h.since, (lastFailure_cons hfailure t.calls).trans h.failures⟩

/-- Doing nothing is ordinary. -/
theorem Ordinary.refl (s : World L X) : Ordinary s s := ⟨⟨.refl s, rfl, ⟨rfl, rfl⟩, rfl⟩, rfl, rfl, rfl⟩

/-- A section of what the coordinator shows. -/
theorem Ours.onObservation (f : RecoveryObservation L → RecoveryObservation L) (s : World L X) :
    Ours s (s.onCoordinator (Coordinator.onObservation f)) :=
  ⟨.onObservation f s, rfl, ⟨rfl, rfl⟩, rfl⟩

/-- Ending the recovery is a section of the coordinator's own. -/
theorem setTerminal_ours (cause : RecoveryCause) (error : NetworkError) (s : World L X) : Ours s (s.setTerminal cause error) := by
  unfold World.setTerminal
  split
  · exact (Ordinary.refl s).toOurs
  · exact .onObservation _ s

/-- Marking an attempt live is ordinary. -/
theorem markLive_ordinary (transport : TransportObservation) (g : Nat) (s : World L X) : Ordinary s (s.markLive transport g).2 := by
  unfold World.markLive
  split
  · exact .refl s
  · exact Ordinary.note (t := World.onCoordinator (Coordinator.onObservation _) s) ⟨.onObservation _ s, rfl, rfl, rfl⟩ (by simp) rfl

/-- Beginning a rotation is ordinary. -/
theorem beginRotation_ordinary (s : World L X) : Ordinary s s.beginRotation.2 := by
  unfold World.beginRotation
  split
  · exact .refl s
  · exact ⟨.onObservation _ s, rfl, rfl, rfl⟩

end Sections

section Pieces

variable {G : World L X → World L X → Prop}

/-- A section of the thread's own. -/
theorem act_all {f : World L X → World L X} (hf : ∀ s, G s (f s)) : Throwing.All G (act f : Recovering L X ω Unit) :=
  .lift (.atomic fun _ s => hf s)

/-! ### Pieces that do not end the recovery -/

section Ordinary

variable (hG : ∀ s t : World L X, Ordinary s t → G s t)
include hG

/-- A look at the thread's own state. -/
theorem read_all (f : World L X → α) : Throwing.All G (.lift (Program.read f) : Recovering L X ω α) :=
  .lift (.atomic fun _ s => hG _ _ (.refl s))

/-- A callback and what the coordinator makes of its success. -/
theorem invoke_all {called : Program (World L X) ω (Except String Bool)} {noted : Bool → RecoveryCall} {message : String}
    {success : Coordinator L → Coordinator L} (hc : called.All G) (hnoted : ∀ b, (∀ g, noted b ≠ .attemptCreated g) ∧ (noted b).failure = none)
    (hsuccess : ∀ s : World L X, Ordinary s (s.onCoordinator success)) : Throwing.All G (invoke called noted message success) := by
  have hfailed : ∀ error : String, Throwing.All G (do act (·.note (noted false)); throw error : Recovering L X ω Unit) :=
    fun error => .bind (act_all fun s => hG _ _ ((Ordinary.refl s).note (hnoted false).1 (hnoted false).2)) fun _ => .throw error
  refine .bind (.lift hc) fun r => ?_
  match r with
  | .ok true => exact act_all fun s => hG _ _ ((hsuccess s).note (hnoted true).1 (hnoted true).2)
  | .ok false => exact hfailed message
  | .error e => exact hfailed e

/-- Marking live has ordinary sections only. -/
theorem tryMarkLive_all (r : RuntimeObservation L) (t : TransportObservation) (g : Nat) :
    Throwing.All G (tryMarkLive r t g : Recovering L X ω Bool) :=
  .bind (read_all hG _) fun _ => .ite (.pure _) (.lift (.atomic fun _ s => hG _ _ (markLive_ordinary t g s)))

/-- Taking the mutex and giving it back add ordinary sections. -/
theorem withMutex_all {p : Recovering L X ω α} (hp : Throwing.All G p) : Throwing.All G (withMutex p) := by
  have hheld : ∀ (b : Bool) (s : World L X), Ordinary s (s.onCoordinator fun c => { c with mutexHeld := b }) :=
    fun _ _ => ⟨⟨.same rfl rfl rfl ⟨rfl, rfl⟩, rfl, ⟨rfl, rfl⟩, rfl⟩, rfl, rfl, rfl⟩
  exact .between (.await fun _ s _ => hG _ _ (hheld true s)) hp (.atomic fun _ s => hG _ _ (hheld false s))

variable (h : c.Sections G)
include h

/-- Opening the source generation invokes a callback. -/
theorem open_all (t : TransportObservation) (g : Nat) : Throwing.All G (openSourceGeneration c t g) := by
  unfold openSourceGeneration
  split
  · exact .pure _
  · rename_i l hl
    exact .bind (read_all hG _) fun _ => .ite (invoke_all hG (h.lifecycle l hl g).1 (fun _ => ⟨by simp, rfl⟩)
      fun _ => ⟨⟨.same rfl rfl rfl ⟨rfl, rfl⟩, rfl, ⟨rfl, rfl⟩, rfl⟩, rfl, rfl, rfl⟩) (.throw _)

/-- Quiescing the source generation invokes a callback. -/
theorem quiesceSource_all (g : Nat) : Throwing.All G (quiesceSourceGeneration c g) := by
  refine .bind (read_all hG _) fun due => ?_
  split
  · rename_i l hl
    exact invoke_all hG (h.lifecycle l hl g).2.1 (fun _ => ⟨by simp, rfl⟩) fun _ => ⟨⟨.same rfl rfl rfl ⟨rfl, rfl⟩, rfl, ⟨rfl, rfl⟩, rfl⟩, rfl, rfl, rfl⟩
  · exact .pure _

/-- Closing the source generation invokes a callback. -/
theorem close_all (outcome : SourceGenerationCloseOutcome) : Throwing.All G (closeSourceGeneration c outcome) := by
  refine .bind (read_all hG _) fun opened => ?_
  split
  · rename_i l g hl
    exact .bind (read_all hG _) fun _ => .ite (invoke_all hG ((h.lifecycle l hl g).2.2 outcome) (fun _ => ⟨by simp, rfl⟩)
      fun _ => ⟨⟨.same rfl rfl rfl ⟨rfl, rfl⟩, rfl, ⟨rfl, rfl⟩, rfl⟩, rfl, rfl, rfl⟩) (.throw _)
  · exact .pure _

/-- What follows the stop of an attempt; its release, which is not minor, is left to the caller. -/
theorem stopped_all (g : Nat) (hreleased : ∀ s, G s (World.attemptReleased g s)) : Throwing.All G (do
    let transport ← .of (c.observeAttempt g)
    act (·.persistLastEvent transport)
    quiesceSourceGeneration c transport.connectionGeneration
    act (·.attemptReleased g)
    act (·.attemptUncounted transport)
    pure transport : Recovering L X ω TransportObservation) := by
  refine .bind (.of (h.observeAttempt g)) fun t => .bind (act_all fun s => hG _ _ ⟨.onObservation _ s, rfl, rfl, rfl⟩) fun _ => ?_
  refine .bind (quiesceSource_all hG h _) fun _ => .bind (act_all hreleased) fun _ => ?_
  exact .bind (act_all fun s => hG _ _ ⟨.onObservation _ s, rfl, rfl, rfl⟩) fun _ => .pure _

/-- A quiescence has ordinary sections but for the release of the attempt. -/
theorem quiesceAttempt_all (hreleased : ∀ g s, G s (World.attemptReleased g s)) (g : Nat) : Throwing.All G (quiesceAttempt c g) :=
  .bind (.lift (h.stopAttempt g)) fun _ => .bind (act_all fun s => hG _ _ ((Ordinary.refl s).note (by simp) rfl)) fun _ =>
    stopped_all hG h g (hreleased g)

/-- So has the cleanup after an exception. -/
theorem closeSourceAfterException_all (hquiesce : ∀ g, Throwing.All G (quiesceAttempt c g)) :
    (closeSourceAfterException c).All G := by
  have hread : ∀ {α : Type} (f : World L X → α), (Program.read f : Program (World L X) ω α).All G :=
    fun f => .atomic fun _ s => hG _ _ (.refl s)
  have hclose : ∀ clean : Bool, Program.All G (if clean then do
      let _ ← (closeSourceGeneration c .permanentFailure).run
      pure () else pure () : Program (World L X) ω Unit) := by
    intro clean
    cases clean with
    | true => exact .bind (close_all hG h _) fun _ => trivial
    | false => trivial
  refine .bind (hread _) fun opened => ?_
  split
  · trivial
  · refine .bind (hread _) fun quiesced => .bind (hread _) fun active => ?_
    dsimp only
    split
    · refine .bind (hquiesce _) fun r => ?_
      cases r with
      | ok t => exact hclose true
      | error e => exact .bind (.atomic fun _ s => hG _ _ ((Ordinary.refl s).note (by simp) rfl)) fun _ => hclose false
    · exact hclose true

end Ordinary

/-- Waiting for the rotation asks the clock and the runtime. -/
theorem waitForRotationOrRecovery_all (h : c.Sections G) (started deadline : Nat) :
    Throwing.All G (waitForRotationOrRecovery c started deadline) := by
  refine .bind (.of h.monotonicClock) fun now => ?_
  split
  · exact .throw _
  · split
    · exact .pure _
    · exact .of (h.waitForRotation _)

/-! ### Pieces in which the recovery may end -/

section Ours

variable (hG : ∀ s t : World L X, Ours s t → G s t)
include hG

/-- Giving up ends the recovery. -/
theorem giveUp_all (cause : RecoveryCause) (error : NetworkError) (a : α) :
    Throwing.All G (do act (·.setTerminal cause error); pure a : Recovering L X ω α) :=
  .bind (act_all fun s => hG _ _ (setTerminal_ours cause error s)) fun _ => .pure _

/-- Asking the owner for a reset and noting that it has taken place. -/
theorem askReset_all {ask : Program (World L X) ω (Except String RebootstrapResetResult)} (ha : ask.All G)
    {after : World L X → World L X} (hf : ∀ s, Ours s (after s)) :
    Throwing.All G (do
      let result ← .of ask
      if result = .reset then do
        act after
        pure (some true)
      else pure (some false) : Recovering L X ω (Option Bool)) := by
  refine .bind (.of ha) fun result => ?_
  split
  · exact .bind (act_all fun s => hG _ _ (hf s)) fun _ => .pure _
  · exact .pure _

variable (h : c.Sections G)
include h

/-- A rotation closes the source generation and asks for a reset. -/
theorem rotate_all (t : TransportObservation) (r : RuntimeObservation L) : Throwing.All G (rotate c t r) := by
  have hO : ∀ s t : World L X, Ordinary s t → G s t := fun s t ho => hG s t ho.toOurs
  have hrotated : ∀ s : World L X, Ours s (s.rotated t r) :=
    fun _ => ⟨.noted (.ownerReset true) (by simp) rfl rfl rfl ⟨rfl, rfl⟩, rfl, ⟨rfl, rfl⟩, rfl⟩
  refine .bind (withMutex_all hO (.bind (read_all hO _) fun stopping => .ite (.bind (close_all hO h _) fun _ => .pure _)
    (.bind (close_all hO h _) fun _ => askReset_all hG h.resetLiveForPlannedRebootstrap hrotated))) fun result => ?_
  match result with
  | none => exact .pure _
  | some true => exact .pure _
  | some false => exact giveUp_all hG _ _ _

/-- Committing to a delay closes the source generation and counts the recovery. -/
theorem commitBackoff_all (decision : RecoveryDecision) (t : TransportObservation) :
    Throwing.All G (commitBackoff c decision t) := by
  have hO : ∀ s t : World L X, Ordinary s t → G s t := fun s t ho => hG s t ho.toOurs
  refine withMutex_all hO (.bind (read_all hO _) fun stopping => .ite (.bind (close_all hO h _) fun _ => .pure _)
    (.bind (read_all hO _) fun spent => ?_))
  split
  · exact .bind (close_all hO h _) fun _ => .bind (act_all fun s => hG _ _ (.onObservation _ s)) fun _ => .pure _
  · refine .bind (close_all hO h _) fun _ => .bind (.lift (.atomic fun _ s => hG _ _ ?_)) fun n => ?_
    · exact Ours.note (.onObservation _ s) (by simp)
    · split
      · exact .throw _
      · exact .bind (act_all fun s => hG _ _ (.onObservation _ s)) fun _ => .pure _

/-- A recovery records, commits, waits and asks for a reset. -/
theorem recover_all (g : Nat) (t : TransportObservation) (r : RuntimeObservation L) : Throwing.All G (recover c g t r) := by
  have hO : ∀ s t : World L X, Ordinary s t → G s t := fun s t ho => hG s t ho.toOurs
  have hrecovered : ∀ s : World L X, Ours s s.recovered :=
    fun _ => ⟨.noted (.ownerReset false) (by simp) rfl rfl rfl ⟨rfl, rfl⟩, rfl, ⟨rfl, rfl⟩, rfl⟩
  refine .bind (act_all fun s => hG _ _ (Ours.note (.onObservation _ s) (by simp))) fun _ =>
    .ite (.bind (close_all hO h _) fun _ => giveUp_all hG _ _ _) (.bind (commitBackoff_all hG h _ t) fun delay => ?_)
  cases delay with
  | none => exact .pure _
  | some delay =>
    refine .bind (.of (h.waitBackoff delay)) fun waited => .ite (.pure _)
      (.bind (.lift (.atomic fun _ s => hG _ _ ?_)) fun stopping => .ite (.pure _) (.bind ?_ fun result => ?_))
    · unfold World.leaveBackoff
      split
      · exact (Ordinary.refl s).toOurs
      · exact .onObservation _ s
    · exact withMutex_all hO (.bind (read_all hO _) fun stopping => .ite (.pure _)
        (askReset_all hG h.resetForRebootstrap hrecovered))
    · match result with
      | none => exact .pure _
      | some true => exact .pure _
      | some false => exact giveUp_all hG _ _ _

/-- Settling an attempt looks at it, reports it and concludes. -/
theorem settle_all (g : Nat) (due : Bool) (t : TransportObservation) : Throwing.All G (settle c g due t) := by
  have hO : ∀ s t : World L X, Ordinary s t → G s t := fun s t ho => hG s t ho.toOurs
  have hconclude : ∀ r, Throwing.All G (conclude c g due t r) := fun r => .ite (rotate_all hG h t r) (recover_all hG h g t r)
  refine .bind (read_all hO _) fun stopping => .ite (.bind (close_all hO h _) fun _ => .pure _)
    (.bind (.of h.observeRuntime) fun r => .ite (.bind (.of h.submitTransportFailure) fun admitted => ?_) (hconclude r))
  split
  · exact .bind (.of h.observeRuntime) hconclude
  · exact .bind (close_all hO h _) fun _ => giveUp_all hG _ _ _

end Ours

end Pieces

/-! ## With an attempt -/

/-- What holds of every piece whose sections are as `M` allows and of a quiescence, and of a sequence of two pieces of which it
holds. -/
structure Wholes (c : Collaborators L X ω) (M : World L X → World L X → Prop) (Φ : ∀ α : Type, Recovering L X ω α → Prop) : Prop where
  piece : ∀ {α : Type} {p : Recovering L X ω α}, Throwing.All M p → Φ α p
  bind : ∀ {α β : Type} {p : Recovering L X ω α} {k : α → Recovering L X ω β}, Φ α p → (∀ a, Φ β (k a)) → Φ β (p >>= k)
  onThrow : ∀ {α : Type} {p : Recovering L X ω α} {cleanup : Recovering L X ω Unit}, Φ α p → Φ Unit cleanup → Φ α (p.onThrow cleanup)
  quiesce : ∀ g, Φ TransportObservation (quiesceAttempt c g)

namespace Wholes

variable {M : World L X → World L X → Prop} {Φ : ∀ α : Type, Recovering L X ω α → Prop} (hΦ : Wholes c M Φ) (h : c.Sections M)
include hΦ

/-- What holds of the pieces holds of a return. -/
theorem pure (a : α) : Φ α (Pure.pure a) := hΦ.piece (.pure a)

/-- What holds of the pieces holds of a call. -/
theorem call {q : Program (World L X) ω (Except String α)} (hq : q.All M) : Φ α (.of q) := hΦ.piece (.of hq)

include h

/-- Scheduling the rotation is made of pieces. -/
theorem rotationSchedule (g : Nat) : Φ _ (Recovery.rotationSchedule c g) := by
  unfold Recovery.rotationSchedule
  split
  · exact hΦ.pure _
  · refine hΦ.onThrow (hΦ.piece (.bind (.of h.monotonicClock) fun started => ?_))
      (hΦ.bind (hΦ.quiesce g) fun _ => hΦ.pure _)
    split
    · exact .pure _
    · exact .throw _

variable (hM : ∀ s t : World L X, Ordinary s t → M s t)
include hM

/-- Leaving for a shutdown is made of pieces. -/
theorem leave (g : Nat) : Φ Unit (leaveForShutdown c g) := hΦ.bind (hΦ.quiesce g) fun _ => hΦ.piece (close_all hM h _)

/-- Waiting for the end of a live attempt is made of pieces. -/
theorem awaitLiveEnd (g : Nat) (schedule : Option (Nat × Nat)) : Φ _ (Recovery.awaitLiveEnd c g schedule) := by
  have hleave : Φ _ (do leaveForShutdown c g; Pure.pure none : Recovering L X ω (Option Bool)) :=
    hΦ.bind (hΦ.leave h hM g) fun _ => hΦ.pure _
  cases schedule with
  | none =>
    refine hΦ.bind (hΦ.call h.waitUntilRecoveryRequired) fun r => ?_
    cases r with
    | none => exact hleave
    | some r => exact hΦ.pure _
  | some schedule =>
    refine hΦ.bind (hΦ.onThrow (hΦ.piece (waitForRotationOrRecovery_all h _ _))
      (hΦ.bind (hΦ.quiesce g) fun _ => hΦ.piece (close_all hM h _))) fun result => ?_
    cases result with
    | stopped => exact hleave
    | recoveryRequired => exact hΦ.pure _
    | deadlineReached =>
      refine hΦ.bind (hΦ.piece (.lift (.atomic fun _ s => hM _ _ (beginRotation_ordinary s)))) fun won => ?_
      cases won with
      | true => exact hleave
      | false => exact hΦ.pure _

/-- Waiting for the end of an attempt is made of pieces. -/
theorem awaitEnd (g : Nat) (schedule : Option (Nat × Nat)) : Φ _ (Recovery.awaitEnd c g schedule) := by
  refine hΦ.bind (hΦ.call (h.observeAttempt g)) fun t => hΦ.bind (hΦ.piece (open_all hM h t g)) fun _ => ?_
  refine hΦ.bind (hΦ.call h.waitUntilLiveOrRecoveryRequired) fun r => ?_
  cases r with
  | none => exact hΦ.bind (hΦ.leave h hM g) fun _ => hΦ.pure _
  | some r =>
    show Φ _ (if r.state = .live then _ else _)
    split
    · refine hΦ.bind (hΦ.call h.observeRuntime) fun q => hΦ.bind (hΦ.call (h.observeAttempt g)) fun t => ?_
      refine hΦ.bind (hΦ.piece (tryMarkLive_all hM q t g)) fun live => ?_
      cases live with
      | true => exact hΦ.awaitLiveEnd h hM g schedule
      | false => exact hΦ.pure _
    · exact hΦ.pure _

end Wholes

/-! ## The whole loop -/

section Round

variable {G : World L X → World L X → Prop} (hG : ∀ s t : World L X, Ours s t → G s t)
  (hpublished : ∀ g s, G s (World.attemptPublished g s)) (hreleased : ∀ g s, G s (World.attemptReleased g s)) (h : c.Sections G)
include hG hpublished hreleased h

omit hreleased in
/-- Creating an attempt asks the factory and publishes what it made. -/
theorem createAttempt_all (g : Nat) : Throwing.All G (createAttempt c g) := by
  refine .bind (.of (h.createAttempt g)) fun created => .ite ?_ (.pure _)
  refine .bind (act_all fun s => hpublished g s) fun _ => .bind (.of (h.observeAttempt g)) fun t => ?_
  exact .bind (act_all fun s => hG _ _ (.onObservation _ s)) fun _ => .pure _

/-- A whole attempt, from its making to its end. -/
theorem attemptRound_all : Throwing.All G (attemptRound c) := by
  have hO : ∀ s t : World L X, Ordinary s t → G s t := fun s t ho => hG s t ho.toOurs
  have hquiesce := quiesceAttempt_all hO h hreleased
  have hΦ : Wholes c G (fun _ => Throwing.All G) :=
    { piece := id, bind := .bind, onThrow := .onThrow, quiesce := hquiesce }
  have hread : ∀ {α : Type} (f : World L X → α), Throwing.All G (.lift (Program.read f) : Recovering L X ω α) :=
    fun f => read_all hO f
  have hleave : ∀ g, Throwing.All G (do leaveForShutdown c g; pure false : Recovering L X ω Bool) :=
    fun g => .bind (hΦ.leave h hO g) fun _ => .pure _
  refine .bind (hread _) fun stopping => .ite (.pure _) (.bind (hread _) fun g =>
    .bind (createAttempt_all hG hpublished h g) fun created => ?_)
  refine .ite (giveUp_all hG _ _ _) (.bind (hread _) fun stopping => .ite (hleave g) ?_)
  refine .bind (hΦ.rotationSchedule h g) fun schedule => .bind (act_all fun s => hG _ _ (.onObservation _ s)) fun _ => ?_
  refine .bind (.of (h.startAttempt g)) fun result => .bind (hread _) fun stopping => .ite (hleave g) ?_
  have hend : ∀ ended, Throwing.All G (match ended with
      | none => pure false
      | some plannedRotationDue => do
        let transport ← quiesceAttempt c g
        settle c g plannedRotationDue transport : Recovering L X ω Bool) := by
    intro ended
    cases ended with
    | none => exact .pure _
    | some due => exact .bind (hquiesce g) fun t => settle_all hG h g due t
  dsimp only
  split
  · exact .bind (hΦ.awaitEnd h hO g schedule) hend
  · exact .bind (.pure _) hend

/-- A round of the loop adds its handlers and its exit. -/
theorem coordinatorRound_all (hexit : ∀ s, G s s.exit) : (coordinatorRound c).All G := by
  have hO : ∀ s t : World L X, Ordinary s t → G s t := fun s t ho => hG s t ho.toOurs
  refine .bind (.await fun _ s _ => hO _ _ (.refl s)) fun _ => .bind (attemptRound_all hG hpublished hreleased h) fun r => ?_
  match r with
  | .ok true => trivial
  | .ok false => exact .bind (.atomic fun _ s => hexit s) fun _ => trivial
  | .error e =>
    refine .bind (.atomic fun _ s => hO _ _ ((Ordinary.refl s).note (by simp) rfl)) fun _ =>
      .bind (closeSourceAfterException_all hO h (quiesceAttempt_all hO h hreleased)) fun _ => ?_
    exact .bind (.atomic fun _ s => hG _ _ (setTerminal_ours _ _ s)) fun _ => .bind (.atomic fun _ s => hexit s) fun _ => trivial

end Round

/-! ## The history grows -/

/-- Nothing that the coordinator has done is forgotten, and it submits nothing for an attempt. -/
def Grows (s t : World L X) : Prop := s.calls <:+ t.calls ∧ t.submissions = s.submissions

/-- A minor section forgets nothing and submits nothing. -/
theorem Minor.grows {s t : World L X} (h : Minor s t) : Grows s t := ⟨h.calls, h.submissions⟩

/-- A round of the loop forgets nothing and submits nothing. -/
theorem coordinatorRound_grows (h : c.Sections OutsideOnly) : (coordinatorRound c).All Grows :=
  coordinatorRound_all (fun _ _ ho => ho.toMinor.grows) (fun _ _ => ⟨List.suffix_cons _ _, rfl⟩) (fun _ _ => ⟨List.suffix_refl _, rfl⟩)
    (h.mono fun _ _ ho => (Minor.of_outside ho).grows) fun _ => ⟨List.suffix_refl _, rfl⟩

end MarketDataGateway.Recovery
