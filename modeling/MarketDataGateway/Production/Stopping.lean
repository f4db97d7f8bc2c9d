import MarketDataGateway.Production.Product
import MarketDataGateway.Runtime.Requests

/-!
# Stopping a product

Whatever the threads of a product are doing, a stop that returns leaves it ended: the coordinator's thread is over, every attempt that
it has ever made has been stopped, and if its runtime has had an owner, that has been joined. `ProductInv` holds throughout, `Ready`
between the gateway's calls.
-/

namespace MarketDataGateway.Production

open BinanceTransport MarketRuntime OrderBook Recovery Threads Program

variable {L : ProjectionLibrary} {Y ω α : Type} {c : Collaborators L (Premises L Y) ω}

/-! ## What the coordinator's thread leaves alone -/

namespace Besides

variable {x y z : Premises L Y}

/-- Nothing goes on besides when nothing happens. -/
theorem refl (x : Premises L Y) : Besides x x := ⟨rfl, rfl, rfl, id⟩

end Besides

/-- The coordinator's thread neither starts nor stops its coordinator, and what is around it only as `Besides` says. -/
structure Steady (s t : World L (Premises L Y)) : Prop where
  started : t.coordinator.started = s.coordinator.started
  stopped : t.coordinator.stopped = s.coordinator.stopped
  outside : Besides s.outside t.outside

/-- A bystander's section is steady. -/
theorem Bystanding.steady {s t : World L (Premises L Y)} (h : Bystanding s t) : Steady s t := by
  obtain ⟨x, hx, rfl⟩ := h
  exact ⟨rfl, rfl, hx⟩

/-- A bystander's section is minor. -/
theorem Bystanding.minor {s t : World L (Premises L Y)} (h : Bystanding s t) : Minor s t := by
  obtain ⟨x, -, rfl⟩ := h
  exact .same rfl rfl rfl ⟨rfl, rfl⟩

/-- A round of the coordinator leaves the lifecycle alone. -/
theorem coordinatorRound_steady (h : c.Sections Bystanding) : (coordinatorRound c).All Steady := by
  have hours : ∀ s t : World L (Premises L Y), Ours s t → Steady s t :=
    fun s t ho => ⟨ho.begun.1, ho.stopped, by rw [ho.outside]; exact .refl _⟩
  exact coordinatorRound_all hours (fun _ _ => ⟨rfl, rfl, .refl _⟩) (fun _ _ => ⟨rfl, rfl, .refl _⟩)
    (h.mono fun _ _ => Bystanding.steady) fun _ => ⟨rfl, rfl, .refl _⟩

/-! ## The invariant -/

/-- The runtime's owner is gone, if there has been one. -/
def OwnerGone (s : Impl L) : Prop := s.mail.started = false ∨ (s.ownerExited = true ∧ s.mail.observation.ownerJoined = true)

/-- Every attempt that has been made has been stopped, by its coordinator or by a stop. -/
def AllStopped (p : Product L Y ω) : Prop :=
  ∀ g, .attemptCreated g ∈ p.world.calls → .attemptStopped g ∈ p.world.calls ∨ g ∈ p.stopped

/-- Nothing of the product runs any more. -/
structure Ended (p : Product L Y ω) : Prop where
  joined : p.joined = true
  attempts : AllStopped p
  owner : OwnerGone p.runtime

/-- What holds of a product at any time. -/
structure ProductInv (p : Product L Y ω) : Prop where
  unstarted : p.coordinator.started = false → p.thread = none ∧ p.runtime.mail.started = false ∧ p.taken = false
  unborn : p.thread = none → p.world.calls = []
  tended : p.taken = false → ∀ ph, p.thread = some ph →
    LoopInv (covering L (Premises L Y)) (fun s => Settled s.calls) (fun _ => True) ph p.world
  steady : ∀ ph, p.thread = some ph → PhaseAll Steady ph
  taken : p.taken = true → p.joined = true
  halted : p.runtime.mail.stopped = true → OwnerGone p.runtime
  ended : p.coordinator.stopped = true → Ended p

/-- The invariant holds of a product that has just been made. -/
theorem productInv_initial (setup : Setup L) (elsewhere : Y) : ProductInv (.initial setup elsewhere : Product L Y ω) where
  unstarted _ := ⟨rfl, rfl, rfl⟩
  unborn _ := rfl
  tended _ _ h := by cases h
  steady _ h := by cases h
  taken h := by cases h
  halted h := by cases h
  ended h := by cases h

/-- An owner that is gone stays gone whatever goes on besides. -/
theorem OwnerGone.besides {x y : Premises L Y} (hb : Besides x y) (h : OwnerGone x.runtime) : OwnerGone y.runtime := by
  rcases h with hstarted | ⟨hexited, hjoined⟩
  · exact Or.inl (hb.started.trans hstarted)
  · exact Or.inr ⟨hb.ownerExited hexited, hb.ownerJoined.trans hjoined⟩

/-- A coordinator's thread that is over, or not there, does nothing. -/
theorem joined_no_step {p : Product L Y ω} (hj : p.joined = true) {ph ph' : Phase (World L (Premises L Y)) ω}
    {s : World L (Premises L Y)} (ht : p.thread = some ph) (hs : LoopStep (fun _ _ => False) (coordinatorRound c) ph p.world ph' s) :
    False := by
  unfold Product.joined at hj
  rw [ht] at hj
  cases ph with
  | exited => cases hs with | env h => exact h
  | head => cases hj
  | running q => cases hj

variable (h : c.Sections Bystanding)
include h

/-- Each step of a product keeps its invariant. -/
theorem ProductStep.inv {p q : Product L Y ω} (hs : ProductStep c p q) (hi : ProductInv p) : ProductInv q := by
  cases hs with
  | @thread ph ph' s ht hs =>
    obtain ⟨hmove, hsteady⟩ := hs.guarantee (coordinatorRound_steady h) (hi.steady ph ht)
    have hmoved : Steady p.world s := by
      rcases hmove with hfalse | hsteady | rfl
      · exact hfalse.elim
      · exact hsteady
      · exact ⟨rfl, rfl, .refl _⟩
    have hlive : ¬ p.joined = true := fun hj => joined_no_step hj ht hs
    have hstarted : p.coordinator.started = true := by
      by_contra hns
      have := (hi.unstarted (by simpa using hns)).1
      rw [ht] at this
      cases this
    exact
      { unstarted := fun hn => by
          have hst : s.coordinator.started = p.coordinator.started := hmoved.started
          have hn' : s.coordinator.started = false := hn
          rw [hst, hstarted] at hn'
          cases hn'
        unborn := fun hn => by cases hn
        tended := fun htaken ph'' hph => by
          cases hph
          exact (hi.tended htaken ph ht).step stable_settled (Rely.Stable.const True)
            (coordinatorRound_covered (h.mono fun _ _ => Bystanding.minor)) (hs.mono fun hf => hf.elim)
        steady := fun ph'' hph => by
          cases hph
          exact hsteady
        taken := fun htaken => (hlive (hi.taken htaken)).elim
        halted := fun hstopped => (hi.halted (hmoved.outside.stopped.symm.trans hstopped)).besides hmoved.outside
        ended := fun hstopped => (hlive (hi.ended (hmoved.stopped.symm.trans hstopped)).joined).elim }
  | @around x hb =>
    exact
      { unstarted := fun hn => ⟨(hi.unstarted hn).1, hb.started.trans (hi.unstarted hn).2.1, (hi.unstarted hn).2.2⟩
        unborn := hi.unborn
        tended := fun htaken ph hph => (hi.tended htaken ph hph).step stable_settled (Rely.Stable.const True)
          (coordinatorRound_covered (h.mono fun _ _ => Bystanding.minor)) (.env ⟨rfl, rfl⟩)
        steady := hi.steady
        taken := hi.taken
        halted := fun hstopped => (hi.halted (hb.stopped.symm.trans hstopped)).besides hb
        ended := fun hstopped =>
          have he := hi.ended hstopped
          ⟨he.joined, he.attempts, he.owner.besides hb⟩ }

/-- What goes on besides a call of the gateway. -/
def productRely : Rely (Product L Y ω) where
  env := ProductStep c
  inv := ProductInv
  inv_env _ _ hi hs := hs.inv h hi

/-- What goes on besides leaves the coordinator started or stopped as it is, and a thread that is over or not there. -/
structure Kept (p q : Product L Y ω) : Prop where
  started : q.coordinator.started = p.coordinator.started
  stopped : q.coordinator.stopped = p.coordinator.stopped
  taken : q.taken = p.taken
  stops : q.stopped = p.stopped
  unborn : p.thread = none → q.thread = none
  born : p.thread ≠ none → q.thread ≠ none
  joined : p.joined = true → q.joined = true ∧ q.world.calls = p.world.calls
  outside : Besides p.world.outside q.world.outside

/-- Each step of a product leaves its lifecycle as it is. -/
theorem ProductStep.kept {p q : Product L Y ω} (hs : ProductStep c p q) (hi : ProductInv p) : Kept p q := by
  cases hs with
  | @thread ph ph' s ht hs =>
    have hlive : ¬ p.joined = true := fun hj => joined_no_step hj ht hs
    have hmoved : Steady p.world s := by
      rcases (hs.guarantee (coordinatorRound_steady h) (hi.steady ph ht)).1 with hfalse | hsteady | rfl
      · exact hfalse.elim
      · exact hsteady
      · exact ⟨rfl, rfl, .refl _⟩
    refine ⟨hmoved.started, hmoved.stopped, rfl, rfl, fun hn => ?_, fun _ => nofun, fun hj => (hlive hj).elim, hmoved.outside⟩
    rw [ht] at hn
    cases hn
  | @around x hb => exact ⟨rfl, rfl, rfl, rfl, id, id, fun hj => ⟨hj, rfl⟩, hb⟩

/-- A call whose sections might be somebody else's keeps what those keep. -/
theorem aside_triple {P : Product L Y ω → Prop} (hP : (productRely h).Stable P) {q : ProductProgram L Y ω α}
    (hq : q.All (ProductStep c)) : Triple (productRely h) P q fun _ => P :=
  Triple.of_all hq hP fun p q hi hp hs => ⟨hs.inv h hi, hP p q hi hp hs⟩

omit h in
/-- A call of a bystander is made of steps of the product. -/
theorem call_all {q : Program (World L (Premises L Y)) ω α} (hq : q.All Bystanding) : (call q).All (ProductStep c) := by
  refine (hq.focus).mono ?_
  rintro p _ ⟨_, ⟨x, hx, rfl⟩, rfl⟩
  exact .around hx

/-- A call of a bystander keeps what the product's steps keep. -/
theorem call_triple {P : Product L Y ω → Prop} (hP : (productRely h).Stable P) {q : Program (World L (Premises L Y)) ω α}
    (hq : q.All Bystanding) : Triple (productRely h) P (call q) fun _ => P := aside_triple h hP (call_all hq)

/-! ## Calls that might be somebody else's -/

section Aside

variable {p : Product L Y ω}

omit h in
/-- Moving the runtime is a step of the product. -/
theorem ProductStep.runtime {f : Impl L → Impl L} (hf : Besides p.world.outside { p.world.outside with runtime := f p.runtime }) :
    ProductStep c p (p.onRuntime f) := .around hf

omit h in
/-- Doing nothing is a step of the product. -/
theorem ProductStep.refl (p : Product L Y ω) : ProductStep c p p := .around (.refl _)

omit h in
/-- Closing the admission is made of steps of the product. -/
theorem closePublicationAdmission_all : (closePublicationAdmission : ProductProgram L Y ω Unit).All (ProductStep c) :=
  .atomic fun _ _ => .runtime ⟨rfl, rfl, rfl, id⟩

omit h in
/-- Shutting the publication down is made of steps of the product. -/
theorem shutdownPublication_all : (shutdownPublication : ProductProgram L Y ω Unit).All (ProductStep c) := by
  have hbesides : ∀ s : Impl L, s.shutdownPublication.2.mail.started = s.mail.started ∧
      s.shutdownPublication.2.mail.stopped = s.mail.stopped ∧
      s.shutdownPublication.2.mail.observation.ownerJoined = s.mail.observation.ownerJoined ∧
      s.shutdownPublication.2.ownerExited = s.ownerExited := by
    intro s
    unfold Impl.shutdownPublication
    split_ifs <;> exact ⟨rfl, rfl, rfl, rfl⟩
  refine .bind (.atomic fun _ p => ?_) fun result => ?_
  · obtain ⟨hstarted, hstopped, hjoined, hexited⟩ := hbesides p.runtime
    exact ProductStep.runtime (f := (·.shutdownPublication.2)) ⟨hstarted, hstopped, hjoined, fun hx => hexited.trans hx⟩
  · split
    · trivial
    · exact .await fun _ p _ => .refl p

omit h in
/-- Shutting the events down is made of steps of the product. -/
theorem shutdownEvents_all (shutdown : Y → Y) : (shutdownEvents shutdown : ProductProgram L Y ω Unit).All (ProductStep c) :=
  .atomic fun _ _ => .around ⟨rfl, rfl, rfl, id⟩

/-- Observing the recovery is made of steps of the product. -/
theorem observeRecovery_all : Throwing.All (ProductStep c) (observeRecovery c) := by
  refine .bind (.lift (.atomic fun _ p => .refl p)) fun copy => .bind (.lift (.atomic fun _ p => .refl p)) fun attempt => ?_
  split
  · split
    · exact .pure _
    · exact .bind (.of (call_all (h.observeAttempt _))) fun t => .ite (.pure _) (.pure _)
  · exact .pure _

omit h in
/-- Observing the runtime is made of steps of the product. -/
theorem observeRuntime_all : (observeRuntime : ProductProgram L Y ω _).All (ProductStep c) := by
  refine .atomic fun w p => ?_
  split
  · exact .around (x := { p.world.outside with runtime := _ }) ⟨rfl, rfl, rfl, id⟩
  · exact .refl p

/-- Looking whether a product is live is made of its steps. -/
theorem initialLive_all : Throwing.All (ProductStep c) (initialLive c) :=
  .bind (observeRecovery_all h) fun _ => .bind (.lift observeRuntime_all) fun _ => .pure _

/-- Looking whether a product has failed is made of its steps. -/
theorem initialFailure_all : Throwing.All (ProductStep c) (initialFailure c) :=
  .bind (observeRecovery_all h) fun _ => .bind (.lift observeRuntime_all) fun _ => .pure _

end Aside

/-! ## The gateway's own sections -/

section Sections

variable {p : Product L Y ω}

/-- A section of the coordinator's lifecycle that leaves its attempt alone. -/
theorem ProductInv.onCoordinator (hi : ProductInv p) {f : Coordinator L → Coordinator L}
    (hstarted : (f p.coordinator).started = false → p.coordinator.started = false)
    (hactive : (f p.coordinator).activeAttempt = p.coordinator.activeAttempt)
    (hended : (f p.coordinator).stopped = true → Ended p) : ProductInv (p.onCoordinator f) where
  unstarted hn := hi.unstarted (hstarted hn)
  unborn := hi.unborn
  tended htaken ph hph := (hi.tended htaken ph hph).step stable_settled (Rely.Stable.const True)
    (coordinatorRound_covered (h.mono fun _ _ => Bystanding.minor)) (.env ⟨rfl, hactive⟩)
  steady := hi.steady
  taken := hi.taken
  halted := hi.halted
  ended hstopped :=
    have he := hended hstopped
    ⟨he.joined, he.attempts, he.owner⟩

/-- A section of the runtime's lifecycle. -/
theorem ProductInv.onRuntime (hi : ProductInv p) {f : Impl L → Impl L}
    (hstarted : p.coordinator.started = false → (f p.runtime).mail.started = false)
    (hhalted : (f p.runtime).mail.stopped = true → OwnerGone (f p.runtime))
    (hended : p.coordinator.stopped = true → OwnerGone (f p.runtime)) : ProductInv (p.onRuntime f) where
  unstarted hn := ⟨(hi.unstarted hn).1, hstarted hn, (hi.unstarted hn).2.2⟩
  unborn := hi.unborn
  tended htaken ph hph := (hi.tended htaken ph hph).step stable_settled (Rely.Stable.const True)
    (coordinatorRound_covered (h.mono fun _ _ => Bystanding.minor)) (.env ⟨rfl, rfl⟩)
  steady := hi.steady
  taken := hi.taken
  halted := hhalted
  ended hstopped :=
    have he := hi.ended hstopped
    ⟨he.joined, he.attempts, hended hstopped⟩

end Sections

/-! ## Starting -/

omit h in
/-- What a call that starts a coordinator finds and leaves. -/
theorem coordinator_start_cases (s : Coordinator L) :
    (s.start.1 = none ∧ s.started = false ∧ s.stopped = false ∧ s.start.2.started = true ∧ s.start.2.stopped = false ∧
      s.start.2.activeAttempt = s.activeAttempt) ∨ (s.start.1 ≠ none ∧ s.start.1 ≠ some .started ∧ s.start.2 = s) := by
  unfold Coordinator.start
  cases hstopped : s.stopped with
  | true => exact Or.inr ⟨by simp, by simp, by simp⟩
  | false =>
    cases hstarted : s.started with
    | true => exact Or.inr ⟨by simp, by simp, by simp⟩
    | false => exact Or.inl ⟨by simp, rfl, rfl, by simp, by simp, by simp⟩

omit h in
/-- A runtime that says it has started is started and not stopped. -/
theorem runtime_start_started {s : Impl L} (hs : s.start.1 = .started) :
    s.start.2.mail.stopped = false ∧ s.start.2.mail.started = true := by
  unfold Impl.start at hs ⊢
  cases hstopped : s.mail.stopped with
  | true => simp [hstopped] at hs
  | false =>
    cases hstarted : s.mail.started with
    | true => simp [hstopped, hstarted] at hs
    | false => exact ⟨by simpa using hstopped, by simp⟩

/-- Between two calls of the gateway: the last attempt is not taken but by a stop that gets to its end. -/
def Ready (p : Product L Y ω) : Prop := p.taken = false ∨ p.coordinator.stopped = true

/-- A start is under way; there is no thread yet. -/
structure Starting (p : Product L Y ω) : Prop where
  started : p.coordinator.started = true
  stopped : p.coordinator.stopped = false
  taken : p.taken = false
  thread : p.thread = none

/-- A product that has been started, and not stopped since. -/
structure Running (p : Product L Y ω) : Prop where
  started : p.coordinator.started = true
  stopped : p.coordinator.stopped = false
  thread : p.thread ≠ none
  owner : p.runtime.mail.started = true

/-- A product that may be stopped stays so. -/
theorem stable_ready : (productRely h).Stable Ready := by
  intro p q hi hr hs
  have hk := hs.kept h hi
  exact hr.imp (fun ht => hk.taken.trans ht) fun hstopped => hk.stopped.trans hstopped

/-- A start that is under way stays so. -/
theorem stable_starting : (productRely h).Stable Starting := by
  intro p q hi hp hs
  have hk := hs.kept h hi
  exact ⟨hk.started.trans hp.started, hk.stopped.trans hp.stopped, hk.taken.trans hp.taken, hk.unborn hp.thread⟩

/-- A product that runs keeps running. -/
theorem stable_running : (productRely h).Stable Running := by
  intro p q hi hp hs
  have hk := hs.kept h hi
  exact ⟨hk.started.trans hp.started, hk.stopped.trans hp.stopped, hk.born hp.thread, hk.outside.started.trans hp.owner⟩

/-- A runtime that was started stays started. -/
theorem stable_owned : (productRely h).Stable fun p => p.runtime.mail.started = true :=
  fun _ _ hi hp hs => (hs.kept h hi).outside.started.trans hp

omit h in
/-- A product may be stopped while its start is under way. -/
theorem Starting.ready {p : Product L Y ω} (hp : Starting p) : Ready p := Or.inl hp.taken

omit h in
/-- The coordinator's thread begins with nothing behind it. -/
theorem ProductInv.createThread {p : Product L Y ω} (hi : ProductInv p) (hp : Starting p) : ProductInv p.createThread := by
  have hnone : ∀ g, RecoveryCall.attemptCreated g ∉ p.world.calls := by
    rw [hi.unborn hp.thread]
    exact fun _ => List.not_mem_nil
  refine { unstarted := fun hn => ?_, unborn := nofun, tended := fun _ ph hph => ?_, steady := fun ph hph => ?_, taken := fun ht => ?_,
           halted := hi.halted, ended := fun hs => ?_ }
  · rw [show p.createThread.coordinator.started = p.coordinator.started from rfl, hp.started] at hn
    cases hn
  · cases hph
    exact ⟨fun g hg => (hnone g hg).elim, fun g hg => (hnone g hg).elim⟩
  · cases hph
    trivial
  · rw [show p.createThread.taken = p.taken from rfl, hp.taken] at ht
    cases ht
  · rw [show p.createThread.coordinator.stopped = p.coordinator.stopped from rfl, hp.stopped] at hs
    cases hs

/-- Starting the runtime leaves the start under way. -/
theorem startRuntime_starting : Triple (productRely h) Starting startRuntime fun answer p =>
    Starting p ∧ (answer = .ok .started → p.runtime.mail.started = true) := by
  have hst := stable_starting h
  have how := stable_owned h
  refine Triple.bind (Q := fun answer p => Starting p ∧ answer ≠ some (.ok .started) ∧ (answer = none → p.runtime.mail.started = true))
    (Triple.atomic hst (fun _ => hst.and ((Rely.Stable.const _).and how.imp)) ?_) fun answer => ?_
  · intro w p hi hp
    split
    · rename_i hstart
      cases w.throws with
      | true => exact ⟨hi, hp, nofun, nofun⟩
      | false =>
        obtain ⟨hopen, howned⟩ := runtime_start_started hstart
        have hinv : ProductInv (p.onRuntime (·.start.2)) := by
          refine hi.onRuntime h (fun hn => ?_) (fun hs => ?_) fun hs => ?_
          · rw [hp.started] at hn
            cases hn
          · rw [hopen] at hs
            cases hs
          · rw [hp.stopped] at hs
            cases hs
        exact ⟨hinv, ⟨hp.started, hp.stopped, hp.taken, hp.thread⟩, nofun, fun _ => howned⟩
    · rename_i result hresult
      exact ⟨hi, hp, fun he => hresult (Except.ok.inj (Option.some.inj he)), nofun⟩
  · cases answer with
    | some answer => exact Triple.done (hst.and ((Rely.Stable.const _).and how.imp)) fun _ _ hp => ⟨hp.1, fun he => (hp.2.1 (he ▸ rfl)).elim⟩
    | none =>
      exact Triple.await (hst.and ((Rely.Stable.const _).and how.imp)) (fun _ => hst.and how.imp) fun _ _ hi hp _ =>
        ⟨hi, hp.1, fun _ => hp.2.2 rfl⟩

/-- Whatever becomes of a start, the product can be stopped after it; one that has started runs. -/
theorem start_ready :
    TripleE (productRely h) Ready start (fun result p => Ready p ∧ (result = .started → Running p)) fun _ => Ready := by
  have hr := stable_ready h
  have hst := stable_starting h
  have hrun := stable_running h
  have hentry : ∀ entry : Option RecoveryStartResult,
      (productRely h).Stable fun p => entry ≠ some .started ∧ (entry = none → Starting p) ∧ Ready p :=
    fun entry => (Rely.Stable.const _).and (hst.imp.and hr)
  refine TripleE.bind (fun _ => hr) (TripleE.lift hentry (Triple.await hr hentry ?_)) fun entry => ?_
  · intro w p hi hp _
    rcases coordinator_start_cases p.coordinator with ⟨hnone, hnew, hopen, hstarted, hstopped, hactive⟩ | ⟨hsome, hrefused, hsame⟩
    · refine ⟨hi.onCoordinator h (fun hn => ?_) hactive fun hs => ?_, ?_, fun _ => ?_, ?_⟩
      · exact hnew
      · rw [hstopped] at hs
        cases hs
      · rw [hnone]
        nofun
      · exact ⟨hstarted, hstopped, (hi.unstarted hnew).2.2, (hi.unstarted hnew).1⟩
      · exact Or.inl (hi.unstarted hnew).2.2
    · have hkeep : p.onCoordinator (·.start.2) = p := congrArg (fun s => p.onCoordinator fun _ => s) hsame
      refine ⟨?_, hrefused, fun hnone => (hsome hnone).elim, ?_⟩
      · show ProductInv (p.onCoordinator (·.start.2))
        rw [hkeep]
        exact hi
      · show Ready (p.onCoordinator (·.start.2))
        rw [hkeep]
        exact hp
  · cases entry with
    | some result => exact TripleE.pure (hentry _) fun _ _ hp => ⟨hp.2.2, fun he => (hp.1 (congrArg some he)).elim⟩
    | none =>
      refine TripleE.bind (fun _ => hr) (Q := fun result p => Starting p ∧ (result = .started → p.runtime.mail.started = true))
        (TripleE.of ?_) fun result => ?_
      · refine (startRuntime_starting h).conseq (fun _ _ hp => hp.2.1 rfl) fun answer p _ hp => ?_
        cases answer with
        | ok result => exact ⟨hp.1, fun he => hp.2 (he ▸ rfl)⟩
        | error e => exact hp.1.ready
      · have hbegun := hst.and ((stable_owned h).imp (c := result = .started))
        split
        · rename_i hresult
          refine TripleE.bind (fun _ => hr) (Q := fun created p => Ready p ∧ (created = true → Running p))
            (TripleE.lift (fun _ => hr.and hrun.imp) (Triple.atomic hbegun (fun _ => hr.and hrun.imp) ?_)) fun created => ?_
          · intro w p hi hp
            split
            · exact ⟨hi, hp.1.ready, nofun⟩
            · exact ⟨hi.createThread hp.1, Or.inl hp.1.taken, fun _ => ⟨hp.1.started, hp.1.stopped, nofun, hp.2 hresult⟩⟩
          · split
            · rename_i hcreated
              exact TripleE.pure (hr.and hrun.imp) fun _ _ hp => ⟨hp.1, fun _ => hp.2 hcreated⟩
            · exact TripleE.throw (hr.and hrun.imp) fun _ _ hp => hp.1
        · refine TripleE.bind (fun _ => hr) (Q := fun _ => Ready) (TripleE.lift (fun _ => hr) (Triple.await hbegun (fun _ => hr) ?_))
            fun _ => TripleE.pure hr fun _ _ hp => ⟨hp, nofun⟩
          exact fun w p hi hp _ => ⟨hi.onCoordinator h id rfl hi.ended, hp.1.ready⟩

/-! ## Stopping -/

/-- A stop is under way that has not taken the last attempt yet. -/
structure Stopping (p : Product L Y ω) : Prop where
  started : p.coordinator.started = true
  taken : p.taken = false

/-- The coordinator's thread is over, and all but one of its attempts have been stopped. -/
structure Left (attempt : Option Nat) (p : Product L Y ω) : Prop where
  started : p.coordinator.started = true
  joined : p.joined = true
  attempts : ∀ g, .attemptCreated g ∈ p.world.calls → .attemptStopped g ∈ p.world.calls ∨ g ∈ p.stopped ∨ attempt = some g

/-- A stop that is under way stays so. -/
theorem stable_stopping : (productRely h).Stable Stopping := by
  intro p q hi hp hs
  have hk := hs.kept h hi
  exact ⟨hk.started.trans hp.started, hk.taken.trans hp.taken⟩

/-- A stopped coordinator stays stopped. -/
theorem stable_stopped : (productRely h).Stable fun p => p.coordinator.stopped = true :=
  fun _ _ hi hp hs => (hs.kept h hi).stopped.trans hp

/-- A thread that is over stays over. -/
theorem stable_joined : (productRely h).Stable fun p => p.joined = true := fun _ _ hi hj hs => ((hs.kept h hi).joined hj).1

/-- What is left behind a coordinator's thread stays. -/
theorem stable_left (attempt : Option Nat) : (productRely h).Stable (Left attempt) := by
  intro p q hi hp hs
  have hk := hs.kept h hi
  obtain ⟨hj, hcalls⟩ := hk.joined hp.joined
  refine ⟨hk.started.trans hp.started, hj, ?_⟩
  rw [hcalls, hk.stops]
  exact hp.attempts

/-- A runtime's owner that is gone stays gone. -/
theorem stable_ownerGone : (productRely h).Stable fun p => OwnerGone p.runtime :=
  fun _ _ hi hg hs => hg.besides (hs.kept h hi).outside

omit h in
/-- Noting that an attempt was stopped keeps the invariant. -/
theorem ProductInv.stopNoted {p : Product L Y ω} (hi : ProductInv p) (g : Nat) : ProductInv { p with stopped := g :: p.stopped } where
  unstarted := hi.unstarted
  unborn := hi.unborn
  tended := hi.tended
  steady := hi.steady
  taken := hi.taken
  halted := hi.halted
  ended hs :=
    have he := hi.ended hs
    ⟨he.joined, fun g' hg' => (he.attempts g' hg').imp_right (List.mem_cons_of_mem g), he.owner⟩

/-- The attempt is stopped, if there is one; what is said of the product otherwise stays as it is. -/
theorem stopAttempt_triple {P : Product L Y ω → Prop} {Q : Product L Y ω → Prop} (hP : (productRely h).Stable P)
    (hQ : (productRely h).Stable Q) (attempt : Option Nat) (hnone : attempt = none → ∀ p, P p → Q p)
    (hsome : ∀ g, attempt = some g → ∀ p, P p → Q { p with stopped := g :: p.stopped }) :
    Triple (productRely h) P (stopAttempt c attempt) fun _ => Q := by
  cases attempt with
  | none => exact Triple.done hP fun p _ hp => hnone rfl p hp
  | some g =>
    refine Triple.bind (call_triple h hP (h.stopAttempt g)) fun _ => Triple.modify hP hQ fun p hi hp => ?_
    exact ⟨hi.stopNoted g, hsome g rfl p hp⟩

/-- Keeping the last event of an attempt changes nothing else. -/
theorem keepLastEvent_triple {P : Product L Y ω → Prop} (hP : (productRely h).Stable P)
    (hkept : ∀ p t, P p → P (p.onWorld (·.persistLastEvent t))) (attempt : Option Nat) :
    Triple (productRely h) P (keepLastEvent c attempt) fun _ => P := by
  cases attempt with
  | none => exact Triple.done hP fun _ _ hp => hp
  | some g =>
    refine Triple.bind (call_triple h hP (h.observeAttempt g)) fun transport => ?_
    cases transport with
    | error e => exact Triple.await hP (fun _ => hP) fun _ _ _ _ hg => by cases hg
    | ok t => exact Triple.await hP (fun _ => hP) fun _ p hi hp _ => ⟨hi.onCoordinator h id rfl hi.ended, hkept p t hp⟩

omit h in
/-- The owner is gone when it has left and been joined. -/
theorem ownerGone_finishStop {s : Impl L} (hs : s.ownerExited = true) : OwnerGone s.finishStop := by
  unfold Impl.finishStop
  dsimp only
  rw [Impl.answerSnapshotLocked_eq]
  exact Or.inr ⟨hs, rfl⟩

omit h in
/-- Asking for a stop brings no owner back. -/
theorem ownerGone_requestStop {s : Impl L} (hs : OwnerGone s) : OwnerGone s.requestStop := by
  unfold Impl.requestStop
  split
  · exact hs
  · split
    · rename_i hnew
      exact Or.inl (by simpa using hnew)
    · exact hs

omit h in
/-- A runtime whose stop does not wait has no owner. -/
theorem requestStop_cases (s : Impl L) (hs : s.mail.stopped = true → OwnerGone s) :
    (s.mail.started && !s.mail.stopped) = false ∧ OwnerGone s.requestStop ∨
      (s.mail.started && !s.mail.stopped) = true ∧ s.requestStop.mail.stopped = false := by
  unfold Impl.requestStop
  cases hstopped : s.mail.stopped with
  | true => exact Or.inl ⟨by simp, by simpa using hs hstopped⟩
  | false =>
    cases hstarted : s.mail.started with
    | false => exact Or.inl ⟨rfl, Or.inl (by simp [hstarted])⟩
    | true => exact Or.inr ⟨rfl, by simp [hstopped]⟩

/-- The runtime's owner is gone when its stop returns. -/
theorem stopRuntime_triple (attempt : Option Nat) :
    Triple (productRely h) (Left attempt) stopRuntime fun _ p => Left attempt p ∧ OwnerGone p.runtime := by
  have hl := stable_left h attempt
  have hg := stable_ownerGone h
  refine Triple.bind (Q := fun waits p => Left attempt p ∧ (waits = false → OwnerGone p.runtime)) ?_ fun waits => ?_
  · refine Triple.atomic hl (fun _ => hl.and hg.imp) fun w p hi hp => ?_
    have hrunning : p.coordinator.started = false → p.runtime.requestStop.mail.started = false := by
      intro hn
      rw [hp.started] at hn
      cases hn
    have hgone : p.coordinator.stopped = true → OwnerGone p.runtime.requestStop :=
      fun hs => ownerGone_requestStop (hi.ended hs).owner
    rcases requestStop_cases p.runtime hi.halted with ⟨hwaits, hafter⟩ | ⟨hwaits, hafter⟩
    · exact ⟨hi.onRuntime h hrunning (fun _ => hafter) hgone, ⟨hp.started, hp.joined, hp.attempts⟩, fun _ => hafter⟩
    · refine ⟨hi.onRuntime h hrunning (fun hs => ?_) hgone, ⟨hp.started, hp.joined, hp.attempts⟩, fun hno => ?_⟩
      · rw [hafter] at hs
        cases hs
      · rw [hwaits] at hno
        cases hno
  · cases waits with
    | false => exact Triple.done (hl.and hg.imp) fun _ _ hp => ⟨hp.1, hp.2 rfl⟩
    | true =>
      refine Triple.await (hl.and hg.imp) (fun _ => hl.and hg) fun w p hi hp hexited => ?_
      have hgone : OwnerGone p.runtime.finishStop := ownerGone_finishStop hexited
      refine ⟨hi.onRuntime h (fun hn => ?_) (fun _ => hgone) fun _ => hgone, ⟨hp.1.started, hp.1.joined, hp.1.attempts⟩, hgone⟩
      rw [hp.1.started] at hn
      cases hn

omit h in
/-- What is left when the last attempt has been taken. -/
theorem takeAttempt_left {p : Product L Y ω} (hi : ProductInv p) (hp : Stopping p) (hj : p.joined = true) :
    ProductInv p.takeAttempt.2 ∧ Left p.takeAttempt.1 p.takeAttempt.2 := by
  have hbut : ∀ g, .attemptCreated g ∈ p.world.calls → .attemptStopped g ∈ p.world.calls ∨ p.coordinator.activeAttempt = some g := by
    intro g hg
    cases ht : p.thread with
    | none =>
      rw [hi.unborn ht] at hg
      cases hg
    | some ph => exact (hi.tended hp.taken ph ht).inv g hg
  have hleft : Left p.takeAttempt.1 p.takeAttempt.2 := ⟨hp.started, hj, fun g hg => (hbut g hg).imp_right Or.inr⟩
  refine ⟨{ unstarted := fun hn => ?_, unborn := hi.unborn, tended := fun ht => (by cases ht), steady := hi.steady, taken := fun _ => hj,
            halted := hi.halted, ended := fun hs => ?_ }, hleft⟩
  · have hn : p.coordinator.started = false := hn
    rw [hp.started] at hn
    cases hn
  · have he := hi.ended hs
    exact ⟨hj, he.attempts, he.owner⟩

/-- The first section of a stop: it returns at once when there is nothing to stop. -/
theorem requestStop_entry {p : Product L Y ω} (hi : ProductInv p) (hp : Ready p) :
    ProductInv (p.onCoordinator (·.requestStop)) ∧
      if p.coordinator.stopped || !p.coordinator.started then (p.onCoordinator (·.requestStop)).coordinator.stopped = true
      else Stopping (p.onCoordinator (·.requestStop)) := by
  have hactive : p.coordinator.requestStop.activeAttempt = p.coordinator.activeAttempt := by
    unfold Coordinator.requestStop
    split
    · rfl
    · split <;> rfl
  have hstarted : p.coordinator.requestStop.started = p.coordinator.started := by
    unfold Coordinator.requestStop
    split
    · rfl
    · split <;> rfl
  have hended : p.coordinator.requestStop.stopped = true → Ended p := by
    intro hs
    cases hstopped : p.coordinator.stopped with
    | true => exact hi.ended hstopped
    | false =>
      cases hnew : p.coordinator.started with
      | true => simp [Coordinator.requestStop, hstopped, hnew] at hs
      | false =>
        obtain ⟨hthread, howner, -⟩ := hi.unstarted hnew
        refine ⟨by simp [Product.joined, hthread], fun g hg => ?_, Or.inl howner⟩
        rw [hi.unborn hthread] at hg
        cases hg
  refine ⟨hi.onCoordinator h (fun hn => hstarted.symm.trans hn) hactive hended, ?_⟩
  split
  · rename_i hreturns
    show p.coordinator.requestStop.stopped = true
    unfold Coordinator.requestStop
    cases hstopped : p.coordinator.stopped with
    | true => simp [hstopped]
    | false =>
      have hnew : p.coordinator.started = false := by simpa [hstopped] using hreturns
      simp [hnew]
  · rename_i hreturns
    obtain ⟨hopen, hrunning⟩ : p.coordinator.stopped = false ∧ p.coordinator.started = true := by simpa using hreturns
    exact ⟨hstarted.trans hrunning, hp.resolve_right (by simp [hopen])⟩

/-- A stop that returns has stopped the product. -/
theorem stop_stops : Triple (productRely h) Ready (stop c) fun _ p => p.coordinator.stopped = true := by
  have hr := stable_ready h
  have hs := stable_stopping h
  have hdone := stable_stopped h
  have hentry : ∀ returns : Bool, (productRely h).Stable fun p => if returns then p.coordinator.stopped = true else Stopping p := by
    intro returns
    cases returns with
    | true => exact hdone
    | false => exact hs
  refine Triple.bind (Triple.await hr hentry ?_) fun returns => ?_
  · exact fun _ p hi hp _ => requestStop_entry h hi hp
  · cases returns with
    | true => exact Triple.done hdone fun _ _ hp => hp
    | false =>
      refine Triple.bind (Q := fun _ => Stopping) (Triple.modify hs hs fun p hi hp => ?_) fun _ => ?_
      · exact ⟨hi.onCoordinator h id rfl hi.ended, hp.started, hp.taken⟩
      refine Triple.bind (Q := fun _ => Stopping) (Triple.read hs (fun _ => hs) fun _ _ hp => hp) fun attempt => ?_
      refine Triple.bind (stopAttempt_triple h hs hs attempt (fun _ _ hp => hp) fun g _ p hp => ⟨hp.started, hp.taken⟩) fun _ => ?_
      refine Triple.bind (Q := fun _ p => Stopping p ∧ p.joined = true) ?_ fun _ => ?_
      · exact Triple.await hs (fun _ => hs.and (stable_joined h)) fun _ p hi hp hj => ⟨hi, hp, hj⟩
      refine Triple.bind (Q := Left) (Triple.atomic (hs.and (stable_joined h)) (stable_left h) ?_) fun finalAttempt => ?_
      · exact fun _ p hi hp => takeAttempt_left hi hp.1 hp.2
      refine Triple.bind (Q := fun _ => Left none) ?_ fun _ => ?_
      · refine stopAttempt_triple h (stable_left h _) (stable_left h none) finalAttempt (fun he p hp => he ▸ hp) fun g he p hp => ?_
        refine ⟨hp.started, hp.joined, fun g' hg' => (hp.attempts g' hg').imp_right fun hrest => Or.inl ?_⟩
        rcases hrest with hstopped | hlast
        · exact List.mem_cons_of_mem g hstopped
        · rw [he] at hlast
          rw [Option.some.inj hlast]
          exact List.mem_cons_self
      refine Triple.bind (keepLastEvent_triple h (stable_left h none) (fun p t hp => ⟨hp.started, hp.joined, hp.attempts⟩) _) fun _ => ?_
      refine Triple.bind (stopRuntime_triple h none) fun _ => ?_
      refine Triple.await ((stable_left h none).and (stable_ownerGone h)) (fun _ => hdone) fun _ p hi hp _ => ?_
      refine ⟨hi.onCoordinator h id rfl fun _ => ⟨hp.1.joined, fun g hg => ?_, hp.2⟩, rfl⟩
      exact (hp.1.attempts g hg).imp_right fun hrest => hrest.resolve_right nofun

end MarketDataGateway.Production
