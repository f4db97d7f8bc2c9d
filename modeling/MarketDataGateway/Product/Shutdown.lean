import MarketDataGateway.Events.Guarantees
import MarketDataGateway.Product.Wiring
import MarketDataGateway.Recovery.Guarantees

/-!
# Shutting down a product

A shutdown reaches the publication before it reaches the coordinator. In between, a lifecycle callback may find the publication shut
down and return false. Such a refusal does not end the recovery if the coordinator has already been asked to stop; otherwise it may.
-/

namespace MarketDataGateway.ProductRuntime

open BinanceTransport Events Recovery Threads MarketRuntime Promise

variable {L : ProjectionLibrary} {T : EventTypes} {Y Ω : Type} {setup : EventPublicationSetup} {W : EventOutcome T → Prop}
  {profile : BinanceTransportProfile} {base : Collaborators L (Wired T Y) (WiringOutcome Ω)}

/-- Every callback that was refused for a shutdown was refused after the coordinator had been asked to stop. -/
def Orderly (x : Wired T Y) : Prop := ∀ stopRequested, .refused stopRequested ∈ x.log → stopRequested = true

/-- A callback has been refused for a shutdown. -/
def Refused (x : Wired T Y) : Prop := ∃ stopRequested, .refused stopRequested ∈ x.log

/-- As long as refusals come in order there are none before the coordinator has been asked to stop. -/
def OrderlyRefused (b : Bool) (x : Wired T Y) : Prop := Orderly x → Refused x → b = true

/-- No callback has been refused, or not in order. -/
def Unrefused (x : Wired T Y) : Prop := Orderly x → ¬Refused x

/-- The same callbacks have been refused. -/
def SameRefusals (x y : Wired T Y) : Prop := ∀ b, .refused b ∈ y.log ↔ .refused b ∈ x.log

variable {x y : Wired T Y} {b : Bool}

/-- With the same refusals they come in order or not. -/
theorem SameRefusals.orderly (h : SameRefusals x y) : Orderly y ↔ Orderly x := forall_congr' fun b => imp_congr_left (h b)

/-- With the same refusals there is one or none. -/
theorem SameRefusals.refused (h : SameRefusals x y) : Refused y ↔ Refused x := exists_congr h

/-- With the same refusals they come behind a stop or not. -/
theorem SameRefusals.orderlyRefused (h : SameRefusals x y) : OrderlyRefused b y ↔ OrderlyRefused b x :=
  imp_congr h.orderly (imp_congr_left h.refused)

/-- With the same refusals there is none in order or there is. -/
theorem SameRefusals.unrefused (h : SameRefusals x y) : Unrefused y ↔ Unrefused x := imp_congr h.orderly (not_congr h.refused)

/-- Doing nothing refuses nothing. -/
theorem SameRefusals.refl : SameRefusals x x := fun _ => Iff.rfl

/-- What is noted that is not a refusal. -/
theorem SameRefusals.noted (event : WiringEvent) (he : ∀ b, event ≠ .refused b) (hlog : y.log = event :: x.log) :
    SameRefusals x y := by
  intro b
  rw [hlog]
  exact ⟨fun h => (List.mem_cons.mp h).resolve_left fun h => he b h.symm, List.mem_cons_of_mem _⟩

/-- A shutdown of the publication refuses nothing by itself. -/
theorem sameRefusals_shutDown (x : Wired T Y) : SameRefusals x x.shutDown := by
  by_cases hs : x.publication.sourceState = .shutdown
  · have hlog : x.shutDown.log = x.log := if_pos hs
    intro b
    rw [hlog]
  · exact .noted .shutdown (by simp) (if_neg hs)

/-- Nobody else refuses a callback. -/
theorem sameRefusals_around {s : World L (Wired T Y)} (h : Around setup W s x) : SameRefusals s.outside x := by
  cases h with
  | frame ht hr hk hp => exact .noted (.frame _ _ _) (by simp) rfl
  | shutdown => exact sameRefusals_shutDown s.outside
  | _ => exact .refl

/-- Refusals that come in order, kept up. -/
def orderlyUpkeep (L : ProjectionLibrary) (Y : Type) (setup : EventPublicationSetup) (W : EventOutcome T → Prop) :
    Upkeep L (Wired T Y) (Around setup W) where
  inv := OrderlyRefused
  ended := Unrefused
  inv_around _ _ h hi := (sameRefusals_around h).orderlyRefused.mpr hi
  inv_shutdown _ _ _ _ := rfl
  ended_inv x hi ho hr := by cases hi ho hr
  ended_around _ _ h hu := (sameRefusals_around h).unrefused.mpr hu

/-! ## The collaborators -/

/-- A section outside of the coordinator that refuses nothing. -/
theorem keeps_of_same {s : World L (Wired T Y)} (h : SameRefusals s.outside x) :
    (orderlyUpkeep L Y setup W).Keeps s { s with outside := x } :=
  ⟨rfl, fun hi => h.orderlyRefused.mpr hi⟩

/-- A section that refuses nothing keeps the refusals in order. -/
theorem wired_keeps {α : Type} {f : WiringOutcome Ω → Wired T Y → α × Wired T Y} (h : ∀ w x, SameRefusals x (f w x).2) :
    (wired f : WiredProgram L T Y Ω α).All (orderlyUpkeep L Y setup W).Keeps :=
  .atomic fun w s => keeps_of_same (h w s.outside)

/-- A waiting section that refuses nothing keeps the refusals in order. -/
theorem awaitWired_keeps {α : Type} {guard : Wired T Y → Bool} {f : Wired T Y → α × Wired T Y}
    (h : ∀ x, SameRefusals x (f x).2) :
    (awaitWired guard f : WiredProgram L T Y Ω α).All (orderlyUpkeep L Y setup W).Keeps :=
  .await fun _ s _ => keeps_of_same (h s.outside)

/-- A refusal is noted with whether the coordinator has been asked to stop. -/
theorem answer_keeps {call : EventPublication T → Bool × EventPublication T} {event : List WiringEvent}
    (he : ∀ b, .refused b ∉ event) :
    (answer call event : WiredProgram L T Y Ω _).All (orderlyUpkeep L Y setup W).Keeps := by
  refine .atomic fun _ s => ⟨rfl, fun hi => ?_⟩
  have hsame : ∀ {x : Wired T Y} {past : List WiringEvent}, x.log = past ++ s.outside.log → (∀ b, .refused b ∉ past) →
      SameRefusals s.outside x := by
    intro x past hlog hpast b
    rw [hlog, List.mem_append]
    exact ⟨fun h => h.resolve_left (hpast b), Or.inr⟩
  by_cases hr : (call s.outside.publication).1 = true
  · exact (hsame (if_pos hr : ite _ (event ++ s.outside.log) _ = _) he).orderlyRefused.mpr hi
  · by_cases hs : s.outside.publication.sourceState = .shutdown
    · intro ho _
      refine ho s.coordinator.shutdownRequested ?_
      show _ ∈ ite _ _ _
      rw [if_neg hr, if_pos hs]
      exact List.mem_cons_self
    · exact (hsame ((if_neg hr).trans (if_neg hs) : ite _ _ _ = [] ++ s.outside.log) (by simp)).orderlyRefused.mpr hi

/-- What goes on elsewhere keeps the refusals in order. -/
theorem elsewhere_keeps {α : Type} {p : WiredProgram L T Y Ω α} (hp : p.All ElsewhereOnly) :
    p.All (orderlyUpkeep L Y setup W).Keeps := by
  refine hp.mono ?_
  rintro s t ⟨y, rfl⟩
  exact keeps_of_same .refl

/-- Starting a transport notes nothing. -/
theorem beginStart_log (generation : Nat) (throws threadCreated : Bool) (x : Wired T Y) :
    (x.beginStart generation throws threadCreated).2.log = x.log := by
  unfold Wired.beginStart
  split
  · rfl
  · split
    · rfl
    · split <;> rfl

/-- The quiesce callback refuses nothing behind a shutdown. -/
theorem quiesceAfterShutdown_same (generation : Nat) (x : Wired T Y) : SameRefusals x (x.quiesceAfterShutdown generation).2 := by
  unfold Wired.quiesceAfterShutdown
  split
  · exact .noted (.quiesced generation) (by simp) rfl
  · exact .refl

/-- All of the coordinator's collaborators keep the refusals in order. -/
theorem coordinatorOptions_keeps (hb : Bystanders base) :
    (coordinatorOptions profile base).Moves (orderlyUpkeep L Y setup W).Keeps where
  createAttempt g := by
    show (createAttempt profile g : WiredProgram L T Y Ω _).All _
    refine wired_keeps fun w x => ?_
    split <;> exact .refl
  startAttempt g := by
    refine .bind (wired_keeps fun w x b => by rw [beginStart_log]) fun answer => ?_
    cases answer with
    | some answer => trivial
    | none => exact awaitWired_keeps fun _ => .refl
  stopAttempt g := by
    refine .bind (wired_keeps fun _ _ => .refl) fun entry => ?_
    cases entry with
    | alreadyStopped => trivial
    | waits => exact awaitWired_keeps fun _ => .refl
    | wins started =>
      cases started with
      | true => exact .bind (wired_keeps fun _ _ => .refl) fun _ => .bind (awaitWired_keeps fun _ => .refl) fun _ =>
          awaitWired_keeps fun _ => .refl
      | false => exact awaitWired_keeps (f := fun x => ((), x.onTransport g (·.finishStop))) fun _ => .refl
  observeAttempt g := by
    show (observeAttempt g : WiredProgram L T Y Ω _).All _
    exact wired_keeps fun _ _ => .refl
  monotonicClock := elsewhere_keeps hb.monotonicClock
  waitUntilLiveOrRecoveryRequired := elsewhere_keeps hb.waitUntilLiveOrRecoveryRequired
  waitUntilRecoveryRequired := elsewhere_keeps hb.waitUntilRecoveryRequired
  waitForRotation duration := elsewhere_keeps (hb.waitForRotation duration)
  observeRuntime := elsewhere_keeps hb.observeRuntime
  submitTransportFailure := elsewhere_keeps hb.submitTransportFailure
  resetForRebootstrap := elsewhere_keeps hb.resetForRebootstrap
  resetLiveForPlannedRebootstrap := elsewhere_keeps hb.resetLiveForPlannedRebootstrap
  waitBackoff delay := elsewhere_keeps (hb.waitBackoff delay)
  lifecycle l hl g := by
    cases hl
    refine ⟨answer_keeps (by simp), .bind (wired_keeps fun _ x => quiesceAfterShutdown_same g x) fun done => ?_, fun outcome => ?_⟩
    · cases done with
      | true => trivial
      | false => exact answer_keeps (by simp)
    · cases outcome with
      | globalShutdown =>
        show (wired fun _ x => (.ok true, x.shutDown) : WiredProgram L T Y Ω (Except String Bool)).All _
        exact wired_keeps fun _ x => sameRefusals_shutDown x
      | permanentFailure => exact answer_keeps (by simp)
      | replacement =>
        refine .bind (.atomic fun _ s => ⟨rfl, id⟩) fun sampled => ?_
        cases sampled with
        | none => trivial
        | some publishedAt => exact answer_keeps (by simp)
  generations g := by
    intro w s t ht
    show t.connectionGeneration = g
    have ht' : s.outside.observe g w.throws = .ok t := ht
    unfold Wired.observe at ht'
    split at ht'
    · cases ht'
      rfl
    · cases ht'

/-! ## A shutdown in order -/

/-- In a run in which no lifecycle callback meets a publication that is shut down before the coordinator has been asked to stop, a
callback that meets one does not make the recovery terminal. -/
theorem shutdown_not_terminal (hb : Bystanders base) {y : Y} {ph : Phase (World L (Wired T Y)) (WiringOutcome Ω)}
    {s : World L (Wired T Y)}
    (h : Recovery.Reachable (Around setup W) (coordinatorOptions profile base) { elsewhere := y } ph s)
    (horderly : Orderly s.outside) (hrefused : Refused s.outside) : s.coordinator.observation.terminal = false := by
  have hinv : OrderlyRefused false ({ elsewhere := y } : Wired T Y) := fun _ ⟨b, hb⟩ => by cases hb
  obtain ⟨-, -, hgood⟩ := Contract.reachable (K := (orderlyUpkeep L Y setup W).contract (coordinatorOptions_keeps hb)) hinv trivial h
  cases ht : s.coordinator.observation.terminal with
  | false => rfl
  | true => exact absurd hrefused (hgood.ended (Or.inl ht) horderly)

/-! ## A shutdown between the callbacks -/

/-- A runtime that is never live, and waits that end at once. -/
def waiting : Collaborators countingLibrary (Wired numberTypes Unit) (WiringOutcome Unit) where
  createAttempt _ := pure (.ok true)
  startAttempt _ := pure (.ok .started)
  stopAttempt _ := pure ()
  observeAttempt _ := pure (.ok {})
  monotonicClock := pure (.ok 0)
  waitUntilLiveOrRecoveryRequired := pure (.ok none)
  waitUntilRecoveryRequired := pure (.ok none)
  waitForRotation _ := pure (.ok .stopped)
  observeRuntime := pure (.ok { state := .needsResync })
  submitTransportFailure := pure (.ok .accepted)
  resetForRebootstrap := pure (.ok .reset)
  resetLiveForPlannedRebootstrap := pure (.ok .invalidState)
  waitBackoff _ := pure (.ok true)
  sourceGenerationLifecycle := none
  plannedRotation := none

/-- The sample collaborators stay out of the source. -/
theorem waiting_bystanders : Bystanders waiting where
  monotonicClock := trivial
  waitUntilLiveOrRecoveryRequired := trivial
  waitUntilRecoveryRequired := trivial
  waitForRotation _ := trivial
  observeRuntime := trivial
  submitTransportFailure := trivial
  resetForRebootstrap := trivial
  resetLiveForPlannedRebootstrap := trivial
  waitBackoff _ := trivial

/-- A place of a run with a runtime that is never live. -/
abbrev SpotConfig :=
  Phase (World countingLibrary (Wired numberTypes Unit)) (WiringOutcome Unit) × World countingLibrary (Wired numberTypes Unit)

namespace SpotConfig

def options : Collaborators countingLibrary (Wired numberTypes Unit) (WiringOutcome Unit) :=
  coordinatorOptions .spotCombinedEvents waiting

def Reached (p : SpotConfig) : Prop :=
  Recovery.Reachable (Around numberSetup EventOutcome.Fine) options { elsewhere := () } p.1 p.2

/-- The coordinator's thread runs for `n` sections. -/
def run (n : Nat) (p : SpotConfig) : SpotConfig := Phase.advances (coordinatorRound options) { rest := () } n p

/-- Something happens outside. -/
def outside (f : Wired numberTypes Unit → Wired numberTypes Unit) (p : SpotConfig) : SpotConfig :=
  (p.1, { p.2 with outside := f p.2.outside })

/-- The network thread of the first attempt has connected. -/
def connect (p : SpotConfig) : SpotConfig :=
  p.outside fun x => x.onTransport 1 fun _ => (x.transports 1).elim {} Transport.websocketActive

def requestStop (p : SpotConfig) : SpotConfig := (p.1, { p.2 with coordinator := p.2.coordinator.requestStop })

variable {p : SpotConfig}

/-- Letting the coordinator's thread run leads to a place that is reached. -/
theorem Reached.run (h : p.Reached) (n : Nat) : (p.run n).Reached := Reachable.advances _ n h

/-- So does whatever happens around it. -/
theorem Reached.outside (h : p.Reached) {f : Wired numberTypes Unit → Wired numberTypes Unit}
    (hf : Around numberSetup EventOutcome.Fine p.2 (f p.2.outside)) : (p.outside f).Reached :=
  h.step (.env (.outside hf))

/-- So does the first connection of a network thread. -/
theorem Reached.connect (h : p.Reached) {t : Transport} (ht : p.2.outside.transports 1 = some t) (hr : t.thread = .running)
    (hi : t.task = .idle) (hfirst : t.reading = false) (hopen : t.done = false) : p.connect.Reached := by
  refine h.outside ?_
  rw [ht]
  exact .network ht (.websocketActive hr hi hfirst hopen) (by simp)

end SpotConfig

/-- The coordinator has been started. -/
def begun : SpotConfig :=
  (.head, { outside := { elsewhere := () }, coordinator := ((Coordinator.start {}).2).createThread })

theorem begun_reached : begun.Reached := by
  have h : SpotConfig.Reached (.head, { outside := { elsewhere := () } }) := .initial
  have h : SpotConfig.Reached (.head, { outside := { elsewhere := () }, coordinator := (Coordinator.start {}).2 }) :=
    h.step (.env (.start rfl))
  exact h.step (.env (.createThread rfl))

/-- The publication is shut down, the first transport connects, and the coordinator is asked to stop, just before the callback that
opens the generation. -/
def stoppedInTime : SpotConfig := ((((begun.run 10).connect.run 2).outside Wired.shutDown).requestStop).run 30

theorem stoppedInTime_reached : stoppedInTime.Reached := by
  have hconnected : (begun.run 10).connect.Reached :=
    (begun_reached.run 10).connect (t := ((begun.run 10).2.outside.transports 1).getD {}) rfl rfl rfl rfl rfl
  have hshut : (((begun.run 10).connect.run 2).outside Wired.shutDown).Reached := (hconnected.run 2).outside .shutdown
  have hstop : (((begun.run 10).connect.run 2).outside Wired.shutDown).requestStop.Reached := hshut.step (.env (.requestStop rfl))
  exact hstop.run 30

/-- The callback finds the publication shut down and is refused. -/
theorem stoppedInTime_log : stoppedInTime.2.outside.log = [.refused true, .shutdown] := by decide +kernel

/-- A refusal behind the stop does not end the recovery as failed. -/
theorem shutdown_not_terminal_in_time :
    Refused stoppedInTime.2.outside ∧ stoppedInTime.2.coordinator.observation.terminal = false := by
  have hrefused : Refused stoppedInTime.2.outside := ⟨true, by rw [stoppedInTime_log]; exact List.mem_cons_self⟩
  refine ⟨hrefused, shutdown_not_terminal waiting_bystanders stoppedInTime_reached (fun b hb => ?_) hrefused⟩
  rw [stoppedInTime_log] at hb
  simpa using hb

/-- The publication is shut down first and the coordinator runs on. -/
def shutDownFirst : SpotConfig := ((begun.outside Wired.shutDown).run 10).connect.run 40

theorem shutDownFirst_reached : shutDownFirst.Reached := by
  have hrun : ((begun.outside Wired.shutDown).run 10).Reached := (begun_reached.outside .shutdown).run 10
  have hconnected : ((begun.outside Wired.shutDown).run 10).connect.Reached :=
    hrun.connect (t := (((begun.outside Wired.shutDown).run 10).2.outside.transports 1).getD {}) rfl rfl rfl rfl rfl
  exact hconnected.run 40

/-- A callback that meets a publication that is shut down ends the recovery, although nobody has asked it to stop. -/
theorem shutdown_reported_as_failure : ∃ ph s,
    Recovery.Reachable (Around numberSetup EventOutcome.Fine) SpotConfig.options { elsewhere := () } ph s ∧
      s.outside.log = [.refused false, .shutdown] ∧ s.coordinator.shutdownRequested = false ∧
        s.coordinator.observation.terminal = true ∧ s.coordinator.observation.state = .exhausted ∧
          s.coordinator.observation.lastRecoveryCause = some .internalFailure :=
  ⟨_, _, shutDownFirst_reached, by decide +kernel, by decide +kernel, by decide +kernel, by decide +kernel, by decide +kernel⟩

end MarketDataGateway.ProductRuntime
