import MarketDataGateway.Recovery.Places

/-!
# What the coordinator is promised

A contract says what holds outside at each stage of an attempt, what the coordinator's calls make of it, and which stages follow from
which without a call. `loose` is the ending of an attempt that is given up, for a shutdown or after an exception. What a contract
promises of a failure it promises of every failure that is ever recorded.
-/

namespace MarketDataGateway.Recovery

open BinanceTransport MarketRuntime OrderBook Threads

variable {L : ProjectionLibrary} {X ω : Type}

/-- How an attempt comes to be quiesced. -/
inductive Ending where
  | over (plannedRotationDue : Bool)
  | loose
  deriving DecidableEq, Repr

/-- Where an attempt is, with what has been seen of it. -/
inductive Stage (L : ProjectionLibrary) where
  | head
  | created
  | started (result : TransportStartResult)
  | opening (transport : TransportObservation)
  | opened
  | waited (runtime : Option (RuntimeObservation L))
  | qualified (runtime : RuntimeObservation L)
  | observed (runtime : RuntimeObservation L) (transport : TransportObservation)
  | live
  | ending (ending : Ending)
  | stopped (ending : Ending)
  | quiet (ending : Ending) (transport : TransportObservation)
  | quiesced (ending : Ending) (transport : TransportObservation)
  | judged (plannedRotationDue : Bool) (transport : TransportObservation) (runtime : RuntimeObservation L)
  | reported (plannedRotationDue : Bool) (transport : TransportObservation)
  | final (plannedRotationDue : Bool) (transport : TransportObservation) (runtime : RuntimeObservation L)
  | closing
  | replacing (planned : Bool)
  | replaced (planned : Bool)

/-- The attempt has not been stopped for good. -/
def Stage.underWay : Stage L → Bool
  | .created | .started _ | .opening _ | .opened | .waited _ | .qualified _ | .observed _ _ | .live | .ending _ | .stopped _
  | .quiet _ _ => true
  | _ => false

/-- The attempt is over and what it has shown is being looked at. -/
def Stage.settled : Stage L → Bool
  | .quiesced _ _ | .judged _ _ _ | .reported _ _ | .final _ _ _ => true
  | _ => false

/-- The attempt's generation, the source generation that is open, whether it is quiesced, and when the attempt began if it has a
planned rotation. -/
structure Spot where
  generation : Nat
  opened : Option Nat := none
  quiesced : Bool := false
  since : Option Nat := none
  deriving DecidableEq, Repr

def Place.spot (p : Place) : Spot := ⟨p.generation, p.opened, p.quiesced, p.since⟩

@[simp] theorem Place.spot_generation (p : Place) : p.spot.generation = p.generation := rfl

/-- A call leaves the coordinator and its history as they are. -/
def OutsideOnly (s t : World L X) : Prop := t = { s with outside := t.outside }

/-- The failure is one that the runtime has not seen. -/
def unreported (transport : TransportObservation) (runtime : RuntimeObservation L) : Bool :=
  transport.terminalError.isSome && runtime.state = .live && runtime.faultReason.isNone

/-- What holds outside, in general, once the recovery is terminal, and at each stage; the flag says whether a shutdown has been
requested. The lifecycle `callbacks` may be known to return true; if the collaborators are `reliable` too the attempts can always be
observed, and if they are `calm` none of them throws or fails the coordinator. -/
structure Promise (L : ProjectionLibrary) (X : Type) (around : World L X → X → Prop) where
  callbacks : Prop
  reliable : Prop
  calm : Prop
  reliable_callbacks : reliable → callbacks
  calm_reliable : calm → reliable
  inv : Bool → X → Prop
  ended : X → Prop
  holds : Stage L → Spot → Bool → X → Prop
  inv_around : ∀ (s : World L X) x, around s x → inv s.coordinator.shutdownRequested s.outside →
    inv s.coordinator.shutdownRequested x
  inv_shutdown : ∀ x, inv false x → inv true x
  ended_inv : ∀ x, inv false x → ended x
  ended_around : ∀ (s : World L X) x, around s x → ended s.outside → ended x
  holds_around : ∀ σ p (s : World L X) x, around s x → inv s.coordinator.shutdownRequested s.outside →
    holds σ p s.coordinator.shutdownRequested s.outside → holds σ p s.coordinator.shutdownRequested x
  holds_shutdown : ∀ σ p x, inv false x → holds σ p false x → holds σ p true x

variable {around : World L X → X → Prop}

namespace Promise

/-- An assertion about what is outside. -/
def Outside (P : Bool → X → Prop) (s : World L X) : Prop := P s.coordinator.shutdownRequested s.outside

/-- What a client's section makes of the flag and of what is outside. -/
theorem outside_step {s t : World L X} (hs : ClientStep around s t) :
    (t.coordinator.shutdownRequested = s.coordinator.shutdownRequested ∧ (t.outside = s.outside ∨ around s t.outside)) ∨
      (s.coordinator.shutdownRequested = false ∧ t.coordinator.shutdownRequested = true ∧ t.outside = s.outside) := by
  have hout : t.outside = s.outside ∨
      (around s t.outside ∧ t.coordinator.shutdownRequested = s.coordinator.shutdownRequested) := by
    cases hs with
    | outside h => exact Or.inr ⟨h, rfl⟩
    | _ => exact Or.inl rfl
  rcases hout with ho | ⟨ha, hflag⟩
  · cases hb : s.coordinator.shutdownRequested with
    | true => exact Or.inl ⟨hs.shutdown.1 hb, Or.inl ho⟩
    | false =>
      cases ht : t.coordinator.shutdownRequested with
      | false => exact Or.inl ⟨rfl, Or.inl ho⟩
      | true => exact Or.inr ⟨rfl, rfl, ho⟩
  · exact Or.inl ⟨hflag, Or.inr ha⟩

variable (K : Promise L X around)

/-- What the calls rely on. -/
def rely : Rely (World L X) where
  env := ClientStep around
  inv := Outside K.inv
  inv_env := by
    intro s t hi hs
    rcases outside_step hs with ⟨hb, ho | ha⟩ | ⟨hf, ht, ho⟩
    · simp only [Outside, hb, ho]
      exact hi
    · simp only [Outside, hb]
      exact K.inv_around s _ ha hi
    · simp only [Outside, hf, ht, ho] at hi ⊢
      exact K.inv_shutdown _ hi

/-- What the contract promises of a stage survives the other threads. -/
theorem holds_step {s t : World L X} {σ : Stage L} {p : Spot} (hi : Outside K.inv s) (hh : Outside (K.holds σ p) s)
    (hs : ClientStep around s t) : Outside (K.holds σ p) t := by
  rcases outside_step hs with ⟨hb, ho | ha⟩ | ⟨hf, ht, ho⟩
  · simp only [Outside, hb, ho]
    exact hh
  · simp only [Outside, hb]
    exact K.holds_around σ p s _ ha hi hh
  · simp only [Outside, hf, ht, ho] at hi hh ⊢
    exact K.holds_shutdown σ p _ hi hh

/-- A call from `P` leads to `Q`. -/
def Leads {α : Type} (P : Bool → X → Prop) (call : Program (World L X) ω α) (Q : α → Bool → X → Prop) : Prop :=
  call.All OutsideOnly ∧ Triple K.rely (Outside P) call fun r => Outside (Q r)

/-- What is left when a call has thrown or failed. -/
def threw (P : Bool → X → Prop) (b : Bool) (x : X) : Prop := ¬K.calm ∧ P b x

end Promise

/-- What a call promises that returns `P` of its value, or throws. -/
def orElse {α : Type} (P : α → Bool → X → Prop) (Q : Bool → X → Prop) : Except String α → Bool → X → Prop
  | .ok a => P a
  | .error _ => Q

/-- What a lifecycle callback promises: success if it is reliable, `P` when it succeeds and `Q` when it does not. -/
def callback (reliable : Prop) (P Q : Bool → X → Prop) (result : Except String Bool) (b : Bool) (x : X) : Prop :=
  (reliable → result = .ok true) ∧ if result = .ok true then P b x else Q b x

/-- The promises of all collaborators, and how the stages follow from each other where the coordinator goes on by itself. -/
structure Contract (L : ProjectionLibrary) (X ω : Type) (around : World L X → X → Prop) (c : Collaborators L X ω) extends
    Promise L X around where
  /-- What is promised of every failure that is recorded. -/
  good : Nat → RecoveryDecision → Option NetworkError → Prop
  generations : ∀ g, (c.observeAttempt g).Returns fun r =>
    (∀ t, r = .ok t → t.connectionGeneration = g) ∧ (reliable → ∃ t, r = .ok t)
  -- the calls
  create : ∀ g, toPromise.Leads (holds .head ⟨g, none, false, none⟩) (c.createAttempt g)
    (orElse (fun made => if made then holds .created ⟨g, none, false, none⟩ else toPromise.threw fun _ _ => True)
      (toPromise.threw fun _ _ => True))
  observeCreated : ∀ p : Spot, toPromise.Leads (holds .created p) (c.observeAttempt p.generation)
    (orElse (fun _ => holds .created p) (toPromise.threw (holds .created p)))
  clockCreated : ∀ p : Spot, ∀ age, c.plannedRotation = some age → toPromise.Leads (holds .created p) c.monotonicClock
    (orElse (fun now b x => (calm → ∃ deadline, plannedRotationDeadline age now = .ok deadline) ∧
      holds .created { p with since := some now } b x) (toPromise.threw (holds .created p)))
  start : ∀ p : Spot, toPromise.Leads (holds .created p) (c.startAttempt p.generation)
    (orElse (fun result => holds (.started result) p) (toPromise.threw (holds (.ending .loose) p)))
  observeStarted : ∀ p : Spot, toPromise.Leads (holds (.started .started) p) (c.observeAttempt p.generation)
    (orElse (fun t => holds (.opening t) p) (toPromise.threw (holds (.ending .loose) p)))
  openGeneration : ∀ lifecycle, c.sourceGenerationLifecycle = some lifecycle → ∀ g since t, opens t g = true →
    toPromise.Leads (holds (.opening t) ⟨g, none, false, since⟩) (lifecycle.openGeneration g)
      (callback callbacks (holds .opened ⟨g, some g, false, since⟩) (holds (.ending .loose) ⟨g, none, false, since⟩))
  waitLive : ∀ p, toPromise.Leads (holds .opened p) c.waitUntilLiveOrRecoveryRequired
    (orElse (fun r => holds (.waited r) p) (toPromise.threw (holds (.ending .loose) p)))
  observeLive : ∀ p r, r.state = .live → toPromise.Leads (holds (.waited (some r)) p) c.observeRuntime
    (orElse (fun r => holds (.qualified r) p) (toPromise.threw (holds (.ending .loose) p)))
  observeQualifying : ∀ (p : Spot) r, toPromise.Leads (holds (.qualified r) p) (c.observeAttempt p.generation)
    (orElse (fun t => holds (.observed r t) p) (toPromise.threw (holds (.ending .loose) p)))
  clockLive : ∀ p : Spot, toPromise.Leads (holds .live p) c.monotonicClock
    (orElse (fun now b x => (calm → ∀ started, p.since = some started → started ≤ now) ∧ holds .live p b x)
      (toPromise.threw (holds .live p)))
  waitRotation : ∀ p duration, toPromise.Leads (holds .live p) (c.waitForRotation duration)
    (orElse (fun result => match result with
      | .stopped => holds (.ending .loose) p
      | .recoveryRequired => holds (.ending (.over false)) p
      | .deadlineReached => holds (.ending (.over true)) p) (toPromise.threw (holds (.ending .loose) p)))
  waitRecovery : ∀ p, toPromise.Leads (holds .live p) c.waitUntilRecoveryRequired
    (orElse (fun r => if r.isSome then holds (.ending (.over false)) p else holds (.ending .loose) p)
      (toPromise.threw (holds (.ending .loose) p)))
  stop : ∀ (p : Spot) e, toPromise.Leads (holds (.ending e) p) (c.stopAttempt p.generation) fun _ => holds (.stopped e) p
  observeStopped : ∀ (p : Spot) e, toPromise.Leads (holds (.stopped e) p) (c.observeAttempt p.generation)
    (orElse (fun t => holds (.quiet e t) p) (holds (.ending .loose) p))
  quiesce : ∀ lifecycle, c.sourceGenerationLifecycle = some lifecycle → ∀ g since e t,
    toPromise.Leads (holds (.quiet e t) ⟨g, some g, false, since⟩) (lifecycle.quiesce g)
      (callback callbacks (holds (.quiesced e t) ⟨g, some g, true, since⟩) (holds (.ending .loose) ⟨g, some g, false, since⟩))
  judge : ∀ p due t, toPromise.Leads (holds (.quiesced (.over due) t) p) c.observeRuntime
    (orElse (fun r => holds (.judged due t r) p) (toPromise.threw (holds .closing p)))
  report : ∀ p due t r, unreported t r = true → toPromise.Leads (holds (.judged due t r) p) c.submitTransportFailure
    (orElse (fun admitted => if admitted = .accepted then holds (.reported due t) p else toPromise.threw (holds .closing p))
      (toPromise.threw (holds .closing p)))
  rejudge : ∀ p due t, toPromise.Leads (holds (.reported due t) p) c.observeRuntime
    (orElse (fun r => holds (.final due t r) p) (toPromise.threw (holds .closing p)))
  close : ∀ lifecycle, c.sourceGenerationLifecycle = some lifecycle → ∀ g since outcome, outcome ≠ .replacement →
    toPromise.Leads (holds .closing ⟨g, some g, true, since⟩) (lifecycle.close g outcome)
      (callback callbacks (fun _ _ => True) (holds .closing ⟨g, some g, true, since⟩))
  replace : ∀ lifecycle, c.sourceGenerationLifecycle = some lifecycle → ∀ g since planned,
    toPromise.Leads (holds (.replacing planned) ⟨g, some g, true, since⟩) (lifecycle.close g .replacement)
      (callback callbacks (holds (.replaced planned) ⟨g, none, false, since⟩) (holds .closing ⟨g, some g, true, since⟩))
  resetPlanned : ∀ g since, toPromise.Leads (holds (.replaced true) ⟨g, none, false, since⟩) c.resetLiveForPlannedRebootstrap
    (orElse (fun result => if result = .reset then holds .head ⟨g + 1, none, false, none⟩ else toPromise.threw fun _ _ => True)
      (toPromise.threw fun _ _ => True))
  backoff : ∀ p delay, toPromise.Leads (holds (.replaced false) p) (c.waitBackoff delay)
    (orElse (fun _ => holds (.replaced false) p) (toPromise.threw fun _ _ => True))
  reset : ∀ g since, toPromise.Leads (holds (.replaced false) ⟨g, none, false, since⟩) c.resetForRebootstrap
    (orElse (fun result => if result = .reset then holds .head ⟨g + 1, none, false, none⟩ else toPromise.threw fun _ _ => True)
      (toPromise.threw fun _ _ => True))
  -- the coordinator by itself
  openable : c.sourceGenerationLifecycle.isSome = true → ∀ (p : Spot) t b x, calm → holds (.opening t) p b x →
    opens t p.generation = true
  unopened : c.sourceGenerationLifecycle = none → ∀ p t b x, holds (.opening t) p b x → holds .opened p b x
  markLive : ∀ (p : Spot) r t x, qualifies r t p.generation = true → holds (.observed r t) p false x → holds .live p false x
  unqualified : ∀ (p : Spot) r t b x, qualifies r t p.generation = false ∨ b = true → holds (.observed r t) p b x →
    holds (.ending (.over false)) p b x
  deadline : ∀ p b x, holds .live p b x → holds (.ending (.over true)) p b x
  unstarted : ∀ p result b x, result ≠ .started → holds (.started result) p b x → holds (.ending (.over false)) p b x
  unlive : ∀ p r b x, r.state ≠ .live → holds (.waited (some r)) p b x → holds (.ending (.over false)) p b x
  loosen : ∀ σ p b x, σ.underWay = true → holds σ p b x → holds (.ending .loose) p b x
  unquiesced : ∀ g since e t b x, holds (.quiet e t) ⟨g, none, false, since⟩ b x → holds (.quiesced e t) ⟨g, none, false, since⟩ b x
  reported : ∀ p due t r b x, unreported t r = false → holds (.judged due t r) p b x → holds (.final due t r) p b x
  conclude : ∀ σ p b x, σ.settled = true → holds σ p b x → holds .closing p b x
  rotate : ∀ p t r x, isCleanPlannedCut r t = true → holds (.final true t r) p false x → holds (.replacing true) p false x
  recover : ∀ p due t r b x, (due && isCleanPlannedCut r t) = false → holds (.final due t r) p b x →
    good p.generation (classifyFailure r t) t.terminalError ∧
      ((classifyFailure r t).recoverable = true → holds (.replacing false) p b x)
  unclosed : ∀ g since planned b x, holds (.replacing planned) ⟨g, none, false, since⟩ b x →
    holds (.replaced planned) ⟨g, none, false, since⟩ b x

end MarketDataGateway.Recovery
