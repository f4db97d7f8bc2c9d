import MarketDataGateway.Recovery.Rounds

/-!
# Collaborators of any kind

What is assumed of the collaborators where nothing is assumed of what they do: they leave the coordinator's own state alone, and an
attempt reports the generation it was made with. An upkeep is what such collaborators and everybody else keep true outside.
-/

namespace MarketDataGateway.Recovery

open BinanceTransport MarketRuntime OrderBook Threads Promise

variable {L : ProjectionLibrary} {X ω : Type} {around : World L X → X → Prop}

/-- Every section of every collaborator moves the world as `G` allows. -/
structure Collaborators.Sections (G : World L X → World L X → Prop) (c : Collaborators L X ω) : Prop where
  createAttempt : ∀ g, (c.createAttempt g).All G
  startAttempt : ∀ g, (c.startAttempt g).All G
  stopAttempt : ∀ g, (c.stopAttempt g).All G
  observeAttempt : ∀ g, (c.observeAttempt g).All G
  monotonicClock : c.monotonicClock.All G
  waitUntilLiveOrRecoveryRequired : c.waitUntilLiveOrRecoveryRequired.All G
  waitUntilRecoveryRequired : c.waitUntilRecoveryRequired.All G
  waitForRotation : ∀ duration, (c.waitForRotation duration).All G
  observeRuntime : c.observeRuntime.All G
  submitTransportFailure : c.submitTransportFailure.All G
  resetForRebootstrap : c.resetForRebootstrap.All G
  resetLiveForPlannedRebootstrap : c.resetLiveForPlannedRebootstrap.All G
  waitBackoff : ∀ delay, (c.waitBackoff delay).All G
  lifecycle : ∀ l, c.sourceGenerationLifecycle = some l → ∀ g, (l.openGeneration g).All G ∧
    (l.quiesce g).All G ∧ ∀ outcome, (l.close g outcome).All G

/-- What the sections may do can be weakened. -/
theorem Collaborators.Sections.mono {c : Collaborators L X ω} {G G' : World L X → World L X → Prop} (h : c.Sections G)
    (hG : ∀ s t, G s t → G' s t) : c.Sections G' where
  createAttempt g := (h.createAttempt g).mono hG
  startAttempt g := (h.startAttempt g).mono hG
  stopAttempt g := (h.stopAttempt g).mono hG
  observeAttempt g := (h.observeAttempt g).mono hG
  monotonicClock := h.monotonicClock.mono hG
  waitUntilLiveOrRecoveryRequired := h.waitUntilLiveOrRecoveryRequired.mono hG
  waitUntilRecoveryRequired := h.waitUntilRecoveryRequired.mono hG
  waitForRotation duration := (h.waitForRotation duration).mono hG
  observeRuntime := h.observeRuntime.mono hG
  submitTransportFailure := h.submitTransportFailure.mono hG
  resetForRebootstrap := h.resetForRebootstrap.mono hG
  resetLiveForPlannedRebootstrap := h.resetLiveForPlannedRebootstrap.mono hG
  waitBackoff delay := (h.waitBackoff delay).mono hG
  lifecycle l hl g :=
    ⟨(h.lifecycle l hl g).1.mono hG, (h.lifecycle l hl g).2.1.mono hG, fun outcome => ((h.lifecycle l hl g).2.2 outcome).mono hG⟩

/-- Every section of every collaborator moves the world as `G` allows; attempts report their own generation. -/
structure Collaborators.Moves (G : World L X → World L X → Prop) (c : Collaborators L X ω) : Prop extends c.Sections G where
  generations : ∀ g, (c.observeAttempt g).Returns fun r => ∀ t, r = .ok t → t.connectionGeneration = g

/-- The collaborators change only what is outside of the coordinator; attempts report their own generation. -/
abbrev Collaborators.Honest (c : Collaborators L X ω) : Prop := c.Moves OutsideOnly

/-- Lifecycle callbacks always return true. -/
def Collaborators.CallbacksReturnTrue (c : Collaborators L X ω) : Prop :=
  ∀ l, c.sourceGenerationLifecycle = some l → ∀ g, (l.openGeneration g).Returns (· = .ok true) ∧
    (l.quiesce g).Returns (· = .ok true) ∧ ∀ outcome, (l.close g outcome).Returns (· = .ok true)

/-- Lifecycle callbacks always return true, and an attempt can always be observed. -/
structure Collaborators.Reliable (c : Collaborators L X ω) : Prop where
  lifecycle : c.CallbacksReturnTrue
  observed : ∀ g, (c.observeAttempt g).Returns fun r => ∃ t, r = .ok t

/-! ## A contract about no stage in particular -/

/-- What holds outside whatever the coordinator does, and what holds there once the recovery is terminal. -/
structure Upkeep (L : ProjectionLibrary) (X : Type) (around : World L X → X → Prop) where
  inv : Bool → X → Prop
  ended : X → Prop
  inv_around : ∀ (s : World L X) x, around s x → inv s.coordinator.shutdownRequested s.outside →
    inv s.coordinator.shutdownRequested x
  inv_shutdown : ∀ x, inv false x → inv true x
  ended_inv : ∀ x, inv false x → ended x
  ended_around : ∀ (s : World L X) x, around s x → ended s.outside → ended x

namespace Upkeep

/-- Nothing is said of what is outside. -/
def none (L : ProjectionLibrary) (around : World L X → X → Prop) : Upkeep L X around where
  inv _ _ := True
  ended _ := True
  inv_around _ _ _ _ := trivial
  inv_shutdown _ _ := trivial
  ended_inv _ _ := trivial
  ended_around _ _ _ _ := trivial

variable (U : Upkeep L X around)

/-- A section outside of the coordinator that keeps things up. -/
def Keeps (s t : World L X) : Prop := OutsideOnly s t ∧ (Outside U.inv s → Outside U.inv t)

/-- What goes on outside keeps a promise of nothing. -/
theorem none_keeps {s t : World L X} (h : OutsideOnly s t) : (none L around).Keeps s t := ⟨h, fun _ => trivial⟩

/-- Nothing is promised of the stages. -/
def promise (callbacks reliable : Prop) (h : reliable → callbacks) : Promise L X around where
  callbacks := callbacks
  reliable := reliable
  calm := False
  reliable_callbacks := h
  calm_reliable := False.elim
  inv := U.inv
  ended := U.ended
  holds _ _ _ _ := True
  inv_around := U.inv_around
  inv_shutdown := U.inv_shutdown
  ended_inv := U.ended_inv
  ended_around := U.ended_around
  holds_around _ _ _ _ _ _ _ := trivial
  holds_shutdown _ _ _ _ _ := trivial

variable {U} {callbacks reliable : Prop} {h : reliable → callbacks} {α : Type}

/-- A call whose sections keep the promise leads to whatever is always true. -/
theorem leads_of_all {q : Program (World L X) ω α} (hq : q.All U.Keeps) {Q : α → Bool → X → Prop}
    (hQ : ∀ r b x, Q r b x) : (U.promise callbacks reliable h).Leads (fun _ _ => True) q Q := by
  refine ⟨hq.mono fun _ _ h => h.1, (Triple.of_all (P := fun _ => True) hq (fun _ _ _ _ _ => trivial) ?_).conseq
    (fun _ _ _ => trivial) fun r s _ _ => hQ r _ _⟩
  exact fun s t hi _ h => ⟨h.2 hi, trivial⟩

/-- A call that may throw leads to one or the other. -/
theorem leads_orElse {q : Program (World L X) ω (Except String α)} (hq : q.All U.Keeps) {P : α → Bool → X → Prop}
    {Q : Bool → X → Prop} (hP : ∀ a b x, P a b x) (hQ : ∀ b x, Q b x) :
    (U.promise callbacks reliable h).Leads (fun _ _ => True) q (orElse P Q) := by
  refine leads_of_all hq fun r b x => ?_
  cases r with
  | ok a => exact hP a b x
  | error e => exact hQ b x

/-- A throwing call leaves what is always true. -/
theorem threw (b : Bool) (x : X) : (U.promise callbacks reliable h).threw (fun _ _ => True) b x := ⟨id, trivial⟩

/-- A callback that returns true keeps its promise. -/
theorem leads_callback {q : Program (World L X) ω (Except String Bool)} (hq : q.All U.Keeps)
    (hr : callbacks → q.Returns (· = .ok true)) :
    (U.promise callbacks reliable h).Leads (fun _ _ => True) q (callback callbacks (fun _ _ => True) fun _ _ => True) := by
  refine ⟨hq.mono fun _ _ h => h.1, ?_⟩
  have htrue : ∀ r : Except String Bool, (callbacks → r = .ok true) →
      ∀ b x, callback callbacks (fun _ _ => True) (fun _ (_ : X) => True) r b x := by
    intro r h b x
    refine ⟨h, ?_⟩
    split <;> trivial
  by_cases hc : callbacks
  · have hall : (U.promise callbacks reliable h).Leads (fun _ _ => True) q fun _ _ _ => True := leads_of_all hq fun _ _ _ => trivial
    exact (hall.2.returns (hr hc)).post fun r s _ hv => htrue r (fun _ => hv.2) _ _
  · exact (leads_of_all hq fun r b x => htrue r (fun hrel => absurd hrel hc) b x).2

/-- The contract of collaborators that keep things up. -/
def contract (U : Upkeep L X around) {c : Collaborators L X ω} (h : c.Moves U.Keeps) : Contract L X ω around c where
  toPromise := U.promise c.CallbacksReturnTrue c.Reliable Collaborators.Reliable.lifecycle
  good _ _ _ := True
  generations g := by
    by_cases hr : c.Reliable
    · exact ((h.generations g).and (hr.observed g)).mono fun r hv => ⟨hv.1, fun _ => hv.2⟩
    · exact (h.generations g).mono fun r hv => ⟨hv, fun hr' => absurd hr' hr⟩
  create g := leads_orElse (h.createAttempt g) (fun made b x => by cases made; exacts [threw b x, trivial]) threw
  observeCreated p := leads_orElse (h.observeAttempt _) (fun _ _ _ => trivial) threw
  clockCreated p _ _ := leads_orElse h.monotonicClock (fun _ _ _ => ⟨False.elim, trivial⟩) threw
  start p := leads_orElse (h.startAttempt _) (fun _ _ _ => trivial) threw
  observeStarted p := leads_orElse (h.observeAttempt _) (fun _ _ _ => trivial) threw
  openGeneration l hl g _ t _ := leads_callback (h.lifecycle l hl g).1 fun hr => (hr l hl g).1
  waitLive p := leads_orElse h.waitUntilLiveOrRecoveryRequired (fun _ _ _ => trivial) threw
  observeLive p r _ := leads_orElse h.observeRuntime (fun _ _ _ => trivial) threw
  observeQualifying p r := leads_orElse (h.observeAttempt _) (fun _ _ _ => trivial) threw
  clockLive p := leads_orElse h.monotonicClock (fun _ _ _ => ⟨False.elim, trivial⟩) threw
  waitRotation p d := leads_orElse (h.waitForRotation d) (fun r _ _ => by cases r <;> trivial) threw
  waitRecovery p := leads_orElse h.waitUntilRecoveryRequired (fun r _ _ => by cases r <;> trivial) threw
  stop p e := leads_of_all (h.stopAttempt _) fun _ _ _ => trivial
  observeStopped p e := leads_orElse (h.observeAttempt _) (fun _ _ _ => trivial) fun _ _ => trivial
  quiesce l hl g _ e t := leads_callback (h.lifecycle l hl g).2.1 fun hr => (hr l hl g).2.1
  judge p due t := leads_orElse h.observeRuntime (fun _ _ _ => trivial) threw
  report p due t r _ := leads_orElse h.submitTransportFailure (fun r b x => by split; exacts [trivial, threw b x]) threw
  rejudge p due t := leads_orElse h.observeRuntime (fun _ _ _ => trivial) threw
  close l hl g _ outcome _ := leads_callback ((h.lifecycle l hl g).2.2 outcome) fun hr => (hr l hl g).2.2 outcome
  replace l hl g _ planned := leads_callback ((h.lifecycle l hl g).2.2 _) fun hr => (hr l hl g).2.2 _
  resetPlanned g _ := leads_orElse h.resetLiveForPlannedRebootstrap (fun r b x => by split; exacts [trivial, threw b x])
    threw
  backoff p d := leads_orElse (h.waitBackoff d) (fun _ _ _ => trivial) threw
  reset g _ := leads_orElse h.resetForRebootstrap (fun r b x => by split; exacts [trivial, threw b x]) threw
  openable _ _ _ _ _ hcalm := hcalm.elim
  unopened _ _ _ _ _ _ := trivial
  markLive _ _ _ _ _ _ := trivial
  unqualified _ _ _ _ _ _ _ := trivial
  deadline _ _ _ _ := trivial
  unstarted _ _ _ _ _ _ := trivial
  unlive _ _ _ _ _ _ := trivial
  loosen _ _ _ _ _ _ := trivial
  unquiesced _ _ _ _ _ _ _ := trivial
  reported _ _ _ _ _ _ _ _ := trivial
  conclude _ _ _ _ _ _ := trivial
  rotate _ _ _ _ _ _ := trivial
  recover _ _ _ _ _ _ _ _ := ⟨trivial, fun _ => trivial⟩
  unclosed _ _ _ _ _ _ := trivial

end Upkeep

/-- Honest collaborators move only what is outside. -/
theorem Collaborators.Honest.moves {c : Collaborators L X ω} (h : c.Honest) {G : World L X → World L X → Prop}
    (hG : ∀ s t, OutsideOnly s t → G s t) : c.Moves G where
  toSections := h.toSections.mono hG
  generations := h.generations

/-- The contract of honest collaborators. -/
def honestContract (around : World L X → X → Prop) {c : Collaborators L X ω} (h : c.Honest) : Contract L X ω around c :=
  (Upkeep.none L around).contract (h.moves fun _ _ => Upkeep.none_keeps)

end MarketDataGateway.Recovery
