import Mathlib.Data.List.Forall2
import MarketDataGateway.Events.Guarantees
import MarketDataGateway.Runtime.Counting
import MarketDataGateway.Status.Assembler

/-!
# A status tells the truth

What a collected market says was so at two moments of the run, one for the runtime and a later one for the recovery. The update
whose time it shows is then the last that the runtime had applied at the first moment.
-/

namespace MarketDataGateway.Status

open BinanceTransport Events MarketRuntime OrderBook Recovery Relation Threads

variable {L : ProjectionLibrary} {T : EventTypes} {X ω : Type} {entries : List (MarketServices L X ω)}
  {g₀ g g' : Gateway L T X ω} {i : Nat} {entry : MarketServices L X ω}

/-- Any number of sections of the gateway. -/
abbrev Moves (entries : List (MarketServices L X ω)) : Gateway L T X ω → Gateway L T X ω → Prop :=
  ReflTransGen (GatewayStep entries)

/-- Everything so far has come from `g₀`. -/
def since (entries : List (MarketServices L X ω)) (g₀ : Gateway L T X ω) : Rely (Gateway L T X ω) where
  env := GatewayStep entries
  inv := Moves entries g₀
  inv_env _ _ h he := h.tail he

/-- Something was so at a moment after `g₀` and before `g`. -/
def Was (entries : List (MarketServices L X ω)) (P : Gateway L T X ω → Prop) (g₀ g : Gateway L T X ω) : Prop :=
  ∃ r, Moves entries g₀ r ∧ Moves entries r g ∧ P r

variable {P : Gateway L T X ω → Prop}

/-- What holds now is what was the case. -/
theorem Was.now (hg : Moves entries g₀ g) (h : P g) : Was entries P g₀ g := ⟨g, hg, .refl, h⟩

/-- What was the case still was behind another step. -/
theorem Was.tail (h : Was entries P g₀ g) (he : GatewayStep entries g g') : Was entries P g₀ g' := by
  obtain ⟨r, hr, hg, hp⟩ := h
  exact ⟨r, hr, hg.tail he, hp⟩

/-- What was the case stays so. -/
theorem stable_was : (since entries g₀).Stable (Was entries P g₀) := fun _ _ _ h he => h.tail he

/-- What an observation has brought, if it has brought anything, was so. -/
def Brought {γ : Type} (entries : List (MarketServices L X ω)) (P : γ → Gateway L T X ω → Prop) (g₀ : Gateway L T X ω) (o : Option γ)
    (g : Gateway L T X ω) : Prop :=
  ∀ x, o = some x → Was entries (P x) g₀ g

/-- What was brought stays brought. -/
theorem stable_brought {γ : Type} {P : γ → Gateway L T X ω → Prop} (o : Option γ) :
    (since entries g₀).Stable (Brought entries P g₀ o) :=
  .all fun _ => .imp stable_was

/-- Nothing was brought. -/
theorem brought_none {γ : Type} {P : γ → Gateway L T X ω → Prop} : Brought entries P g₀ none g := by
  intro x hx
  cases hx

/-! ## The observations -/

/-- A caller's section is a step of the gateway. -/
theorem step_onRuntime {f : Impl L → Impl L} (he : entries[i]? = some entry)
    (h : MarketRuntime.ClientStep entry.setup (g.markets i).runtime.2 (f (g.markets i).runtime.2)) :
    GatewayStep entries g (g.onRuntime i f) :=
  .runtime he (.env h)

/-- The runtime's observation as it was at a moment. -/
def RuntimeSaid (i : Nat) (observation : RuntimeObservation L) (g : Gateway L T X ω) : Prop :=
  observation = (g.markets i).runtime.2.mail.observation

/-- The recovery's observation as it was at a moment, the time of its last event apart. -/
def RecoverySaid (i : Nat) (observation : RecoveryObservation L) (g : Gateway L T X ω) : Prop :=
  ∃ lastEventUtcNs, observation = { (g.markets i).recovery.2.coordinator.observation with lastEventUtcNs := lastEventUtcNs }

/-- What an observation brings was so at a moment, and `P` had been so before. -/
abbrev BroughtAfter {γ : Type} (entries : List (MarketServices L X ω)) (P : Gateway L T X ω → Prop)
    (said : γ → Gateway L T X ω → Prop) (g₀ : Gateway L T X ω) : Option γ → Gateway L T X ω → Prop :=
  Brought entries (fun x g => said x g ∧ Was entries P g₀ g) g₀

/-- What is read of a runtime it has said since. -/
theorem observeRuntimeUntil_triple (he : entries[i]? = some entry) :
    Triple (since entries g₀) (Was entries P g₀) (observeRuntimeUntil i : StatusProgram L T X ω _)
      (BroughtAfter entries P (RuntimeSaid i) g₀) := by
  have hreturned : ∀ entered : ObserveEntry L, (since entries g₀).Stable fun g => Was entries P g₀ g ∧
      ∀ x, entered = .returned x → Was entries (fun g => RuntimeSaid i x g ∧ Was entries P g₀ g) g₀ g :=
    fun _ => .and stable_was (.all fun _ => .imp stable_was)
  have henter : Triple (since entries g₀) (Was entries P g₀) (Program.atomic (enterObserve i) : StatusProgram L T X ω _)
      (fun entered g => Was entries P g₀ g ∧
        ∀ x, entered = .returned x → Was entries (fun g => RuntimeSaid i x g ∧ Was entries P g₀ g) g₀ g) := by
    refine .atomic stable_was hreturned fun w g hg hw => ?_
    have hobserve : GatewayStep entries g (g.onRuntime i (·.observe)) := step_onRuntime he .observe
    unfold enterObserve
    dsimp only
    split_ifs
    · exact ⟨hg, hw, fun _ h => by cases h⟩
    · exact ⟨hg.tail hobserve, hw.tail hobserve, fun _ h => by cases h⟩
    · refine ⟨hg.tail hobserve, hw.tail hobserve, fun x h => ?_⟩
      cases h
      exact .now (hg.tail hobserve) ⟨rfl, hw.tail hobserve⟩
  refine henter.bind fun entered => ?_
  cases entered with
  | stopRequested => exact .done (hreturned _) fun _ _ _ => brought_none
  | returned observation =>
    refine .done (hreturned _) fun g _ h x hx => ?_
    cases hx
    exact h.2 _ rfl
  | waits call =>
    refine .pre ?_ fun _ _ h => h.1
    refine .bind (.choose stable_was) fun gaveUp => ?_
    split
    · have hleave : Triple (since entries g₀) (Was entries P g₀)
          (Program.modify (Gateway.onRuntime i (leaveObserve call)) : StatusProgram L T X ω Unit) (fun _ => Was entries P g₀) := by
        refine .modify stable_was stable_was fun g hg hw => ?_
        have hforget : GatewayStep entries g (g.onRuntime i (leaveObserve call)) := step_onRuntime he (.observeTimesOut _)
        exact ⟨hg.tail hforget, hw.tail hforget⟩
      exact hleave.bind fun _ => .done stable_was fun _ _ _ => brought_none
    · refine .await stable_was stable_brought fun _ g hg hw hready => ?_
      obtain ⟨hmem, hcall⟩ := Bool.and_eq_true_iff.mp hready
      have hwaits : (g.markets i).runtime.2.callers.observers[(g.markets i).runtime.2.callers.observers.idxOf call]? = some call :=
        List.getElem?_idxOf (of_decide_eq_true hmem)
      have hreturns : GatewayStep entries g (observeReturns i call g).2 :=
        .runtime he (.env (MarketRuntime.ClientStep.observeReturns hwaits hcall))
      refine ⟨hg.tail hreturns, fun x h => ?_⟩
      cases h
      exact .now (hg.tail hreturns) ⟨rfl, hw.tail hreturns⟩

/-- What is read of a recovery it has said since. -/
theorem observeRecoveryUntil_triple :
    Triple (since entries g₀) (Was entries P g₀) (observeRecoveryUntil i : StatusProgram L T X ω _)
      (BroughtAfter entries P (RecoverySaid i) g₀) := by
  refine .bind (.choose stable_was) fun gaveUp => ?_
  split
  · exact .done stable_was fun _ _ _ => brought_none
  · have hcopied : ∀ copy : RecoveryObservation L, (since entries g₀).Stable
        (Was entries (fun g => copy = (g.markets i).recovery.2.coordinator.observation ∧ Was entries P g₀ g) g₀) :=
      fun _ => stable_was
    refine .bind (.await stable_was hcopied fun _ g hg h _ => ⟨hg, .now hg ⟨rfl, h⟩⟩) fun copy => ?_
    have hsaid : ∀ (g : Gateway L T X ω) (time : Option Nat), copy = (g.markets i).recovery.2.coordinator.observation →
        RecoverySaid i { copy with lastEventUtcNs := time } g := by
      rintro g time rfl
      exact ⟨time, rfl⟩
    refine .bind (.read (Q := fun _ => _) (hcopied copy) (fun _ => hcopied copy) fun _ _ h => h) fun attempt => ?_
    have hcopy : ∀ (time : Option Nat) (g : Gateway L T X ω), Moves entries g₀ g →
        Was entries (fun g => copy = (g.markets i).recovery.2.coordinator.observation ∧ Was entries P g₀ g) g₀ g →
        BroughtAfter entries P (RecoverySaid i) g₀ (some { copy with lastEventUtcNs := time }) g := by
      rintro time g - ⟨r, hr, hg, hc, hw⟩ x hx
      cases hx
      exact ⟨r, hr, hg, hsaid r time hc, hw⟩
    split
    · exact .done (hcopied copy) (hcopy copy.lastEventUtcNs)
    · refine .bind (.choose (hcopied copy)) fun transport => ?_
      split
      · exact .done (hcopied copy) (hcopy transport.lastEventUtcNs)
      · exact .done (hcopied copy) (hcopy copy.lastEventUtcNs)

/-- At one moment the runtime was as it is shown, and at a later one the recovery. -/
def Told (entries : List (MarketServices L X ω)) (g₀ : Gateway L T X ω) (p : MarketServices L X ω × Nat) (m : CollectedMarket L)
    (g : Gateway L T X ω) : Prop :=
  m.key = p.1.key ∧
    Was entries (fun v => RecoverySaid p.2 m.recovery v ∧ Was entries (RuntimeSaid p.2 m.runtime) g₀ v) g₀ g

/-- Whatever has been collected is told truly, and `P` had been so before. -/
def Collected (entries : List (MarketServices L X ω)) (P : Gateway L T X ω → Prop) (g₀ : Gateway L T X ω)
    (pairs : List (MarketServices L X ω × Nat)) (o : Option (List (CollectedMarket L))) (g : Gateway L T X ω) : Prop :=
  ∀ markets, o = some markets → Was entries P g₀ g ∧ List.Forall₂ (fun p m => Told entries g₀ p m g) pairs markets

/-- Nothing was collected. -/
theorem collected_none {pairs : List (MarketServices L X ω × Nat)} : Collected entries P g₀ pairs none g := by
  intro markets h
  cases h

/-- What was collected stays collected. -/
theorem stable_collected {pairs : List (MarketServices L X ω × Nat)} (o : Option (List (CollectedMarket L))) :
    (since entries g₀).Stable (Collected entries P g₀ pairs o) := by
  intro g g' _ h he markets hm
  obtain ⟨hw, htold⟩ := h markets hm
  exact ⟨hw.tail he, htold.imp fun _ _ ⟨hk, ht⟩ => ⟨hk, ht.tail he⟩⟩

/-- Market by market what is collected was said since. -/
theorem collectMarkets_triple (pairs : List (MarketServices L X ω × Nat)) (hp : ∀ p ∈ pairs, entries[p.2]? = some p.1) :
    Triple (since entries g₀) (Was entries P g₀) (collectMarkets pairs : StatusProgram L T X ω _)
      (Collected entries P g₀ pairs) := by
  induction pairs generalizing P with
  | nil =>
    refine .done stable_was fun g _ h markets hm => ?_
    cases hm
    exact ⟨h, .nil⟩
  | cons p rest ih =>
    obtain ⟨entry, i⟩ := p
    refine .bind (observeRuntimeUntil_triple (hp _ List.mem_cons_self)) fun runtime => ?_
    cases runtime with
    | none => exact .done (stable_brought none) fun _ _ _ => collected_none
    | some runtime =>
      refine .bind (.pre observeRecoveryUntil_triple fun g _ h => h runtime rfl) fun recovery => ?_
      cases recovery with
      | none => exact .done (stable_brought none) fun _ _ _ => collected_none
      | some recovery =>
        refine .bind (.pre (.read stable_was (fun _ => stable_was) fun _ _ h => h) fun g _ h => h recovery rfl)
          fun eventPublication => ?_
        refine .bind (ih (fun q hq => hp q (List.mem_cons_of_mem _ hq))) fun others => ?_
        refine .done (stable_collected others) fun g _ h markets hm => ?_
        obtain ⟨rest', rfl, rfl⟩ := Option.map_eq_some_iff.mp hm
        obtain ⟨hw, htold⟩ := h rest' rfl
        obtain ⟨v, hv, hvg, hrecovery, r, hr, hrv, hruntime, u, hu, hur, hpu⟩ := hw
        exact ⟨⟨u, hu, (hur.trans hrv).trans hvg, hpu⟩,
          .cons ⟨rfl, v, hv, hvg, hrecovery, r, hr, hrv, hruntime⟩ htold⟩

/-! ## The status -/

/-- What a status is made of. -/
def MadeOf (entries : List (MarketServices L X ω)) (g₀ : Gateway L T X ω) (result : Except StatusSnapshotError GatewayStatusSnapshot)
    (g : Gateway L T X ω) : Prop :=
  ∀ s, result = .ok s → ∃ (markets : List (CollectedMarket L)) (gatewayInstanceId : String) (observedAt : ClockSample) (baseline : Nat),
    s = snapshot gatewayInstanceId markets observedAt baseline ∧
      List.Forall₂ (fun p m => Told entries g₀ p m g) entries.zipIdx markets

/-- A status is made of what was said since its collection began. -/
theorem collect_triple (assembler : GatewayStatusAssembler L X ω) :
    Triple (since assembler.source.entries g₀) (fun _ => True) (collect assembler : StatusProgram L T X ω _)
      (MadeOf assembler.source.entries g₀) := by
  have herror : ∀ {error : StatusSnapshotError} {g : Gateway L T X ω}, MadeOf assembler.source.entries g₀ (.error error) g := by
    intro _ _ s hs
    cases hs
  have hpairs : ∀ p ∈ assembler.source.entries.zipIdx, assembler.source.entries[p.2]? = some p.1 :=
    fun p hp => List.mem_zipIdx_iff_getElem?.mp hp
  refine .bind (.pre (collectMarkets_triple (P := fun _ => True) _ hpairs) fun g hg _ => .now hg trivial) fun collected => ?_
  cases collected with
  | none => exact .done (stable_collected none) fun _ _ _ => herror
  | some markets =>
    have hstable := @stable_collected L T X ω assembler.source.entries g₀ (fun _ => True) assembler.source.entries.zipIdx (some markets)
    dsimp only
    split
    · exact .done hstable fun _ _ _ => herror
    · refine .bind (.read hstable (fun _ => hstable) fun _ _ h => h) fun baseline => ?_
      cases baseline with
      | none => exact .done hstable fun _ _ _ => herror
      | some baseline =>
        refine .bind (.choose hstable) fun sampled => ?_
        cases sampled with
        | none => exact .done hstable fun _ _ _ => herror
        | some observedAt =>
          dsimp only
          split
          · exact .done hstable fun _ _ _ => herror
          · refine .done hstable fun g _ h s hs => ?_
            cases hs
            exact ⟨markets, _, observedAt, baseline, rfl, (h markets rfl).2⟩

/-- Each row is told of its own market. -/
theorem Told.at {markets : List (CollectedMarket L)} (h : List.Forall₂ (fun p m => Told entries g₀ p m g) entries.zipIdx markets)
    {m : CollectedMarket L} (hm : markets[i]? = some m) : ∃ entry, entries[i]? = some entry ∧ Told entries g₀ (entry, i) m g := by
  obtain ⟨hi, rfl⟩ := List.getElem?_eq_some_iff.mp hm
  have hlt : i < entries.zipIdx.length := by rw [h.length_eq]; exact hi
  have hat := h.get hlt hi
  rw [List.length_zipIdx] at hlt
  refine ⟨entries[i], List.getElem?_eq_getElem hlt, ?_⟩
  simpa using hat

/-- The total is the sum over the rows. -/
theorem foldl_activeSubscriptions (markets : List (CollectedMarket L)) (total : Nat) :
    markets.foldl (fun total m => total + m.activeSubscriptions) total =
      total + ((markets.map (·.status)).map (·.activeSubscriptionCount)).sum := by
  induction markets generalizing total with
  | nil => rfl
  | cons m rest ih =>
    rw [List.foldl_cons, ih]
    simp only [List.map_cons, List.sum_cons, CollectedMarket.status]
    omega

/-- A time is only shown of a book that is live and synchronized, over the one connection of a live recovery. -/
theorem CollectedMarket.lastEventUtcNs_some {m : CollectedMarket L} {time : Nat} (h : m.lastEventUtcNs = some time) :
    m.runtime.state = .live ∧ m.runtime.projectionStatus = .synchronized ∧ m.recovery.state = .live ∧
      m.recovery.activeTransportCount = 1 ∧ ∃ depth, m.runtime.lastAppliedDepth = some depth ∧
        depth.connectionGeneration = some m.recovery.connectionGeneration ∧ depth.receiveTimeUtcNs = some time := by
  unfold CollectedMarket.lastEventUtcNs at h
  split at h
  · cases h
  · rename_i depth hdepth
    split at h
    · rename_i hc
      exact ⟨hc.1, hc.2.1, hc.2.2.1, hc.2.2.2.1, depth, hdepth, hc.2.2.2.2, h⟩
    · cases h

/-- The time that a market's status shows, with the gateway as it was when the runtime was observed, and when the recovery was. -/
structure Fresh (i time : Nat) (r v : Gateway L T X ω) : Prop where
  live : (r.markets i).runtime.2.mail.observation.state = .live
  synchronized : (r.markets i).runtime.2.mail.observation.projectionStatus = .synchronized
  recoveryLive : (v.markets i).recovery.2.coordinator.observation.state = .live
  oneTransport : (v.markets i).recovery.2.coordinator.observation.activeTransportCount = 1
  applied : ∃ history update, AppliedSoFar (r.markets i).runtime.1 (r.markets i).runtime.2 history ∧ lastApplied history = some update ∧
    L.receiveTimeUtcNs update.update = some time ∧
      update.provenance.connectionGeneration = some (v.markets i).recovery.2.coordinator.observation.connectionGeneration

/-- A runtime goes on in a run of its own. -/
theorem Moves.reachable (h : Moves entries g₀ g) (hi : entries[i]? = some entry)
    (h₀ : MarketRuntime.Reachable entry.setup (g₀.markets i).runtime.1 (g₀.markets i).runtime.2) :
    MarketRuntime.Reachable entry.setup (g.markets i).runtime.1 (g.markets i).runtime.2 := by
  induction h with
  | refl => exact h₀
  | tail _ he ih =>
    have hkept : ∀ {r : Gateway L T X ω} {j : Nat} {f : MarketState L T X ω → MarketState L T X ω},
        (f (r.markets j)).runtime = (r.markets j).runtime → ((r.onMarket j f).markets i).runtime = (r.markets i).runtime := by
      intro r j f hf
      by_cases hj : i = j
      · subst hj
        simp only [Gateway.onMarket, Function.update_self, hf]
      · simp only [Gateway.onMarket, Function.update_of_ne hj]
    cases he with
    | @runtime j entry' ph s hj hs =>
      by_cases hij : i = j
      · subst hij
        obtain rfl := Option.some.inj (hi.symm.trans hj)
        simp only [Gateway.onMarket, Function.update_self]
        exact ih.step hs
      · simpa only [Gateway.onMarket, Function.update_of_ne hij] using ih
    | recovery hj hs =>
      rw [hkept rfl]
      exact ih
    | eventPublication j publication =>
      rw [hkept rfl]
      exact ih
    | baseline => exact ih

/-- A status has a row for each market. A time in it is that of the last update which the market's runtime, then live and
synchronized, had applied since its last reset when it was observed, and the connection the update came over is the one the recovery
reported, live and with one transport, when it was observed after that. -/
theorem status_fresh {assembler : GatewayStatusAssembler L X ω} {s : GatewayStatusSnapshot}
    (h₀ : ∀ i entry, assembler.source.entries[i]? = some entry →
      MarketRuntime.Reachable entry.setup (g₀.markets i).runtime.1 (g₀.markets i).runtime.2)
    (h : Runs (GatewayStep assembler.source.entries) (collect assembler : StatusProgram L T X ω _) g₀ (.done (.ok s)) g) :
    s.markets.length = assembler.source.entries.length ∧
      (∀ i status, s.markets[i]? = some status → ∃ r v, Moves assembler.source.entries g₀ r ∧ Moves assembler.source.entries r v ∧
        Moves assembler.source.entries v g ∧ ∀ time, status.lastEventUtcNs = some time → Fresh i time r v) ∧
      s.totalActiveSubscriptions = (s.markets.map (·.activeSubscriptionCount)).sum := by
  have hsafe := h.safe (E := since assembler.source.entries g₀) (collect_triple assembler g₀ .refl trivial)
  obtain ⟨markets, id, observedAt, baseline, rfl, htold⟩ := hsafe.post s rfl
  refine ⟨?_, fun i status hs => ?_, ?_⟩
  · simpa [snapshot] using htold.length_eq.symm
  · obtain ⟨m, hm, rfl⟩ : ∃ m, markets[i]? = some m ∧ m.status = status := by
      simpa [snapshot] using hs
    obtain ⟨entry, hentry, -, v, -, hvg, ⟨lastEvent, hrecovery⟩, r, hr, hrv, hruntime⟩ := Told.at htold hm
    refine ⟨r, v, hr, hrv, hvg, fun time htime => ?_⟩
    obtain ⟨hlive, hsynchronized, hrecoveryLive, hone, depth, hdepth, hgeneration, htimed⟩ :=
      CollectedMarket.lastEventUtcNs_some htime
    obtain ⟨history, happlied, hlatest⟩ := (Moves.reachable hr hentry (h₀ i entry hentry)).lastAppliedDepth
    rw [hruntime] at hlive hsynchronized hdepth
    rw [hrecovery] at hrecoveryLive hone hgeneration
    obtain ⟨update, hupdate, rfl⟩ := Option.map_eq_some_iff.mp (hlatest.symm.trans hdepth)
    exact ⟨hlive, hsynchronized, hrecoveryLive, hone, history, update, happlied, hupdate, htimed, hgeneration⟩
  · simpa [snapshot] using foldl_activeSubscriptions markets 0

/-! A status of a gateway with one market, whose runtime has applied one update. -/

/-- Counting books whose updates were received at the time that is their number. -/
def timedLibrary : ProjectionLibrary := { countingLibrary with receiveTimeUtcNs := fun n => some n }

def timedSetup : Setup timedLibrary where
  limits := countingSetup.limits
  numericSpec := ()
  expectedIdentity := ()

/-- A baseline and the next update have come over the first connection. -/
def timedLive : Phase (Impl timedLibrary) (Outcome timedLibrary) × Impl timedLibrary :=
  let started : Impl timedLibrary := (Impl.initial timedSetup).start.2
  let submitted := ((started.submit timedSetup (.snapshot ⟨(5 : Nat), ⟨some 1⟩⟩) false).2.submit timedSetup
    (.depthUpdate ⟨(6 : Nat), ⟨some 1⟩⟩) false).2
  Phase.advances (ownerRound timedSetup) ⟨some ⟨1, 1⟩, false, ⟨.awaitingBaseline, 0⟩⟩ 32 (.running ownerPrologue, submitted)

theorem timedLive_reached : MarketRuntime.Reachable timedSetup timedLive.1 timedLive.2 := by
  refine Reachable.advances _ _ (p := (.running ownerPrologue, _)) ?_
  exact .step (.step (.step .initial (.env .start)) (.env (.submit _ false))) (.env (.submit _ false))

/-- A recovery that has nothing to do. -/
def idle : Collaborators timedLibrary Unit Unit where
  createAttempt _ := pure (.ok false)
  startAttempt _ := pure (.ok .failed)
  stopAttempt _ := pure ()
  observeAttempt _ := pure (.ok {})
  monotonicClock := pure (.ok 0)
  waitUntilLiveOrRecoveryRequired := pure (.ok none)
  waitUntilRecoveryRequired := pure (.ok none)
  waitForRotation _ := pure (.ok .stopped)
  observeRuntime := pure (.ok {})
  submitTransportFailure := pure (.ok .stopped)
  resetForRebootstrap := pure (.ok .stopped)
  resetLiveForPlannedRebootstrap := pure (.ok .stopped)
  waitBackoff _ := pure (.ok false)
  sourceGenerationLifecycle := none
  plannedRotation := none

def oneMarket : GatewayStatusAssembler timedLibrary Unit Unit where
  source := .product ⟨spotBtcusdtKey, timedSetup, idle, fun _ _ => False⟩
  gatewayInstanceId := "gateway"

/-- The recovery has its first connection. -/
def oneConnection : Gateway timedLibrary numberTypes Unit Unit where
  markets _ :=
    { runtime := timedLive
      recovery := (.head,
        { outside := (), coordinator := { observation := { state := .live, connectionGeneration := 1, activeTransportCount := 1 } } })
      eventPublication := {} }
  startBaselineMonotonicNs := some 0

/-- A status is collected while nothing else happens. -/
def shown : Program (Gateway timedLibrary numberTypes Unit Unit) StatusOutcome (Except StatusSnapshotError GatewayStatusSnapshot) ×
    Gateway timedLibrary numberTypes Unit Unit :=
  Program.advances { clock := some ⟨10, 10⟩ } 12 (collect oneMarket, oneConnection)

theorem shown_status : shown.1 =
    Program.done (.ok ⟨"gateway-status-snapshot.v1", "gateway", 10, 0, [⟨spotBtcusdtKey, .live, some 6, some 1, 0⟩], 0⟩) := rfl

/-- The status shows the time of the one update. -/
theorem status_fresh_shown : ∃ r v, Moves oneMarket.source.entries oneConnection r ∧ Moves oneMarket.source.entries r v ∧
    Moves oneMarket.source.entries v shown.2 ∧ Fresh 0 6 r v := by
  have hruns := @runs_advances _ _ _ (GatewayStep oneMarket.source.entries) { clock := some ⟨10, 10⟩ } 12 _ _ _ _
    (.refl (p := collect oneMarket) (s := oneConnection))
  have hreached : ∀ i entry, oneMarket.source.entries[i]? = some entry →
      MarketRuntime.Reachable entry.setup (oneConnection.markets i).runtime.1 (oneConnection.markets i).runtime.2 := by
    intro i entry hentry
    cases i with
    | zero =>
      cases hentry
      exact timedLive_reached
    | succ i => cases hentry
  obtain ⟨-, hrows, -⟩ := status_fresh hreached (shown_status ▸ hruns)
  obtain ⟨r, v, hr, hv, hg, hfresh⟩ := hrows 0 _ rfl
  exact ⟨r, v, hr, hv, hg, hfresh 6 rfl⟩

end MarketDataGateway.Status
