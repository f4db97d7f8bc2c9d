import MarketDataGateway.Recovery.Quiescence

/-!
# From the creation of an attempt to its end

The triples of what the coordinator does while an attempt is under way: it creates and starts one, opens its source generation,
marks it live, and waits for its end.
-/

namespace MarketDataGateway.Recovery

open BinanceTransport MarketRuntime OrderBook Threads Promise

variable {L : ProjectionLibrary} {X ω : Type} {around : World L X → X → Prop} {c : Collaborators L X ω}

/-- Attempt `g` is under way, outside of the mutex. -/
structure Under (c : Collaborators L X ω) (g : Nat) (p : Place) : Prop where
  running : p.Running
  configured : Configured c p
  held : p.held = false
  made : p.made = g
  ended : p.ended = false

/-- The source generation of the attempt has not been opened. -/
structure Fresh (c : Collaborators L X ω) (g : Nat) (p : Place) : Prop extends Under c g p where
  opened : p.opened = none
  lastLt : p.last < p.made

/-- The generation under way is the attempt's own. -/
theorem Under.spot_generation {g : Nat} {p : Place} (h : Under c g p) : p.spot.generation = g := h.running.generation.trans h.made

/-- A fresh attempt has opened nothing. -/
theorem Fresh.spot {g : Nat} {p : Place} (h : Fresh c g p) : p.spot = ⟨g, none, false, p.since⟩ := by
  rw [Place.spot, h.running.generation, h.made, h.opened, h.running.quiesced]

namespace Contract

variable {K : Contract L X ω around c} {σ : Stage L} {p p' : Place} {g : Nat}

/-- Where another attempt may be made none is under way. -/
theorem Ready.quiet (h : Ready p) : p.Quiet :=
  ⟨by rw [h.phase]; simp, h.active, h.counted, Or.inl h.opened, by rw [h.quiesced, h.opened]; rfl,
    fun ho => by (rw [h.opened] at ho; cases ho), h.terminal, h.lastLe⟩

/-- The next attempt has the next generation. -/
theorem Ready.spot (h : Ready p) : p.spot = ⟨p.made + 1, none, false, none⟩ := by
  rw [Place.spot, Place.generation, if_pos h.phase, h.opened, h.quiesced, h.since]

/-- Where no source generation is open, an exception has nothing to close. -/
theorem stilled_of_closed {held : Bool} (hq : p.Quiet) (hheld : p.held = held) (ho : p.opened = none) {s : World L X}
    (ha : At K.callbacks p s) : K.Stilled held s :=
  ⟨p, hheld, (fun h => by rw [ho] at h; cases h), hq, ha, fun h => by rw [ho] at h; cases h⟩

/-- An attempt that is over is still. -/
theorem Done.stilled {held : Bool} {s : World L X} (h : K.Done held s) : K.Stilled held s := by
  obtain ⟨p, hheld, hq, ho, ha⟩ := h
  exact stilled_of_closed hq hheld ho ha

/-- An attempt that is over may be the last one. -/
theorem Done.finished {held : Bool} {s : World L X} (h : K.Done held s) : K.Finished held s := by
  obtain ⟨p, hheld, -, ho, ha⟩ := h
  exact ⟨p, hheld, ho, ha⟩

/-- An attempt that is under way when an exception comes. -/
theorem under_thrown (hu : Under c g p) (hσ : σ.underWay = true) {s : World L X}
    (h : At K.callbacks p s ∧ Outside (K.threw (K.holds σ p.spot)) s) : K.Thrown false s :=
  ending_thrown hu.held hu.configured hu.running h.2.1 ⟨h.1, K.loosen _ _ _ _ hσ h.2.2⟩

/-- The attempt's end, by itself or because its planned rotation is due. -/
def Ended (K : Contract L X ω around c) (g : Nat) (due : Bool) (s : World L X) : Prop :=
  ∃ p, (Under c g p ∧ (due = true → p.spent = false)) ∧ K.Here (.ending (.over due)) p s

/-- What holds when an attempt has come to its end, or has been given up. -/
def AfterEnd (K : Contract L X ω around c) (g : Nat) : Option Bool → World L X → Prop
  | none => K.Done false
  | some due => K.Ended g due

/-! ## Creation -/

/-- A new attempt is there, or the factory returned null. -/
def AfterCreate (K : Contract L X ω around c) (g : Nat) : Bool → World L X → Prop
  | true => fun s => ∃ p, Fresh c g p ∧ K.Here .created p s
  | false => fun s => ¬K.calm ∧ K.Done false s

/-- The factory makes the next attempt or none, or throws. -/
theorem createAttempt_triple (hr : Ready p) :
    TripleE K.full (K.Here .head p) (createAttempt c p.generation) (K.AfterCreate p.generation) fun _ => K.Thrown false := by
  have hR : ∀ _ : String, K.full.Stable (K.Thrown false) := fun _ => stable_thrown
  have hgeneration : p.generation = p.made + 1 := if_pos hr.phase
  have hdone : ∀ s, At K.callbacks p s → K.Done false s := fun s ha => ⟨p, hr.held, hr.quiet, hr.opened, ha⟩
  rw [hgeneration]
  let made : Place := { p with made := p.made + 1, phase := .active, active := some (p.made + 1), spent := true }
  have hmade : Fresh c (p.made + 1) made :=
    { running := ⟨by simp [made], rfl, Or.inl hr.opened, hr.quiesced, hr.terminal, Nat.le_succ_of_le hr.lastLe⟩
      configured := fun h => by rw [show made.opened = none from hr.opened] at h; cases h
      held := hr.held
      made := rfl
      ended := hr.ended
      opened := hr.opened
      lastLt := Nat.lt_succ_of_le hr.lastLe }
  have hl := K.create (p.made + 1)
  rw [← hr.spot] at hl
  refine TripleE.bind hR ((callE hl hr.terminal).conseq (fun _ _ h => h) (fun _ _ _ h => h) fun _ s _ h => ⟨h.2.1, Or.inr (hdone s h.1).stilled⟩) ?_
  intro created
  cases created with
  | false => exact TripleE.pure (stable_at.and fun _ _ _ h _ => h) fun s _ h => ⟨h.2.1, hdone s h.1⟩
  | true =>
    refine TripleE.bind hR (Q := fun _ => K.Here .created made) ?_ fun _ => ?_
    · refine TripleE.conseq (act_here (p := p) (q := made) (σ := .created) (τ := .created) ⟨fun _ => rfl, fun _ => rfl, ?_, ?_⟩
        (fun s hst => hst.attemptPublished hr.phase hr.spent hr.terminal) fun b x h => ?_) (fun _ _ h => ⟨h.1, ?_⟩)
        (fun _ _ _ h => h) fun _ _ _ h => h
      · exact fun s g d e => ⟨fun hd => (List.mem_cons.mp hd).resolve_left (by simp), List.mem_cons_of_mem _⟩
      · exact fun _ => ⟨rfl, rfl, rfl⟩
      · rw [hmade.spot, show made.since = none from hr.since, ← hr.spot]
        exact h
      · exact h.2
    · have hl := K.observeCreated made.spot
      rw [hmade.spot_generation] at hl
      refine TripleE.bind hR ((callE hl hmade.running.terminal).conseq (fun _ _ h => h) (fun _ _ _ h => h)
        fun _ s _ h => under_thrown hmade.toUnder rfl h)
        fun t => ?_
      refine TripleE.bind hR (Q := fun _ => K.Here .created { made with counted := true }) ?_ fun _ => ?_
      · exact act_here ⟨fun _ => rfl, fun _ => rfl, fun _ _ _ _ => Iff.rfl, fun _ => ⟨rfl, rfl, rfl⟩⟩ (fun s hst => hst.attemptCounted hr.terminal _ t)
          fun _ _ h => h
      refine TripleE.pure stable_here fun s _ h => ⟨_, ?_, h⟩
      exact { hmade with running := { hmade.running with } }

/-! ## The rotation's schedule -/

/-- The time of a schedule's begin is the one that the place tells. -/
def Timed (schedule : Option (Nat × Nat)) (p : Place) : Prop :=
  ∀ started deadline, schedule = some (started, deadline) → p.since = some started

/-- An attempt whose rotation has been scheduled, if it has one. -/
def AfterSchedule (K : Contract L X ω around c) (g : Nat) (schedule : Option (Nat × Nat)) (s : World L X) : Prop :=
  ∃ p, (Fresh c g p ∧ Timed schedule p) ∧ K.Here .created p s

/-- A scheduled attempt stays scheduled. -/
theorem stable_afterSchedule (schedule : Option (Nat × Nat)) : K.full.Stable (K.AfterSchedule g schedule) :=
  Rely.Stable.exists fun _ => (Rely.Stable.const _).and stable_here

/-- The clock has failed: the attempt is quiesced before the exception goes on. -/
theorem cleanup_triple (hu : Under c g p) (hσ : σ.underWay = true) :
    TripleE K.full (fun s => ¬K.calm ∧ K.Here σ p s)
      (do
        let _ ← quiesceAttempt c g
        pure () : Recovering L X ω Unit)
      (fun _ => K.Thrown false) fun _ => K.Thrown false := by
  refine Triple.pure_pre fun hcalm => ?_
  rw [← hu.made]
  refine TripleE.bind (fun _ => stable_thrown) ((quiesceAttempt_triple hu.running hu.held hu.configured (e := .loose)).conseq ?_
    (fun _ _ _ h => h) fun _ _ _ h => h.2) fun t => ?_
  · exact fun s _ h => ⟨h.1, K.loosen _ _ _ _ hσ h.2⟩
  · refine TripleE.pure (stable_here.and (Rely.Stable.const _)) fun s _ h => ⟨hcalm, Or.inr ?_⟩
    exact ⟨p.rest, hu.held, hu.configured, hu.running.rest, h.1.1, fun _ => K.conclude _ _ _ _ rfl h.1.2⟩

/-- The rotation is scheduled, or the clock fails and the attempt is quiesced. -/
theorem rotationSchedule_triple (hf : Fresh c g p) :
    TripleE K.full (K.Here .created p) (rotationSchedule c g) (K.AfterSchedule g) fun _ => K.Thrown false := by
  have hR : ∀ _ : String, K.full.Stable (K.Thrown false) := fun _ => stable_thrown
  unfold rotationSchedule
  split
  · exact TripleE.pure stable_here fun s _ h => ⟨p, ⟨hf, fun _ _ he => by cases he⟩, h⟩
  · rename_i age hage
    -- the place once the clock has been read
    let timed : Nat → Place := fun now => { p with since := some now }
    have htimed : ∀ now, Fresh c g (timed now) := fun now => { hf with running := { hf.running with } }
    let lost : World L X → Prop := fun s => ∃ q, Under c g q ∧ ¬K.calm ∧ K.Here .created q s
    have hlost : K.full.Stable lost :=
      Rely.Stable.exists fun _ => (Rely.Stable.const _).and <| (Rely.Stable.const _).and stable_here
    refine TripleE.onThrow stable_afterSchedule hR (S := fun _ => lost) ?_ fun e => ?_
    · refine TripleE.bind (fun _ => hlost) ((callE (K.clockCreated p.spot age hage) hf.running.terminal).conseq (fun _ _ h => h) (fun now s _ h => ?_)
        fun _ s _ h => ?_) (Q := fun now s => (K.calm → ∃ deadline, plannedRotationDeadline age now = .ok deadline) ∧
          K.Here .created (timed now) s) fun now => Triple.pure_pre fun hok => ?_
      · exact ⟨h.2.1, { h.1 with }, h.2.2⟩
      · exact ⟨p, hf.toUnder, h.2.1, h.1, h.2.2⟩
      · split
        · exact TripleE.pure stable_here fun s _ h => ⟨timed now, ⟨htimed now, fun _ _ he => by cases he; rfl⟩, h⟩
        · rename_i error herror
          refine TripleE.throw stable_here fun s _ h => ⟨timed now, (htimed now).toUnder, fun hcalm => ?_, h⟩
          obtain ⟨deadline, hdeadline⟩ := hok hcalm
          rw [hdeadline] at herror
          cases herror
    · exact Triple.exists_pre fun q => Triple.pure_pre fun hu => cleanup_triple hu rfl

/-! ## Opening -/

/-- The source generation of the attempt has been opened, where there are callbacks. -/
def Begun (K : Contract L X ω around c) (g : Nat) (since : Option Nat) (s : World L X) : Prop :=
  ∃ p, (Under c g p ∧ p.since = since) ∧ K.Here .opened p s

/-- The source generation is opened where there are callbacks. -/
theorem openSourceGeneration_triple (hf : Fresh c g p) {t : TransportObservation} :
    TripleE K.full (K.Here (.opening t) p) (openSourceGeneration c t g) (fun _ => K.Begun g p.since) fun _ => K.Thrown false := by
  have hR : ∀ _ : String, K.full.Stable (K.Thrown false) := fun _ => stable_thrown
  unfold openSourceGeneration
  split
  · rename_i hnone
    exact TripleE.pure stable_here fun s _ h => ⟨p, ⟨hf.toUnder, rfl⟩, h.1, K.unopened hnone _ _ _ _ h.2⟩
  · rename_i lifecycle hlifecycle
    refine TripleE.bind hR (read_triple (V := fun clear => clear = true) stable_here ?_) fun clear => ?_
    · rintro s _ ⟨ha, -⟩
      rw [ha.opened, ha.quiesced, hf.opened, hf.running.quiesced]
      rfl
    refine Triple.pure_pre fun hclear => ?_
    subst hclear
    split
    · rename_i hopens
      rw [Bool.true_and] at hopens
      have hspot : p.spot = ⟨g, none, false, p.since⟩ := hf.spot
      let opened : Place := { p with opened := some g, last := g }
      have hunder : Under c g opened :=
        { running :=
            { hf.running with
              own := Or.inr ⟨congrArg some hf.made.symm, hf.made.symm, hf.ended⟩
              lastLe := hf.made.ge }
          configured := fun _ => by rw [hlifecycle]; rfl
          held := hf.held
          made := hf.made
          ended := hf.ended }
      have hnew : opened.spot = ⟨g, some g, false, p.since⟩ := by
        rw [Place.spot, hunder.running.generation, hunder.made, hunder.running.quiesced]
      have hl := K.openGeneration lifecycle hlifecycle g p.since t hopens
      rw [← hspot, ← hnew] at hl
      refine TripleE.conseq (invoke_triple hl hf.running.terminal (stable_outside _) (stable_outside _) (by simp) (fun _ => ⟨rfl, rfl, rfl⟩) (fun s hst => ?_)
        fun s hunreliable hst => ?_) (fun _ _ h => h) (fun _ s _ h => ⟨opened, ⟨hunder, rfl⟩, h⟩) fun _ s _ h => ?_
      · have hinv := hst.invoked (.sourceOpened g true) (.opened g) (some g) p.quiesced p.ended g rfl hf.running.terminal
          ⟨by simp, by simp, by simp⟩ (by simp) ?_
        · have hs : World.onCoordinator (fun c => { c with sourceGenerationOpen := some g }) s =
              World.onCoordinator (fun c => { c with sourceGenerationOpen := some g, sourceGenerationQuiesced := p.quiesced }) s := by
            rw [← hst.2.quiesced]
            rfl
          rw [hs]
          exact hinv
        · intro w _ hw
          rw [Place.source, hf.ended, hf.opened] at hw
          rw [Place.source, hf.ended, hf.running.quiesced]
          exact .opening hw (hf.made ▸ hf.lastLt)
      · exact hst.refused (.opened g) rfl hf.running.terminal hunreliable (by simp)
      · exact under_thrown (σ := .ending .loose) hf.toUnder rfl ⟨h.2.1, not_calm (not_reliable h.1), h.2.2⟩
    · rename_i hclosed
      refine TripleE.throw stable_here fun s _ h => under_thrown hf.toUnder rfl ⟨h.1, fun hcalm => hclosed ?_, h.2⟩
      rw [Bool.true_and, ← hf.toUnder.spot_generation]
      exact K.openable (by rw [hlifecycle]; rfl) _ _ _ _ hcalm h.2

/-! ## Marking an attempt live -/

/-- What `try_mark_live` leaves behind. -/
def AfterMark (K : Contract L X ω around c) (p : Place) : Bool → World L X → Prop
  | true => K.Here .live { p with spent := false }
  | false => K.Here (.ending (.over false)) p

/-- What marking live leaves is stable. -/
theorem stable_afterMark (live : Bool) : K.full.Stable (K.AfterMark p live) := by
  cases live <;> exact stable_here

/-- A requested shutdown stays requested. -/
theorem stable_shutdown : K.full.Stable fun s => s.coordinator.shutdownRequested = true :=
  fun _ _ _ h hs => hs.shutdown.1 h

/-- An attempt is marked live unless a shutdown has been requested. -/
theorem tryMarkLive_triple (hu : Under c g p) {r : RuntimeObservation L} {t : TransportObservation} :
    TripleE K.full (K.Here (.observed r t) p) (tryMarkLive r t g : Recovering L X ω Bool) (K.AfterMark p) fun _ => K.Thrown false := by
  have hR : ∀ _ : String, K.full.Stable (K.Thrown false) := fun _ => stable_thrown
  have hgeneration : p.spot.generation = g := hu.spot_generation
  -- a stop token tells of a requested shutdown
  have hread : Triple K.full (K.Here (.observed r t) p) (Program.read (·.coordinator.stopToken) : Program (World L X) ω Bool)
      fun requested s => K.Here (.observed r t) p s ∧ (requested = true → s.coordinator.shutdownRequested = true) :=
    Triple.read stable_here (fun _ => stable_here.and stable_shutdown.imp) fun s hi h => ⟨h, hi.1.halted.token⟩
  have hstable : ∀ requested, K.full.Stable fun s =>
      K.Here (.observed r t) p s ∧ (requested = true → s.coordinator.shutdownRequested = true) :=
    fun _ => stable_here.and stable_shutdown.imp
  refine TripleE.bind hR (TripleE.lift hstable hread) fun requested => ?_
  have hrefused : ∀ s, K.Here (.observed r t) p s → qualifies r t g = false ∨ s.coordinator.shutdownRequested = true →
      K.Here (.ending (.over false)) p s := by
    intro s h hq
    refine ⟨h.1, K.unqualified _ r t _ _ ?_ h.2⟩
    rw [hgeneration]
    exact hq
  split
  · rename_i hnot
    rw [Bool.or_eq_true, Bool.not_eq_true'] at hnot
    exact TripleE.pure (hstable _) fun s _ h => hrefused s h.1 (hnot.imp id h.2)
  · rename_i hqualifies
    rw [Bool.or_eq_true, Bool.not_eq_true', not_or, Bool.not_eq_false, Bool.not_eq_true] at hqualifies
    refine TripleE.lift stable_afterMark (Triple.atomic (hstable _) stable_afterMark ?_)
    rintro _ s ⟨hi, ho, hg⟩ ⟨h, -⟩
    cases hl : (s.markLive t g).1 with
    | true =>
      obtain ⟨hclear, hflag, hout, hcalls, hended⟩ := markLive_open hl
      obtain ⟨hi', ha'⟩ := Stands.markedLive ⟨hi, h.1⟩ hu.running.terminal hl
      have hlive : K.holds .live p.spot false s.outside := by
        refine K.markLive _ r t _ ?_ ?_
        · rw [hgeneration]
          exact hqualifies.1
        · rw [← hclear]
          exact h.2
      refine ⟨⟨hi', ?_, hg.kept hout (fun g' d e => ?_) hended⟩, ha', ?_⟩
      · show K.inv _ _
        rw [hflag, hout]
        exact ho
      · rw [hcalls]
        exact ⟨fun hd => (List.mem_cons.mp hd).resolve_left (by simp), List.mem_cons_of_mem _⟩
      · show K.holds .live p.spot _ _
        rw [hflag, hout, hclear]
        exact hlive
    | false =>
      obtain ⟨hshutdown, hsame⟩ := markLive_refused hi h.1 hu.running.terminal hl
      rw [hsame]
      exact ⟨⟨hi, ho, hg⟩, hrefused s h (Or.inr hshutdown)⟩

/-! ## Waiting for the end -/

/-- How a wait for the rotation ends an attempt. -/
def waitEnding : TimedRecoveryWaitResult → Ending
  | .stopped => .loose
  | .recoveryRequired => .over false
  | .deadlineReached => .over true

/-- The wait for the rotation ends by one of its reasons, or the clock fails. -/
theorem waitForRotationOrRecovery_triple {started deadline : Nat} (hlast : p.terminal = false) (hsince : p.since = some started) :
    TripleE K.full (K.Here .live p) (waitForRotationOrRecovery c started deadline)
      (fun result => K.Here (.ending (waitEnding result)) p) fun _ s => ¬K.calm ∧ K.Here (.ending .loose) p s := by
  have hR : ∀ _ : String, K.full.Stable fun s => ¬K.calm ∧ K.Here (.ending .loose) p s :=
    fun _ => (Rely.Stable.const _).and stable_here
  have hloose : ∀ s, K.Here .live p s → K.Here (.ending .loose) p s := fun s h => ⟨h.1, K.loosen .live _ _ _ rfl h.2⟩
  refine TripleE.bind hR ((callE (K.clockLive p.spot) hlast).conseq (fun _ _ h => h) (fun now s _ h => ?_) fun _ s _ h => ?_)
    (Q := fun now s => (K.calm → ∀ t, p.since = some t → t ≤ now) ∧ K.Here .live p s) fun now => Triple.pure_pre fun hnow => ?_
  · exact ⟨h.2.1, h.1, h.2.2⟩
  · exact ⟨h.2.1, hloose s ⟨h.1, h.2.2⟩⟩
  split
  · rename_i hback
    refine TripleE.throw stable_here fun s _ h => ⟨fun hcalm => ?_, hloose s h⟩
    exact absurd (hnow hcalm started hsince) (by omega)
  · split
    · exact TripleE.pure stable_here fun s _ h => ⟨h.1, K.deadline _ _ _ h.2⟩
    · refine (callE (K.waitRotation p.spot _) hlast).conseq (fun _ _ h => h) (fun result s _ h => ?_) fun _ s _ h => ⟨h.2.1, h.1, h.2.2⟩
      cases result <;> exact h

/-- An attempt is given up for a shutdown. -/
theorem leave_afterEnd (hu : Under c g p) :
    TripleE K.full (K.Here (.ending .loose) p) (do leaveForShutdown c g; pure none : Recovering L X ω (Option Bool))
      (K.AfterEnd g) fun _ => K.Thrown false := by
  rw [← hu.made]
  exact TripleE.bind (fun _ => stable_thrown) (leave_triple hu.running hu.held hu.configured) fun _ =>
    TripleE.pure stable_done fun _ _ h => h

/-- A live attempt comes to its end or is given up. -/
theorem awaitLiveEnd_triple (hu : Under c g p) (hspent : p.spent = false) {schedule : Option (Nat × Nat)}
    (htimed : Timed schedule p) :
    TripleE K.full (K.Here .live p) (awaitLiveEnd c g schedule) (K.AfterEnd g) fun _ => K.Thrown false := by
  have hR : ∀ _ : String, K.full.Stable (K.Thrown false) := fun _ => stable_thrown
  have hended : ∀ due s, K.Here (.ending (.over due)) p s → K.Ended g due s := fun due s h => ⟨p, ⟨hu, fun _ => hspent⟩, h⟩
  cases schedule with
  | none =>
    refine TripleE.bind hR ((callE (K.waitRecovery p.spot) hu.running.terminal).conseq (fun _ _ h => h) (fun _ _ _ h => h)
      fun _ s _ h => under_thrown (σ := .ending .loose) hu rfl h) fun runtime => ?_
    cases runtime with
    | none => exact leave_afterEnd hu
    | some runtime => exact TripleE.pure stable_here fun s _ h => hended false s h
  | some schedule =>
    obtain ⟨started, deadline⟩ := schedule
    refine TripleE.bind hR (Q := fun result => K.Here (.ending (waitEnding result)) p) ?_ fun result => ?_
    · refine TripleE.onThrow (fun _ => stable_here) hR (waitForRotationOrRecovery_triple hu.running.terminal (htimed _ _ rfl)) fun e =>
        Triple.pure_pre fun hcalm => ?_
      rw [← hu.made]
      refine TripleE.bind hR ((quiesceAttempt_triple hu.running hu.held hu.configured).conseq (fun _ _ h => h) (fun _ _ _ h => h)
        fun _ _ _ h => h.2) fun t => ?_
      refine (close_triple (p := p.rest) hu.running.rest hu.held hu.configured (by simp)).conseq ?_ ?_ fun _ _ _ h =>
        ⟨hcalm, Or.inr h.2⟩
      · exact fun s _ h => ⟨h.1.1, K.conclude _ _ _ _ rfl h.1.2⟩
      · exact fun _ s _ h => ⟨hcalm, Or.inr h.stilled⟩
    · cases result with
      | stopped => exact leave_afterEnd hu
      | recoveryRequired => exact TripleE.pure stable_here fun s _ h => hended false s h
      | deadlineReached =>
        let after : Bool → World L X → Prop := fun won => K.Here (.ending (if won then .loose else .over true)) p
        refine TripleE.bind hR (Q := after) (TripleE.lift (fun _ => stable_here) (Triple.atomic stable_here
          (fun _ => stable_here) ?_)) fun won => ?_
        · rintro _ s hi h
          unfold World.beginRotation
          split
          · exact ⟨hi, h.1, K.loosen _ _ _ _ rfl h.2⟩
          · obtain ⟨hi', ha'⟩ := Stands.observed ⟨hi.1, h.1⟩ (f := fun o => { o with state := .rotating }) rfl rfl rfl rfl (by simp)
            exact ⟨⟨hi', hi.2.1, hi.2.2.kept rfl (fun _ _ _ => Iff.rfl) ⟨rfl, rfl, rfl⟩⟩, ha', h.2⟩
        · cases won with
          | true => exact leave_afterEnd hu
          | false => exact TripleE.pure stable_here fun s _ h => hended true s h

/-- A started attempt comes to its end or is given up. -/
theorem awaitEnd_triple (hf : Fresh c g p) {schedule : Option (Nat × Nat)} (htimed : Timed schedule p) :
    TripleE K.full (K.Here (.started .started) p) (awaitEnd c g schedule) (K.AfterEnd g) fun _ => K.Thrown false := by
  have hR : ∀ _ : String, K.full.Stable (K.Thrown false) := fun _ => stable_thrown
  have hl := K.observeStarted p.spot
  rw [hf.toUnder.spot_generation] at hl
  refine TripleE.bind hR ((callE hl hf.running.terminal).conseq (fun _ _ h => h) (fun _ _ _ h => h) fun _ s _ h => ?_) fun t => ?_
  · exact under_thrown (σ := .ending .loose) hf.toUnder rfl h
  refine TripleE.bind hR (openSourceGeneration_triple hf) fun _ => Triple.exists_pre fun q => Triple.pure_pre fun hq => ?_
  obtain ⟨hu, hsince⟩ := hq
  have hthrown : ∀ s, At K.callbacks q s ∧ Outside (K.threw (K.holds (.ending .loose) q.spot)) s → K.Thrown false s :=
    fun s h => under_thrown hu rfl h
  have hover : ∀ s, K.Here (.ending (.over false)) q s → K.Ended g false s := fun s h => ⟨q, ⟨hu, fun he => by cases he⟩, h⟩
  refine TripleE.bind hR ((callE (K.waitLive q.spot) hu.running.terminal).conseq (fun _ _ h => h) (fun _ _ _ h => h) fun _ s _ h => hthrown s h)
    fun runtime => ?_
  cases runtime with
  | none =>
    refine TripleE.conseq (leave_afterEnd hu) (fun s _ h => ?_) (fun _ _ _ h => h) fun _ _ _ h => h
    exact ⟨h.1, K.loosen (.waited none) _ _ _ rfl h.2⟩
  | some runtime =>
    show TripleE K.full _ (if runtime.state = .live then _ else _) _ _
    split
    · rename_i hlive
      refine TripleE.bind hR ((callE (K.observeLive q.spot runtime hlive) hu.running.terminal).conseq (fun _ _ h => h) (fun _ _ _ h => h)
        fun _ s _ h => hthrown s h) fun qualified => ?_
      have hl := K.observeQualifying q.spot qualified
      rw [hu.spot_generation] at hl
      refine TripleE.bind hR ((callE hl hu.running.terminal).conseq (fun _ _ h => h) (fun _ _ _ h => h)
        fun _ s _ h => hthrown s h) fun t => ?_
      refine TripleE.bind hR (tryMarkLive_triple hu) fun live => ?_
      cases live with
      | true =>
        have hunder : Under c g { q with spent := false } := { hu with running := { hu.running with } }
        exact awaitLiveEnd_triple hunder rfl fun started deadline he => hsince.trans (htimed started deadline he)
      | false => exact TripleE.pure stable_here fun s _ h => hover s h
    · rename_i hnot
      exact TripleE.pure (stable_at.and (stable_outside _)) fun s _ h => hover s ⟨h.1, K.unlive _ _ _ _ hnot h.2⟩

end Contract

end MarketDataGateway.Recovery
