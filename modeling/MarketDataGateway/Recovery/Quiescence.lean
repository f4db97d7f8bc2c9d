import MarketDataGateway.Recovery.Calls

/-!
# Quiescing and closing

The triples of what the coordinator does around its lifecycle callbacks: it invokes one, quiesces an attempt, closes a source
generation.
-/

namespace MarketDataGateway.Recovery

open BinanceTransport MarketRuntime OrderBook Threads Promise

variable {L : ProjectionLibrary} {X ω : Type} {around : World L X → X → Prop} {c : Collaborators L X ω}

namespace Place

/-- The attempt's `stop` has returned. -/
def stop (p : Place) : Place := { p with phase := .stopped }

/-- The attempt has been quiesced. -/
def rest (p : Place) : Place := { p with phase := .stopped, active := none, counted := false, quiesced := p.opened.isSome }

/-- The source generation, if it is open, has been quiesced. -/
def hush (p : Place) : Place := { p with quiesced := p.opened.isSome }

/-- The source generation has been closed. -/
def shut (p : Place) (ended : Bool) : Place := { p with opened := none, quiesced := false, ended := ended }

variable {p : Place}

/-- A running attempt is the last one made. -/
theorem Running.generation (h : p.Running) : p.generation = p.made := if_neg h.phase

/-- An attempt stays under way between its stop and its release. -/
theorem Running.stop (h : p.Running) : p.stop.Running :=
  ⟨by simp [Place.stop], h.active, h.own, h.quiesced, h.terminal, h.lastLe⟩

/-- The stop does not change what the attempt says of its source generation. -/
theorem Running.spot_stop (h : p.Running) : p.stop.spot = p.spot := by
  simp only [Place.spot, Place.stop, Place.generation, if_neg h.phase]
  rfl

/-- A quiesced attempt is not under way. -/
theorem Running.rest (h : p.Running) : p.rest.Quiet :=
  ⟨by simp [Place.rest], rfl, rfl, h.own, rfl, fun _ => rfl, h.terminal, h.lastLe⟩

/-- What a running attempt says of its source generation. -/
theorem Running.spot_cases (h : p.Running) :
    (p.opened = none ∧ p.spot = ⟨p.made, none, false, p.since⟩ ∧ p.rest.spot = ⟨p.made, none, false, p.since⟩) ∨
      (p.opened = some p.made ∧ p.last = p.made ∧ p.ended = false ∧ p.spot = ⟨p.made, some p.made, false, p.since⟩ ∧
        p.rest.spot = ⟨p.made, some p.made, true, p.since⟩) := by
  have hspot : p.spot = ⟨p.made, p.opened, false, p.since⟩ := by rw [Place.spot, h.generation, h.quiesced]
  have hrest : p.rest.spot = ⟨p.made, p.opened, p.opened.isSome, p.since⟩ := rfl
  rcases h.own with ho | ⟨ho, hl, he⟩
  · rw [ho] at hspot hrest
    exact Or.inl ⟨ho, hspot, hrest⟩
  · rw [ho] at hspot hrest
    exact Or.inr ⟨ho, hl, he, hspot, hrest⟩

/-- A source generation that is open is the attempt's own and quiesced. -/
theorem Quiet.spot_opened (h : p.Quiet) (ho : p.opened.isSome = true) :
    p.opened = some p.made ∧ p.last = p.made ∧ p.ended = false ∧ p.spot = ⟨p.made, some p.made, true, p.since⟩ := by
  rcases h.own with hn | ⟨hs, hl, he⟩
  · rw [hn] at ho
    cases ho
  · have hphase := h.stopped ho
    refine ⟨hs, hl, he, ?_⟩
    rw [Place.spot, Place.generation, if_neg (by rw [hphase]; simp), h.quiesced, hs]
    rfl

/-- A quiet place stays quiet when its source generation is closed. -/
theorem Quiet.shut (h : p.Quiet) (ended : Bool) : (p.shut ended).Quiet :=
  ⟨h.phase, h.active, h.counted, Or.inl rfl, rfl, (fun ho => by cases ho), h.terminal, h.lastLe⟩

end Place

namespace Contract

variable {K : Contract L X ω around c} {σ : Stage L} {p p' : Place} {held : Bool}

/-! ## Callbacks -/

/-- The note of a call that only tells of a callback is one of the thread's own sections. -/
theorem own_note {call : RecoveryCall} (hc : ∀ g d e, call ≠ .failureRecorded g d e) :
    Own (World.note call : World L X → World L X) :=
  ⟨fun _ => rfl, fun _ => rfl, fun _ g d e => ⟨fun hd => (List.mem_cons.mp hd).resolve_left fun he => hc g d e he.symm,
    List.mem_cons_of_mem _⟩, fun _ => ⟨rfl, rfl, rfl⟩⟩

/-- A callback that succeeds leaves what it promises. -/
theorem callback_true {P Q : Bool → X → Prop} {s : World L X} {reliable : Prop} :
    Outside (callback reliable P Q (.ok true)) s ↔ Outside P s := by
  unfold Outside callback
  rw [if_pos rfl]
  exact ⟨fun h => h.2, fun h => ⟨fun _ => rfl, h⟩⟩

/-- A callback fails only where it is not reliable. -/
theorem callback_failed {P Q : Bool → X → Prop} {s : World L X} {reliable : Prop} {r : Except String Bool} (hr : r ≠ .ok true) :
    Outside (callback reliable P Q r) s ↔ ¬reliable ∧ Outside Q s := by
  unfold Outside callback
  rw [if_neg hr]
  exact ⟨fun h => ⟨fun hrel => hr (h.1 hrel), h.2⟩, fun h => ⟨fun hrel => absurd hrel h.1, h.2⟩⟩

/-- What a callback leaves is stable. -/
theorem stable_callback {P Q : Bool → X → Prop} (hP : K.full.Stable (Outside P)) (hQ : K.full.Stable (Outside Q))
    (r : Except String Bool) : K.full.Stable (Outside (callback K.callbacks P Q r)) := by
  by_cases hr : r = .ok true
  · subst hr
    intro s t hi h hs
    exact callback_true.mpr (hP s t hi (callback_true.mp h) hs)
  · intro s t hi h hs
    obtain ⟨hn, hq⟩ := (callback_failed hr).mp h
    exact (callback_failed hr).mpr ⟨hn, hQ s t hi hq hs⟩

/-- A callback that leads to `Y` where it succeeds and to `N` where it does not takes the thread to a new place when it succeeds. -/
theorem invoke_triple {P Y N : Bool → X → Prop} {callback' : Program (World L X) ω (Except String Bool)}
    {noted : Bool → RecoveryCall} {message : String} {success : Coordinator L → Coordinator L}
    (hl : K.toPromise.Leads P callback' (callback K.callbacks Y N)) (hlast : p.terminal = false) (hY : K.full.Stable (Outside Y)) (hN : K.full.Stable (Outside N))
    (hnoted : ∀ b g d e, noted b ≠ .failureRecorded g d e)
    (hsame : ∀ a : Coordinator L, (success a).shutdownRequested = a.shutdownRequested ∧ (success a).observation = a.observation ∧
      (success a).threadCreated = a.threadCreated)
    (hsuccess : ∀ s : World L X, Stands K.callbacks p s → Stands K.callbacks p' ((World.onCoordinator success s).note (noted true)))
    (hrefused : ∀ s : World L X, ¬K.callbacks → Stands K.callbacks p s → Stands K.callbacks p (s.note (noted false))) :
    TripleE K.full (fun s => At K.callbacks p s ∧ Outside P s) (invoke callback' noted message success)
      (fun _ s => At K.callbacks p' s ∧ Outside Y s) fun _ s => ¬K.callbacks ∧ At K.callbacks p s ∧ Outside N s := by
  have hR : ∀ _ : String, K.full.Stable fun s => ¬K.callbacks ∧ At K.callbacks p s ∧ Outside N s :=
    fun _ => (Rely.Stable.const _).and (stable_at.and hN)
  have hQ : K.full.Stable fun s => At K.callbacks p' s ∧ Outside Y s := stable_at.and hY
  have hsucceeds : Own (fun s : World L X => (World.onCoordinator success s).note (noted true)) :=
    ⟨fun _ => rfl, fun s => (hsame s.coordinator).1, fun s => (own_note (hnoted true)).recorded s, fun s => by
      obtain ⟨-, hobservation, hcreated⟩ := hsame s.coordinator
      exact ⟨congrArg (·.terminal) hobservation, congrArg (·.exhausted) hobservation, hcreated⟩⟩
  -- a callback that did not succeed is noted and thrown
  have hfails : ∀ error : String, TripleE K.full (fun s => ¬K.callbacks ∧ At K.callbacks p s ∧ Outside N s)
      (do act (·.note (noted false)); throw error : Recovering L X ω Unit) (fun _ s => At K.callbacks p' s ∧ Outside Y s)
      fun _ s => ¬K.callbacks ∧ At K.callbacks p s ∧ Outside N s := by
    intro error
    refine TripleE.bind hR (act_triple (own_note (hnoted false)) (hR error) (hR error) ?_) fun _ =>
      TripleE.throw (hR error) fun _ _ h => h
    rintro s hi ⟨hr, ha, ho⟩
    obtain ⟨hi', ha'⟩ := hrefused s hr ⟨hi, ha⟩
    exact ⟨hi', hr, ha', (own_note (hnoted false)).outsideIff.mpr ho⟩
  refine TripleE.bind (Q := fun r s => At K.callbacks p s ∧ Outside (callback K.callbacks Y N r) s) hR ?_ fun r => ?_
  · exact TripleE.lift (fun r => stable_at.and (stable_callback hY hN r)) (call hl hlast)
  · match r with
    | .ok true =>
      refine act_triple hsucceeds (stable_at.and (stable_callback hY hN _)) hQ ?_
      rintro s hi ⟨ha, ho⟩
      obtain ⟨hi', ha'⟩ := hsuccess s ⟨hi, ha⟩
      exact ⟨hi', ha', hsucceeds.outsideIff.mpr (callback_true.mp ho)⟩
    | .ok false =>
      refine (hfails message).conseq ?_ (fun _ _ _ h => h) fun _ _ _ h => h
      rintro s _ ⟨ha, ho⟩
      obtain ⟨hr, hn⟩ := (callback_failed (by simp)).mp ho
      exact ⟨hr, ha, hn⟩
    | .error error =>
      refine (hfails error).conseq ?_ (fun _ _ _ h => h) fun _ _ _ h => h
      rintro s _ ⟨ha, ho⟩
      obtain ⟨hr, hn⟩ := (callback_failed (by simp)).mp ho
      exact ⟨hr, ha, hn⟩

/-- An attempt that is to be given up is one of those that an exception may find. -/
theorem ending_thrown (hheld : p.held = held) (hconf : Configured c p) (hrun : p.Running) (hcalm : ¬K.calm) {s : World L X}
    (h : K.Here (.ending .loose) p s) : K.Thrown held s :=
  ⟨hcalm, Or.inl ⟨p, hheld, hconf, hrun, h⟩⟩

/-- Unreliable callbacks make unreliable collaborators. -/
theorem not_reliable (h : ¬K.callbacks) : ¬K.reliable := fun hr => h (K.reliable_callbacks hr)

/-- Unreliable collaborators are not calm. -/
theorem not_calm (h : ¬K.reliable) : ¬K.calm := fun hc => h (K.calm_reliable hc)

/-- The source generation of a stopped attempt is quiesced. -/
theorem quiesceSource_triple (hrun : p.Running) (hphase : p.phase = .stopped) (hconf : Configured c p) {e : Ending}
    {t : TransportObservation} :
    TripleE K.full (K.Here (.quiet e t) p) (quiesceSourceGeneration c p.made) (fun _ => K.Here (.quiesced e t) p.hush)
      fun _ s => ¬K.callbacks ∧ K.Here (.ending .loose) p s := by
  have hR : ∀ _ : String, K.full.Stable fun s => ¬K.callbacks ∧ K.Here (.ending .loose) p s :=
    fun _ => (Rely.Stable.const _).and stable_here
  refine TripleE.bind hR (read_triple (V := fun due => due = p.opened.isSome) stable_here ?_) fun due => ?_
  · rintro s _ ⟨ha, -⟩
    rw [ha.opened, ha.quiesced, hrun.quiesced]
    rcases hrun.own with ho | ⟨ho, -, -⟩ <;> simp [ho]
  refine Triple.pure_pre fun hdue => ?_
  subst hdue
  have hhush : p.hush.spot = ⟨p.made, p.opened, p.opened.isSome, p.since⟩ := by
    rw [Place.spot, show p.hush.generation = p.generation from rfl, hrun.generation]
    rfl
  rcases hrun.spot_cases with ⟨ho, hspot, -⟩ | ⟨ho, hlast, hended, hspot, -⟩
  · -- no source generation is open
    have hsame : p.hush = p := by
      have hquiesced : p.opened.isSome = p.quiesced := by rw [ho, hrun.quiesced]; rfl
      exact congrArg (fun b => { p with quiesced := b }) hquiesced
    rw [hsame]
    split
    · rename_i hdue _
      rw [ho] at hdue
      cases hdue
    · refine TripleE.pure stable_here fun s _ h => ⟨h.1, ?_⟩
      have hq := h.2
      rw [hspot] at hq ⊢
      exact K.unquiesced _ _ _ _ _ _ hq
  · obtain ⟨lifecycle, hlifecycle⟩ := Option.isSome_iff_exists.mp (hconf (by rw [ho]; rfl))
    have hdue : p.opened.isSome = true := by rw [ho]; rfl
    have hnew : p.hush.spot = ⟨p.made, some p.made, true, p.since⟩ := by rw [hhush, ho]; rfl
    rw [hdue, hlifecycle]
    have hl := K.quiesce lifecycle hlifecycle p.made p.since e t
    rw [← hspot, ← hnew] at hl
    have hword : ∀ s : World L X, Stands K.callbacks p s → .attemptStopped p.made ∈ s.calls := by
      intro s hst
      have hw := hst.2.attempts
      rw [hphase] at hw
      exact mem_of_stopped hw.stopped_mem
    refine invoke_triple hl hrun.terminal (stable_outside _) (stable_outside _) (by simp) (fun _ => ⟨rfl, rfl, rfl⟩) (fun s hst => ?_)
      fun s hunreliable hst => ?_
    · have hinv := hst.invoked (.sourceQuiesced p.made true) (.quiesced p.made) p.opened true p.ended p.last rfl hrun.terminal
        ⟨by simp, by simp, by simp⟩ ?_ ?_
      · have hp : { p with quiesced := true } = p.hush := by rw [Place.hush, hdue]
        rw [← hp]
        have hs : World.onCoordinator (fun c => { c with sourceGenerationQuiesced := true }) s =
            World.onCoordinator (fun c => { c with sourceGenerationOpen := p.opened, sourceGenerationQuiesced := true }) s := by
          rw [← hst.2.opened]
          rfl
        rw [hs]
        exact hinv
      · intro g r hg
        cases hg
        exact hword s hst
      · intro w _ hw
        rw [Place.source, hended, ho, hrun.quiesced, hlast] at hw
        rw [Place.source, hended, ho, hlast]
        exact .quiescing hw
    · refine hst.refused (.quiesced p.made) rfl hrun.terminal hunreliable ?_
      intro g r hg
      cases hg
      exact hword s hst

/-- An attempt that is under way is quiesced. -/
theorem quiesceAttempt_triple (hrun : p.Running) (hheld : p.held = held) (hconf : Configured c p) {e : Ending} :
    TripleE K.full (K.Here (.ending e) p) (quiesceAttempt c p.made)
      (fun t s => K.Here (.quiesced e t) p.rest s ∧ t.connectionGeneration = p.made)
      fun _ s => ¬K.reliable ∧ K.Thrown held s := by
  have hR : ∀ _ : String, K.full.Stable fun s => ¬K.reliable ∧ K.Thrown held s :=
    fun _ => (Rely.Stable.const _).and stable_thrown
  have hstop := hrun.stop
  have hthrown : ∀ s, ¬K.reliable → K.Here (.ending .loose) p.stop s → K.Thrown held s :=
    fun s hr h => ending_thrown (p := p.stop) hheld hconf hstop (not_calm hr) h
  refine TripleE.bind hR (Q := fun _ => K.Here (.stopped e) p) ?_ fun _ => ?_
  · have hl := K.stop p.spot e
    rw [Place.spot_generation, hrun.generation] at hl
    exact TripleE.lift (fun _ => stable_here) (call hl hrun.terminal)
  refine TripleE.bind hR (Q := fun _ => K.Here (.stopped e) p.stop) ?_ fun _ => ?_
  · refine act_here (own_note (by simp)) (fun s hst => hst.attemptStopped hrun.phase hrun.terminal) fun b x h => ?_
    rw [hrun.spot_stop]
    exact h
  refine TripleE.bind hR (Q := fun t s => K.Here (.quiet e t) p.stop s ∧ t.connectionGeneration = p.made) ?_ fun t => ?_
  · have hl := K.observeStopped p.stop.spot e
    rw [Place.spot_generation, hstop.generation] at hl
    exact (observe hl hstop.terminal).conseq (fun _ _ h => h) (fun _ _ _ h => h) fun _ s _ h => ⟨h.2, hthrown s h.2 h.1⟩
  refine TripleE.conseq (P := fun s => t.connectionGeneration = p.made ∧ K.Here (.quiet e t) p.stop s) ?_
    (fun _ _ h => ⟨h.2, h.1⟩) (fun _ _ _ h => h) fun _ _ _ h => h
  refine Triple.pure_pre fun hgen => ?_
  refine TripleE.bind hR (Q := fun _ => K.Here (.quiet e t) p.stop) ?_ fun _ => ?_
  · exact act_here ⟨fun _ => rfl, fun _ => rfl, fun _ _ _ _ => Iff.rfl, fun _ => ⟨rfl, rfl, rfl⟩⟩ (fun s hst => hst.observed rfl rfl rfl rfl id) fun _ _ h => h
  refine TripleE.bind hR (Q := fun _ => K.Here (.quiesced e t) p.stop.hush) ?_ fun _ => ?_
  · rw [hgen]
    exact (quiesceSource_triple hstop rfl hconf).conseq (fun _ _ h => h) (fun _ _ _ h => h) fun _ s _ h => ⟨not_reliable h.1, hthrown s (not_reliable h.1) h.2⟩
  refine TripleE.bind hR (Q := fun _ => K.Here (.quiesced e t) { p.stop.hush with active := none }) ?_ fun _ => ?_
  · exact act_here ⟨fun _ => rfl, fun _ => rfl, fun _ _ _ _ => Iff.rfl, fun _ => ⟨rfl, rfl, rfl⟩⟩ (fun s hst => hst.attemptReleased hrun.active) fun _ _ h => h
  refine TripleE.bind hR (Q := fun _ => K.Here (.quiesced e t) p.rest) ?_ fun _ => ?_
  · exact act_here ⟨fun _ => rfl, fun _ => rfl, fun _ _ _ _ => Iff.rfl, fun _ => ⟨rfl, rfl, rfl⟩⟩ (fun s hst => hst.attemptUncounted t) fun _ _ h => h
  exact TripleE.pure stable_here fun _ _ h => ⟨h, hgen⟩

/-! ## Closing -/

/-- A quiesced source generation is closed, for good or for a replacement. -/
theorem closed_stands (hq : p.Quiet) (ho : p.opened.isSome = true) (outcome : SourceGenerationCloseOutcome) {s : World L X}
    (hst : Stands K.callbacks p s) :
    Stands K.callbacks (p.shut (outcome ≠ .replacement))
      ((World.onCoordinator (fun c => { c with sourceGenerationOpen := none, sourceGenerationQuiesced := false }) s).note
        (.sourceClosed p.made outcome true)) := by
  obtain ⟨hopened, hlast, hended, -⟩ := hq.spot_opened ho
  refine hst.invoked (.sourceClosed p.made outcome true) (.closed p.made outcome) none false (outcome ≠ .replacement) p.last rfl
    hq.terminal ⟨by simp, by simp, by simp⟩ (by simp) ?_
  intro w _ hw
  rw [Place.source, hended, hopened, hq.quiesced, hopened, hlast] at hw
  rw [Place.source, hlast]
  by_cases hr : outcome = .replacement
  · subst hr
    exact .replacing hw
  · simp only [ne_eq, hr, not_false_eq_true, decide_true, if_true]
    exact .finishing hw hr

/-- The callback that closes the source generation of an attempt that has been quiesced. -/
theorem shut_triple (hq : p.Quiet) (ho : p.opened.isSome = true) (outcome : SourceGenerationCloseOutcome) {P Y N : Bool → X → Prop}
    {callback' : Program (World L X) ω (Except String Bool)} {message : String}
    (hl : K.toPromise.Leads P callback' (callback K.callbacks Y N)) (hY : K.full.Stable (Outside Y))
    (hN : K.full.Stable (Outside N)) :
    TripleE K.full (fun s => At K.callbacks p s ∧ Outside P s)
      (invoke callback' (.sourceClosed p.made outcome) message
        fun c => { c with sourceGenerationOpen := none, sourceGenerationQuiesced := false })
      (fun _ s => At K.callbacks (p.shut (outcome ≠ .replacement)) s ∧ Outside Y s)
      fun _ s => ¬K.callbacks ∧ At K.callbacks p s ∧ Outside N s :=
  invoke_triple hl hq.terminal hY hN (by simp) (fun _ => ⟨rfl, rfl, rfl⟩) (fun _ hst => closed_stands hq ho outcome hst) fun _ hun hst =>
    hst.refused (.closed p.made outcome) rfl hq.terminal hun (by simp)

/-- The source generation of an attempt that has been quiesced is closed for good. -/
theorem close_triple (hq : p.Quiet) (hheld : p.held = held) (hconf : Configured c p) {outcome : SourceGenerationCloseOutcome}
    (ho : outcome ≠ .replacement) :
    TripleE K.full (K.Here .closing p) (closeSourceGeneration c outcome) (fun _ => K.Done held)
      fun _ s => ¬K.callbacks ∧ K.Stilled held s := by
  have hR : ∀ _ : String, K.full.Stable fun s => ¬K.callbacks ∧ K.Stilled held s :=
    fun _ => (Rely.Stable.const _).and stable_stilled
  refine TripleE.bind hR (read_triple (V := fun opened => opened = p.opened) stable_here fun s _ h => h.1.opened) fun opened => ?_
  refine Triple.pure_pre fun he => ?_
  subst he
  cases hopened : p.opened with
  | none =>
    refine TripleE.conseq (Q := fun _ => K.Done held) (R := fun _ s => ¬K.callbacks ∧ K.Stilled held s) ?_ (fun _ _ h => h)
      (fun _ _ _ h => h) fun _ _ _ h => h
    cases c.sourceGenerationLifecycle <;>
      exact TripleE.pure stable_here fun s _ h => ⟨p, hheld, hq, hopened, h.1⟩
  | some generation =>
    have hsome : p.opened.isSome = true := by rw [hopened]; rfl
    obtain ⟨hmade, -, -, hspot⟩ := hq.spot_opened hsome
    obtain rfl : generation = p.made := Option.some.inj (hopened.symm.trans hmade)
    obtain ⟨lifecycle, hlifecycle⟩ := Option.isSome_iff_exists.mp (hconf hsome)
    rw [hlifecycle]
    refine TripleE.bind hR (read_triple (V := fun quiesced => quiesced = true) stable_here ?_) fun quiesced => ?_
    · intro s _ h
      rw [h.1.quiesced, hq.quiesced, hsome]
    refine Triple.pure_pre fun hquiesced => ?_
    subst hquiesced
    have hl := K.close lifecycle hlifecycle p.made p.since outcome ho
    rw [← hspot] at hl
    refine (shut_triple hq hsome outcome hl (fun _ _ _ _ _ => trivial) (stable_outside _)).conseq (fun _ _ h => h) ?_ ?_
    · exact fun _ s _ h => ⟨p.shut (outcome ≠ .replacement), hheld, hq.shut _, rfl, h.1⟩
    · exact fun _ s _ h => ⟨h.1, p, hheld, hconf, hq, h.2.1, fun _ => h.2.2⟩

/-- The source generation is closed for a replacement. -/
theorem replace_triple (planned : Bool) (hq : p.Quiet) (hheld : p.held = held) (hconf : Configured c p)
    (hphase : p.phase = .stopped) (hended : p.ended = false) :
    TripleE K.full (K.Here (.replacing planned) p) (closeSourceGeneration c .replacement)
      (fun _ => K.Here (.replaced planned) (p.shut false)) fun _ s => ¬K.callbacks ∧ K.Stilled held s := by
  have hR : ∀ _ : String, K.full.Stable fun s => ¬K.callbacks ∧ K.Stilled held s :=
    fun _ => (Rely.Stable.const _).and stable_stilled
  have hgeneration : p.generation = p.made := if_neg (by rw [hphase]; simp)
  have hshut : (p.shut false).spot = ⟨p.made, none, false, p.since⟩ := by
    rw [Place.spot, show (p.shut false).generation = p.generation from rfl, hgeneration]
    rfl
  refine TripleE.bind hR (read_triple (V := fun opened => opened = p.opened) stable_here fun s _ h => h.1.opened) fun opened => ?_
  refine Triple.pure_pre fun he => ?_
  subst he
  cases hopened : p.opened with
  | none =>
    have hquiesced : p.quiesced = false := by rw [hq.quiesced, hopened]; rfl
    have hsame : p.shut false = p := by
      rw [Place.shut, ← hopened, ← hended]
      exact congrArg (fun b => { p with quiesced := b }) (hended.trans hquiesced.symm)
    have hspot : p.spot = ⟨p.made, none, false, p.since⟩ := by rw [Place.spot, hgeneration, hopened, hquiesced]
    cases c.sourceGenerationLifecycle <;>
    · refine TripleE.pure stable_here fun s _ h => ?_
      rw [hsame]
      have hr := h.2
      rw [hspot] at hr
      refine ⟨h.1, ?_⟩
      rw [hspot]
      exact K.unclosed _ _ _ _ _ hr
  | some generation =>
    have hsome : p.opened.isSome = true := by rw [hopened]; rfl
    obtain ⟨hmade, -, -, hspot⟩ := hq.spot_opened hsome
    obtain rfl : generation = p.made := Option.some.inj (hopened.symm.trans hmade)
    obtain ⟨lifecycle, hlifecycle⟩ := Option.isSome_iff_exists.mp (hconf hsome)
    rw [hlifecycle]
    refine TripleE.bind hR (read_triple (V := fun quiesced => quiesced = true) stable_here ?_) fun quiesced => ?_
    · intro s _ h
      rw [h.1.quiesced, hq.quiesced, hsome]
    refine Triple.pure_pre fun hquiesced => ?_
    subst hquiesced
    have hl := K.replace lifecycle hlifecycle p.made p.since planned
    rw [← hspot, ← hshut] at hl
    refine (shut_triple hq hsome .replacement hl (stable_outside _) (stable_outside _)).conseq (fun _ _ h => h) ?_ ?_
    · exact fun _ s _ h => h
    · exact fun _ s _ h => ⟨h.1, p, hheld, hconf, hq, h.2.1, fun _ => h.2.2⟩

/-- An attempt that is given up for a shutdown. -/
theorem leave_triple (hrun : p.Running) (hheld : p.held = held) (hconf : Configured c p) :
    TripleE K.full (K.Here (.ending .loose) p) (leaveForShutdown c p.made) (fun _ => K.Done held) fun _ => K.Thrown held := by
  refine TripleE.bind (fun _ => stable_thrown) ((quiesceAttempt_triple hrun hheld hconf).conseq (fun _ _ h => h)
    (fun _ _ _ h => h) fun _ _ _ h => h.2) fun t => ?_
  refine (close_triple (p := p.rest) hrun.rest hheld hconf (by simp)).conseq ?_ (fun _ _ _ h => h) fun _ _ _ h => ⟨not_calm (not_reliable h.1), Or.inr h.2⟩
  exact fun s _ h => ⟨h.1.1, K.conclude _ _ _ _ rfl h.1.2⟩

end Contract

end MarketDataGateway.Recovery
