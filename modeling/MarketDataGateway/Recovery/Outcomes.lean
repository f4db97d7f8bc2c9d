import MarketDataGateway.Recovery.Attempts

/-!
# What follows an attempt

The triples of what the coordinator does with an attempt that has been quiesced: it replaces the attempt as planned, recovers from its
failure, or gives up.
-/

namespace MarketDataGateway.Recovery

open BinanceTransport MarketRuntime OrderBook Threads Promise

variable {L : ProjectionLibrary} {X ω : Type} {around : World L X → X → Prop} {c : Collaborators L X ω}

/-- Attempt `g` has been quiesced, outside of the mutex. -/
structure Rested (c : Collaborators L X ω) (g : Nat) (p : Place) : Prop where
  quiet : p.Quiet
  configured : Configured c p
  held : p.held = false
  made : p.made = g
  ended : p.ended = false
  phase : p.phase = .stopped

/-- An attempt that was under way rests when it has been quiesced. -/
theorem Under.rested {g : Nat} {p : Place} (h : Under c g p) : Rested c g p.rest :=
  ⟨h.running.rest, h.configured, h.held, h.made, h.ended, rfl⟩

/-- The generation at rest is the attempt's own. -/
theorem Rested.spot_generation {g : Nat} {p : Place} (h : Rested c g p) : p.spot.generation = g := by
  rw [Place.spot, Place.generation, if_neg (by rw [h.phase]; simp), h.made]

namespace Place

/-- The mutex has been taken. -/
def hold (p : Place) : Place := { p with held := true }

/-- The source generation has been closed for a replacement, and the attempt is not counted any more. -/
def cleared (p : Place) : Place := { p.shut false with spent := false }

/-- The owner has been reset. -/
def renewed (p : Place) : Place := { p.cleared with phase := .ready, since := none }

end Place

/-- Behind a replacement no source generation of the attempt is open. -/
theorem Rested.cleared_spot {g : Nat} {p : Place} (h : Rested c g p) : p.cleared.spot = ⟨g, none, false, p.since⟩ := by
  rw [Place.spot, Place.generation, if_neg (by rw [Place.cleared, Place.shut, h.phase]; simp)]
  rw [← h.made]
  rfl

/-- Behind a reset the next attempt has the next generation. -/
theorem Rested.renewed_spot {g : Nat} {p : Place} (h : Rested c g p) : p.renewed.spot = ⟨g + 1, none, false, none⟩ := by
  rw [← h.made]
  rfl

/-- Behind a replacement no attempt is under way. -/
theorem Rested.quiet_cleared {g : Nat} {p : Place} (h : Rested c g p) : p.cleared.Quiet :=
  { h.quiet.shut false with }

namespace Contract

variable {K : Contract L X ω around c} {σ : Stage L} {p : Place} {g : Nat} {held : Bool}

/-- Behind a reset another attempt may be made. -/
theorem Rested.ready (h : Rested c g p) : Ready p.renewed :=
  { phase := rfl
    active := h.quiet.active
    counted := h.quiet.counted
    opened := rfl
    quiesced := rfl
    ended := rfl
    spent := rfl
    held := h.held
    terminal := h.quiet.terminal
    lastLe := h.quiet.lastLe
    since := rfl }

/-! ## What a close leaves as it is -/

/-- A piece of code that leaves the budget, the mutex and the request for a shutdown as they are and forgets nothing. -/
structure KeepsBudget (s t : World L X) : Prop where
  budget : t.coordinator.observation.consecutiveRecoveryAttempts = s.coordinator.observation.consecutiveRecoveryAttempts
  calls : s.calls <:+ t.calls
  mutex : t.coordinator.mutexHeld = s.coordinator.mutexHeld
  shutdown : t.coordinator.shutdownRequested = s.coordinator.shutdownRequested

/-- What goes on outside keeps the budget. -/
theorem keepsBudget_of_outside {s t : World L X} (h : OutsideOnly s t) : KeepsBudget s t := by
  rw [h]
  exact ⟨rfl, List.suffix_refl _, rfl, rfl⟩

/-- Invoking a callback keeps the budget. -/
theorem invoke_keepsBudget {callback' : Program (World L X) ω (Except String Bool)} {noted : Bool → RecoveryCall} {message : String}
    {success : Coordinator L → Coordinator L} (hc : callback'.All OutsideOnly)
    (hs : ∀ a : Coordinator L, (success a).observation = a.observation ∧ (success a).mutexHeld = a.mutexHeld ∧
      (success a).shutdownRequested = a.shutdownRequested) :
    Throwing.All KeepsBudget (invoke callback' noted message success) := by
  have hact : ∀ {f : World L X → World L X}, (∀ s, KeepsBudget s (f s)) →
      Throwing.All KeepsBudget (act f : Recovering L X ω Unit) := fun hf => .lift (.atomic fun _ s => hf s)
  refine .bind (.lift (hc.mono fun _ _ => keepsBudget_of_outside)) fun r => ?_
  match r with
  | .ok true =>
    refine hact fun s => ?_
    obtain ⟨hobservation, hmutex, hshutdown⟩ := hs s.coordinator
    exact ⟨congrArg (·.consecutiveRecoveryAttempts) hobservation, List.suffix_cons _ _, hmutex, hshutdown⟩
  | .ok false => exact .bind (hact fun _ => ⟨rfl, List.suffix_cons _ _, rfl, rfl⟩) fun _ => .throw _
  | .error e => exact .bind (hact fun _ => ⟨rfl, List.suffix_cons _ _, rfl, rfl⟩) fun _ => .throw _

/-- Closing the source generation keeps the budget. -/
theorem close_keepsBudget (K : Contract L X ω around c) (outcome : SourceGenerationCloseOutcome) :
    Throwing.All KeepsBudget (closeSourceGeneration c outcome : Recovering L X ω Unit) := by
  have hread : ∀ {α : Type} (f : World L X → α), Throwing.All KeepsBudget (.lift (Program.read f) : Recovering L X ω α) :=
    fun f => .lift (.atomic fun _ _ => ⟨rfl, List.suffix_refl _, rfl, rfl⟩)
  refine .bind (hread _) fun opened => ?_
  split
  · rename_i lifecycle generation hlifecycle
    refine .bind (hread _) fun quiesced => .ite ?_ (.throw _)
    refine invoke_keepsBudget ?_ fun _ => ⟨rfl, rfl, rfl⟩
    cases outcome with
    | replacement => exact (K.replace lifecycle hlifecycle generation none true).1
    | permanentFailure => exact (K.close lifecycle hlifecycle generation none _ (by simp)).1
    | globalShutdown => exact (K.close lifecycle hlifecycle generation none _ (by simp)).1
  · exact .pure _

/-! ## The end of the recovery -/

/-- A failure was not recoverable, or the collaborators are to blame. -/
def Blamed (K : Contract L X ω around c) (s : World L X) : Prop := Unrecoverable s ∨ ¬K.calm

/-- A failure on record stays on record. -/
theorem Unrecoverable.mono {s t : World L X} (h : Unrecoverable s) (hs : s.calls <:+ t.calls) : Unrecoverable t := by
  obtain ⟨g, d, e, hd, hr⟩ := h
  exact ⟨g, d, e, hs.subset hd, hr⟩

/-- No other thread takes a failure off the record. -/
theorem stable_unrecoverable : K.full.Stable Unrecoverable := by
  intro s t _ h hs
  have hcalls : t.calls = s.calls := ClientStep.calls hs
  exact h.mono ⟨[], hcalls.symm⟩

/-- Whoever is to blame stays so. -/
theorem stable_blamed : K.full.Stable K.Blamed := stable_unrecoverable.or (Rely.Stable.const _)

/-- A recovery may be ended when somebody is to blame for it. -/
theorem Good.setTerminal {s : World L X} (h : K.Good s) (ho : Outside K.inv s) (hb : K.Blamed s) (cause : RecoveryCause)
    (error : NetworkError) : K.Good (s.setTerminal cause error) := by
  unfold World.setTerminal
  split
  · exact h
  · rename_i hopen
    refine ⟨h.failures, fun _ => Or.inr (Or.inr hb), fun _ => K.ended_inv _ ?_⟩
    rw [Bool.not_eq_true] at hopen
    unfold Outside at ho
    rwa [hopen] at ho

/-- Ending the recovery notes nothing. -/
theorem setTerminal_calls (cause : RecoveryCause) (error : NetworkError) (s : World L X) :
    (s.setTerminal cause error).calls = s.calls := by
  unfold World.setTerminal
  split <;> rfl

/-- Ending the recovery leaves what is outside as it is. -/
theorem setTerminal_outside {P : Bool → X → Prop} {s : World L X} (cause : RecoveryCause) (error : NetworkError) :
    Outside P (s.setTerminal cause error) ↔ Outside P s := by
  unfold World.setTerminal
  split <;> exact Iff.rfl

/-- The recovery is ended once its source generation is closed. -/
theorem setTerminal_triple (cause : RecoveryCause) (error : NetworkError) {R : String → World L X → Prop} :
    TripleE K.full (fun s => K.Done held s ∧ K.Blamed s) (act (·.setTerminal cause error) : Recovering L X ω Unit)
      (fun _ => K.Finished held) R := by
  refine TripleE.lift (fun _ => stable_finished) (Triple.modify (stable_done.and stable_blamed) stable_finished ?_)
  rintro s ⟨hi, ho, hg⟩ ⟨⟨p, hheld, hq, hopened, ha⟩, hb⟩
  obtain ⟨b, hi', ha'⟩ := Stands.setTerminal ⟨hi, ha⟩ hq.terminal cause error (Or.inl ⟨hq.phase, hq.counted⟩)
  exact ⟨⟨hi', (setTerminal_outside cause error).mpr ho, hg.setTerminal ho hb cause error⟩, { p with terminal := b }, hheld, hopened, ha'⟩

/-- The recovery has ended and no other round follows. -/
theorem giveUp_triple (cause : RecoveryCause) (error : NetworkError) :
    TripleE K.full (fun s => K.Done false s ∧ K.Blamed s) (do act (·.setTerminal cause error); pure false : Recovering L X ω Bool)
      (afterRound K.AtHead (K.Finished false)) fun _ => K.Thrown false :=
  TripleE.bind (fun _ => stable_thrown) (setTerminal_triple cause error) fun _ => TripleE.pure stable_finished fun _ _ h => h

/-- The source generation is closed for good and the recovery ends; whoever is to blame for it stays so. -/
theorem closeForGood_triple (hr : Rested c g p) {β : Type} {outcome : SourceGenerationCloseOutcome} (ho : outcome ≠ .replacement)
    {F : World L X → Prop} (hF : K.full.Stable F) (hkeep : ∀ s t : World L X, F s → KeepsBudget s t → F t)
    {k : Unit → Recovering L X ω β} {Q : β → World L X → Prop}
    (hk : ∀ u, TripleE K.full (fun s => K.Done false s ∧ F s) (k u) Q fun _ => K.Thrown false) :
    TripleE K.full (fun s => K.Here .closing p s ∧ F s) (closeSourceGeneration c outcome >>= k) Q fun _ => K.Thrown false := by
  have hclose := close_triple (K := K) hr.quiet hr.held hr.configured ho
  have hframe := Triple.frame hclose (close_keepsBudget K outcome) hF fun s t _ hf hk => hkeep s t hf hk
  refine TripleE.bind (fun _ => stable_thrown) (hframe.post fun r s _ h => ?_) hk
  cases r with
  | ok _ => exact h
  | error e => exact ⟨not_calm (not_reliable h.1.1), Or.inr h.1.2⟩

/-- Code that keeps the budget leaves the blame where it is. -/
theorem blamed_keep (s t : World L X) (h : K.Blamed s) (hk : KeepsBudget s t) : K.Blamed t :=
  h.imp (fun h => h.mono hk.calls) id

/-! ## The mutex -/

/-- The section that gives the mutex back. -/
def unlocked (s : World L X) : World L X := s.onCoordinator fun c => { c with mutexHeld := false }

/-- Giving the mutex back is a section of the thread's own. -/
theorem own_unlocked : Own (unlocked : World L X → World L X) := ⟨fun _ => rfl, fun _ => rfl, fun _ _ _ _ => Iff.rfl, fun _ => ⟨rfl, rfl, rfl⟩⟩

/-- An exception is on its way while the mutex is held. -/
def Failed (K : Contract L X ω around c) (s : World L X) : Prop := ¬K.calm ∧ K.Stilled true s

/-- An exception under the mutex stays on its way. -/
theorem stable_failed : K.full.Stable K.Failed := (Rely.Stable.const _).and stable_stilled

/-- A callback that fails under the mutex is an exception on its way. -/
theorem failed_of_unreliable {s : World L X} (h : ¬K.callbacks ∧ K.Stilled true s) : K.Failed s :=
  ⟨not_calm (not_reliable h.1), h.2⟩

/-- Code that runs with the mutex held. -/
theorem withMutex_triple {α : Type} {body : Recovering L X ω α} {B Q : α → World L X → Prop} (hB : ∀ a, K.full.Stable (B a))
    (hQ : ∀ a, K.full.Stable (Q a)) (hbody : TripleE K.full (K.Here σ p.hold) body B fun _ => K.Failed)
    (hunlock : ∀ a s, CoordinatorInv K.callbacks s → B a s → CoordinatorInv K.callbacks (unlocked s) ∧ Q a (unlocked s)) :
    TripleE K.full (K.Here σ p) (withMutex body) Q fun _ => K.Thrown false := by
  refine TripleE.between hQ (fun _ => stable_thrown) ?_ hbody (fun a => ?_) fun e => ?_
  · refine Triple.await stable_here (fun _ => stable_here) fun _ s hi h _ => ?_
    obtain ⟨hi', ha'⟩ := Stands.hold ⟨hi.1, h.1⟩ true
    exact ⟨⟨hi', hi.2.1, hi.2.2.kept rfl (fun _ _ _ => Iff.rfl) ⟨rfl, rfl, rfl⟩⟩, ha', h.2⟩
  · exact section_triple own_unlocked (hB a) (hQ a) (hunlock a)
  · refine section_triple own_unlocked stable_failed stable_thrown ?_
    rintro s hi ⟨hcalm, q, -, hconf, hq, ha, hc⟩
    obtain ⟨hi', ha'⟩ := Stands.hold ⟨hi, ha⟩ false
    exact ⟨hi', hcalm, Or.inr ⟨{ q with held := false }, rfl, hconf, { hq with }, ha', hc⟩⟩

/-- Giving the mutex back leaves the attempt over. -/
theorem unlock_done {s : World L X} (hi : CoordinatorInv K.callbacks s) (h : K.Done held s) :
    CoordinatorInv K.callbacks (unlocked s) ∧ K.Done false (unlocked s) := by
  obtain ⟨q, -, hq, ho, ha⟩ := h
  obtain ⟨hi', ha'⟩ := Stands.hold ⟨hi, ha⟩ false
  exact ⟨hi', { q with held := false }, rfl, { hq with }, ho, ha'⟩

/-- Giving the mutex back leaves the thread on its way out. -/
theorem unlock_finished {s : World L X} (hi : CoordinatorInv K.callbacks s) (h : K.Finished held s) :
    CoordinatorInv K.callbacks (unlocked s) ∧ K.Finished false (unlocked s) := by
  obtain ⟨q, -, ho, ha⟩ := h
  obtain ⟨hi', ha'⟩ := Stands.hold ⟨hi, ha⟩ false
  exact ⟨hi', { q with held := false }, rfl, ho, ha'⟩

/-- Giving the mutex back leaves the thread at its place. -/
theorem unlock_here (hheld : p.held = false) {s : World L X} (hi : CoordinatorInv K.callbacks s) (h : K.Here σ p.hold s) :
    CoordinatorInv K.callbacks (unlocked s) ∧ K.Here σ p (unlocked s) := by
  obtain ⟨hi', ha'⟩ := Stands.hold ⟨hi, h.1⟩ false
  have hp : { p.hold with held := false } = p := by
    rw [← hheld]
    rfl
  rw [hp] at ha'
  exact ⟨hi', ha', h.2⟩

/-- While the mutex is held no shutdown is requested. -/
theorem stable_open : K.full.Stable fun s => K.Here σ p.hold s ∧ s.coordinator.shutdownRequested = false := by
  rintro s t hi ⟨h, hf⟩ hs
  refine ⟨stable_here s t hi h hs, ?_⟩
  rw [hs.shutdown.2 h.1.held, hf]

/-- Whether a shutdown has been requested; while the mutex is held the answer stays true. -/
theorem stopRequested_triple {R : String → World L X → Prop} :
    TripleE K.full (K.Here σ p.hold) (stopRequested : Recovering L X ω Bool)
      (fun stopping s => K.Here σ p.hold s ∧ (stopping = false → s.coordinator.shutdownRequested = false)) R := by
  have hQ : ∀ stopping, K.full.Stable fun s =>
      K.Here σ p.hold s ∧ (stopping = false → s.coordinator.shutdownRequested = false) := by
    intro stopping
    cases stopping with
    | true => exact stable_here.and fun _ _ _ _ _ h => by cases h
    | false =>
      intro s t hi h hs
      have h' := stable_open s t hi ⟨h.1, h.2 rfl⟩ hs
      exact ⟨h'.1, fun _ => h'.2⟩
  refine TripleE.lift hQ (Triple.read stable_here hQ fun s _ h => ⟨h, fun hs => ?_⟩)
  unfold Coordinator.stopping at hs
  rw [Bool.or_eq_false_iff] at hs
  exact hs.2

/-! ## Resets -/

/-- What a reset of the owner under the mutex leaves behind. -/
def AfterReset (K : Contract L X ω around c) (p : Place) : Option Bool → World L X → Prop
  | some true => K.Here .head p.renewed.hold
  | some false => fun s => ¬K.calm ∧ K.Done true s
  | none => K.Done true

/-- The same once the mutex has been given back. -/
def AfterMutex (K : Contract L X ω around c) : Option Bool → World L X → Prop
  | some true => K.AtHead
  | some false => fun s => ¬K.calm ∧ K.Done false s
  | none => K.Done false

/-- What a reset of the owner leaves under the mutex is stable. -/
theorem stable_afterReset (r : Option Bool) : K.full.Stable (K.AfterReset p r) := by
  match r with
  | some true => exact stable_here
  | some false => exact (Rely.Stable.const _).and stable_done
  | none => exact stable_done

/-- What it leaves behind the mutex is stable. -/
theorem stable_afterMutex (r : Option Bool) : K.full.Stable (K.AfterMutex r) := by
  match r with
  | some true => exact stable_atHead
  | some false => exact (Rely.Stable.const _).and stable_done
  | none => exact stable_done

/-- Giving the mutex back takes the one to the other. -/
theorem unlock_afterReset (hr : Rested c g p) (r : Option Bool) (s : World L X) (hi : CoordinatorInv K.callbacks s)
    (h : K.AfterReset p r s) : CoordinatorInv K.callbacks (unlocked s) ∧ K.AfterMutex r (unlocked s) := by
  match r with
  | some true =>
    obtain ⟨hi', hh⟩ := unlock_here (p := p.renewed) hr.held hi h
    exact ⟨hi', p.renewed, Rested.ready hr, hh⟩
  | some false =>
    obtain ⟨hi', hd⟩ := unlock_done hi h.2
    exact ⟨hi', h.1, hd⟩
  | none => exact unlock_done hi h

/-- What another round follows from, and what the recovery ends with. -/
theorem afterReset_triple (error : NetworkError) (r : Option Bool) :
    TripleE K.full (K.AfterMutex r)
      (match r with
        | none => pure false
        | some true => pure true
        | some false => do
          act (·.setTerminal .internalFailure error)
          pure false : Recovering L X ω Bool)
      (afterRound K.AtHead (K.Finished false)) fun _ => K.Thrown false := by
  match r with
  | none => exact TripleE.pure stable_done fun s _ h => Done.finished h
  | some true => exact TripleE.pure stable_atHead fun s _ h => h
  | some false => exact (giveUp_triple _ _).conseq (fun _ _ h => ⟨h.2, Or.inr h.1⟩) (fun _ _ _ h => h) fun _ _ _ h => h

/-- The owner is asked to reset itself; `after` is what the coordinator notes when it has. -/
theorem askReset_triple (hr : Rested c g p) {ask : Program (World L X) ω (Except String RebootstrapResetResult)}
    {after : World L X → World L X} {P : Bool → X → Prop} (hafter : Own after)
    (hl : K.toPromise.Leads P ask (orElse (fun result =>
      if result = .reset then K.holds .head ⟨g + 1, none, false, none⟩ else K.threw fun _ _ => True) (K.threw fun _ _ => True)))
    (hstands : ∀ s : World L X, Stands K.callbacks p.cleared.hold s → Stands K.callbacks p.renewed.hold (after s)) :
    TripleE K.full (fun s => At K.callbacks p.cleared.hold s ∧ Outside P s)
      (do
        let result ← .of ask
        if result = .reset then do
          act after
          pure (some true)
        else pure (some false) : Recovering L X ω (Option Bool))
      (K.AfterReset p) fun _ => K.Failed := by
  have hR : ∀ _ : String, K.full.Stable K.Failed := fun _ => stable_failed
  have hquiet : p.cleared.hold.Quiet := { hr.quiet_cleared with }
  have hstable : K.full.Stable fun s : World L X => At K.callbacks p.cleared.hold s ∧ Outside (K.threw fun _ _ => True) s :=
    stable_at.and fun _ _ _ h _ => h
  refine TripleE.bind hR ((callE hl hquiet.terminal).conseq (fun _ _ h => h) (fun _ _ _ h => h) fun _ s _ h => ?_) fun result => ?_
  · exact ⟨h.2.1, stilled_of_closed hquiet rfl rfl h.1⟩
  · split
    · rename_i hreset
      refine TripleE.bind hR (Q := fun _ => K.Here .head p.renewed.hold) ?_ fun _ => TripleE.pure stable_here fun _ _ h => h
      refine act_triple hafter ?_ stable_here ?_
      · rw [← hr.renewed_spot]
        exact stable_at.and (stable_outside _)
      · rintro s hi ⟨ha, ho⟩
        obtain ⟨hi', ha'⟩ := hstands s ⟨hi, ha⟩
        refine ⟨hi', ha', hafter.outsideIff.mpr ?_⟩
        rw [show p.renewed.hold.spot = ⟨g + 1, none, false, none⟩ from hr.renewed_spot]
        exact ho
    · exact TripleE.pure hstable fun s _ h => ⟨h.2.1, p.cleared.hold, rfl, hquiet, rfl, h.1⟩

/-! ## The planned replacement -/

/-- A planned rotation ends in another round, or with the recovery. -/
theorem rotate_triple (hr : Rested c g p) (hspent : p.spent = false) {t : TransportObservation} {r : RuntimeObservation L}
    (hclean : isCleanPlannedCut r t = true) :
    TripleE K.full (K.Here (.final true t r) p) (Recovery.rotate c t r) (afterRound K.AtHead (K.Finished false)) fun _ => K.Thrown false := by
  have hR : ∀ _ : String, K.full.Stable K.Failed := fun _ => stable_failed
  have hquiet : p.hold.Quiet := { hr.quiet with }
  refine TripleE.bind (fun _ => stable_thrown) (withMutex_triple stable_afterReset stable_afterMutex ?_ (unlock_afterReset hr))
    fun result => afterReset_triple _ result
  refine TripleE.bind hR stopRequested_triple fun stopping => ?_
  cases stopping with
  | true =>
    refine TripleE.bind hR ((close_triple (p := p.hold) hquiet rfl hr.configured (by simp)).conseq (fun s _ h => ?_)
      (fun _ _ _ h => h) fun _ _ _ h => failed_of_unreliable h) fun _ => TripleE.pure stable_done fun _ _ h => h
    exact ⟨h.1.1, K.conclude (.final true t r) _ _ _ rfl h.1.2⟩
  | false =>
    refine TripleE.bind hR (Q := fun _ => K.Here (.replaced true) p.cleared.hold) (TripleE.conseq
      (replace_triple (p := p.hold) true hquiet rfl hr.configured hr.phase hr.ended) (fun s _ h => ?_) (fun _ s _ h => ?_)
      fun _ _ _ h => failed_of_unreliable h) fun _ => ?_
    · refine ⟨h.1.1, ?_⟩
      have hh := h.1.2
      unfold Outside at hh ⊢
      rw [h.2 rfl] at hh ⊢
      exact K.rotate _ _ _ _ hclean hh
    · have hp : p.hold.shut false = p.cleared.hold := congrArg (fun b => { p.hold.shut false with spent := b }) hspent
      rw [hp] at h
      exact h
    · have hl := K.resetPlanned g p.since
      rw [← hr.cleared_spot] at hl
      refine askReset_triple hr ⟨fun _ => rfl, fun _ => rfl, fun s g d e => ?_, fun _ => ⟨rfl, rfl, rfl⟩⟩ hl fun s hst => ?_
      · exact ⟨fun hd => (List.mem_cons.mp hd).resolve_left (by simp), List.mem_cons_of_mem _⟩
      · refine Stands.since (Stands.reset hst true hr.phase hr.quiet.terminal (f := fun o =>
          { o with
            lastRotationGeneration := some s.coordinator.generation
            lastPlannedRotationCut := some ⟨s.coordinator.generation, t, r⟩
            plannedRotationCount := o.plannedRotationCount + 1
            state := .starting }) rfl rfl rfl rfl (by simp)) none

/-! ## The budget -/

/-- No other thread spends from the budget. -/
theorem client_keepsBudget {s t : World L X} (hs : ClientStep around s t) :
    t.coordinator.observation.consecutiveRecoveryAttempts = s.coordinator.observation.consecutiveRecoveryAttempts := by
  cases hs with
  | start hm =>
    unfold Coordinator.start
    split
    · rfl
    · split <;> rfl
  | requestStop hm =>
    unfold Coordinator.requestStop
    split
    · rfl
    · split <;> rfl
  | beginAcceptance hm =>
    unfold Coordinator.beginAcceptance
    split <;> rfl
  | _ => rfl

/-- There is room in the budget. -/
def Room (s : World L X) : Prop := s.coordinator.observation.consecutiveRecoveryAttempts < kMaximumRecoveryAttempts

/-- What is known of the budget is stable. -/
theorem stable_budget {Φ : Nat → Prop} :
    K.full.Stable fun s => Φ s.coordinator.observation.consecutiveRecoveryAttempts := by
  intro s t _ h hs
  rw [show t.coordinator.observation.consecutiveRecoveryAttempts = _ from client_keepsBudget hs]
  exact h

/-- A source generation is closed for a replacement with the budget as it is. -/
theorem replaceRoom_triple (hr : Rested c g p) :
    TripleE K.full (fun s => K.Here (.replacing false) p.hold s ∧ Room s) (closeSourceGeneration c .replacement)
      (fun _ s => K.Here (.replaced false) (p.hold.shut false) s ∧ Room s) fun _ => K.Failed := by
  have hreplace := replace_triple (K := K) (p := p.hold) false { hr.quiet with } rfl hr.configured hr.phase hr.ended
  refine (Triple.frame hreplace (close_keepsBudget K .replacement) (stable_budget (Φ := (· < kMaximumRecoveryAttempts)))
    fun s t _ hroom hk => ?_).post fun r s _ h => ?_
  · show t.coordinator.observation.consecutiveRecoveryAttempts < _
    rw [hk.budget]
    exact hroom
  · cases r with
    | ok _ => exact h
    | error e => exact failed_of_unreliable h.1

/-- What the end of a failed attempt leaves behind: a delay, or the recovery is over. -/
def AfterBackoff (K : Contract L X ω around c) (p : Place) (held : Bool) : Option Nat → World L X → Prop
  | some _ => K.Here (.replaced false) { p.cleared with held := held }
  | none => K.Finished held

/-- What the end of a failed attempt leaves is stable. -/
theorem stable_afterBackoff (delay : Option Nat) : K.full.Stable (K.AfterBackoff p held delay) := by
  cases delay with
  | none => exact stable_finished
  | some delay => exact stable_here

/-- The mutex is held, and no shutdown has been requested before. -/
def Open (s : World L X) : Prop := s.coordinator.mutexHeld = true ∧ s.coordinator.shutdownRequested = false

/-- While the mutex is held no shutdown comes in. -/
theorem open_stable : K.full.Stable Open := by
  rintro s t _ ⟨hheld, hf⟩ hs
  exact ⟨hs.mutex.trans hheld, (ClientStep.shutdown hs).2 hheld ▸ hf⟩

/-- Code that keeps the budget keeps the mutex. -/
theorem open_keep (s t : World L X) (h : Open s) (hk : KeepsBudget s t) : Open t :=
  ⟨hk.mutex.trans h.1, hk.shutdown.trans h.2⟩

/-- A spent budget ends the recovery. -/
theorem exhaust_triple (cause : RecoveryCause) (error : Option NetworkError) {R : String → World L X → Prop} :
    TripleE K.full (fun s => K.Done held s ∧ Open s) (act (·.exhaust cause error) : Recovering L X ω Unit)
      (fun _ => K.Finished held) R := by
  refine TripleE.lift (fun _ => stable_finished) (Triple.modify (stable_done.and open_stable) stable_finished ?_)
  rintro s ⟨hi, hout, hg⟩ ⟨⟨p, hheld, hq, ho, ha⟩, hopen⟩
  obtain ⟨hi', ha'⟩ := Stands.terminal ⟨hi, ha⟩ (f := fun o =>
    { o with
      lastRecoveryCause := some cause
      state := .exhausted
      terminal := true
      exhausted := true
      inBackoff := false
      terminalError := error }) rfl rfl rfl rfl (by simp) (Or.inl ⟨hq.phase, hq.counted⟩)
  refine ⟨⟨hi', hout, hg.failures, fun _ => Or.inl rfl, fun _ => K.ended_inv _ ?_⟩, { p with terminal := true }, hheld, ho, ha'⟩
  unfold Outside at hout
  rwa [hopen.2] at hout

/-- A failed attempt is closed and its delay committed to, or the recovery ends. -/
theorem commitBackoff_triple (hr : Rested c g p) {due : Bool} {t : TransportObservation} {r : RuntimeObservation L}
    (hcut : (due && isCleanPlannedCut r t) = false) (hrecoverable : (classifyFailure r t).recoverable = true) :
    TripleE K.full (K.Here (.final due t r) p) (commitBackoff c (classifyFailure r t) t) (K.AfterBackoff p false)
      fun _ => K.Thrown false := by
  have hR : ∀ _ : String, K.full.Stable K.Failed := fun _ => stable_failed
  have hquiet : p.hold.Quiet := { hr.quiet with }
  have hconclude : ∀ s : World L X, K.Here (.final due t r) p.hold s → K.Here .closing p.hold s := fun s h =>
    ⟨h.1, K.conclude (.final due t r) _ _ _ rfl h.2⟩
  refine withMutex_triple (B := K.AfterBackoff p true) stable_afterBackoff stable_afterBackoff ?_ fun delay s hi h => ?_
  · refine TripleE.bind hR stopRequested_triple fun stopping => ?_
    cases stopping with
    | true =>
      have hclose := close_triple (K := K) (p := p.hold) hquiet rfl hr.configured
        (by simp : SourceGenerationCloseOutcome.globalShutdown ≠ .replacement)
      exact TripleE.bind hR (hclose.conseq (fun s _ h => hconclude s h.1) (fun _ _ _ h => h) fun _ _ _ h => failed_of_unreliable h)
        fun _ => TripleE.pure stable_done fun _ _ h => h.finished
    | false =>
      -- the budget is what it has been found to be
      refine TripleE.bind hR (Q := fun spent s => (K.Here (.final due t r) p.hold s ∧ Open s) ∧
        s.coordinator.observation.consecutiveRecoveryAttempts = spent) ?_ fun spent => ?_
      · have hstable : K.full.Stable fun s => K.Here (.final due t r) p.hold s ∧ (false = false →
            s.coordinator.shutdownRequested = false) :=
          fun s t hi h hs => (stable_open s t hi ⟨h.1, h.2 rfl⟩ hs).imp id fun h _ => h
        have hafter : ∀ spent, K.full.Stable fun s => (K.Here (.final due t r) p.hold s ∧ Open s) ∧
            s.coordinator.observation.consecutiveRecoveryAttempts = spent :=
          fun _ => (stable_here.and open_stable).and (stable_budget (Φ := (· = _)))
        exact TripleE.lift hafter (Triple.read hstable hafter fun s _ h => ⟨⟨h.1, h.1.1.held, h.2 rfl⟩, rfl⟩)
      split
      · have hclose := Triple.frame (close_triple (K := K) (p := p.hold) hquiet rfl hr.configured
            (by simp : SourceGenerationCloseOutcome.permanentFailure ≠ .replacement))
          (close_keepsBudget K .permanentFailure) open_stable fun s t _ ho hk => open_keep s t ho hk
        refine TripleE.bind (Q := fun _ s => K.Done true s ∧ Open s) hR (Triple.conseq hclose
          (fun s _ h => ⟨hconclude s h.1.1, h.1.2⟩) fun result s _ h => ?_) fun _ =>
            TripleE.bind hR (exhaust_triple _ _) fun _ => TripleE.pure stable_finished fun _ _ h => h
        cases result with
        | ok _ => exact h
        | error e => exact failed_of_unreliable h.1
      · rename_i hroom
        refine TripleE.bind hR ((replaceRoom_triple hr).conseq (fun s _ h => ?_) (fun _ _ _ h => h) fun _ _ _ h => h) fun _ => ?_
        · refine ⟨⟨h.1.1.1, (K.recover _ due t r _ _ hcut h.1.1.2).2 hrecoverable⟩, ?_⟩
          show s.coordinator.observation.consecutiveRecoveryAttempts < _
          rw [h.2]
          omega
        refine TripleE.bind hR (Q := fun n s => (1 ≤ n ∧ n ≤ kMaximumRecoveryAttempts) ∧ K.Here (.replaced false) p.cleared.hold s)
          ?_ fun n => Triple.pure_pre fun hn => ?_
        · refine TripleE.lift (fun _ => (Rely.Stable.const _).and stable_here) (Triple.atomic
            (stable_here.and (stable_budget (Φ := (· < kMaximumRecoveryAttempts)))) (fun _ => (Rely.Stable.const _).and stable_here) ?_)
          rintro _ s ⟨hi, ho, hg⟩ ⟨⟨ha, hh⟩, hroom⟩
          obtain ⟨⟨hi', ha'⟩, hn⟩ := Stands.countRecovery ⟨hi, ha⟩ hr.quiet.terminal hroom (classifyFailure r t).cause
          refine ⟨⟨hi', ho, hg.kept rfl (fun g' d e => ?_) ⟨rfl, rfl, rfl⟩⟩, hn, ha', hh⟩
          exact ⟨fun hd => (List.mem_cons.mp hd).resolve_left (by simp), List.mem_cons_of_mem _⟩
        · obtain ⟨delay, hdelay⟩ := normalBackoffDelay_ok hn.1 hn.2
          rw [hdelay]
          refine TripleE.bind hR (Q := fun _ => K.Here (.replaced false) p.cleared.hold) ?_ fun _ =>
            TripleE.pure stable_here fun _ _ h => h
          exact act_here ⟨fun _ => rfl, fun _ => rfl, fun _ _ _ _ => Iff.rfl, fun _ => ⟨rfl, rfl, rfl⟩⟩
            (fun s hst => hst.observed rfl rfl rfl rfl (by simp)) fun _ _ h => h
  · cases delay with
    | none => exact unlock_finished hi h
    | some delay =>
      have hp : { p.cleared with held := false } = p.cleared := congrArg (fun b => { p.cleared with held := b }) hr.held.symm
      show CoordinatorInv _ _ ∧ K.Here (.replaced false) { p.cleared with held := false } _
      rw [hp]
      exact unlock_here (p := p.cleared) hr.held hi h

/-! ## The recovery from a failure -/

/-- The owner is reset under the mutex behind a replacement. -/
theorem resetOwner_triple (hr : Rested c g p) :
    TripleE K.full (K.Here (.replaced false) p.cleared) (resetOwner c) K.AfterMutex fun _ => K.Thrown false := by
  have hR : ∀ _ : String, K.full.Stable K.Failed := fun _ => stable_failed
  have hquiet : p.cleared.hold.Quiet := { hr.quiet_cleared with }
  refine withMutex_triple stable_afterReset stable_afterMutex ?_ (unlock_afterReset hr)
  refine TripleE.bind hR ((stop_triple stable_here).conseq (fun _ _ h => h) (fun _ _ _ h => h) fun _ _ _ h => h) fun stopping => ?_
  cases stopping with
  | true => exact TripleE.pure stable_here fun s _ h => ⟨p.cleared.hold, rfl, hquiet, rfl, h.1⟩
  | false =>
    have hl := K.reset g p.since
    rw [← hr.cleared_spot] at hl
    refine askReset_triple hr ⟨fun _ => rfl, fun _ => rfl, fun s g d e => ?_, fun _ => ⟨rfl, rfl, rfl⟩⟩ hl fun s hst => ?_
    · exact ⟨fun hd => (List.mem_cons.mp hd).resolve_left (by simp), List.mem_cons_of_mem _⟩
    · exact Stands.since (Stands.reset hst false hr.phase hr.quiet.terminal
        (f := fun o => { o with totalRecoveryCount := o.totalRecoveryCount + 1 }) rfl rfl rfl rfl id) none

/-- Between the end of the delay and the next attempt. -/
theorem afterDelay_triple (hr : Rested c g p) :
    TripleE K.full (K.Here (.replaced false) p.cleared)
      (do
        let stopping ← .lift (Program.atomic fun _ s => s.leaveBackoff)
        if stopping then pure false
        else do
          let result ← resetOwner c
          match result with
          | none => pure false
          | some true => pure true
          | some false => do
            act (·.setTerminal .internalFailure (internalError "owner-domain rebootstrap reset failed"))
            pure false : Recovering L X ω Bool)
      (afterRound K.AtHead (K.Finished false)) fun _ => K.Thrown false := by
  have hR : ∀ _ : String, K.full.Stable (K.Thrown false) := fun _ => stable_thrown
  refine TripleE.bind hR (Q := fun _ => K.Here (.replaced false) p.cleared) (TripleE.lift (fun _ => stable_here)
    (Triple.atomic stable_here (fun _ => stable_here) ?_)) fun stopping => ?_
  · rintro _ s hi h
    unfold World.leaveBackoff
    split
    · exact ⟨hi, h⟩
    · obtain ⟨hi', ha'⟩ := Stands.observed ⟨hi.1, h.1⟩ (f := fun o => { o with state := .recovering, inBackoff := false }) rfl rfl rfl
        rfl (by simp)
      exact ⟨⟨hi', hi.2.1, hi.2.2.kept rfl (fun _ _ _ => Iff.rfl) ⟨rfl, rfl, rfl⟩⟩, ha', h.2⟩
  · split
    · exact TripleE.pure stable_here fun s _ h => ⟨p.cleared, hr.held, rfl, h.1⟩
    · exact TripleE.bind hR (resetOwner_triple hr) fun result => afterReset_triple _ result

/-- A failure goes on record as the contract promises it. -/
theorem recordFailure_triple (hr : Rested c g p) {due : Bool} {t : TransportObservation} {r : RuntimeObservation L}
    (hcut : (due && isCleanPlannedCut r t) = false) {R : String → World L X → Prop} :
    TripleE K.full (K.Here (.final due t r) p)
      (act (·.recordFailure g (classifyFailure r t) t r) : Recovering L X ω Unit)
      (fun _ s => K.Here (.final due t r) p s ∧ ((classifyFailure r t).recoverable = false → Unrecoverable s)) R := by
  have hQ : K.full.Stable fun s : World L X =>
      K.Here (.final due t r) p s ∧ ((classifyFailure r t).recoverable = false → Unrecoverable s) :=
    stable_here.and stable_unrecoverable.imp
  refine TripleE.lift (fun _ => hQ) (Triple.modify stable_here hQ ?_)
  rintro s ⟨hi, ho, hg⟩ h
  have hst := Stands.observed ⟨hi, h.1⟩ (f := RecoveryObservation.recordFailure (.of g (classifyFailure r t).cause t r)) rfl rfl rfl rfl
    id
  obtain ⟨hi', ha'⟩ := hst.note (rfl : (RecoveryCall.failureRecorded g (classifyFailure r t) t.terminalError).plain = true)
  have hnew : Unrecoverable s → Unrecoverable (s.recordFailure g (classifyFailure r t) t r) := fun h => h.mono (List.suffix_cons _ _)
  refine ⟨⟨hi', ho, fun g' d e hd => ?_, fun ht => ?_, hg.ended⟩, ⟨ha', h.2⟩, fun hnot => ⟨g, _, _, List.mem_cons_self, hnot⟩⟩
  · rcases List.mem_cons.mp hd with he | hd
    · cases he
      have hgood := (K.recover p.spot due t r _ _ hcut h.2).1
      rwa [hr.spot_generation] at hgood
    · exact hg.failures g' d e hd
  · exact (hg.terminal ht).imp id (Or.imp id (Or.imp hnew id))

/-- A failed attempt is followed by another round, or the recovery ends. -/
theorem recover_triple (hr : Rested c g p) {due : Bool} {t : TransportObservation} {r : RuntimeObservation L}
    (hcut : (due && isCleanPlannedCut r t) = false) :
    TripleE K.full (K.Here (.final due t r) p) (Recovery.recover c g t r) (afterRound K.AtHead (K.Finished false))
      fun _ => K.Thrown false := by
  have hR : ∀ _ : String, K.full.Stable (K.Thrown false) := fun _ => stable_thrown
  refine TripleE.bind hR (recordFailure_triple hr hcut) fun _ => ?_
  split
  · rename_i hnot
    rw [Bool.not_eq_true'] at hnot
    refine TripleE.conseq (closeForGood_triple hr (by simp) stable_blamed blamed_keep fun _ => giveUp_triple _ _) (fun s _ h => ?_)
      (fun _ _ _ h => h) fun _ _ _ h => h
    exact ⟨⟨h.1.1, K.conclude (.final due t r) _ _ _ rfl h.1.2⟩, Or.inl (h.2 hnot)⟩
  · rename_i hrecoverable
    rw [Bool.not_eq_true', Bool.not_eq_false] at hrecoverable
    refine TripleE.bind hR ((commitBackoff_triple hr hcut hrecoverable).conseq (fun _ _ h => h.1) (fun _ _ _ h => h) fun _ _ _ h => h)
      fun delay => ?_
    cases delay with
    | none => exact TripleE.pure stable_finished fun _ _ h => h
    | some delay =>
      have hp : { p.cleared with held := false } = p.cleared := congrArg (fun b => { p.cleared with held := b }) hr.held.symm
      show TripleE _ (K.Here (.replaced false) { p.cleared with held := false }) _ _ _
      rw [hp]
      refine TripleE.bind hR (Q := fun _ => K.Here (.replaced false) p.cleared) ((callE (p := p.cleared) (K.backoff p.cleared.spot delay) hr.quiet.terminal).conseq
        (fun _ _ h => h) (fun _ _ _ h => h) fun _ s _ h => ?_) fun waited => ?_
      · exact ⟨h.2.1, Or.inr (stilled_of_closed hr.quiet_cleared hr.held rfl h.1)⟩
      · split
        · exact TripleE.pure stable_here fun s _ h => ⟨p.cleared, hr.held, rfl, h.1⟩
        · exact afterDelay_triple hr

/-- An attempt that has come to its end is rotated or recovered from. -/
theorem conclude_triple (hr : Rested c g p) {due : Bool} (hspent : due = true → p.spent = false) {t : TransportObservation}
    {r : RuntimeObservation L} :
    TripleE K.full (K.Here (.final due t r) p) (Recovery.conclude c g due t r) (afterRound K.AtHead (K.Finished false))
      fun _ => K.Thrown false := by
  unfold Recovery.conclude
  split
  · rename_i hcut
    rw [Bool.and_eq_true] at hcut
    obtain ⟨rfl, hclean⟩ := hcut
    exact rotate_triple hr (hspent rfl) hclean
  · rename_i hcut
    exact recover_triple hr (Bool.not_eq_true _ ▸ hcut)

/-! ## An attempt that has been quiesced -/

/-- A quiesced attempt is settled: another round, or the end. -/
theorem settle_triple (hr : Rested c g p) {due : Bool} (hspent : due = true → p.spent = false) {t : TransportObservation} :
    TripleE K.full (K.Here (.quiesced (.over due) t) p) (settle c g due t) (afterRound K.AtHead (K.Finished false))
      fun _ => K.Thrown false := by
  have hR : ∀ _ : String, K.full.Stable (K.Thrown false) := fun _ => stable_thrown
  have hclosing : ∀ s, At K.callbacks p s ∧ Outside (K.threw (K.holds .closing p.spot)) s → K.Thrown false s := fun s h =>
    ⟨h.2.1, Or.inr ⟨p, hr.held, hr.configured, hr.quiet, h.1, fun _ => h.2.2⟩⟩
  refine TripleE.bind hR (stop_triple stable_here) fun stopping => ?_
  split
  · refine TripleE.conseq (closeForGood_triple hr (Q := afterRound K.AtHead (K.Finished false)) (by simp)
      (Rely.Stable.const True) (fun _ _ _ _ => trivial) fun _ => TripleE.pure (stable_done.and (Rely.Stable.const True))
        fun _ _ h => Done.finished h.1) (fun s _ h => ?_) (fun _ _ _ h => h) fun _ _ _ h => h
    exact ⟨⟨h.1, K.conclude (.quiesced (.over due) t) _ _ _ rfl h.2⟩, trivial⟩
  · refine TripleE.bind hR ((callE (K.judge p.spot due t) hr.quiet.terminal).conseq (fun _ _ h => h) (fun _ _ _ h => h) fun _ s _ h => hclosing s h)
      fun r => ?_
    show TripleE _ _ (if unreported t r = true then _ else _) _ _
    split
    · rename_i hunreported
      refine TripleE.bind hR ((callE (K.report p.spot due t r hunreported) hr.quiet.terminal).conseq (fun _ _ h => h) (fun _ _ _ h => h)
        fun _ s _ h => hclosing s h) fun admitted => ?_
      split
      · exact TripleE.bind hR ((callE (K.rejudge p.spot due t) hr.quiet.terminal).conseq (fun _ _ h => h) (fun _ _ _ h => h)
          fun _ s _ h => hclosing s h) fun r => conclude_triple hr hspent
      · refine TripleE.conseq (closeForGood_triple hr (by simp) stable_blamed blamed_keep fun _ => giveUp_triple _ _)
          (fun s _ h => ?_) (fun _ _ _ h => h) fun _ _ _ h => h
        exact ⟨⟨h.1, h.2.2⟩, Or.inr h.2.1⟩
    · rename_i hreported
      refine TripleE.conseq (conclude_triple hr hspent (r := r)) (fun s _ h => ?_) (fun _ _ _ h => h) fun _ _ _ h => h
      exact ⟨h.1, K.reported _ _ _ _ _ _ (Bool.not_eq_true _ ▸ hreported) h.2⟩

end Contract

end MarketDataGateway.Recovery
