import MarketDataGateway.Recovery.Outcomes

/-!
# Rounds of the coordinator

One round leads from the head of the loop back to it or out of the loop, whatever is thrown in between. So what the invariant and the
contract say holds in every run.
-/

namespace MarketDataGateway.Recovery

open BinanceTransport MarketRuntime OrderBook Threads Promise

variable {L : ProjectionLibrary} {X ω : Type} {around : World L X → X → Prop} {c : Collaborators L X ω}

namespace Contract

variable {K : Contract L X ω around c} {σ : Stage L} {p : Place} {g : Nat}

/-! ## One attempt -/

/-- A round that is left for a shutdown ends the loop. -/
theorem leaveRound_triple (hu : Under c g p) (hσ : σ.underWay = true) :
    TripleE K.full (K.Here σ p) (do leaveForShutdown c g; pure false : Recovering L X ω Bool)
      (afterRound K.AtHead (K.Finished false)) fun _ => K.Thrown false := by
  rw [← hu.made]
  refine TripleE.bind (fun _ => stable_thrown) ((leave_triple hu.running hu.held hu.configured).conseq
    (fun s _ h => ⟨h.1, K.loosen _ _ _ _ hσ h.2⟩) (fun _ _ _ h => h) fun _ _ _ h => h) fun _ => ?_
  exact TripleE.pure stable_done fun _ _ h => h.finished

/-- An attempt from its end on. -/
theorem endedAttempt_triple (ended : Option Bool) :
    TripleE K.full (K.AfterEnd g ended)
      (match ended with
        | none => pure false
        | some plannedRotationDue => do
          let transport ← quiesceAttempt c g
          settle c g plannedRotationDue transport : Recovering L X ω Bool)
      (afterRound K.AtHead (K.Finished false)) fun _ => K.Thrown false := by
  have hR : ∀ _ : String, K.full.Stable (K.Thrown false) := fun _ => stable_thrown
  cases ended with
  | none => exact TripleE.pure stable_done fun _ _ h => Done.finished h
  | some due =>
    refine Triple.exists_pre fun q => Triple.pure_pre fun hq => ?_
    obtain ⟨hu, hspent⟩ := hq
    have hquiesce := quiesceAttempt_triple (K := K) (e := .over due) hu.running hu.held hu.configured
    rw [hu.made] at hquiesce
    refine TripleE.bind hR (hquiesce.conseq (fun _ _ h => h) (fun _ _ _ h => h) fun _ _ _ h => h.2) fun t => ?_
    exact (settle_triple hu.rested hspent).conseq (fun _ _ h => h.1) (fun _ _ _ h => h) fun _ _ _ h => h

/-- A round ends at the head of the loop, or finished, or in an exception. -/
theorem attemptRound_triple :
    TripleE K.full K.AtHead (attemptRound c) (afterRound K.AtHead (K.Finished false)) fun _ => K.Thrown false := by
  have hR : ∀ _ : String, K.full.Stable (K.Thrown false) := fun _ => stable_thrown
  refine Triple.exists_pre fun p => Triple.pure_pre fun hp => ?_
  refine TripleE.bind hR (stop_triple stable_here) fun stopping => ?_
  split
  · exact TripleE.pure stable_here fun s _ h => ⟨p, hp.held, hp.opened, h.1⟩
  refine TripleE.bind hR (read_triple (V := fun g => g = p.generation) stable_here fun s _ h => h.1.generation) fun g => ?_
  refine Triple.pure_pre fun hg => ?_
  subst hg
  refine TripleE.bind hR (createAttempt_triple hp) fun created => ?_
  cases created with
  | false => exact (giveUp_triple _ _).conseq (fun _ _ h => ⟨h.2, Or.inr h.1⟩) (fun _ _ _ h => h) fun _ _ _ h => h
  | true =>
    refine Triple.exists_pre fun q => Triple.pure_pre fun hf => ?_
    refine TripleE.bind hR (stop_triple stable_here) fun stopping => ?_
    split
    · exact leaveRound_triple hf.toUnder rfl
    refine TripleE.bind hR (rotationSchedule_triple hf) fun schedule => Triple.exists_pre fun q => Triple.pure_pre fun hq => ?_
    obtain ⟨hf, htimed⟩ := hq
    refine TripleE.bind hR (Q := fun _ => K.Here .created q) ?_ fun _ => ?_
    · exact act_here ⟨fun _ => rfl, fun _ => rfl, fun _ _ _ _ => Iff.rfl, fun _ => ⟨rfl, rfl, rfl⟩⟩ (fun s hst => hst.observed rfl rfl rfl rfl id) fun _ _ h => h
    have hl := K.start q.spot
    rw [hf.toUnder.spot_generation] at hl
    refine TripleE.bind hR ((callE hl hf.running.terminal).conseq (fun _ _ h => h) (fun _ _ _ h => h) fun _ s _ h => ?_) fun result => ?_
    · exact under_thrown (σ := .ending .loose) hf.toUnder rfl h
    refine TripleE.bind hR (stop_triple (P := K.Here (.started result) q) stable_here) fun stopping => ?_
    split
    · exact leaveRound_triple hf.toUnder rfl
    dsimp only
    split
    · rename_i hstarted
      subst hstarted
      exact TripleE.bind hR (awaitEnd_triple hf htimed) endedAttempt_triple
    · rename_i hnot
      refine TripleE.bind hR (Q := K.AfterEnd q.made) (TripleE.pure stable_here fun s _ h => ?_) fun ended => ?_
      · exact ⟨q, ⟨hf.made ▸ hf.toUnder, fun h => by cases h⟩, h.1, K.unstarted _ _ _ _ hnot h.2⟩
      · rw [hf.made]
        exact endedAttempt_triple ended

/-! ## The handlers -/

/-- With callbacks that return true no source generation is open, unless the cleanup after an exception has failed; with reliable
collaborators it has not. -/
def Sealed (K : Contract L X ω around c) (p : Place) (s : World L X) : Prop :=
  K.callbacks → p.opened = none ∨ (¬K.reliable ∧ .cleanupFailed ∈ s.calls)

/-- What the handlers leave behind: the source generation is closed as far as it can be, and no attempt is under way unless an
exception has escaped. -/
def Handled (K : Contract L X ω around c) (s : World L X) : Prop :=
  ∃ p : Place, (p.held = false ∧ p.terminal = false) ∧ At K.callbacks p s ∧ K.Sealed p s ∧
    ((p.phase ≠ .active ∧ p.counted = false) ∨ Escaped s.calls)

/-- What the handlers find: the attempt is to be given up and its source generation is open, or it has been quiesced, or the exception
has escaped. -/
inductive Found (K : Contract L X ω around c) (s : World L X) : Prop where
  | running (p : Place) (hheld : p.held = false) (hconf : Configured c p) (hrun : p.Running) (ho : p.opened.isSome = true)
      (h : K.Here (.ending .loose) p s)
  | stilled (h : K.Stilled false s)
  | escaped (p : Place) (hheld : p.held = false) (hrun : p.Running) (ho : p.opened = none) (he : Escaped s.calls)
      (h : At K.callbacks p s)

/-- An exception that has escaped stays on record. -/
theorem stable_escaped : K.full.Stable fun s => Escaped s.calls := by
  intro s t _ h hs
  rw [show t.calls = s.calls from ClientStep.calls hs]
  exact h

/-- Where no source generation is open nothing has to be sealed. -/
theorem sealed_of_closed (ho : p.opened = none) {s : World L X} : K.Sealed p s := fun _ => Or.inl ho

/-- A failed cleanup stays on record. -/
theorem stable_cleanupFailed : K.full.Stable fun s => .cleanupFailed ∈ s.calls := by
  intro s t _ h hs
  rw [show t.calls = s.calls from ClientStep.calls hs]
  exact h

/-- What is sealed stays sealed. -/
theorem stable_sealed : K.full.Stable (K.Sealed p) :=
  Rely.Stable.imp ((Rely.Stable.const _).or ((Rely.Stable.const _).and stable_cleanupFailed))

/-- What the handlers leave behind is stable. -/
theorem stable_handled : K.full.Stable K.Handled :=
  Rely.Stable.exists fun _ => (Rely.Stable.const _).and <| stable_at.and <|
    stable_sealed.and <| (Rely.Stable.const _).or stable_escaped

/-- What the handlers find is stable. -/
theorem stable_found : K.full.Stable K.Found := by
  intro s t hi h hs
  cases h with
  | running p hheld hconf hrun ho h => exact .running p hheld hconf hrun ho (stable_here s t hi h hs)
  | stilled h => exact .stilled (stable_stilled s t hi h hs)
  | escaped p hheld hrun ho he h => exact .escaped p hheld hrun ho (hs.calls ▸ he) (stable_at s t hi h hs)

/-- The handler of the loop notes what the exception has found. -/
theorem caught_triple :
    Triple K.full (K.Thrown false) (Program.modify (·.caught) : Program (World L X) ω Unit) fun _ s => ¬K.calm ∧ K.Found s := by
  have hown : Own (World.caught : World L X → World L X) :=
    ⟨fun _ => rfl, fun _ => rfl, fun s g d e => ⟨fun hd => (List.mem_cons.mp hd).resolve_left (by simp), List.mem_cons_of_mem _⟩,
      fun _ => ⟨rfl, rfl, rfl⟩⟩
  refine section_triple hown stable_thrown ((Rely.Stable.const _).and stable_found) ?_
  have hnote : ∀ (p : Place) (s : World L X), CoordinatorInv K.callbacks s → At K.callbacks p s →
      CoordinatorInv K.callbacks s.caught ∧ At K.callbacks p s.caught := fun p s hi ha => Stands.note ⟨hi, ha⟩ rfl
  rintro s hi ⟨hcalm, ⟨p, hheld, hconf, hrun, ha, ho⟩ | ⟨p, hheld, hconf, hq, ha, ho⟩⟩
  · obtain ⟨hi', ha'⟩ := hnote p s hi ha
    refine ⟨hi', hcalm, ?_⟩
    cases hopened : p.opened with
    | some g => exact .running p hheld hconf hrun (by rw [hopened]; rfl) ⟨ha', hown.outsideIff.mpr ho⟩
    | none =>
      refine .escaped p hheld hrun hopened (Or.inl ⟨p.made, ?_⟩) ha'
      show _ ∈ RecoveryCall.caught s.coordinator.activeAttempt s.coordinator.sourceGenerationOpen :: s.calls
      rw [ha.active, hrun.active, ha.opened, hopened]
      exact List.mem_cons_self
  · obtain ⟨hi', ha'⟩ := hnote p s hi ha
    exact ⟨hi', hcalm, .stilled ⟨p, hheld, hconf, hq, ha', fun hs => hown.outsideIff.mpr (ho hs)⟩⟩

/-- An attempt that is over needs no handling. -/
theorem Done.handled {s : World L X} (h : K.Done false s) : K.Handled s := by
  obtain ⟨p, hheld, hq, ho, ha⟩ := h
  exact ⟨p, ⟨hheld, hq.terminal⟩, ha, sealed_of_closed ho, Or.inl ⟨hq.phase, hq.counted⟩⟩

/-- Where callbacks may fail an attempt that was stilled is handled. -/
theorem Stilled.handled {s : World L X} (hr : ¬K.callbacks) (h : K.Stilled false s) : K.Handled s := by
  obtain ⟨p, hheld, -, hq, ha, -⟩ := h
  exact ⟨p, ⟨hheld, hq.terminal⟩, ha, fun h => absurd h hr, Or.inl ⟨hq.phase, hq.counted⟩⟩

/-- The last close swallows what it throws. -/
theorem lastClose_triple :
    Triple K.full (K.Stilled false)
      (do
        let _ ← (closeSourceGeneration c .permanentFailure).run
        pure () : Program (World L X) ω Unit)
      fun _ => K.Handled := by
  refine Triple.exists_pre fun p => Triple.pure_pre fun hheld => Triple.pure_pre fun hconf => Triple.pure_pre fun hq => ?_
  cases hopened : p.opened with
  | none =>
    -- there is nothing to close
    have hclose : TripleE K.full (fun s => At K.callbacks p s ∧ (p.opened.isSome = true → Outside (K.holds .closing p.spot) s))
        (closeSourceGeneration c .permanentFailure) (fun _ => K.Done false) fun _ => K.Done false := by
      have hstable : K.full.Stable fun s =>
          At K.callbacks p s ∧ (p.opened.isSome = true → Outside (K.holds .closing p.spot) s) :=
        stable_at.and (stable_outside _).imp
      refine TripleE.bind (fun _ => stable_done) (read_triple (V := fun opened => opened = none) hstable fun s _ h => ?_)
        fun opened => Triple.pure_pre fun hnone => ?_
      · exact h.1.opened.trans hopened
      · subst hnone
        cases c.sourceGenerationLifecycle <;> exact TripleE.pure hstable fun s _ h => ⟨p, hheld, hq, hopened, h.1⟩
    refine Triple.bind (hopened ▸ hclose) fun r => ?_
    cases r <;> exact Triple.done stable_done fun _ _ h => Done.handled h
  | some g =>
    have hsome : p.opened.isSome = true := by rw [hopened]; rfl
    refine Triple.bind (Triple.conseq (close_triple hq hheld hconf (by simp : SourceGenerationCloseOutcome.permanentFailure ≠ .replacement))
      (fun s _ h => ⟨h.1, h.2 (by rw [← hopened]; exact hsome)⟩) fun _ _ _ h => h) fun r => ?_
    cases r with
    | ok _ => exact Triple.done stable_done fun _ _ h => Done.handled h
    | error e => exact Triple.done ((Rely.Stable.const _).and stable_stilled) fun _ _ h => Stilled.handled h.1 h.2

/-- Reading the thread's own state in a handler. -/
theorem readHere_triple {α β : Type} {P : World L X → Prop} {f : World L X → α} {a : α} {k : α → Program (World L X) ω β}
    {S : β → World L X → Prop} (hP : K.full.Stable P) (hQ : ∀ s, CoordinatorInv K.callbacks s → P s → f s = a)
    (hk : Triple K.full P (k a) S) : Triple K.full P ((Program.read f).bind k) S := by
  refine Triple.bind (Q := fun b s => b = a ∧ P s) (Triple.read hP (fun _ => (Rely.Stable.const _).and hP)
    fun s hi h => ⟨hQ s hi.1 h, h⟩) fun b => Triple.pure_pre fun hb => ?_
  subst hb
  exact hk

/-- The cleanup after an exception handles what it finds, as far as it can. -/
theorem closeSourceAfterException_triple : Triple K.full K.Found (closeSourceAfterException c) fun _ => K.Handled := by
  intro s hi h
  cases h with
  | escaped p hheld hrun ho he h =>
    have hP : K.full.Stable fun s => At K.callbacks p s ∧ Escaped s.calls := stable_at.and stable_escaped
    refine readHere_triple (P := fun s => At K.callbacks p s ∧ Escaped s.calls) (a := none) hP (fun s _ h => h.1.opened.trans ho) ?_ s hi
      ⟨h, he⟩
    exact Triple.done hP fun s _ h => ⟨p, ⟨hheld, hrun.terminal⟩, h.1, sealed_of_closed ho, Or.inr h.2⟩
  | running p hheld hconf hrun ho h =>
    have hstable : K.full.Stable (K.Here (.ending .loose) p) := stable_here
    refine readHere_triple hstable (a := p.opened) (fun s _ h => h.1.opened) ?_ s hi h
    have hsome : p.opened.isNone = false := by rw [Option.isNone_eq_false_iff]; exact ho
    rw [hsome]
    refine readHere_triple hstable (a := false) (fun s _ h => h.1.quiesced.trans hrun.quiesced) ?_
    refine readHere_triple hstable (a := some p.made) (fun s _ h => h.1.active.trans hrun.active) ?_
    -- the attempt is quiesced once more
    have hquiesce := quiesceAttempt_triple (K := K) (e := .loose) hrun hheld hconf
    let quieted : Bool → World L X → Prop := fun clean s =>
      if clean then K.Stilled false s else ¬K.reliable ∧ K.Thrown false s ∧ .cleanupFailed ∈ s.calls
    have hquieted : ∀ clean, K.full.Stable (quieted clean) := by
      intro clean
      cases clean with
      | true => exact stable_stilled
      | false => exact (Rely.Stable.const _).and (stable_thrown.and stable_cleanupFailed)
    have hclose : ∀ clean, Triple K.full (quieted clean)
        (if clean then do
          let _ ← (closeSourceGeneration c .permanentFailure).run
          pure ()
        else pure () : Program (World L X) ω Unit) fun _ => K.Handled := by
      intro clean
      cases clean with
      | true => exact lastClose_triple
      | false =>
        refine Triple.done (hquieted false) ?_
        rintro s hi' ⟨hr, ⟨-, ⟨q, hqheld, -, hqrun, ha, -⟩ | ⟨q, hqheld, -, hqq, ha, -⟩⟩, he⟩
        · exact ⟨q, ⟨hqheld, hqrun.terminal⟩, ha, fun _ => Or.inr ⟨hr, he⟩, Or.inr (Or.inr he)⟩
        · exact ⟨q, ⟨hqheld, hqq.terminal⟩, ha, fun _ => Or.inr ⟨hr, he⟩, Or.inr (Or.inr he)⟩
    refine Triple.bind hquiesce fun r => ?_
    cases r with
    | ok t =>
      refine (hclose true).pre fun s _ h => ?_
      exact ⟨p.rest, hheld, hconf, hrun.rest, h.1.1, fun _ => K.conclude (.quiesced .loose t) _ _ _ rfl h.1.2⟩
    | error e =>
      refine Triple.bind (Q := fun _ => quieted false) (section_triple (own_note (by simp))
        ((Rely.Stable.const _).and stable_thrown) (hquieted false) ?_) fun _ => hclose false
      rintro s hi ⟨hr, ht⟩
      have hnote : ∀ p : Place, At K.callbacks p s → CoordinatorInv K.callbacks (s.note .cleanupFailed) ∧
          At K.callbacks p (s.note .cleanupFailed) := fun p ha => Stands.note ⟨hi, ha⟩ rfl
      have hown : Own (World.note .cleanupFailed : World L X → World L X) := own_note (by simp)
      rcases ht with ⟨hcalm, ⟨q, hqheld, hqconf, hqrun, ha, hq⟩ | ⟨q, hqheld, hqconf, hqq, ha, hq⟩⟩
      · exact ⟨(hnote q ha).1, hr, ⟨hcalm, Or.inl ⟨q, hqheld, hqconf, hqrun, (hnote q ha).2, hown.outsideIff.mpr hq⟩⟩,
          List.mem_cons_self⟩
      · exact ⟨(hnote q ha).1, hr, ⟨hcalm, Or.inr ⟨q, hqheld, hqconf, hqq, (hnote q ha).2, fun h => hown.outsideIff.mpr (hq h)⟩⟩,
          List.mem_cons_self⟩
  | stilled h =>
    obtain ⟨p, hheld, hconf, hq, ha, ho⟩ := h
    have hP : K.full.Stable fun s => At K.callbacks p s ∧ (p.opened.isSome = true → Outside (K.holds .closing p.spot) s) :=
      stable_at.and (stable_outside _).imp
    have hstilled : ∀ s, At K.callbacks p s ∧ (p.opened.isSome = true → Outside (K.holds .closing p.spot) s) → K.Stilled false s :=
      fun s h => ⟨p, hheld, hconf, hq, h.1, h.2⟩
    refine readHere_triple hP (a := p.opened) (fun s _ h => h.1.opened) ?_ s hi ⟨ha, ho⟩
    cases hopened : p.opened with
    | none =>
      exact Triple.done (hopened ▸ hP) fun s _ h =>
        ⟨p, ⟨hheld, hq.terminal⟩, h.1, sealed_of_closed hopened, Or.inl ⟨hq.phase, hq.counted⟩⟩
    | some g =>
      rw [← hopened, show p.opened.isNone = false by rw [hopened]; rfl]
      refine readHere_triple hP (a := true) (fun s _ h => ?_) ?_
      · rw [h.1.quiesced, hq.quiesced, hopened]
        rfl
      refine readHere_triple hP (a := none) (fun s _ h => h.1.active.trans hq.active) ?_
      exact lastClose_triple.pre fun s _ h => hstilled s h

/-! ## Before the thread is there -/

/-- A coordinator whose thread has not been created. -/
structure Untouched (K : Contract L X ω around c) (s : World L X) : Prop where
  created : s.coordinator.threadCreated = false
  running : s.coordinator.exited = false
  generation : s.coordinator.generation = 1
  calls : s.calls = []
  active : s.coordinator.activeAttempt = none
  opened : s.coordinator.sourceGenerationOpen = none
  quiesced : s.coordinator.sourceGenerationQuiesced = false
  consecutive : s.coordinator.observation.consecutiveRecoveryAttempts = 0
  held : s.coordinator.mutexHeld = false
  head : Outside (K.holds .head ⟨1, none, false, none⟩) s

/-- The thread is at the head of its loop, or it is not there yet. -/
def Head (K : Contract L X ω around c) (s : World L X) : Prop := K.AtHead s ∨ K.Untouched s

/-- The thread is gone. -/
def Gone (s : World L X) : Prop := s.coordinator.exited = true

/-- A thread that is created starts at the head of its loop. -/
theorem Untouched.atHead {s : World L X} (h : K.Untouched s) (hi : CoordinatorInv K.callbacks s)
    (hp : s.coordinator.startPending = true) : K.AtHead { s with coordinator := s.coordinator.createThread } := by
  have hterminal : s.coordinator.observation.terminal = false := by
    cases ht : s.coordinator.observation.terminal with
    | false => rfl
    | true =>
      rw [(hi.failed ht).2] at hp
      cases hp
  refine ⟨{ made := 0, last := 0 }, ⟨rfl, rfl, rfl, rfl, rfl, rfl, rfl, rfl, rfl, Nat.le_refl _, rfl⟩, ?_, h.head⟩
  refine ⟨rfl, h.running, h.generation, ?_, h.active, (hi.untouched h.created).2, h.opened, h.quiesced, fun _ => ?_, ?_, h.held,
    hterminal⟩
  · show AttemptWord _ _ (attemptCalls s.calls)
    rw [h.calls]
    exact .none
  · show SourceWord _ _ (invocations s.calls)
    rw [h.calls]
    exact .none
  · show startedSinceLive s.calls ≤ _
    rw [h.calls]
    exact Nat.zero_le _

/-- Another thread leaves the coordinator untouched or creates its thread. -/
theorem Untouched.step {s t : World L X} (h : K.Untouched s) (hi : K.full.inv s) (hs : ClientStep around s t) : K.Head t := by
  have hhead : Outside (K.holds .head ⟨1, none, false, none⟩) t := K.holds_step hi.2.1 h.head hs
  cases hs with
  | createThread hp => exact Or.inl (h.atHead hi.1 hp)
  | outside hx => exact Or.inr { h with head := hhead }
  | submit hc hs | requestStopToken hr | failStart hp hm => exact Or.inr { h with }
  | takeAttempt hr hj last => exact Or.inr { h with active := rfl }
  | finishStop hr hj ha hm | finishAcceptance hr hj hm transport => exact Or.inr { h with }
  | start hm =>
    revert hhead
    unfold Coordinator.start
    split
    · exact fun _ => Or.inr { h with }
    · split <;> exact fun _ => Or.inr { h with }
  | requestStop hm =>
    revert hhead
    unfold Coordinator.requestStop
    split
    · exact fun _ => Or.inr { h with }
    · split <;> exact fun hhead => Or.inr { h with head := hhead }
  | beginAcceptance hm =>
    revert hhead
    unfold Coordinator.beginAcceptance
    split
    · exact fun _ => Or.inr { h with }
    · exact fun hhead => Or.inr { h with head := hhead }

/-- The other threads leave the thread at the head of its loop. -/
theorem stable_head : K.full.Stable K.Head := by
  rintro s t hi (h | h) hs
  · exact Or.inl (stable_atHead s t hi h hs)
  · exact h.step hi hs

/-- A thread that is gone stays gone. -/
theorem stable_gone : K.full.Stable Gone := by
  intro s t _ h hs
  cases hs with
  | start hm =>
    unfold Gone Coordinator.start
    split
    · exact h
    · split <;> exact h
  | requestStop hm =>
    unfold Gone Coordinator.requestStop
    split
    · exact h
    · split <;> exact h
  | beginAcceptance hm =>
    unfold Gone Coordinator.beginAcceptance
    split <;> exact h
  | _ => exact h

/-! ## The loop -/

/-- The exit is a section of the thread's own. -/
theorem own_exit : Own (World.exit : World L X → World L X) := ⟨fun _ => rfl, fun _ => rfl, fun _ _ _ _ => Iff.rfl, fun _ => ⟨rfl, rfl, rfl⟩⟩

/-- The source generation is closed as far as it can be. -/
def Shut (K : Contract L X ω around c) (s : World L X) : Prop := ∃ p : Place, K.Sealed p s ∧ At K.callbacks p s

/-- A source generation that is shut stays shut. -/
theorem stable_shut : K.full.Stable K.Shut := Rely.Stable.exists fun _ => stable_sealed.and stable_at

/-- A thread on its way out has shut its source generation. -/
theorem Finished.shut {b : Bool} {s : World L X} (h : K.Finished b s) : K.Shut s := by
  obtain ⟨p, -, ho, ha⟩ := h
  exact ⟨p, sealed_of_closed ho, ha⟩

/-- The recovery becomes terminal with the failure that the handlers have caught. -/
theorem Handled.setTerminal {s : World L X} (h : K.Handled s) (hi : K.full.inv s) (hcalm : ¬K.calm) (error : String) :
    K.full.inv (s.setTerminal .internalFailure (internalError error)) ∧ K.Shut (s.setTerminal .internalFailure (internalError error)) := by
  obtain ⟨hcoordinator, hout, hg⟩ := hi
  obtain ⟨p, ⟨-, hterminal⟩, ha, ho, hq⟩ := h
  obtain ⟨b, hi', ha'⟩ := Stands.setTerminal ⟨hcoordinator, ha⟩ hterminal .internalFailure (internalError error) hq
  refine ⟨⟨hi', (setTerminal_outside _ _).mpr hout, hg.setTerminal hout (Or.inr hcalm) _ _⟩, { p with terminal := b }, fun hc => ?_,
    ha'⟩
  rw [setTerminal_calls]
  exact ho hc

/-- The thread may leave once its source generation is shut. -/
theorem Shut.exit {s : World L X} (h : K.Shut s) (hi : K.full.inv s) : K.full.inv s.exit := by
  obtain ⟨p, ho, ha⟩ := h
  obtain ⟨hcoordinator, hout, hg⟩ := hi
  exact ⟨Stands.exit ⟨hcoordinator, ha⟩ fun hc => (ho hc).imp id And.right, own_exit.outsideIff.mpr hout, hg.kept rfl (fun _ _ _ => Iff.rfl) ⟨rfl, rfl, rfl⟩⟩

/-- The handler of the loop ends it. -/
theorem handler_triple (error : String) :
    Triple K.full (K.Thrown false)
      (do
        Program.modify (·.caught)
        closeSourceAfterException c
        Program.modify (·.setTerminal .internalFailure (internalError error))
        Program.modify (·.exit)
        pure false : Program (World L X) ω Bool)
      (afterRound K.Head Gone) := by
  refine Triple.bind caught_triple fun _ => Triple.pure_pre fun hcalm => Triple.bind closeSourceAfterException_triple fun _ => ?_
  refine Triple.bind (Q := fun _ => K.Shut) ?_ fun _ => Triple.bind (Q := fun _ => Gone) ?_ fun _ =>
    Triple.done stable_gone fun _ _ h => h
  · exact Triple.modify stable_handled stable_shut fun s hi h => h.setTerminal hi hcalm error
  · exact Triple.modify stable_shut stable_gone fun s hi h => ⟨h.exit hi, rfl⟩

/-- A round of the loop ends at its head, or the thread is gone. -/
theorem coordinatorRound_triple : Triple K.full K.Head (coordinatorRound c) (afterRound K.Head Gone) := by
  refine Triple.bind (Q := fun _ => K.AtHead) (Triple.await stable_head (fun _ => stable_atHead) ?_) fun _ => ?_
  · rintro _ s hi (h | h) hc
    · exact ⟨hi, h⟩
    · rw [h.created] at hc
      cases hc
  refine Triple.bind attemptRound_triple fun r => ?_
  match r with
  | .ok true => exact Triple.done stable_atHead fun s _ h => Or.inl h
  | .ok false =>
    refine Triple.bind (Q := fun _ => Gone) (Triple.modify stable_finished stable_gone ?_) fun _ =>
      Triple.done stable_gone fun _ _ h => h
    exact fun s hi h => ⟨h.shut.exit hi, rfl⟩
  | .error e => exact handler_triple e

/-- A coordinator that has just been built. -/
theorem initial {x : X} (hinv : K.inv false x) (hhead : K.holds .head ⟨1, none, false, none⟩ false x) :
    K.full.inv { outside := x } ∧ K.Head { outside := x } := by
  have hgood : K.Good ({ outside := x } : World L X) :=
    ⟨fun g d e hd => (by cases hd), fun ht => (by cases ht), fun _ => K.ended_inv x hinv⟩
  refine ⟨⟨?_, hinv, hgood⟩, Or.inr ?_⟩
  · exact
      { halted := ⟨fun h => (by cases h), fun h => (by cases h), fun h => (by cases h)⟩
        created := fun h => by cases h
        pending := fun h => by cases h
        untouched := fun _ => ⟨rfl, rfl⟩
        failed := fun h => by cases h
        consecutive := rfl
        within := Nat.zero_le _
        attempts := Nat.zero_le _
        delays := fun n hn => by cases hn
        counts := ⟨Nat.zero_le _, Nat.zero_le _⟩
        word := ⟨_, _, .none⟩
        stoppedFirst := trivial
        source := fun _ => ⟨(fun call hc => by cases hc), _, _, .none, fun h => by cases h⟩
        terminal := fun h => by cases h }
  · exact ⟨rfl, rfl, rfl, rfl, rfl, rfl, rfl, rfl, rfl, hhead⟩

/-- What holds in every state of every run. -/
theorem reachable {x : X} (hinv : K.inv false x) (hhead : K.holds .head ⟨1, none, false, none⟩ false x)
    {ph : Phase (World L X) ω} {s : World L X} (h : Reachable around c x ph s) :
    CoordinatorInv K.callbacks s ∧ Outside K.inv s ∧ K.Good s :=
  (h.loopInv (E := K.full) rfl stable_head stable_gone (initial hinv hhead) coordinatorRound_triple).inv

end Contract

end MarketDataGateway.Recovery
