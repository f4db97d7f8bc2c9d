import MarketDataGateway.Recovery.Growth

/-!
# The attempt that is left

Whatever becomes of its thread, a coordinator has stopped every attempt that it has made, but for the one it has published. So whoever
joins the thread and stops the attempt that is published leaves none behind.
-/

namespace MarketDataGateway.Recovery

open BinanceTransport MarketRuntime OrderBook Threads

variable {L : ProjectionLibrary} {X ω α : Type} {c : Collaborators L X ω}

/-- Every attempt there has been has been stopped, but for the one that is published. -/
def Covered (s : World L X) : Prop :=
  ∀ g, .attemptCreated g ∈ s.calls → .attemptStopped g ∈ s.calls ∨ s.coordinator.activeAttempt = some g

/-- Every attempt there has been has been stopped, but for one. -/
def Confined (g : Nat) (s : World L X) : Prop := ∀ g', .attemptCreated g' ∈ s.calls → .attemptStopped g' ∈ s.calls ∨ g' = g

/-- The other threads do nothing about the attempts. -/
def covering (L : ProjectionLibrary) (X : Type) : Rely (World L X) where
  env s t := t.calls = s.calls ∧ t.coordinator.activeAttempt = s.coordinator.activeAttempt
  inv := Covered
  inv_env := by
    rintro s t hi ⟨hcalls, hactive⟩ g hg
    rw [hcalls] at hg ⊢
    rw [hactive]
    exact hi g hg

/-! ## What minor sections keep -/

section Minor

variable {s t : World L X} {g : Nat}

/-- A minor section leaves every attempt covered. -/
theorem Minor.covered (h : Minor s t) (hs : Covered s) : Covered t := by
  intro g hg
  refine (hs g (h.created g hg)).imp (fun hstopped => h.calls.subset hstopped) fun hactive => ?_
  rw [h.active]
  exact hactive

/-- A minor section makes no other attempt. -/
theorem Minor.confined (h : Minor s t) (hs : Confined g s) : Confined g t :=
  fun g' hg => (hs g' (h.created g' hg)).imp_left fun hstopped => h.calls.subset hstopped

/-- A minor section leaves every attempt stopped. -/
theorem Minor.settled (h : Minor s t) (hs : Settled s.calls) : Settled t.calls :=
  fun g' hg => h.calls.subset (hs g' (h.created g' hg))

/-- Where all attempts have been stopped any one may be excepted. -/
theorem Settled.confined (h : Settled s.calls) : Confined g s := fun g' hg => Or.inl (h g' hg)

/-- Once the excepted attempt has been stopped all of them have. -/
theorem Confined.settled (h : Confined g s) (hg : .attemptStopped g ∈ s.calls) : Settled s.calls := by
  intro g' hg'
  rcases h g' hg' with hstopped | rfl
  · exact hstopped
  · exact hg

/-- A new attempt is the only one that has not been stopped. -/
theorem Settled.published (h : Settled s.calls) : Covered (s.attemptPublished g) ∧ Confined g (s.attemptPublished g) := by
  have hboth : ∀ g', .attemptCreated g' ∈ (s.attemptPublished g).calls →
      .attemptStopped g' ∈ (s.attemptPublished g).calls ∨ g' = g := by
    intro g' hg'
    rcases List.mem_cons.mp hg' with he | hold
    · cases he
      exact Or.inr rfl
    · exact Or.inl (List.mem_cons_of_mem _ (h g' hold))
  exact ⟨fun g' hg' => (hboth g' hg').imp_right fun he => congrArg some he.symm, hboth⟩

/-- An attempt is released once it has been stopped. -/
theorem Covered.released (h : Covered s) (hg : .attemptStopped g ∈ s.calls) : Covered (s.attemptReleased g) := by
  intro g' hg'
  rcases h g' hg' with hstopped | hactive
  · exact Or.inl hstopped
  · by_cases hsame : g' = g
    · rw [hsame]
      exact Or.inl hg
    · refine Or.inr ?_
      show (if s.coordinator.activeAttempt = some g then none else s.coordinator.activeAttempt) = some g'
      rw [if_neg, hactive]
      rw [hactive]
      exact fun he => hsame (Option.some.inj he)

end Minor

/-! ## Pieces -/

/-- The other threads leave the calls as they are. -/
theorem stable_calls (P : List RecoveryCall → Prop) : (covering L X).Stable fun s => P s.calls := by
  rintro s t _ h ⟨hcalls, -⟩
  show P t.calls
  rw [hcalls]
  exact h

/-- The other threads make no attempt. -/
theorem stable_confined (g : Nat) : (covering L X).Stable (Confined g) :=
  stable_calls fun calls => ∀ g', .attemptCreated g' ∈ calls → .attemptStopped g' ∈ calls ∨ g' = g

/-- The other threads leave every attempt stopped. -/
theorem stable_settled : (covering L X).Stable fun s => Settled s.calls := stable_calls Settled

/-- A minor piece keeps what minor sections keep. -/
theorem minor_triple {P : World L X → Prop} {p : Recovering L X ω α} (hp : Throwing.All Minor p) (hstable : (covering L X).Stable P)
    (hkeep : ∀ s t, Minor s t → P s → P t) : TripleE (covering L X) P p (fun _ => P) fun _ => P := by
  refine (Triple.of_all hp hstable fun s t hi h hs => ⟨hs.covered hi, hkeep s t hs h⟩).post fun r s _ h => ?_
  cases r <;> exact h

/-- An ordinary section is minor. -/
theorem ordinary_minor (s t : World L X) (h : Ordinary s t) : Minor s t := h.toMinor

variable (h : c.Sections Minor)
include h

/-- A quiescence keeps what minor sections and the release keep; where it returns, the attempt has been stopped. -/
theorem quiesceAttempt_covered {P : World L X → Prop} (g : Nat) (hstable : (covering L X).Stable P)
    (hkeep : ∀ s t, Minor s t → P s → P t) (hreleased : ∀ s, P s → P (s.attemptReleased g)) :
    TripleE (covering L X) P (quiesceAttempt c g) (fun _ s => P s ∧ .attemptStopped g ∈ s.calls) fun _ => P := by
  have hstopped : (covering L X).Stable fun s => P s ∧ .attemptStopped g ∈ s.calls := hstable.and (stable_calls _)
  refine TripleE.bind (fun _ => hstable) (minor_triple (.lift (h.stopAttempt g)) hstable hkeep) fun _ => ?_
  refine TripleE.bind (fun _ => hstable) (Q := fun _ s => P s ∧ .attemptStopped g ∈ s.calls) ?_ fun _ => ?_
  · refine TripleE.lift (fun _ => hstopped) (Triple.modify hstable hstopped ?_)
    intro s hi hs
    have hminor : Minor s (s.note (.attemptStopped g)) := ordinary_minor _ _ ((Ordinary.refl s).note (by simp) rfl)
    exact ⟨hminor.covered hi, hkeep _ _ hminor hs, List.mem_cons_self⟩
  · -- whatever follows is minor, or it is the release of an attempt that has been stopped
    have hall := stopped_all (c := c) (G := fun s t => Minor s t ∨ t = s.attemptReleased g) (fun s t ho => Or.inl ho.toMinor)
      (h.mono fun _ _ => Or.inl) g fun _ => Or.inr rfl
    refine (Triple.of_all hall hstopped ?_).post fun r s _ hs => ?_
    · rintro s t hi ⟨hs, hg⟩ (hminor | rfl)
      · exact ⟨hminor.covered hi, hkeep s t hminor hs, hminor.calls.subset hg⟩
      · exact ⟨hi.released hg, hreleased s hs, hg⟩
    · cases r with
      | ok t => exact hs
      | error e => exact hs.1

/-- A quiescence stops its attempt and makes no other. -/
theorem quiesceConfined (g g' : Nat) : TripleE (covering L X) (Confined g) (quiesceAttempt c g')
    (fun _ s => Confined g s ∧ .attemptStopped g' ∈ s.calls) fun _ => Confined g :=
  quiesceAttempt_covered h g' (stable_confined g) (fun _ _ hs => hs.confined) fun _ hs => hs

/-- As long as it has an attempt, the coordinator leaves no other behind. -/
theorem wholes_confined (g : Nat) :
    Wholes c Minor fun _ p => TripleE (covering L X) (Confined g) p (fun _ => Confined g) fun _ => Confined g where
  piece hp := minor_triple hp (stable_confined g) fun _ _ hs => hs.confined
  bind hp hk := TripleE.bind (fun _ => stable_confined g) hp hk
  onThrow hp hc := TripleE.onThrow (fun _ => stable_confined g) (fun _ => stable_confined g) hp fun _ => hc
  quiesce g' := (quiesceConfined h g g').conseq (fun _ _ hs => hs) (fun _ _ _ hs => hs.1) fun _ _ _ hs => hs

/-- A new attempt is made only when all others have been stopped. -/
theorem createAttempt_covered (g : Nat) :
    TripleE (covering L X) (fun s => Settled s.calls) (createAttempt c g) (fun _ => Confined g) fun _ _ => True := by
  have hR : ∀ _ : String, (covering L X).Stable fun _ => True := fun _ => Rely.Stable.const True
  have hminor : ∀ {β : Type} {p : Recovering L X ω β}, Throwing.All Minor p →
      TripleE (covering L X) (Confined g) p (fun _ => Confined g) fun _ _ => True :=
    fun hp => ((wholes_confined h g).piece hp).conseq (fun _ _ hs => hs) (fun _ _ _ hs => hs) fun _ _ _ _ => trivial
  refine TripleE.bind hR (Q := fun _ s => Settled s.calls) ?_ fun created => ?_
  · exact (minor_triple (.of (h.createAttempt g)) stable_settled fun _ _ hs => hs.settled).conseq (fun _ _ hs => hs)
      (fun _ _ _ hs => hs) fun _ _ _ _ => trivial
  · cases created with
    | false => exact TripleE.pure stable_settled fun _ _ hs => hs.confined
    | true =>
      refine TripleE.bind hR (Q := fun _ => Confined g) ?_ fun _ => TripleE.bind hR (hminor (.of (h.observeAttempt g))) fun t => ?_
      · exact TripleE.lift (fun _ => stable_confined g) (Triple.modify stable_settled (stable_confined g) fun _ _ hs => hs.published)
      · exact TripleE.bind hR (hminor (act_all fun s => .onObservation _ s)) fun _ => TripleE.pure (stable_confined g) fun _ _ hs => hs

/-- A round that is followed by another one leaves no attempt behind. -/
theorem attemptRound_covered : TripleE (covering L X) (fun s => Settled s.calls) (attemptRound c)
    (fun again s => again = true → Settled s.calls) fun _ _ => True := by
  have hR : ∀ _ : String, (covering L X).Stable fun _ => True := fun _ => Rely.Stable.const True
  have hread : ∀ {β : Type} {P : World L X → Prop} (f : World L X → β), (covering L X).Stable P →
      TripleE (covering L X) P (.lift (Program.read f) : Recovering L X ω β) (fun _ => P) fun _ _ => True :=
    fun f hP => TripleE.lift (fun _ => hP) (Triple.read hP (fun _ => hP) fun _ _ hs => hs)
  refine TripleE.bind hR (hread _ stable_settled) fun stopping => ?_
  cases stopping with
  | true => exact TripleE.pure stable_settled fun _ _ hs _ => hs
  | false =>
    refine TripleE.bind hR (hread _ stable_settled) fun g => TripleE.bind hR (createAttempt_covered h g) fun created => ?_
    have hΦ := wholes_confined h g
    have hwhole : ∀ {β : Type} {p : Recovering L X ω β}, TripleE (covering L X) (Confined g) p (fun _ => Confined g) (fun _ => Confined g) →
        TripleE (covering L X) (Confined g) p (fun _ => Confined g) fun _ _ => True :=
      fun hp => hp.conseq (fun _ _ hs => hs) (fun _ _ _ hs => hs) fun _ _ _ _ => trivial
    have hgone : ∀ {p : Recovering L X ω Unit}, TripleE (covering L X) (Confined g) p (fun _ => Confined g) (fun _ => Confined g) →
        TripleE (covering L X) (Confined g) (do p; pure false : Recovering L X ω Bool) (fun again s => again = true → Settled s.calls)
          fun _ _ => True :=
      fun hp => TripleE.bind hR (hwhole hp) fun _ => TripleE.pure (stable_confined g) fun _ _ _ he => by cases he
    cases created with
    | false => exact hgone (hΦ.piece (act_all fun s => (setTerminal_ours _ _ s).toMinor))
    | true =>
      refine TripleE.bind hR (hread _ (stable_confined g)) fun stopping => ?_
      cases stopping with
      | true => exact hgone (hΦ.leave h ordinary_minor g)
      | false =>
        refine TripleE.bind hR (hwhole (hΦ.rotationSchedule h g)) fun schedule => ?_
        refine TripleE.bind hR (hwhole (hΦ.piece (act_all fun s => .onObservation _ s))) fun _ => ?_
        refine TripleE.bind hR (hwhole (hΦ.call (h.startAttempt g))) fun result => ?_
        refine TripleE.bind hR (hread _ (stable_confined g)) fun stopping => ?_
        cases stopping with
        | true => exact hgone (hΦ.leave h ordinary_minor g)
        | false =>
          have hend : ∀ ended, TripleE (covering L X) (Confined g) (match ended with
              | none => pure false
              | some plannedRotationDue => do
                let transport ← quiesceAttempt c g
                settle c g plannedRotationDue transport : Recovering L X ω Bool) (fun again s => again = true → Settled s.calls)
              fun _ _ => True := by
            intro ended
            cases ended with
            | none => exact TripleE.pure (stable_confined g) fun _ _ _ he => by cases he
            | some due =>
              refine TripleE.bind hR (Q := fun _ (s : World L X) => Settled s.calls) ?_ fun t => ?_
              · exact (quiesceConfined h g g).conseq (fun _ _ hs => hs) (fun _ _ _ hs => hs.1.settled hs.2) fun _ _ _ _ => trivial
              · exact (minor_triple (settle_all (fun _ _ ho => ho.toMinor) h g due t) stable_settled fun _ _ hs => hs.settled).conseq
                  (fun _ _ hs => hs) (fun _ _ _ hs _ => hs) fun _ _ _ _ => trivial
          rw [if_neg Bool.false_ne_true]
          dsimp only
          split
          · exact TripleE.bind hR (hwhole (hΦ.awaitEnd h ordinary_minor g schedule)) hend
          · exact TripleE.bind hR (hwhole (hΦ.pure _)) hend

/-! ## The whole loop -/

/-- The cleanup after an exception leaves every attempt covered. -/
theorem closeSourceAfterException_covered :
    Triple (covering L X) (fun _ => True) (closeSourceAfterException c) fun _ _ => True := by
  have htrue : (covering L X).Stable fun _ => True := Rely.Stable.const True
  have hminor : ∀ {β : Type} {p : Program (World L X) ω β}, p.All Minor → Triple (covering L X) (fun _ => True) p fun _ _ => True :=
    fun hp => Triple.of_all hp htrue fun _ _ hi _ hs => ⟨hs.covered hi, trivial⟩
  have hread : ∀ {β : Type} (f : World L X → β), Triple (covering L X) (fun _ => True) (Program.read f : Program (World L X) ω β) fun _ _ => True :=
    fun f => hminor (.atomic fun _ s => .refl s)
  have hclose : ∀ clean : Bool, Triple (covering L X) (fun _ => True) (if clean then do
      let _ ← (closeSourceGeneration c .permanentFailure).run
      pure () else pure () : Program (World L X) ω Unit) fun _ _ => True := by
    intro clean
    cases clean with
    | true => exact Triple.bind (hminor (close_all ordinary_minor h _)) fun _ => Triple.done htrue fun _ _ _ => trivial
    | false => exact Triple.done htrue fun _ _ _ => trivial
  refine Triple.bind (hread _) fun opened => ?_
  split
  · exact Triple.done htrue fun _ _ _ => trivial
  · refine Triple.bind (hread _) fun quiesced => Triple.bind (hread _) fun active => ?_
    dsimp only
    split
    · rename_i g
      have hquiesce := quiesceAttempt_covered h g (P := fun _ => True) htrue (fun _ _ _ hs => hs) fun _ hs => hs
      refine Triple.bind (Q := fun _ _ => True) (Triple.post hquiesce fun _ _ _ _ => trivial) fun r => ?_
      cases r with
      | ok t => exact hclose true
      | error e => exact Triple.bind (hminor (.atomic fun _ s => ordinary_minor _ _ ((Ordinary.refl s).note (by simp) rfl))) fun _ => hclose false
    · exact hclose true

/-- A round that is followed by another one leaves every attempt stopped. -/
theorem coordinatorRound_covered : Triple (covering L X) (fun s => Settled s.calls) (coordinatorRound c)
    (afterRound (fun s => Settled s.calls) fun _ => True) := by
  have htrue : (covering L X).Stable fun _ => True := Rely.Stable.const True
  have hexit : Triple (covering L X) (fun _ => True) (do Program.modify World.exit; pure false : Program (World L X) ω Bool)
      (afterRound (fun s => Settled s.calls) fun _ => True) :=
    Triple.bind (Triple.modify htrue htrue fun _ hi _ => ⟨hi, trivial⟩) fun _ => Triple.done htrue fun _ _ _ => trivial
  refine Triple.bind (Q := fun _ (s : World L X) => Settled s.calls) ?_ fun _ => Triple.bind (attemptRound_covered h) fun r => ?_
  · exact Triple.await stable_settled (fun _ => stable_settled) fun _ _ hi hs _ => ⟨hi, hs⟩
  · match r with
    | .ok true => exact Triple.done (stable_settled.imp) fun _ _ hs => hs rfl
    | .ok false => exact hexit.pre fun _ _ _ => trivial
    | .error e =>
      refine Triple.bind (Q := fun _ _ => True) ?_ fun _ => Triple.bind (closeSourceAfterException_covered h) fun _ =>
        Triple.bind (Q := fun _ _ => True) ?_ fun _ => hexit
      · exact Triple.modify htrue htrue fun s hi _ => ⟨Minor.covered (ordinary_minor _ _ ((Ordinary.refl s).note (by simp) rfl)) hi, trivial⟩
      · exact Triple.modify htrue htrue fun s hi _ => ⟨(setTerminal_ours _ _ s).toMinor.covered hi, trivial⟩

end MarketDataGateway.Recovery
