import MarketDataGateway.Runtime.Owner

/-!
# A book without its threads

What becomes of a book when nobody subscribes and its inputs come one at a time: a `Reading` is the book with what the runtime shows
of it, and the functions here say what each input makes of a reading. Replaying a buffer behind a baseline and applying the same
updates one after another come to the same: `replay_publish`.
-/

namespace MarketDataGateway.MarketRuntime

variable {L : ProjectionLibrary}

/-- The book and what the runtime shows of it. -/
structure Reading (L : ProjectionLibrary) where
  projection : L.Projection
  generation : Option Nat
  state : RuntimeState
  accepting : Bool
  lastUpdateId : Option Nat
  lastGap : Option L.GapInfo
  lastApply : Option L.ApplyResult
  adapterError : Option L.AdapterError
  faultReason : Option FaultReason
  observedGeneration : Option Nat

def Impl.reading (s : Impl L) : Reading L :=
  ⟨s.book.projection, s.book.currentProjectionGeneration, s.mail.observation.state, s.mail.accepting, s.mail.observation.lastUpdateId,
    s.mail.observation.lastGap, s.mail.observation.lastApply, s.mail.observation.adapterError, s.mail.observation.faultReason,
    s.mail.observation.currentProjectionGeneration⟩

/-- A state that the projection's next state replaces. -/
def RuntimeState.follows (state : RuntimeState) : Prop := state ≠ .faulted ∧ state ≠ .stopping ∧ state ≠ .stopped

instance (state : RuntimeState) : Decidable state.follows := inferInstanceAs (Decidable (_ ∧ _ ∧ _))

/-- The state that goes with the projection's status follows the projection. -/
theorem follows_stateForProjection (status : ProjectionStatus) : (stateForProjection status).follows := by
  cases status <;> decide

namespace Reading

def refresh (r : Reading L) : Reading L :=
  { r with
    lastUpdateId := L.lastUpdateId r.projection
    lastGap := L.lastGap r.projection
    observedGeneration := r.generation }

def fault (reason : FaultReason) (error : Option L.AdapterError) (r : Reading L) : Reading L :=
  { r.refresh with
    accepting := false
    faultReason := some reason
    adapterError := error
    state := .faulted }

def publish (r : Reading L) : Reading L :=
  { r.refresh with
    state := if r.state.follows then stateForProjection (L.status r.projection) else r.state
    accepting := if L.status r.projection = .needsResync then false else r.accepting }

/-- An update is applied. -/
def apply (setup : Setup L) (input : DepthUpdateInput L) (r : Reading L) : Reading L :=
  if r.generation.isSome ∧ input.provenance.connectionGeneration.isSome ∧ r.generation ≠ input.provenance.connectionGeneration then
    r.fault .internalError none
  else
    match L.adaptDepthUpdate input.update (L.numericSpec r.projection) setup.expectedIdentity with
    | .error error => r.fault .adapterError (some error)
    | .ok batch =>
      match L.applyTo batch r.projection with
      | (.error error, projection) => { r with projection := projection }.fault .adapterError (some error)
      | (.ok result, projection) => { r with projection := projection, lastApply := some result }.publish

/-- Nothing more of a buffer is applied. -/
def ends (r : Reading L) : Bool := L.status r.projection = .needsResync || r.state = .faulted

/-- A buffer is replayed. -/
def replay (setup : Setup L) : List (DepthUpdateInput L) → Reading L → Reading L
  | [], r => r
  | input :: rest, r => if (r.apply setup input).ends then r.apply setup input else replay setup rest (r.apply setup input)

/-- A baseline is installed, with a buffer behind it. -/
def install (setup : Setup L) (buffer : List (DepthUpdateInput L)) (input : SnapshotInput L) (r : Reading L) : Reading L :=
  match L.adaptExchangeDepthSnapshot input.snapshot (L.numericSpec r.projection) setup.expectedIdentity with
  | .error error => r.fault .adapterError (some error)
  | .ok baseline =>
    match L.installInto baseline r.projection with
    | (.error error, projection) => { r with projection := projection }.fault .adapterError (some error)
    | (.ok result, projection) =>
      if L.installed result then
        ({ r with
          projection := projection
          generation := input.provenance.connectionGeneration
          observedGeneration := input.provenance.connectionGeneration }.replay setup buffer).publish
      else { r with projection := projection }.fault .projectionRejected none

/-- An update is submitted, and applied when it is not refused. -/
def feed (setup : Setup L) (r : Reading L) (input : DepthUpdateInput L) : Reading L :=
  if r.accepting then r.apply setup input else r

/-! ## What is overwritten -/

/-- The readings differ at most in what the next publication overwrites. -/
structure Alike (r r' : Reading L) : Prop where
  projection : r.projection = r'.projection
  generation : r.generation = r'.generation
  accepting : r.accepting = r'.accepting
  lastApply : r.lastApply = r'.lastApply
  adapterError : r.adapterError = r'.adapterError
  faultReason : r.faultReason = r'.faultReason
  follows : r.state.follows
  follows' : r'.state.follows

variable {setup : Setup L} {r r' : Reading L}

/-- Readings alike are published alike. -/
theorem Alike.publish (h : Alike r r') : r.publish = r'.publish := by
  obtain ⟨hp, hg, ha, hl, he, hf, hs, hs'⟩ := h
  unfold Reading.publish refresh
  rw [if_pos hs, if_pos hs', hp, hg, ha, hl, he, hf]

/-- A fault makes readings alike the same. -/
theorem Alike.fault (h : Alike r r') (reason : FaultReason) (error : Option L.AdapterError) :
    r.fault reason error = r'.fault reason error := by
  obtain ⟨hp, hg, -, hl, -, -, -, -⟩ := h
  unfold Reading.fault refresh
  rw [hp, hg, hl]

/-- An application makes readings alike the same. -/
theorem Alike.apply (h : Alike r r') (input : DepthUpdateInput L) : r.apply setup input = r'.apply setup input := by
  unfold Reading.apply
  rw [← h.generation, ← h.projection]
  split
  · exact h.fault _ _
  · split
    · exact h.fault _ _
    · split
      · apply Alike.fault
        exact ⟨rfl, rfl, h.accepting, h.lastApply, h.adapterError, h.faultReason, h.follows, h.follows'⟩
      · apply Alike.publish
        exact ⟨rfl, rfl, h.accepting, rfl, h.adapterError, h.faultReason, h.follows, h.follows'⟩

/-- Readings alike are published alike behind a replay. -/
theorem Alike.replay (h : Alike r r') (buffer : List (DepthUpdateInput L)) :
    (r.replay setup buffer).publish = (r'.replay setup buffer).publish := by
  cases buffer with
  | nil => exact h.publish
  | cons input rest =>
    unfold Reading.replay
    rw [h.apply]

/-- An install makes readings alike the same. -/
theorem Alike.install (h : Alike r r') (buffer : List (DepthUpdateInput L)) (input : SnapshotInput L) :
    r.install setup buffer input = r'.install setup buffer input := by
  unfold Reading.install
  rw [← h.projection]
  split
  · exact h.fault _ _
  · split
    · apply Alike.fault
      exact ⟨rfl, h.generation, h.accepting, h.lastApply, h.adapterError, h.faultReason, h.follows, h.follows'⟩
    · split
      · refine Alike.replay ?_ buffer
        exact ⟨rfl, rfl, h.accepting, h.lastApply, h.adapterError, h.faultReason, h.follows, h.follows'⟩
      · apply Alike.fault
        exact ⟨rfl, h.generation, h.accepting, h.lastApply, h.adapterError, h.faultReason, h.follows, h.follows'⟩

/-- A published state is published already. -/
theorem publish_publish (r : Reading L) : r.publish.publish = r.publish := by
  have hfollows := follows_stateForProjection (L.status r.projection)
  unfold publish refresh
  by_cases h : r.state.follows
  · simp [h, hfollows]
  · simp [h]

/-- There is nothing to publish behind a fault. -/
theorem publish_fault (reason : FaultReason) (error : Option L.AdapterError) (r : Reading L) :
    (r.fault reason error).publish = r.fault reason error := by
  have hfollows : ¬RuntimeState.faulted.follows := by decide
  unfold publish fault refresh
  simp [hfollows]

/-! ## A buffer behind a baseline -/

/-- A reading that goes on taking updates. -/
structure Open (r : Reading L) : Prop where
  accepting : r.accepting = true
  follows : r.state.follows
  baseline : L.status r.projection ≠ .awaitingBaseline
  synced : L.status r.projection ≠ .needsResync

/-- A reading in sync is published as it is. -/
theorem alike_publish (hf : r.state.follows) (hs : L.status r.projection ≠ .needsResync) : Alike r.publish r := by
  refine ⟨rfl, rfl, ?_, rfl, rfl, rfl, ?_, hf⟩
  · show (if L.status r.projection = .needsResync then false else r.accepting) = r.accepting
    rw [if_neg hs]
  · show (if r.state.follows then stateForProjection (L.status r.projection) else r.state).follows
    rw [if_pos hf]
    exact follows_stateForProjection _

/-- An open reading differs from its publication in the published fields only. -/
theorem Open.alike (h : Open r) : Alike r.publish r := alike_publish h.follows h.synced

/-- Publishing keeps a reading open. -/
theorem Open.publish (h : Open r) : Open r.publish := ⟨h.alike.accepting.trans h.accepting, h.alike.follows, h.baseline, h.synced⟩

/-- The replay goes on with an open reading. -/
theorem Open.goes_on (h : Open r) : r.ends = false := by
  have hfaulted := h.follows.1
  have hsynced := h.synced
  simp [ends, hfaulted, hsynced]

/-- A fault ends the replay. -/
theorem fault_ends (reason : FaultReason) (error : Option L.AdapterError) (r : Reading L) : (r.fault reason error).ends = true := by
  simp [ends, fault]

end Reading

/-- What is asked of the library: a new or reset projection waits for a baseline, an installed baseline ends that, no update brings
it back, and a projection does not fall out of sync by being given its baseline. -/
structure ProjectionLibrary.Lawful (L : ProjectionLibrary) : Prop where
  created : ∀ spec identity, L.status (L.create spec identity) = .awaitingBaseline
  reset : ∀ projection, L.status (L.reset projection) = .awaitingBaseline
  installed : ∀ baseline projection result projection', L.installInto baseline projection = (.ok result, projection') →
    L.installed result = true → L.status projection' ≠ .awaitingBaseline ∧ L.status projection' ≠ .needsResync
  applied : ∀ batch projection result projection', L.applyTo batch projection = (.ok result, projection') →
    L.status projection ≠ .awaitingBaseline → L.status projection' ≠ .awaitingBaseline

namespace Reading

variable {setup : Setup L} {r r' : Reading L}

/-- An update ends the matter or leaves the reading open, and what it leaves is published. -/
theorem Open.apply (setup : Setup L) (hL : L.Lawful) (h : Open r) (input : DepthUpdateInput L) :
    (r.apply setup input).publish = r.apply setup input ∧
      ((r.apply setup input).ends = true ∧ (r.apply setup input).accepting = false ∨
        (r.apply setup input).ends = false ∧ Open (r.apply setup input)) := by
  unfold Reading.apply
  split
  · exact ⟨publish_fault _ _ _, .inl ⟨fault_ends _ _ _, rfl⟩⟩
  · split
    · exact ⟨publish_fault _ _ _, .inl ⟨fault_ends _ _ _, rfl⟩⟩
    · split
      · exact ⟨publish_fault _ _ _, .inl ⟨fault_ends _ _ _, rfl⟩⟩
      · rename_i result projection happly
        have hbaseline := hL.applied _ _ _ _ happly h.baseline
        refine ⟨publish_publish _, ?_⟩
        by_cases hgap : L.status projection = .needsResync
        · exact .inl ⟨by simp [ends, Reading.publish, refresh, hgap], by simp [Reading.publish, refresh, hgap]⟩
        · have hopen : Open { r with projection := projection, lastApply := some result } :=
            ⟨h.accepting, h.follows, hbaseline, hgap⟩
          exact .inr ⟨hopen.publish.goes_on, hopen.publish⟩

/-- Nothing gets into a reading that takes nothing. -/
theorem foldl_feed_shut (h : r.accepting = false) (updates : List (DepthUpdateInput L)) : updates.foldl (feed setup) r = r := by
  induction updates with
  | nil => rfl
  | cons input rest ih =>
    rw [List.foldl_cons, feed, h]
    exact ih

/-- A buffer is replayed as its updates would have been applied one after another. -/
theorem replay_publish (hL : L.Lawful) (h : Open r) (buffer : List (DepthUpdateInput L)) :
    (r.replay setup buffer).publish = buffer.foldl (feed setup) r.publish := by
  induction buffer generalizing r with
  | nil => rfl
  | cons input rest ih =>
    have hfed : feed setup r.publish input = r.apply setup input := by
      rw [feed, h.alike.accepting, if_pos h.accepting]
      exact h.alike.apply input
    obtain ⟨hpublished, hends⟩ := h.apply setup hL input
    rw [List.foldl_cons, hfed, replay]
    rcases hends with ⟨hends, hshut⟩ | ⟨hends, hopen⟩
    · rw [if_pos hends, hpublished, foldl_feed_shut hshut]
    · rw [hends, if_neg Bool.false_ne_true, ih hopen, hpublished]

/-- A reading that waits for its baseline. -/
structure Waiting (r : Reading L) : Prop where
  accepting : r.accepting = true
  state : r.state = .buffering
  status : L.status r.projection = .awaitingBaseline

/-- The state of a reading that waits follows its projection. -/
theorem Waiting.follows (h : Waiting r) : r.state.follows := by
  rw [h.state]
  decide

/-- A waiting reading differs from its publication in the published fields only. -/
theorem Waiting.alike (h : Waiting r) : Alike r.publish r := by
  refine alike_publish h.follows ?_
  rw [h.status]
  decide

/-- Publishing keeps a reading waiting. -/
theorem Waiting.publish (h : Waiting r) : Waiting r.publish := by
  refine ⟨h.alike.accepting.trans h.accepting, ?_, h.status⟩
  show (if r.state.follows then stateForProjection (L.status r.projection) else r.state) = .buffering
  rw [if_pos h.follows, h.status]
  rfl

/-- With its baseline a reading is open, or has failed. -/
theorem Waiting.install (hL : L.Lawful) (h : Waiting r) (input : SnapshotInput L)
    (ha : (r.install setup [] input).accepting = true) : Open (r.install setup [] input) := by
  revert ha
  unfold Reading.install
  split
  · exact fun ha => by cases ha
  · split
    · exact fun ha => by cases ha
    · rename_i result projection hinstall
      split
      · rename_i hinstalled
        obtain ⟨hbaseline, hsynced⟩ := hL.installed _ _ _ _ hinstall hinstalled
        refine fun _ => Open.publish ?_
        exact ⟨h.accepting, h.follows, hbaseline, hsynced⟩
      · exact fun ha => by cases ha

/-- A baseline with a buffer behind it is the baseline and then the updates. -/
theorem install_buffered (hL : L.Lawful) (h : Waiting r) (buffer : List (DepthUpdateInput L)) (input : SnapshotInput L) :
    r.install setup buffer input = buffer.foldl (feed setup) (r.install setup [] input) := by
  unfold install
  split
  · exact (foldl_feed_shut rfl buffer).symm
  · split
    · exact (foldl_feed_shut rfl buffer).symm
    · rename_i result projection hinstall
      split
      · rename_i hinstalled
        obtain ⟨hbaseline, hsynced⟩ := hL.installed _ _ _ _ hinstall hinstalled
        refine replay_publish hL ?_ buffer
        exact ⟨h.accepting, h.follows, hbaseline, hsynced⟩
      · exact (foldl_feed_shut rfl buffer).symm

end Reading

end MarketDataGateway.MarketRuntime
