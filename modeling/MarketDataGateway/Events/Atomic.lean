import MarketDataGateway.Events.Publication

/-!
# Calls in one section

The publication's mutex is held throughout a call, so to whoever else needs the mutex a call is one section. Here each call is the
function that its program computes when it runs by itself, and what the calls do to the source is said once.
-/

namespace MarketDataGateway.Events

open Threads Program EventPublication

variable {T : EventTypes}

namespace EventPublication

/-- `close_generation_replaced` from its lock on. -/
def closeReplaced (generation : Nat) (publishedAt : EventPublicationTime) (s : EventPublication T) : Bool × EventPublication T :=
  if s.isQuiescedAt generation then
    (true, { s.channels.foldl (fun s channel => s.terminalizeReplaced generation publishedAt channel) s with sourceState := .closed })
  else (false, s)

/-- `close_generation_permanently` from its lock on. -/
def closePermanently (generation : Nat) (s : EventPublication T) : Bool × EventPublication T :=
  if s.isQuiescedAt generation then
    let closed := s.channels.foldl (fun s channel => s.closeUnavailable generation channel) s
    (true, { closed with sourceState := .permanentlyClosed, log := .closedPermanently generation :: closed.log })
  else (false, s)

/-- `shutdown` from its lock on. -/
def shutDown (s : EventPublication T) : EventPublication T :=
  let begun := s.beginShutdown
  if begun.1 then begun.2.channels.foldl (fun s channel => s.closeFromOwner channel) begun.2 else begun.2

/-- A session whose numbers have run out. -/
def numbersRunOut (s : EventPublication T) : Bool := s.sessions.any (·.channel.nextSessionSequence = maxUInt64)

end EventPublication

variable {W : EventOutcome T → Prop} {s t : EventPublication T} {generation : Nat}

/-! ## The functions and the programs -/

/-- Under the lock a replacement is `closeReplaced`, at the time it has been given. -/
theorem evaluates_closeGenerationReplaced (hW : ∃ w, W w) {publishedAt : EventPublicationTime}
    (htime : ∀ w, W w → w.sampled = some publishedAt) {r : Bool} :
    Evaluates W (closeGenerationReplaced generation) s r t ↔ (r, t) = s.closeReplaced generation publishedAt := by
  have hbody : Evaluates W (do
        let quiesced ← read (isQuiescedAt generation)
        if quiesced then do
          terminalizeReplacedLocked generation publishedAt
          modify fun s => { s with sourceState := .closed }
          pure true
        else pure false : EventProgram T Bool) s r t ↔ (r, t) = s.closeReplaced generation publishedAt := by
    unfold closeReplaced terminalizeReplacedLocked
    simp only [evaluates_bind, evaluates_read hW, exists_and_left, exists_eq_left, and_assoc]
    cases s.isQuiescedAt generation with
    | true =>
      simp [evaluates_bind, evaluates_read hW, evaluates_forEach_modify hW, evaluates_modify hW, evaluates_pure]
    | false => simp [evaluates_pure]
  unfold closeGenerationReplaced
  rw [evaluates_bind]
  constructor
  · rintro ⟨sampled, m, hs, h⟩
    obtain ⟨⟨w, hw, rfl⟩, rfl⟩ := evaluates_choose.mp hs
    rw [htime w hw] at h
    exact hbody.mp h
  · intro h
    exact ⟨some publishedAt, s, evaluates_choose.mpr ⟨hW.imp fun w hw => ⟨hw, htime w hw⟩, rfl⟩, hbody.mpr h⟩

/-- Under the lock a permanent close is `closePermanently`. -/
theorem evaluates_closeGenerationPermanently (hW : ∃ w, W w) {r : Bool} :
    Evaluates W (closeGenerationPermanently generation) s r t ↔ (r, t) = s.closePermanently generation := by
  unfold closeGenerationPermanently closePermanently
  simp only [evaluates_bind, evaluates_read hW, exists_and_left, exists_eq_left, and_assoc]
  cases s.isQuiescedAt generation with
  | true => simp [evaluates_bind, evaluates_read hW, evaluates_forEach_modify hW, evaluates_modify hW, evaluates_pure]
  | false => simp [evaluates_pure]

/-- Under the lock a shutdown is `shutDown`. -/
theorem evaluates_shutdown (hW : ∃ w, W w) {r : Unit} : Evaluates W shutdown s r t ↔ t = s.shutDown := by
  unfold shutdown shutDown
  generalize hb : s.beginShutdown = begun
  obtain ⟨first, m⟩ := begun
  simp only [evaluates_bind, evaluates_section hW, hb, Prod.mk.injEq]
  cases first with
  | true => simp [and_assoc, evaluates_bind, evaluates_read hW, evaluates_forEach_modify hW]
  | false => simp [evaluates_pure]

/-! ## The source -/

/-- The source is as it was. -/
def SameSource (s t : EventPublication T) : Prop := t.sourceState = s.sourceState ∧ t.sourceGeneration = s.sourceGeneration

/-- Two calls that leave the source alone leave it alone. -/
theorem SameSource.trans {r : EventPublication T} (h : SameSource r s) (h' : SameSource s t) : SameSource r t :=
  ⟨h'.1.trans h.1, h'.2.trans h.2⟩

/-- Updates of the sessions leave the source as it is. -/
theorem sameSource_foldl {f : EventPublication T → Nat → EventPublication T} (hf : ∀ s channel, SameSource s (f s channel))
    (channels : List Nat) (s : EventPublication T) : SameSource s (channels.foldl f s) := by
  induction channels generalizing s with
  | nil => exact ⟨rfl, rfl⟩
  | cons channel rest ih => exact (hf s channel).trans (ih (f s channel))

/-- A source is replaced only when it has been quiesced. -/
theorem closeReplaced_cases (s : EventPublication T) (generation : Nat) (publishedAt : EventPublicationTime) :
    (s.isQuiescedAt generation = true ∧ (s.closeReplaced generation publishedAt).1 = true ∧
        (s.closeReplaced generation publishedAt).2.sourceState = .closed ∧
          (s.closeReplaced generation publishedAt).2.sourceGeneration = s.sourceGeneration) ∨
      (s.isQuiescedAt generation = false ∧ s.closeReplaced generation publishedAt = (false, s)) := by
  unfold closeReplaced
  cases hq : s.isQuiescedAt generation with
  | true =>
    have hsame := sameSource_foldl (f := fun s channel => s.terminalizeReplaced generation publishedAt channel)
      (fun _ _ => ⟨rfl, rfl⟩) s.channels s
    exact Or.inl ⟨rfl, rfl, rfl, hsame.2⟩
  | false => exact Or.inr ⟨rfl, rfl⟩

/-- A close for good succeeds on a generation that is quiesced, or changes nothing. -/
theorem closePermanently_cases (s : EventPublication T) (generation : Nat) :
    (s.isQuiescedAt generation = true ∧ (s.closePermanently generation).1 = true ∧
        (s.closePermanently generation).2.sourceState = .permanentlyClosed ∧
          (s.closePermanently generation).2.sourceGeneration = s.sourceGeneration) ∨
      (s.isQuiescedAt generation = false ∧ s.closePermanently generation = (false, s)) := by
  unfold closePermanently
  cases hq : s.isQuiescedAt generation with
  | true =>
    have hsame := sameSource_foldl (f := fun s channel => s.closeUnavailable generation channel)
      (fun _ _ => ⟨rfl, rfl⟩) s.channels s
    exact Or.inl ⟨rfl, rfl, rfl, hsame.2⟩
  | false => exact Or.inr ⟨rfl, rfl⟩

/-- A shutdown changes the state of the source and not its generation. -/
theorem shutDown_source (s : EventPublication T) :
    s.shutDown.sourceState = .shutdown ∧ s.shutDown.sourceGeneration = s.sourceGeneration := by
  have hsame := sameSource_foldl (f := fun s channel => s.closeFromOwner channel) (fun _ _ => ⟨rfl, rfl⟩)
    s.beginShutdown.2.channels s.beginShutdown.2
  unfold shutDown
  unfold beginShutdown at hsame ⊢
  split
  · rename_i hs
    exact ⟨hs, rfl⟩
  · rename_i hs
    rw [if_neg hs] at hsame
    exact hsame

/-- Admitting a session leaves the source alone. -/
theorem sameSource_admitLocked (setup : EventPublicationSetup) (subscription : ValidatedEventSubscription)
    (publishedAt : EventPublicationTime) (throws : Bool) (s : EventPublication T) :
    SameSource s (s.admitLocked setup subscription publishedAt throws).2 := by
  unfold admitLocked
  dsimp only
  repeat' first
    | exact ⟨rfl, rfl⟩
    | split

/-- A call for a session leaves the source alone. -/
theorem sameSource_admitSubscription {setup : EventPublicationSetup} {subscription : ValidatedEventSubscription}
    {r : Except EventSubscriptionAdmissionError Nat} (h : Evaluates W (admitSubscription setup subscription) s r t) :
    SameSource s t := by
  obtain ⟨sampled, m, hs, h⟩ := evaluates_bind.mp h
  obtain ⟨-, rfl⟩ := evaluates_choose.mp hs
  cases sampled with
  | none =>
    obtain ⟨-, rfl⟩ := evaluates_pure.mp h
    exact ⟨rfl, rfl⟩
  | some publishedAt =>
    obtain ⟨w', -, hw'⟩ := evaluates_atomic.mp h
    rw [show t = _ from (congrArg Prod.snd hw').symm]
    exact sameSource_admitLocked _ _ _ _ _

/-- A writer's step leaves the source alone. -/
theorem WriterStep.sameSource (h : WriterStep s t) : SameSource s t := by
  cases h <;> exact ⟨rfl, rfl⟩

/-! ## Publishing -/

/-- Without failures of the clock or an allocation. -/
def EventOutcome.Fine (w : EventOutcome T) : Prop := w.sampled.isSome = true ∧ w.throws = false

/-- A channel that is handed an event refuses it only when its numbers have run out. -/
theorem EventSubscriberChannel.admitEvent_failure {c : EventSubscriberChannel T} {event : NormalizedMarketEvent T}
    {publishedAt : EventPublicationTime} {address : Nat} (hstream : normalizedEventStream event = c.stream)
    (h : (c.admitEvent event publishedAt (some address)).1 = .allocationFailure) :
    c.nextSessionSequence = maxUInt64 ∧ (c.admitEvent event publishedAt (some address)).2 = c := by
  unfold admitEvent at h ⊢
  split
  · rename_i hs
    simp [hs] at h
  · rename_i hs
    rw [if_neg hs, if_neg (by simp [hstream])] at h
    rw [if_neg (by simp [hstream])]
    split
    · rename_i hf
      simp [hf] at h
    · rename_i hf
      rw [if_neg hf] at h
      split
      · rename_i hm
        exact ⟨hm, rfl⟩
      · rename_i hm
        rw [if_neg hm] at h
        obtain ⟨c₁, hp, -⟩ := ringPushLocked_some
          (⟨address, ⟨c.nextSessionSequence, some c.sourceGeneration, publishedAt, .event event⟩⟩ :
            Shared (EventPublicationRecord T)) (Nat.lt_of_le_of_ne c.ordinaryRing.size_le hf)
        simp [hp] at h

/-- Publishing to a session leaves the source alone. -/
theorem publishTo_source (event : NormalizedMarketEvent T) (generation : Nat) (publishedAt : EventPublicationTime) (channel : Nat)
    (throws : Bool) (s : EventPublication T) : SameSource s (s.publishTo event generation publishedAt channel throws).2 := by
  unfold publishTo
  generalize (if throws then none else some s.nextAddress) = allocation
  split
  · exact ⟨rfl, rfl⟩
  · dsimp only
    split
    · exact ⟨rfl, rfl⟩
    · split <;> exact ⟨rfl, rfl⟩

/-- Where no allocation fails a session fails only when its numbers have run out. -/
theorem publishTo_failure {event : NormalizedMarketEvent T} {publishedAt : EventPublicationTime} {channel : Nat}
    (h : (s.publishTo event generation publishedAt channel false).1 = some .allocationFailure) :
    (s.publishTo event generation publishedAt channel false).2.numbersRunOut = true := by
  unfold publishTo at h ⊢
  split at h
  · cases h
  · rename_i session hs
    split at h
    · cases h
    · rename_i hmatch
      have hfailure : (session.admitEvent event publishedAt (some s.nextAddress)).1 = .allocationFailure := by
        by_contra hne
        simp [hne] at h
      rw [not_or, not_not, not_not] at hmatch
      obtain ⟨hm, hc⟩ := EventSubscriberChannel.admitEvent_failure hmatch.1.symm hfailure
      simp only [hmatch, ne_eq, not_true_eq_false, or_self, if_false, Bool.false_eq_true, hfailure, if_true]
      refine List.any_eq_true.mpr ⟨_, List.mem_set (by exact (List.getElem?_eq_some_iff.mp hs).1) _, ?_⟩
      simp [EventSession.admitEvent, hc, hm]

/-- An event that is on its way to the channels is published, or a session's numbers have run out. -/
theorem publishToAll_evaluates {event : NormalizedMarketEvent T} {publishedAt : EventPublicationTime} {channels : List Nat}
    {r : EventPublishResult} (h : Evaluates EventOutcome.Fine (publishToAll event generation publishedAt channels) s r t) :
    SameSource s t ∧ (r = .published ∨ r = .invariantFailure ∧ t.numbersRunOut = true) := by
  induction channels generalizing s with
  | nil =>
    obtain ⟨u, m, hm, h⟩ := evaluates_bind.mp h
    obtain ⟨w, -, hw⟩ := evaluates_atomic.mp hm
    obtain ⟨rfl, rfl⟩ := evaluates_pure.mp h
    cases hw
    exact ⟨⟨rfl, rfl⟩, Or.inl rfl⟩
  | cons channel rest ih =>
    obtain ⟨result, m, hm, h⟩ := evaluates_bind.mp h
    obtain ⟨w, hw, hstep⟩ := evaluates_atomic.mp hm
    rw [hw.2] at hstep
    have hsource := publishTo_source event generation publishedAt channel false s
    have hfailure : (publishTo event generation publishedAt channel false s).1 = some .allocationFailure →
        (publishTo event generation publishedAt channel false s).2.numbersRunOut = true := publishTo_failure
    rw [hstep] at hsource hfailure
    split at h
    · rename_i hr
      obtain ⟨rfl, rfl⟩ := evaluates_pure.mp h
      exact ⟨hsource, Or.inr ⟨rfl, hfailure hr⟩⟩
    · obtain ⟨hsame, hres⟩ := ih h
      exact ⟨hsource.trans hsame, hres⟩

/-- What becomes of an event is decided by the source alone, unless a session's numbers have run out. -/
theorem publish_evaluates {event : NormalizedMarketEvent T} {r : EventPublishResult}
    (h : Evaluates EventOutcome.Fine (publish (some event) generation) s r t) :
    SameSource s t ∧ match (s.beginPublish event generation).1 with
      | some refusal => r = refusal
      | none => r = .published ∨ r = .invariantFailure ∧ t.numbersRunOut = true := by
  obtain ⟨sampled, m, hs, hrest⟩ := evaluates_bind.mp h
  obtain ⟨⟨w, hw, rfl⟩, rfl⟩ := evaluates_choose.mp hs
  obtain ⟨publishedAt, htime⟩ := Option.isSome_iff_exists.mp hw.1
  rw [htime] at hrest
  obtain ⟨refusal, m', hm, h⟩ := evaluates_bind.mp hrest
  obtain ⟨w', -, hbegin⟩ := evaluates_atomic.mp hm
  have hsource : SameSource m (m.beginPublish event generation).2 := by
    unfold beginPublish
    split
    · exact ⟨rfl, rfl⟩
    · split <;> exact ⟨rfl, rfl⟩
  rw [hbegin] at hsource ⊢
  cases refusal with
  | some refusal =>
    obtain ⟨rfl, rfl⟩ := evaluates_pure.mp h
    exact ⟨hsource, rfl⟩
  | none =>
    obtain ⟨channels, m'', hread, h⟩ := evaluates_bind.mp h
    obtain ⟨w'', -, hr⟩ := evaluates_atomic.mp hread
    cases hr
    obtain ⟨hsame, hres⟩ := publishToAll_evaluates h
    exact ⟨hsource.trans hsame, hres⟩

end MarketDataGateway.Events
