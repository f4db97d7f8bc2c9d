import MarketDataGateway.Recovery.Guarantees
import MarketDataGateway.Recovery.Samples

/-!
# The clock of the planned rotation

The age at which an attempt is replaced is signed, the clock's samples are not, and both have 64 bits. Where the deadline cannot be had,
or the clock moves back, the coordinator throws in the middle of an attempt, and what it throws finds the attempt stopped.
-/

namespace MarketDataGateway.Recovery

open BinanceTransport MarketRuntime OrderBook Threads Promise

variable {L : ProjectionLibrary} {X Y ω : Type}

/-! ## The clock's own numbers -/

namespace Ticks

/-- The age is signed and the clock counts unsigned, both in 64 bits. -/
def plannedRotationDeadline (age : Int64) (generationStarted : UInt64) : Except String UInt64 :=
  let unsignedAge := age.toUInt64
  if UInt64.ofNat maxUInt64 - unsignedAge < generationStarted then .error "G6 planned rotation deadline overflow"
  else .ok (generationStarted + unsignedAge)

/-- `none` at the deadline or after it, or how long to wait. -/
def waitForRotationOrRecovery (generationStarted deadline now : UInt64) : Except String (Option Int64) :=
  if now < generationStarted then .error "G6 monotonic clock moved backwards"
  else if deadline ≤ now then .ok none
  else .ok (some (deadline - now).toInt64)

variable {age : Int64} {generationStarted deadline now : UInt64}

/-- A positive age reads the same without its sign. -/
theorem toNat_age (h : 0 < age) : age.toUInt64.toNat = age.toInt.toNat :=
  Int64.toNat_toUInt64_of_le (Int64.le_of_lt h)

/-- A positive age fits the signed range. -/
theorem age_bounds (h : 0 < age) : 0 < age.toInt ∧ age.toInt < 2 ^ 63 :=
  ⟨Int64.lt_iff_toInt_lt.mp h, age.toInt_lt⟩

/-- A positive age leaves room below the largest sample. -/
theorem toNat_room (h : 0 < age) : (UInt64.ofNat maxUInt64 - age.toUInt64).toNat = maxUInt64 - age.toInt.toNat := by
  have hle : age.toUInt64 ≤ UInt64.ofNat maxUInt64 := by
    rw [UInt64.le_iff_toNat_le]
    exact Nat.le_of_lt_succ age.toUInt64.toNat_lt
  rw [UInt64.toNat_sub_of_le _ _ hle, toNat_age h]
  rfl

/-- A number of the lower half reads the same with a sign. -/
theorem toInt_toInt64 {x : UInt64} (h : x.toNat < 2 ^ 63) : x.toInt64.toInt = x.toNat := by
  show x.toBitVec.toInt = _
  rw [BitVec.toInt_eq_toNat_of_lt]
  · rfl
  · show 2 * x.toNat < 2 ^ 64
    omega

/-- The sum is computed just when it is a sample. -/
theorem plannedRotationDeadline_cases (h : 0 < age) (generationStarted : UInt64) :
    (2 ^ 64 - 1 < generationStarted.toNat + age.toInt ∧
        plannedRotationDeadline age generationStarted = .error "G6 planned rotation deadline overflow") ∨
      ∃ deadline, (deadline.toNat : Int) = generationStarted.toNat + age.toInt ∧
        plannedRotationDeadline age generationStarted = .ok deadline := by
  obtain ⟨hpos, hlt⟩ := age_bounds h
  have hage := toNat_age h
  unfold plannedRotationDeadline
  by_cases hover : UInt64.ofNat maxUInt64 - age.toUInt64 < generationStarted
  · refine Or.inl ⟨?_, if_pos hover⟩
    rw [UInt64.lt_iff_toNat_lt, toNat_room h] at hover
    simp only [maxUInt64] at hover
    omega
  · refine Or.inr ⟨_, ?_, if_neg hover⟩
    rw [UInt64.lt_iff_toNat_lt, toNat_room h] at hover
    have hstarted := generationStarted.toNat_lt
    simp only [maxUInt64] at hover
    rw [UInt64.toNat_add, hage, Nat.mod_eq_of_lt (by omega)]
    omega

/-- A deadline that was computed is the begin plus the age. -/
theorem deadline_toNat (h : 0 < age) (hd : plannedRotationDeadline age generationStarted = .ok deadline) :
    (deadline.toNat : Int) = generationStarted.toNat + age.toInt := by
  rcases plannedRotationDeadline_cases h generationStarted with ⟨-, he⟩ | ⟨d, hsum, he⟩
  · rw [hd] at he
    cases he
  · rw [hd] at he
    cases he
    exact hsum

/-- The three ways of the wait, with what is left of the age. -/
theorem waitForRotationOrRecovery_cases (h : 0 < age) (hd : plannedRotationDeadline age generationStarted = .ok deadline)
    (now : UInt64) :
    (now < generationStarted ∧
        waitForRotationOrRecovery generationStarted deadline now = .error "G6 monotonic clock moved backwards") ∨
      ((generationStarted.toNat : Int) + age.toInt ≤ now.toNat ∧
        waitForRotationOrRecovery generationStarted deadline now = .ok none) ∨
      ∃ duration : Int64, duration.toInt = generationStarted.toNat + age.toInt - now.toNat ∧ 1 ≤ duration.toInt ∧
        duration.toInt ≤ age.toInt ∧ waitForRotationOrRecovery generationStarted deadline now = .ok (some duration) := by
  obtain ⟨hpos, hlt⟩ := age_bounds h
  have hdeadline := deadline_toNat h hd
  unfold waitForRotationOrRecovery
  by_cases hback : now < generationStarted
  · exact Or.inl ⟨hback, if_pos hback⟩
  rw [if_neg hback]
  rw [UInt64.lt_iff_toNat_lt] at hback
  by_cases hreached : deadline ≤ now
  · refine Or.inr (Or.inl ⟨?_, if_pos hreached⟩)
    rw [UInt64.le_iff_toNat_le] at hreached
    omega
  · refine Or.inr (Or.inr ⟨_, ?_, ?_, ?_, if_neg hreached⟩)
    all_goals
      rw [UInt64.le_iff_toNat_le] at hreached
      have hsub : (deadline - now).toNat = deadline.toNat - now.toNat := by
        refine UInt64.toNat_sub_of_le _ _ ?_
        rw [UInt64.le_iff_toNat_le]
        omega
      rw [toInt_toInt64 (by omega), hsub]
      omega

/-- The deadline is refused just when the sum is no sample. -/
theorem plannedRotationDeadline_throws (h : 0 < age) : (∃ error, plannedRotationDeadline age generationStarted = .error error) ↔
    2 ^ 64 - 1 < (generationStarted.toNat : Int) + age.toInt := by
  rcases plannedRotationDeadline_cases h generationStarted with ⟨hover, he⟩ | ⟨deadline, hsum, hd⟩
  · exact ⟨fun _ => hover, fun _ => ⟨_, he⟩⟩
  · have hlt := deadline.toNat_lt
    constructor
    · rintro ⟨error, he⟩
      rw [hd] at he
      cases he
    · intro hover
      omega

/-- Each of the three ways of the wait with just when it is taken. -/
theorem waitForRotationOrRecovery_exact (h : 0 < age) (hd : plannedRotationDeadline age generationStarted = .ok deadline) (now : UInt64) :
    ((∃ error, waitForRotationOrRecovery generationStarted deadline now = .error error) ↔ now < generationStarted) ∧
      (waitForRotationOrRecovery generationStarted deadline now = .ok none ↔
        (generationStarted.toNat : Int) + age.toInt ≤ now.toNat) ∧
      ∀ duration, waitForRotationOrRecovery generationStarted deadline now = .ok (some duration) →
        duration.toInt = generationStarted.toNat + age.toInt - now.toNat ∧ 1 ≤ duration.toInt ∧ duration.toInt ≤ age.toInt := by
  have hpos := (age_bounds h).1
  rw [UInt64.lt_iff_toNat_lt]
  rcases waitForRotationOrRecovery_cases h hd now with ⟨hback, he⟩ | ⟨hreached, he⟩ | ⟨rest, hrest, hmin, hmax, he⟩
  · rw [UInt64.lt_iff_toNat_lt] at hback
    rw [he]
    refine ⟨⟨fun _ => hback, fun _ => ⟨_, rfl⟩⟩, ⟨fun hd => (by cases hd), fun hreached => by omega⟩, fun _ hd => by cases hd⟩
  · rw [he]
    refine ⟨⟨?_, fun hback => by omega⟩, ⟨fun _ => hreached, fun _ => rfl⟩, fun _ hd => by cases hd⟩
    rintro ⟨error, hd⟩
    cases hd
  · rw [he]
    refine ⟨⟨?_, fun hback => by omega⟩, ⟨fun hd => (by cases hd), fun hreached => by omega⟩, ?_⟩
    · rintro ⟨error, hd⟩
      cases hd
    · intro duration hd
      cases hd
      exact ⟨hrest, hmin, hmax⟩

end Ticks

/-! ## What the coordinator computes -/

section Coordinator

open Ticks

variable {c : Collaborators L X ω} {age : Int64} {q : Program (World L X) ω (Except String UInt64)}

/-- What follows from a sample that the wait has taken. -/
def waitAsTold (c : Collaborators L X ω) : Except String (Option Int64) → Recovering L X ω TimedRecoveryWaitResult
  | .error error => throw error
  | .ok none => pure .deadlineReached
  | .ok (some duration) => .of (c.waitForRotation duration.toInt.toNat)

/-- The deadline in ticks is the one in numbers. -/
theorem plannedRotationDeadline_ticks (h : 0 < age) (generationStarted : UInt64) :
    Recovery.plannedRotationDeadline age.toInt.toNat generationStarted.toNat =
      (Ticks.plannedRotationDeadline age generationStarted).map UInt64.toNat := by
  obtain ⟨hpos, hlt⟩ := age_bounds h
  have hstarted := generationStarted.toNat_lt
  unfold Recovery.plannedRotationDeadline
  rcases plannedRotationDeadline_cases h generationStarted with ⟨hover, he⟩ | ⟨deadline, hsum, he⟩
  · rw [he, if_pos (by simp only [maxUInt64]; omega)]
    rfl
  · rw [he, if_neg (by simp only [maxUInt64]; have := deadline.toNat_lt; omega)]
    refine congrArg Except.ok ?_
    omega

/-- With a clock of 64 bits the coordinator computes the deadline in 64 bits. -/
theorem rotationSchedule_ticks (h : 0 < age) (hage : c.plannedRotation = some age.toInt.toNat)
    (hclock : c.monotonicClock = q.bind fun r => .done (r.map UInt64.toNat)) (g : Nat) :
    rotationSchedule c g =
      Throwing.onThrow
        (do
          let generationStarted ← .of q
          match Ticks.plannedRotationDeadline age generationStarted with
          | .ok deadline => pure (some (generationStarted.toNat, deadline.toNat))
          | .error error => throw error)
        (do
          let _ ← quiesceAttempt c g
          pure ()) := by
  unfold rotationSchedule
  rw [hage]
  refine congrArg (Throwing.onThrow · _) ?_
  rw [hclock, Throwing.of_map_bind]
  refine congrArg (_ >>= ·) ?_
  funext generationStarted
  rw [plannedRotationDeadline_ticks h]
  cases Ticks.plannedRotationDeadline age generationStarted <;> rfl

/-- So it does with the wait. -/
theorem waitForRotationOrRecovery_ticks (h : 0 < age) (hclock : c.monotonicClock = q.bind fun r => .done (r.map UInt64.toNat))
    {generationStarted deadline : UInt64} (hd : Ticks.plannedRotationDeadline age generationStarted = .ok deadline) :
    Recovery.waitForRotationOrRecovery c generationStarted.toNat deadline.toNat = (do
      let now ← .of q
      waitAsTold c (Ticks.waitForRotationOrRecovery generationStarted deadline now)) := by
  unfold Recovery.waitForRotationOrRecovery
  rw [hclock, Throwing.of_map_bind]
  refine congrArg (_ >>= ·) ?_
  funext now
  have hdeadline := deadline_toNat h hd
  rcases waitForRotationOrRecovery_cases h hd now with ⟨hback, he⟩ | ⟨hreached, he⟩ | ⟨duration, hduration, hpos, hle, he⟩
  · rw [he, if_pos (UInt64.lt_iff_toNat_lt.mp hback)]
    rfl
  · have hpos := (age_bounds h).1
    rw [he, if_neg (by omega), if_pos (by omega)]
    rfl
  · rw [he, if_neg (by omega), if_neg (by omega)]
    show Throwing.of _ = Throwing.of _
    rw [show deadline.toNat - now.toNat = duration.toInt.toNat by omega]

end Coordinator

/-! ## After the coordinator has thrown -/

/-- No source generation is open, and each that was opened has been closed. -/
def SourceClosed (s : World L X) : Prop :=
  s.coordinator.sourceGenerationOpen = none ∧ ∀ g, .opened g ∈ invocations s.calls → ∃ outcome, .closed g outcome ∈ invocations s.calls

/-- Where no source generation is open every one that was opened has been closed. -/
theorem At.sourceClosed {reliable : Prop} {p : Place} {s : World L X} (h : At reliable p s) (ho : p.opened = none) (hr : reliable) :
    SourceClosed s := by
  refine ⟨h.opened.trans ho, fun g hg => ?_⟩
  have hword := h.source hr
  refine hword.closed_of_phase g hg (Or.inl ?_)
  unfold Place.source
  rw [ho]
  split
  · exact Or.inr rfl
  · exact Or.inl rfl

/-- The thread of a place whose recovery is not terminal is alive. -/
theorem At.alive {reliable : Prop} {p : Place} {s : World L X} (h : At reliable p s) (hi : CoordinatorInv reliable s)
    (hlast : p.terminal = false) : Alive s :=
  ⟨h.created, hi.created h.created, h.running, h.terminal.trans hlast⟩

/-- Neither the end of the thread nor the open source generation is another thread's business. -/
theorem ClientStep.own {around : World L X → X → Prop} {s t : World L X} (hs : ClientStep around s t) :
    t.coordinator.exited = s.coordinator.exited ∧ t.coordinator.sourceGenerationOpen = s.coordinator.sourceGenerationOpen := by
  cases hs with
  | start hm =>
    unfold Coordinator.start
    split
    · exact ⟨rfl, rfl⟩
    · split <;> exact ⟨rfl, rfl⟩
  | requestStop hm =>
    unfold Coordinator.requestStop
    split
    · exact ⟨rfl, rfl⟩
    · split <;> exact ⟨rfl, rfl⟩
  | beginAcceptance hm =>
    unfold Coordinator.beginAcceptance
    split <;> exact ⟨rfl, rfl⟩
  | _ => exact ⟨rfl, rfl⟩

/-- What an answer that made the coordinator throw leaves when the recovery is terminal or the thread is over: its attempt has been
stopped, and with reliable collaborators the source generation closed. -/
def Resolved (age : Nat) (reliable : Prop) (s : Recorded L Y) : Prop :=
  ∀ sample ∈ s.record, sample.Throws age → s.coordinator.threadCreated = true ∧
    (s.coordinator.observation.terminal = true ∨ s.coordinator.exited = true →
      (∀ g, sample.attempt = some g → .attemptStopped g ∈ s.calls) ∧ (reliable → SourceClosed s))

section Rounds

variable {around : Recorded L Y → Y × List Sample → Prop} (haround : ∀ (s : Recorded L Y) x, around s x → x.2 = s.record) (age : Nat)
  {c : Collaborators L (Y × List Sample) ω} (K : Contract L (Y × List Sample) ω around c.recorded)

variable {age} in
include haround in
/-- The other threads leave resolved what is. -/
theorem Resolved.client {callbacks reliable : Prop} {s t : Recorded L Y} (h : Resolved age reliable s)
    (hi : CoordinatorInv callbacks s) (hs : ClientStep around s t) : Resolved age reliable t := by
  intro sample hsample ht
  rw [ClientStep.record haround hs] at hsample
  obtain ⟨hcreated, hover⟩ := h sample hsample ht
  obtain ⟨hexited, hopened⟩ := hs.own
  rcases hs.ended hi with ⟨hterminal, -, hsame⟩ | ⟨hunborn, -⟩
  · refine ⟨hsame.trans hcreated, ?_⟩
    unfold SourceClosed
    rw [hterminal, hexited, hs.calls, hopened]
    exact hover
  · rw [hcreated] at hunborn
    cases hunborn

/-- The invariant of the loop, with what becomes of an attempt after a throw. -/
def resolving : Rely (Recorded L Y) where
  env := ClientStep around
  inv s := K.full.inv s ∧ Resolved age K.reliable s
  inv_env := fun s t hi hs => ⟨K.full.inv_env s t hi.1 hs, Resolved.client haround hi.2 hi.1.1 hs⟩

variable {haround age K}

/-- While the thread is alive nothing has to be resolved yet. -/
theorem Alive.resolved {reliable : Prop} {s : Recorded L Y} (h : Alive s) : Resolved age reliable s := by
  intro sample _ _
  refine ⟨h.created, fun hover => ?_⟩
  rw [h.lasting, h.running] at hover
  simp at hover

/-- Neither has anything while no answer was bad. -/
theorem resolved_of_sampling {reliable : Prop} {s : Recorded L Y} (h : Untroubled age s ∨ Alive s) : Resolved age reliable s := by
  rcases h with h | h
  · exact fun sample hs ht => absurd ht (h sample hs)
  · exact h.resolved

/-- When nothing is open any more, it is enough that the attempts have been stopped: before the thread ends, and after. -/
theorem Contract.Shut.resolved {s : Recorded L Y} (h : K.Shut s) (hd : Dropped age s) :
    Resolved age K.reliable s ∧ Resolved age K.reliable s.exit := by
  obtain ⟨p, ho, ha⟩ := h
  have hclosed : K.reliable → SourceClosed s := fun hr =>
    ha.sourceClosed ((ho (K.reliable_callbacks hr)).resolve_right fun hfailed => hfailed.1 hr) (K.reliable_callbacks hr)
  exact ⟨fun sample hs ht => ⟨ha.created, fun _ => ⟨hd sample hs ht, hclosed⟩⟩,
    fun sample hs ht => ⟨ha.created, fun _ => ⟨hd sample hs ht, hclosed⟩⟩⟩

/-- What is stable while the clock is on record is so under the loop's invariant. -/
theorem stable_resolving {P : Recorded L Y → Prop} (hP : (sampling haround age).Stable P) (h : ∀ s, P s → Untroubled age s ∨ Alive s) :
    (resolving haround age K).Stable P :=
  fun s t _ hs hst => hP s t (h s hs) hs hst

variable (hc : c.Sections Unrecorded)
include hc

/-- A round goes well, or a bad answer has had its attempt stopped. -/
theorem attemptRound_resolving (hrotation : ∀ a, c.plannedRotation = some a → a = age) :
    Triple (resolving haround age K) (fun s => K.AtHead s ∧ Untroubled age s) (attemptRound c.recorded).run fun r s =>
      Ends (afterRound K.AtHead (K.Finished false)) (fun _ => K.Thrown false) r s ∧
        Ends (fun _ => Untroubled age) (fun _ => Dropped age) r s := by
  have hrecords : TripleE (sampling haround age) _ (attemptRound c.recorded) _ _ := attemptRound_records hc hrotation
  refine Triple.pre (Triple.both Contract.attemptRound_triple hrecords rfl rfl (fun _ hi => hi.1)
    fun _ hi hs => ⟨hi, resolved_of_sampling hs⟩) ?_
  rintro s hi ⟨hhead, huntroubled⟩
  obtain ⟨p, hready, hhere⟩ := id hhead
  exact ⟨hhead, Or.inl huntroubled, huntroubled, hhere.1.alive hi.1.1 hready.terminal⟩

omit hc in
/-- A piece of the handlers that is steady. -/
theorem steady_resolving {α : Type} {P : Recorded L Y → Prop} {Q : α → Recorded L Y → Prop} {p : Program (Recorded L Y) ω α}
    (h : Triple K.full P p Q) (hp : p.All Steady) :
    Triple (resolving haround age K) (fun s => P s ∧ Alive s ∧ Dropped age s) p fun a s => Q a s ∧ Alive s ∧ Dropped age s := by
  refine h.strengthen hp rfl (fun _ => Iff.rfl) (stable_resolving (stable_alive.and stable_dropped) fun _ h => Or.inr h.1) ?_
  intro t u _ hf hs
  exact ⟨(hs.alive hf.1).resolved, hs.dropped hf⟩

/-- The handler of the loop resolves what a bad answer has left. -/
theorem handler_resolving (error : String) :
    Triple (resolving haround age K) (fun s => K.Thrown false s ∧ Dropped age s)
      (do
        Program.modify (·.caught)
        closeSourceAfterException c.recorded
        Program.modify (·.setTerminal .internalFailure (internalError error))
        Program.modify (·.exit)
        pure false : Program (Recorded L Y) ω Bool)
      (afterRound (fun s => K.Head s ∧ Untroubled age s) Contract.Gone) := by
  have hS : c.Sections Steady := hc.mono unrecorded_steady
  let failed : Recorded L Y → Prop := fun s => Alive s ∧ Dropped age s
  have hfailed : (resolving haround age K).Stable failed :=
    stable_resolving (stable_alive.and stable_dropped) fun _ h => Or.inr h.1
  have hhandled : (resolving haround age K).Stable fun s => K.Handled s ∧ failed s :=
    Rely.Stable.and (fun s t hi => Contract.stable_handled s t hi.1) hfailed
  have hshut : (resolving haround age K).Stable fun s => K.Shut s ∧ Dropped age s := by
    intro s t hi h hs
    exact ⟨Contract.stable_shut s t hi.1 h.1 hs, h.2.grows (hs.record haround) (hs.calls ▸ List.suffix_refl _)⟩
  have hgone : (resolving haround age K).Stable Contract.Gone := fun s t hi => Contract.stable_gone s t hi.1
  have hfound : Triple (resolving haround age K) (fun s => K.Thrown false s ∧ failed s)
      (Program.modify (·.caught) : Program (Recorded L Y) ω Unit) fun _ s => (¬K.calm ∧ K.Found s) ∧ failed s :=
    steady_resolving Contract.caught_triple (.atomic fun _ s => ordinary_steady _ _ ((Ordinary.refl s).note (by simp) rfl))
  have hclose : Triple (resolving haround age K) (fun s => K.Found s ∧ failed s) (closeSourceAfterException c.recorded)
      fun _ s => K.Handled s ∧ failed s :=
    steady_resolving Contract.closeSourceAfterException_triple (closeSourceAfterException_all ordinary_steady hS (quiesceAttempt_all ordinary_steady hS released_steady) :
      (closeSourceAfterException c).All Steady)
  have hthrown : ∀ s, (resolving haround age K).inv s → K.Thrown false s ∧ Dropped age s → K.Thrown false s ∧ failed s := by
    rintro s ⟨hi, -⟩ ⟨ht, hd⟩
    refine ⟨ht, ?_, hd⟩
    obtain ⟨-, ⟨p, -, -, hrun, hhere⟩ | ⟨p, -, -, hquiet, ha, -⟩⟩ := ht
    · exact hhere.1.alive hi.1 hrun.terminal
    · exact ha.alive hi.1 hquiet.terminal
  -- what is found is quiesced and closed before the recovery becomes terminal
  refine Triple.bind (hfound.pre hthrown) fun _ => ?_
  refine Triple.conseq (P := fun s => ¬K.calm ∧ K.Found s ∧ failed s) (Triple.pure_pre fun hcalm => ?_)
    (fun _ _ h => ⟨h.1.1, h.1.2, h.2⟩) fun _ _ _ h => h
  refine Triple.bind hclose fun _ => Triple.bind (Q := fun _ s => K.Shut s ∧ Dropped age s) ?_ fun _ =>
    Triple.bind (Q := fun _ => Contract.Gone) ?_ fun _ => Triple.done hgone fun _ _ h => h
  · refine Triple.modify hhandled hshut ?_
    rintro s ⟨hi, -⟩ ⟨hhandled, -, hd⟩
    obtain ⟨hi', hs⟩ := hhandled.setTerminal hi hcalm error
    have hours := setTerminal_ours .internalFailure (internalError error) s
    have hd' := hd.grows (ours_record _ _ hours) hours.calls
    exact ⟨⟨hi', (hs.resolved hd').1⟩, hs, hd'⟩
  · refine Triple.modify hshut hgone ?_
    rintro s ⟨hi, -⟩ ⟨hs, hd⟩
    exact ⟨⟨hs.exit hi, (hs.resolved hd).2⟩, rfl⟩

/-- A round of the loop resolves what a bad answer has left. -/
theorem coordinatorRound_resolving (hrotation : ∀ a, c.plannedRotation = some a → a = age) :
    Triple (resolving haround age K) (fun s => K.Head s ∧ Untroubled age s) (coordinatorRound c.recorded)
      (afterRound (fun s => K.Head s ∧ Untroubled age s) Contract.Gone) := by
  have huntroubled : (resolving haround age K).Stable (Untroubled age) := stable_resolving stable_untroubled fun _ h => Or.inl h
  have hhead : (resolving haround age K).Stable fun s => K.Head s ∧ Untroubled age s :=
    Rely.Stable.and (fun s t hi => Contract.stable_head s t hi.1) huntroubled
  have hatHead : (resolving haround age K).Stable fun s => K.AtHead s ∧ Untroubled age s :=
    Rely.Stable.and (fun s t hi => Contract.stable_atHead s t hi.1) huntroubled
  have hgone : (resolving haround age K).Stable Contract.Gone := fun s t hi => Contract.stable_gone s t hi.1
  refine Triple.bind (Q := fun _ s => K.AtHead s ∧ Untroubled age s) (Triple.await hhead (fun _ => hatHead) ?_) fun _ => ?_
  · rintro _ s hi ⟨h | h, hu⟩ hcreated
    · exact ⟨hi, h, hu⟩
    · rw [h.created] at hcreated
      cases hcreated
  refine Triple.bind (attemptRound_resolving hc hrotation) fun r => ?_
  match r with
  | .ok true => exact Triple.done hatHead fun s _ h => ⟨Or.inl h.1, h.2⟩
  | .ok false =>
    have hfinished : (resolving haround age K).Stable fun s => K.Finished false s ∧ Untroubled age s :=
      Rely.Stable.and (fun s t hi => Contract.stable_finished s t hi.1) huntroubled
    refine Triple.bind (Q := fun _ => Contract.Gone) (Triple.modify hfinished hgone ?_) fun _ => Triple.done hgone fun _ _ h => h
    rintro s ⟨hi, -⟩ ⟨hfin, hu⟩
    exact ⟨⟨hfin.shut.exit hi, (hfin.shut.resolved hu.dropped).2⟩, rfl⟩
  | .error e => exact handler_resolving hc e

end Rounds

/-- The clock's record needs nothing of a collaborator but that he leaves it alone. -/
theorem Collaborators.Moves.recorded {c : Collaborators L (Y × List Sample) ω} (hc : c.Moves Unrecorded) : c.recorded.Honest where
  toSections :=
    { hc.toSections.mono fun _ _ h => h.1 with
      monotonicClock := by
        refine Program.All.bind (hc.monotonicClock.mono fun _ _ h => h.1) fun result => ?_
        cases result with
        | ok now => exact .bind (.atomic fun _ _ => rfl) fun _ => trivial
        | error e => trivial }
  generations := hc.generations

/-- In every state of every run. -/
theorem Reachable.resolved {around : Recorded L Y → Y × List Sample → Prop} (haround : ∀ s x, around s x → x.2 = s.record)
    {c : Collaborators L (Y × List Sample) ω} (hc : c.Moves Unrecorded) {age : Nat} (hrotation : c.plannedRotation = some age) {y : Y} {ph : Phase (Recorded L Y) ω} {s : Recorded L Y}
    (h : Reachable around c.recorded (y, []) ph s) :
    Resolved age c.recorded.Reliable s := by
  let K := honestContract around hc.recorded
  have huntroubled : (resolving haround age K).Stable (Untroubled age) := stable_resolving stable_untroubled fun _ h => Or.inl h
  have hhead : (resolving haround age K).Stable fun s => K.Head s ∧ Untroubled age s :=
    Rely.Stable.and (fun s t hi => Contract.stable_head s t hi.1) huntroubled
  obtain ⟨hi, hh⟩ := Contract.initial (K := K) (x := (y, [])) trivial trivial
  have hinv := h.loopInv (E := resolving haround age K) rfl hhead (fun s t hi => Contract.stable_gone s t hi.1)
    ⟨⟨hi, fun sample hs => by cases hs⟩, hh, fun sample hs => by cases hs⟩
    (coordinatorRound_resolving hc.toSections fun a ha => Option.some.inj (ha.symm.trans hrotation))
  exact hinv.inv.2

/-- A generation that has been opened has been closed with success. -/
theorem SourceClosed.call {reliable : Prop} {s : World L X} (h : SourceClosed s) (hi : CoordinatorInv reliable s) (hr : reliable)
    {g : Nat} {b : Bool} (ho : .sourceOpened g b ∈ s.calls) : ∃ outcome, .sourceClosed g outcome true ∈ s.calls := by
  obtain ⟨outcome, hclosed⟩ := h.2 g (List.mem_filterMap.mpr ⟨_, ho, rfl⟩)
  obtain ⟨call, hcall, hinvocation⟩ := List.mem_filterMap.mp hclosed
  refine ⟨outcome, ?_⟩
  cases call <;> simp only [RecoveryCall.invocation, Option.some.injEq, reduceCtorEq] at hinvocation
  rename_i result
  cases hinvocation
  cases result with
  | true => exact hcall
  | false => exact absurd rfl (((hi.source hr).1 _ hcall).2.2 g outcome)

/-! ## The planned rotation -/

/-- With a positive age: the deadline is refused just when the sum is no sample, and else is the sum; the wait throws just when the
clock has moved back, is over at once just when the age has passed, and else lasts for the rest of it. When an answer of the clock has
made the coordinator throw, the attempt has been stopped before the recovery is terminal and before the thread is over; if the
callbacks return true and the attempt can be observed, its source generation has been closed. -/
theorem rotation_clock_exact (age : Int64) (h : 0 < age) :
    (∀ generationStarted : UInt64,
      ((∃ error, Ticks.plannedRotationDeadline age generationStarted = .error error) ↔
        2 ^ 64 - 1 < (generationStarted.toNat : Int) + age.toInt) ∧
      ∀ deadline, Ticks.plannedRotationDeadline age generationStarted = .ok deadline →
        (deadline.toNat : Int) = generationStarted.toNat + age.toInt) ∧
    (∀ generationStarted deadline now : UInt64, Ticks.plannedRotationDeadline age generationStarted = .ok deadline →
      ((∃ error, Ticks.waitForRotationOrRecovery generationStarted deadline now = .error error) ↔ now < generationStarted) ∧
      (Ticks.waitForRotationOrRecovery generationStarted deadline now = .ok none ↔
        (generationStarted.toNat : Int) + age.toInt ≤ now.toNat) ∧
      ∀ duration, Ticks.waitForRotationOrRecovery generationStarted deadline now = .ok (some duration) →
        duration.toInt = generationStarted.toNat + age.toInt - now.toNat ∧ 1 ≤ duration.toInt ∧ duration.toInt ≤ age.toInt) ∧
    ∀ (around : Recorded L Y → Y × List Sample → Prop) (c : Collaborators L (Y × List Sample) ω),
      (∀ s x, around s x → x.2 = s.record) → c.Moves Unrecorded → c.plannedRotation = some age.toInt.toNat →
      ∀ y ph s, Reachable around c.recorded (y, []) ph s →
        s.coordinator.observation.terminal = true ∨ s.coordinator.exited = true →
        ∀ sample ∈ s.record, sample.Throws age.toInt.toNat → ∀ g, sample.attempt = some g →
          .attemptStopped g ∈ s.calls ∧
            (c.Reliable → s.coordinator.sourceGenerationOpen = none ∧
              ∀ b, .sourceOpened g b ∈ s.calls → ∃ outcome, .sourceClosed g outcome true ∈ s.calls) := by
  refine ⟨fun generationStarted => ⟨Ticks.plannedRotationDeadline_throws h, fun deadline hd => Ticks.deadline_toNat h hd⟩,
    fun generationStarted deadline now hd => Ticks.waitForRotationOrRecovery_exact h hd now, ?_⟩
  intro around c haround hc hrotation y ph s hreach hover sample hsample ht g hg
  obtain ⟨-, hresolved⟩ := hreach.resolved haround hc hrotation sample hsample ht
  obtain ⟨hstopped, hclosed⟩ := hresolved hover
  refine ⟨hstopped g hg, fun hr => ?_⟩
  have hr' : c.recorded.Reliable := ⟨hr.lifecycle, hr.observed⟩
  have hi : CoordinatorInv c.recorded.CallbacksReturnTrue s := hreach.inv hc.recorded
  exact ⟨(hclosed hr').1, fun b ho => (hclosed hr').call hi hr'.lifecycle ho⟩

/-! ## A clock that moves back -/

/-- An attempt that becomes live, with a clock that moves back afterwards; a broken attempt cannot be observed any more once it has
been stopped. -/
def turning (broken : Bool) : Collaborators countingLibrary (Bool × List Sample) Unit where
  createAttempt _ := pure (.ok true)
  startAttempt _ := pure (.ok .started)
  stopAttempt _ := Program.modify fun s => { s with outside := (true, s.outside.2) }
  observeAttempt g := Program.read fun s =>
    if broken && s.outside.1 then .error "broken"
    else .ok { started := true, running := true, websocketHandshake := true, restDepthFetched := true, connectionGeneration := g }
  monotonicClock := Program.read fun s => .ok (if s.record.isEmpty then 10 else 4)
  waitUntilLiveOrRecoveryRequired := pure (.ok (some { state := .live, projectionStatus := .synchronized }))
  waitUntilRecoveryRequired := pure (.ok none)
  waitForRotation _ := pure (.ok .stopped)
  observeRuntime := pure (.ok { state := .live, projectionStatus := .synchronized })
  submitTransportFailure := pure (.ok .accepted)
  resetForRebootstrap := pure (.ok .reset)
  resetLiveForPlannedRebootstrap := pure (.ok .reset)
  waitBackoff _ := pure (.ok true)
  sourceGenerationLifecycle := some
    { openGeneration := fun _ => pure (.ok true)
      quiesce := fun _ => pure (.ok true)
      close := fun _ _ => pure (.ok true) }
  plannedRotation := some 5

/-- Nothing happens outside. -/
def idle (_ : Recorded countingLibrary Bool) (_ : Bool × List Sample) : Prop := False

/-- The coordinator's thread has run for `n` sections. -/
def turned (broken : Bool) (n : Nat) : Phase (Recorded countingLibrary Bool) Unit × Recorded countingLibrary Bool :=
  Phase.advances (coordinatorRound (turning broken).recorded) () n
    (.head, { outside := (false, []), coordinator := ((Coordinator.start {}).2).createThread })

/-- The sample run is a run. -/
theorem turned_reachable (broken : Bool) (n : Nat) :
    Reachable idle (turning broken).recorded (false, []) (turned broken n).1 (turned broken n).2 :=
  (Reachable.begun idle (turning broken).recorded (false, [])).advances () n

/-- The sample collaborators leave the record to the clock. -/
theorem turning_moves (broken : Bool) : (turning broken).Moves Unrecorded where
  createAttempt _ := trivial
  startAttempt _ := trivial
  stopAttempt _ := .atomic fun _ _ => ⟨rfl, rfl⟩
  observeAttempt _ := .atomic fun _ _ => ⟨rfl, rfl⟩
  monotonicClock := .atomic fun _ _ => ⟨rfl, rfl⟩
  waitUntilLiveOrRecoveryRequired := trivial
  waitUntilRecoveryRequired := trivial
  waitForRotation _ := trivial
  observeRuntime := trivial
  submitTransportFailure := trivial
  resetForRebootstrap := trivial
  resetLiveForPlannedRebootstrap := trivial
  waitBackoff _ := trivial
  lifecycle := by
    rintro l ⟨⟩ g
    exact ⟨trivial, trivial, fun _ => trivial⟩
  generations g := by
    intro _ s t ht
    dsimp only at ht
    split at ht
    · cases ht
    · cases ht
      rfl

/-- Their callbacks return true. -/
theorem turning_callbacks (broken : Bool) : (turning broken).CallbacksReturnTrue := by
  rintro l ⟨⟩ g
  exact ⟨rfl, rfl, fun _ => rfl⟩

/-- With an attempt that can be observed they are reliable. -/
theorem turning_reliable : (turning false).Reliable where
  lifecycle := turning_callbacks false
  observed g := by
    intro _ s
    exact ⟨_, rfl⟩

/-- The clock's second answer, some moments before the first. -/
def turnedBack : Sample := ⟨some (.markedLive 1), some 10, 4⟩

/-- The clock has moved back behind the begin of the attempt. -/
theorem turnedBack_throws : turnedBack.Throws 5 := by
  show 4 < 10
  decide

/-- An attempt that is given up because the clock has moved back is stopped and its source generation closed. -/
theorem rotation_clock_exact_turned_back :
    (turned false 60).2.coordinator.observation.terminal = true ∧ turnedBack ∈ (turned false 60).2.record ∧
      .attemptStopped 1 ∈ (turned false 60).2.calls ∧ (turned false 60).2.coordinator.sourceGenerationOpen = none ∧
      .sourceOpened 1 true ∈ (turned false 60).2.calls ∧ ∃ outcome, .sourceClosed 1 outcome true ∈ (turned false 60).2.calls := by
  have hterminal : (turned false 60).2.coordinator.observation.terminal = true := by decide +kernel
  have hrecord : turnedBack ∈ (turned false 60).2.record := by decide +kernel
  have hopened : .sourceOpened 1 true ∈ (turned false 60).2.calls := by decide +kernel
  obtain ⟨hstopped, hclosed⟩ := (rotation_clock_exact 5 (by decide)).2.2 idle (turning false) (fun _ _ h => h.elim) (turning_moves false)
    rfl false _ _ (turned_reachable false 60) (Or.inl hterminal) turnedBack hrecord turnedBack_throws 1 rfl
  obtain ⟨hnone, hcall⟩ := hclosed turning_reliable
  exact ⟨hterminal, hrecord, hstopped, hnone, hopened, hcall true hopened⟩

/-- Callbacks that return true do not suffice: an attempt that can no longer be observed leaves its source generation open. -/
theorem broken_attempt_leaves_source_open :
    ¬∀ c : Collaborators countingLibrary (Bool × List Sample) Unit, c.Moves Unrecorded → c.plannedRotation = some 5 →
      (∀ l, c.sourceGenerationLifecycle = some l → ∀ g, (l.openGeneration g).Returns (· = .ok true) ∧
        (l.quiesce g).Returns (· = .ok true) ∧ ∀ outcome, (l.close g outcome).Returns (· = .ok true)) →
      ∀ ph s, Reachable idle c.recorded (false, []) ph s → s.coordinator.observation.terminal = true →
        ∀ sample ∈ s.record, sample.Throws 5 → s.coordinator.sourceGenerationOpen = none := by
  intro h
  have hterminal : (turned true 60).2.coordinator.observation.terminal = true := by decide +kernel
  have hrecord : turnedBack ∈ (turned true 60).2.record := by decide +kernel
  have hopen : (turned true 60).2.coordinator.sourceGenerationOpen = some 1 := by decide +kernel
  have hnone := h (turning true) (turning_moves true) rfl (by
    rintro l ⟨⟩ g
    exact ⟨rfl, rfl, fun _ => rfl⟩) _ _ (turned_reachable true 60) hterminal turnedBack hrecord turnedBack_throws
  rw [hopen] at hnone
  cases hnone

/-- Callbacks that return true do not keep the thread from ending while a generation is open: nothing follows the callback that opened
generation 1 when its attempt can be observed neither after the clock has moved back nor in the cleanup. -/
theorem thread_ends_with_source_open :
    ¬∀ c : Collaborators countingLibrary (Bool × List Sample) Unit, c.Honest → c.CallbacksReturnTrue →
      ∀ ph s, Reachable idle c (false, []) ph s → s.coordinator.exited = true →
        ∃ phase last, SourceWord phase last (invocations s.calls) ∧ (phase = .closed ∨ phase = .ended) := by
  intro h
  have hexited : (turned true 60).2.coordinator.exited = true := by decide +kernel
  have hcalls : invocations (turned true 60).2.calls = [.opened 1] := by decide +kernel
  obtain ⟨phase, last, hword, hover⟩ := h _ (turning_moves true).recorded (turning_callbacks true) _ _ (turned_reachable true 60) hexited
  rw [hcalls] at hword
  cases hword
  rcases hover with hover | hover <;> cases hover

end MarketDataGateway.Recovery
