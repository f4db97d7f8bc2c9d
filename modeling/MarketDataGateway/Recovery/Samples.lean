import MarketDataGateway.Recovery.Growth

/-!
# The clock on record

To say which of the clock's answers made the coordinator throw, what is outside is given a record of them that nothing reads. The
first answer of an attempt follows its creation and the second the mark that it is live. Until an answer makes the coordinator throw
nothing has to be shown; from then on the thread is alive, and it stops the attempt before the exception leaves the attempt's code.
-/

namespace MarketDataGateway.Recovery

open BinanceTransport MarketRuntime OrderBook Threads

variable {L : ProjectionLibrary} {Y ω α : Type}

/-- An answer of the clock, what the coordinator had done last, and when its attempt began as far as it shows. -/
structure Sample where
  after : Option RecoveryCall
  since : Option Nat
  now : Nat
  deriving DecidableEq, Repr

namespace Sample

/-- The attempt on whose behalf the clock was asked. -/
def attempt (sample : Sample) : Option Nat :=
  match sample.after with
  | some (.attemptCreated generation) => some generation
  | some (.markedLive generation) => some generation
  | _ => none

/-- The answer makes the coordinator throw: there is no deadline for the new attempt, or the clock has moved back since the attempt
began. -/
def Throws (age : Nat) (sample : Sample) : Prop :=
  match sample.after, sample.since with
  | some (.attemptCreated _), _ => ∃ error, plannedRotationDeadline age sample.now = .error error
  | some (.markedLive _), some started => sample.now < started
  | _, _ => False

end Sample

/-- A world that has the clock's answers on record, latest first. -/
abbrev Recorded (L : ProjectionLibrary) (Y : Type) := World L (Y × List Sample)

namespace World

def record (s : Recorded L Y) : List Sample := s.outside.2

def sampled (now : Nat) (s : Recorded L Y) : Recorded L Y :=
  { s with
    outside :=
      (s.outside.1, ⟨s.calls.head?, s.coordinator.observation.generationStartedMonotonicNs, now⟩ :: s.outside.2) }

end World

/-- The same collaborators with the clock's answers on record. -/
def Collaborators.recorded (c : Collaborators L (Y × List Sample) ω) : Collaborators L (Y × List Sample) ω :=
  { c with
    monotonicClock := do
      let result ← c.monotonicClock
      match result with
      | .ok now => do
        Program.modify (·.sampled now)
        pure (.ok now)
      | .error error => pure (.error error) }

/-- A section outside of the coordinator that leaves the record alone. -/
def Unrecorded (s t : Recorded L Y) : Prop := OutsideOnly s t ∧ t.record = s.record

/-! ## What the thread's sections leave alone -/

/-- The thread is there and its recovery not terminal. -/
structure Alive {X : Type} (s : World L X) : Prop where
  created : s.coordinator.threadCreated = true
  begun : s.coordinator.started = true ∧ s.coordinator.startPending = false
  running : s.coordinator.exited = false
  lasting : s.coordinator.observation.terminal = false

/-- Nothing is put on record or forgotten, and a thread that is alive stays so. -/
structure Steady (s t : Recorded L Y) : Prop where
  record : t.record = s.record
  calls : s.calls <:+ t.calls
  alive : Alive s → Alive t
  since : t.coordinator.observation.generationStartedMonotonicNs = s.coordinator.observation.generationStartedMonotonicNs

section Sections

variable {s t : Recorded L Y} {around : Recorded L Y → Y × List Sample → Prop}

/-- A section that leaves the record alone is steady. -/
theorem unrecorded_steady (s t : Recorded L Y) (h : Unrecorded s t) : Steady s t := by
  obtain ⟨hout, hrecord⟩ := h
  have hcoordinator : t.coordinator = s.coordinator := by rw [hout]
  have hcalls : t.calls = s.calls := by rw [hout]
  constructor
  · exact hrecord
  · exact hcalls ▸ List.suffix_refl _
  · intro ha
    exact ⟨hcoordinator ▸ ha.created, hcoordinator ▸ ha.begun, hcoordinator ▸ ha.running, hcoordinator ▸ ha.lasting⟩
  · exact congrArg (·.observation.generationStartedMonotonicNs) hcoordinator

/-- An ordinary section is steady. -/
theorem ordinary_steady (s t : Recorded L Y) (h : Ordinary s t) : Steady s t where
  record := congrArg Prod.snd h.outside
  calls := h.calls
  alive ha :=
    ⟨h.thread.1.trans ha.created, ⟨h.begun.1.trans ha.begun.1, h.begun.2.trans ha.begun.2⟩, h.thread.2.trans ha.running,
      h.terminal.trans ha.lasting⟩
  since := h.since

/-- Releasing an attempt is steady. -/
theorem released_steady (g : Nat) (s : Recorded L Y) : Steady s (s.attemptReleased g) :=
  ⟨rfl, List.suffix_refl _, fun ha => ⟨ha.created, ha.begun, ha.running, ha.lasting⟩, rfl⟩

/-- A section of the coordinator's own puts nothing on record. -/
theorem ours_record (s t : Recorded L Y) (h : Ours s t) : t.record = s.record := congrArg Prod.snd h.outside

/-- No other thread ends a thread that is alive. -/
theorem ClientStep.alive {X : Type} {around : World L X → X → Prop} {s t : World L X} (hs : ClientStep around s t) (h : Alive s) :
    Alive t := by
  have hk := ClientStep.kept hs h.begun h.created h.running
  refine ⟨hk.created.trans h.created, ?_, hk.exited.trans h.running, hk.terminal.trans h.lasting⟩
  obtain ⟨hstarted, hpending⟩ := h.begun
  cases hs with
  | start hm =>
    unfold Coordinator.start
    split
    · exact ⟨hstarted, hpending⟩
    · exact ⟨hstarted, hpending⟩
  | requestStop hm =>
    unfold Coordinator.requestStop
    split
    · exact ⟨hstarted, hpending⟩
    · split <;> exact ⟨hstarted, hpending⟩
  | beginAcceptance hm =>
    unfold Coordinator.beginAcceptance
    split <;> exact ⟨hstarted, hpending⟩
  | failStart hp hm | createThread hp =>
    rw [hpending] at hp
    cases hp
  | _ => exact ⟨hstarted, hpending⟩

/-- Nor does any touch the time at which the attempt began. -/
theorem ClientStep.since {X : Type} {around : World L X → X → Prop} {s t : World L X} (hs : ClientStep around s t) :
    t.coordinator.observation.generationStartedMonotonicNs = s.coordinator.observation.generationStartedMonotonicNs := by
  cases hs with
  | start hm =>
    unfold Coordinator.start
    split
    · rfl
    · split <;> rfl
  | requestStop hm =>
    unfold Coordinator.requestStop
    split
    · rfl
    · split <;> rfl
  | beginAcceptance hm =>
    unfold Coordinator.beginAcceptance
    split <;> rfl
  | _ => rfl

/-- No other thread puts anything on record. -/
theorem ClientStep.record (haround : ∀ (s : Recorded L Y) x, around s x → x.2 = s.record) (hs : ClientStep around s t) :
    t.record = s.record := by
  cases hs with
  | outside h => exact haround _ _ h
  | _ => rfl

end Sections

/-! ## Until the coordinator throws -/

/-- No answer on record has made the coordinator throw. -/
def Untroubled (age : Nat) (s : Recorded L Y) : Prop := ∀ sample ∈ s.record, ¬sample.Throws age

/-- Every attempt that an answer on record has made the coordinator give up has been stopped. -/
def Dropped (age : Nat) (s : Recorded L Y) : Prop :=
  ∀ sample ∈ s.record, sample.Throws age → ∀ g, sample.attempt = some g → .attemptStopped g ∈ s.calls

/-- The thread is alive, and whatever made it throw did so in attempt `g`. -/
def Failing (age g : Nat) (s : Recorded L Y) : Prop :=
  Alive s ∧ ∀ sample ∈ s.record, sample.Throws age → sample.attempt = some g

/-- The thread is alive, nothing has made it throw, and its attempt began as scheduled. -/
def Going (age : Nat) (since : Option Nat) (s : Recorded L Y) : Prop :=
  (Untroubled age s ∧ Alive s) ∧ s.coordinator.observation.generationStartedMonotonicNs = since

/-- Where no answer was bad there is nothing to stop. -/
theorem Untroubled.dropped {age : Nat} {s : Recorded L Y} (h : Untroubled age s) : Dropped age s :=
  fun sample hs ht => absurd ht (h sample hs)

/-- Once the failing attempt has been stopped every bad answer has been dealt with. -/
theorem Failing.dropped {age g : Nat} {s : Recorded L Y} (h : Failing age g s) (hg : .attemptStopped g ∈ s.calls) : Dropped age s := by
  intro sample hs ht g' hg'
  have hsame := h.2 sample hs ht
  rw [hg'] at hsame
  cases hsame
  exact hg

/-- What an answer makes of a record that has nothing on it: only the answer itself may have made the coordinator throw. -/
theorem throws_sampled {age now : Nat} {s : Recorded L Y} (h : Untroubled age s) {sample : Sample} (hs : sample ∈ (s.sampled now).record)
    (ht : sample.Throws age) : sample = ⟨s.calls.head?, s.coordinator.observation.generationStartedMonotonicNs, now⟩ := by
  rcases List.mem_cons.mp hs with he | hold
  · exact he
  · exact absurd ht (h sample hold)

section Rely

variable {around : Recorded L Y → Y × List Sample → Prop} (haround : ∀ (s : Recorded L Y) x, around s x → x.2 = s.record) (age : Nat)

/-- The environment leaves the record alone; a thread that has something on record against it is alive. -/
def sampling : Rely (Recorded L Y) where
  env := ClientStep around
  inv s := Untroubled age s ∨ Alive s
  inv_env := by
    rintro s t (h | h) hs
    · refine Or.inl ?_
      unfold Untroubled
      rw [hs.record haround]
      exact h
    · exact Or.inr (hs.alive h)

variable {haround age}

/-- The record stays without bad answers. -/
theorem stable_untroubled : (sampling haround age).Stable (Untroubled age) := by
  intro s t _ h hs
  unfold Untroubled
  rw [ClientStep.record haround hs]
  exact h

/-- What has been dealt with stays so. -/
theorem stable_dropped : (sampling haround age).Stable (Dropped age) := by
  intro s t _ h hs
  unfold Dropped
  rw [ClientStep.record haround hs, ClientStep.calls hs]
  exact h

/-- A failing attempt stays the one that fails. -/
theorem stable_failing {g : Nat} : (sampling haround age).Stable (Failing age g) := by
  intro s t _ h hs
  unfold Failing
  rw [ClientStep.record haround hs]
  exact ⟨ClientStep.alive hs h.1, h.2⟩

/-- A thread that is alive stays so. -/
theorem stable_alive : (sampling haround age).Stable (Alive (L := L) (X := Y × List Sample)) :=
  fun _ _ _ h hs => ClientStep.alive hs h

/-- The time at which the attempt began stays. -/
theorem stable_since {since : Option Nat} : (sampling haround age).Stable fun s =>
    s.coordinator.observation.generationStartedMonotonicNs = since :=
  fun _ _ _ h hs => (ClientStep.since hs).trans h

/-- The last call stays the last one. -/
theorem stable_last {call : Option RecoveryCall} : (sampling haround age).Stable fun s => s.calls.head? = call := by
  intro s t _ h hs
  rw [ClientStep.calls hs]
  exact h

/-- An attempt that goes on goes on. -/
theorem stable_going {since : Option Nat} : (sampling haround age).Stable (Going age since) :=
  (stable_untroubled.and stable_alive).and stable_since

/-! ## Pieces of code -/

/-- A piece whose sections keep an assertion keeps it, whether it returns or throws. -/
theorem keeps_triple {G : Recorded L Y → Recorded L Y → Prop} {P : Recorded L Y → Prop} {R : String → Recorded L Y → Prop}
    {p : Throwing (Recorded L Y) ω String α} (hp : Throwing.All G p) (hP : (sampling haround age).Stable P)
    (hG : ∀ s t, P s → G s t → P t) (hinv : ∀ s, P s → Untroubled age s ∨ Alive s) (hR : ∀ e s, P s → R e s) :
    TripleE (sampling haround age) P p (fun _ => P) R := by
  have h : Triple (sampling haround age) P p.run fun _ => P :=
    Triple.of_all hp hP fun s t _ hs hst => ⟨hinv t (hG s t hs hst), hG s t hs hst⟩
  refine h.post fun r s _ hs => ?_
  cases r with
  | ok a => exact hs
  | error e => exact hR e s hs

/-- A section that leaves the record alone leaves it without bad answers. -/
theorem Untroubled.steady {s t : Recorded L Y} (h : Untroubled age s) (hs : t.record = s.record) : Untroubled age t := by
  unfold Untroubled
  rw [hs]
  exact h

/-- A steady section lets the attempt go on. -/
theorem Going.steady {since : Option Nat} {s t : Recorded L Y} (h : Going age since s) (hs : Steady s t) : Going age since t :=
  ⟨⟨h.1.1.steady hs.record, hs.alive h.1.2⟩, hs.since.trans h.2⟩

/-- A steady section leaves the failing attempt the one that fails. -/
theorem Failing.steady {g : Nat} {s t : Recorded L Y} (h : Failing age g s) (hs : Steady s t) : Failing age g t := by
  refine ⟨hs.alive h.1, ?_⟩
  rw [hs.record]
  exact h.2

/-- More calls leave dealt with what was. -/
theorem Dropped.grows {s t : Recorded L Y} (h : Dropped age s) (hrecord : t.record = s.record) (hcalls : s.calls <:+ t.calls) :
    Dropped age t := by
  intro sample hsample ht g hg
  rw [hrecord] at hsample
  exact hcalls.subset (h sample hsample ht g hg)

/-- A steady section leaves dealt with what was. -/
theorem Steady.dropped {s t : Recorded L Y} (hs : Steady s t) (h : Alive s ∧ Dropped age s) : Alive t ∧ Dropped age t :=
  ⟨hs.alive h.1, h.2.grows hs.record hs.calls⟩

/-- A piece that is steady, while the attempt goes on. -/
theorem going_triple {since : Option Nat} {p : Throwing (Recorded L Y) ω String α} (hp : Throwing.All Steady p) :
    TripleE (sampling haround age) (Going age since) p (fun _ => Going age since) fun _ => Dropped age :=
  keeps_triple hp stable_going (fun _ _ h hs => h.steady hs) (fun _ h => Or.inl h.1.1) fun _ _ h => h.1.1.dropped

/-! ## Where the coordinator may throw -/

section Attempt

variable {g : Nat} {since : Option Nat}

/-- The clock has answered: only this answer may have made the coordinator throw, and only if it is bad. -/
def Asked (age g : Nat) (since : Option Nat) (bad : Prop) (s : Recorded L Y) : Prop :=
  (Alive s ∧ s.coordinator.observation.generationStartedMonotonicNs = since) ∧
    ∀ sample ∈ s.record, sample.Throws age → sample.attempt = some g ∧ bad

/-- What an answer of the clock says is stable. -/
theorem stable_asked {bad : Prop} : (sampling haround age).Stable (Asked age g since bad) := by
  intro s t _ h hs
  unfold Asked
  rw [ClientStep.record haround hs]
  exact ⟨⟨ClientStep.alive hs h.1.1, (ClientStep.since hs).trans h.1.2⟩, h.2⟩

/-- An answer, good or bad, concerns the attempt that asked. -/
theorem Asked.failing {bad : Prop} {s : Recorded L Y} (h : Asked age g since bad s) : Failing age g s :=
  ⟨h.1.1, fun sample hs ht => (h.2 sample hs ht).1⟩

/-- With a good answer the attempt goes on. -/
theorem Asked.going {bad : Prop} {s : Recorded L Y} (h : Asked age g since bad s) (hgood : ¬bad) : Going age since s :=
  ⟨⟨fun sample hs ht => hgood (h.2 sample hs ht).2, h.1.1⟩, h.1.2⟩

/-- An attempt that goes on is the only one that may fail. -/
theorem Going.failing {s : Recorded L Y} (h : Going age since s) : Failing age g s :=
  ⟨h.1.2, fun sample hs ht => absurd ht (h.1.1 sample hs)⟩

variable {c : Collaborators L (Y × List Sample) ω} (hc : c.Sections Unrecorded)
include hc

/-- A failing attempt is stopped, whatever else comes of its quiescence. -/
theorem quiesceFailing_triple : TripleE (sampling haround age) (Failing age g) (quiesceAttempt c.recorded g)
    (fun _ s => Alive s ∧ Dropped age s) fun _ => Dropped age := by
  show TripleE _ _ (quiesceAttempt c g) _ _
  have hS : c.Sections Steady := hc.mono unrecorded_steady
  have hstable : (sampling haround age).Stable fun s => Alive s ∧ Dropped age s := stable_alive.and stable_dropped
  have hR : ∀ _ : String, (sampling haround age).Stable (Dropped age) := fun _ => stable_dropped
  refine TripleE.bind hR (Q := fun _ => Failing age g) ?_ fun _ => TripleE.bind hR (Q := fun _ s => Alive s ∧ Dropped age s) ?_
    fun _ => ?_
  · refine TripleE.lift (fun _ => stable_failing) (Triple.of_all (hS.stopAttempt g) stable_failing ?_)
    exact fun s t _ h hs => ⟨Or.inr (h.steady hs).1, h.steady hs⟩
  · refine TripleE.lift (fun _ => hstable) (Triple.modify stable_failing hstable ?_)
    intro s _ h
    have hsteady : Steady s (s.note (.attemptStopped g)) := ordinary_steady _ _ ((Ordinary.refl s).note (by simp) rfl)
    have hfailing := h.steady hsteady
    exact ⟨Or.inr hfailing.1, hfailing.1, hfailing.dropped List.mem_cons_self⟩
  · refine keeps_triple (stopped_all ordinary_steady hS g (released_steady g)) hstable ?_ (fun _ h => Or.inr h.1) fun _ _ h => h.2
    exact fun s t h hs => hs.dropped h

/-- An answer of the clock and its place on record. -/
theorem clock_triple {P : Recorded L Y → Prop} {Q : Nat → Recorded L Y → Prop} {R : String → Recorded L Y → Prop}
    (hP : (sampling haround age).Stable P) (hQ : ∀ now, (sampling haround age).Stable (Q now))
    (hkeep : ∀ s t, P s → Unrecorded s t → P t) (hinv : ∀ s, P s → Untroubled age s ∨ Alive s)
    (h : ∀ now s, P s → Alive (s.sampled now) ∧ Q now (s.sampled now)) (hR : ∀ e s, P s → R e s) :
    TripleE (sampling haround age) P (.of c.recorded.monotonicClock) Q R := by
  refine TripleE.of (Triple.bind (p := c.monotonicClock) (Q := fun _ => P) ?_ fun result => ?_)
  · exact Triple.of_all hc.monotonicClock hP fun s t _ hs hst => ⟨hinv t (hkeep s t hs hst), hkeep s t hs hst⟩
  · cases result with
    | ok now =>
      refine Triple.bind (Q := fun _ => Q now) (Triple.modify hP (hQ now) ?_) fun _ => Triple.done (hQ now) fun _ _ hq => hq
      intro s _ hs
      obtain ⟨ha, hq⟩ := h now s hs
      exact ⟨Or.inr ha, hq⟩
    | error e => exact Triple.done hP fun s _ hs => hR e s hs

/-- The clock is asked on behalf of attempt `g`, right after the call that says so. -/
theorem ask_triple {call : RecoveryCall} (bad : Nat → Prop)
    (hcall : ∀ now, (⟨some call, since, now⟩ : Sample).attempt = some g ∧
      ((⟨some call, since, now⟩ : Sample).Throws age → bad now)) :
    TripleE (sampling haround age) (fun s => Going age since s ∧ s.calls.head? = some call) (.of c.recorded.monotonicClock)
      (fun now => Asked age g since (bad now)) fun _ => Failing age g := by
  refine clock_triple hc (stable_going.and stable_last) (fun _ => stable_asked) ?_ (fun _ h => Or.inl h.1.1.1) ?_
    fun _ _ h => h.1.failing
  · intro s t h hs
    refine ⟨h.1.steady (unrecorded_steady s t hs), ?_⟩
    rw [hs.1]
    exact h.2
  · rintro now s ⟨⟨⟨huntroubled, halive⟩, hsince⟩, hlast⟩
    have ha : Alive (s.sampled now) := ⟨halive.created, halive.begun, halive.running, halive.lasting⟩
    refine ⟨ha, ⟨ha, hsince⟩, fun sample hs ht => ?_⟩
    have he := throws_sampled huntroubled hs ht
    rw [hlast, hsince] at he
    subst he
    exact ⟨(hcall now).1, (hcall now).2 ht⟩

/-- The deadline of a new attempt: where it cannot be had, the attempt has been stopped. -/
theorem rotationSchedule_records (hrotation : ∀ a, c.plannedRotation = some a → a = age) :
    TripleE (sampling haround age) (fun s => Going age since s ∧ s.calls.head? = some (.attemptCreated g))
      (rotationSchedule c.recorded g) (fun _ => Going age since) fun _ => Dropped age := by
  have hR : ∀ _ : String, (sampling haround age).Stable (Dropped age) := fun _ => stable_dropped
  have hP : (sampling haround age).Stable fun s => Going age since s ∧ s.calls.head? = some (.attemptCreated g) :=
    stable_going.and stable_last
  unfold rotationSchedule
  have hsame : c.recorded.plannedRotation = c.plannedRotation := rfl
  rw [hsame]
  cases hplanned : c.plannedRotation with
  | none => exact TripleE.pure hP fun _ _ h => h.1
  | some a =>
    obtain rfl := hrotation a hplanned
    refine TripleE.onThrow (fun _ => stable_going) hR (S := fun _ => Failing a g) ?_ fun e => ?_
    · refine TripleE.bind (fun _ => stable_failing) (ask_triple hc (fun now => ∃ error, plannedRotationDeadline a now = .error error)
        fun now => ⟨rfl, fun ht => ht⟩) fun now => ?_
      split
      · rename_i deadline hdeadline
        refine TripleE.pure stable_asked fun _ _ h => h.going ?_
        rintro ⟨error, herror⟩
        rw [hdeadline] at herror
        cases herror
      · exact TripleE.throw stable_asked fun _ _ h => h.failing
    · exact TripleE.bind hR (quiesceFailing_triple hc) fun _ => TripleE.pure (stable_alive.and stable_dropped) fun _ _ h => h.2

/-- The wait for the rotation, after the attempt was marked live. -/
theorem waitForRotationOrRecovery_records {started deadline : Nat} :
    TripleE (sampling haround age) (fun s => Going age (some started) s ∧ s.calls.head? = some (.markedLive g))
      (waitForRotationOrRecovery c.recorded started deadline) (fun _ => Going age (some started)) fun _ => Failing age g := by
  refine TripleE.bind (fun _ => stable_failing) (ask_triple hc (fun now => now < started)
    fun now => ⟨rfl, fun ht => ht⟩) fun now => ?_
  split
  · exact TripleE.throw stable_asked fun _ _ h => h.failing
  · rename_i hgood
    split
    · exact TripleE.pure stable_asked fun _ _ h => h.going hgood
    · refine TripleE.conseq (P := Going age (some started)) ?_ (fun _ _ h => h.going hgood) (fun _ _ _ h => h) fun _ _ _ h => h
      refine keeps_triple (.of (hc.waitForRotation (deadline - now))) stable_going ?_ (fun _ h => Or.inl h.1.1) fun _ _ h => h.failing
      exact fun s t h hs => h.steady (unrecorded_steady s t hs)

/-- Leaving for a shutdown is steady. -/
theorem leave_records (g : Nat) : Throwing.All Steady (leaveForShutdown c.recorded g) := by
  have hS : c.Sections Steady := hc.mono unrecorded_steady
  exact .bind (quiesceAttempt_all ordinary_steady hS released_steady g) fun _ => close_all ordinary_steady hS _

/-- A live attempt comes to its end, or a bad answer has had it stopped. -/
theorem awaitLiveEnd_records (schedule : Option (Nat × Nat)) :
    TripleE (sampling haround age) (fun s => Going age (schedule.map (·.1)) s ∧ s.calls.head? = some (.markedLive g))
      (awaitLiveEnd c.recorded g schedule) (fun _ => Going age (schedule.map (·.1))) fun _ => Dropped age := by
  have hS : c.Sections Steady := hc.mono unrecorded_steady
  have hR : ∀ _ : String, (sampling haround age).Stable (Dropped age) := fun _ => stable_dropped
  have hleave : Throwing.All Steady (do leaveForShutdown c.recorded g; pure none : Throwing (Recorded L Y) ω String (Option Bool)) :=
    .bind (leave_records hc g) fun _ => .pure _
  cases schedule with
  | none =>
    refine TripleE.conseq (going_triple ?_) (fun _ _ h => h.1) (fun _ _ _ h => h) fun _ _ _ h => h
    refine .bind (.of hS.waitUntilRecoveryRequired) fun runtime => ?_
    cases runtime with
    | none => exact hleave
    | some runtime => exact .pure _
  | some schedule =>
    obtain ⟨started, deadline⟩ := schedule
    refine TripleE.bind hR (Q := fun _ => Going age (some started)) ?_ fun result => going_triple ?_
    · refine TripleE.onThrow (fun _ => stable_going) hR (waitForRotationOrRecovery_records hc) fun e => ?_
      refine TripleE.bind hR (quiesceFailing_triple hc) fun _ => ?_
      refine TripleE.conseq (keeps_triple (p := closeSourceGeneration c.recorded .permanentFailure)
        (R := fun _ => Dropped age) (close_all ordinary_steady hS _ : Throwing.All Steady (closeSourceGeneration c _))
        (stable_alive.and stable_dropped) ?_ (fun _ h => Or.inr h.1) fun _ _ h => h.2) (fun _ _ h => h) (fun _ _ _ h => h.2)
        fun _ _ _ h => h
      exact fun s t h hs => hs.dropped h
    · cases result with
      | stopped => exact hleave
      | recoveryRequired => exact .pure _
      | deadlineReached =>
        exact .bind (.lift (.atomic fun _ s => ordinary_steady _ _ (beginRotation_ordinary s))) fun won => .ite hleave (.pure _)

omit hc in
/-- Marking live is the last call when it succeeds. -/
theorem tryMarkLive_records (r : RuntimeObservation L) (t : TransportObservation) :
    TripleE (sampling haround age) (Going age since) (tryMarkLive r t g : Throwing (Recorded L Y) ω String Bool)
      (fun live s => Going age since s ∧ (live = true → s.calls.head? = some (.markedLive g))) fun _ => Dropped age := by
  have hQ : ∀ live : Bool, (sampling haround age).Stable fun s =>
      Going age since s ∧ (live = true → s.calls.head? = some (.markedLive g)) := fun _ => stable_going.and stable_last.imp
  refine TripleE.bind (fun _ => stable_dropped) (going_triple (read_all ordinary_steady _)) fun requested => ?_
  split
  · exact TripleE.pure stable_going fun _ _ h => ⟨h, fun hlive => by cases hlive⟩
  · refine TripleE.lift hQ (Triple.atomic stable_going hQ ?_)
    intro _ s _ h
    have hgoing : Going age since (s.markLive t g).2 := h.steady (ordinary_steady _ _ (markLive_ordinary t g s))
    refine ⟨Or.inl hgoing.1.1, hgoing, fun hlive => ?_⟩
    revert hlive
    unfold World.markLive
    split
    · exact fun hlive => by cases hlive
    · exact fun _ => rfl

/-- An attempt comes to its end, or a bad answer has had it stopped. -/
theorem awaitEnd_records (schedule : Option (Nat × Nat)) :
    TripleE (sampling haround age) (Going age (schedule.map (·.1))) (awaitEnd c.recorded g schedule)
      (fun _ => Going age (schedule.map (·.1))) fun _ => Dropped age := by
  have hS : c.Sections Steady := hc.mono unrecorded_steady
  have hR : ∀ _ : String, (sampling haround age).Stable (Dropped age) := fun _ => stable_dropped
  refine TripleE.bind hR (going_triple (.of (hS.observeAttempt g))) fun opening => ?_
  refine TripleE.bind hR (going_triple (open_all ordinary_steady hS opening g)) fun _ => ?_
  refine TripleE.bind hR (going_triple (.of hS.waitUntilLiveOrRecoveryRequired)) fun runtime => ?_
  cases runtime with
  | none => exact going_triple (.bind (leave_records hc g) fun _ => .pure _)
  | some runtime =>
    show TripleE _ _ (if runtime.state = .live then _ else _) _ _
    split
    · refine TripleE.bind hR (going_triple (.of hS.observeRuntime)) fun qualified => ?_
      refine TripleE.bind hR (going_triple (.of (hS.observeAttempt g))) fun transport => ?_
      refine TripleE.bind hR (tryMarkLive_records qualified transport) fun live => ?_
      cases live with
      | true => exact (awaitLiveEnd_records hc schedule).conseq (fun _ _ h => ⟨h.1, h.2 rfl⟩) (fun _ _ _ h => h) fun _ _ _ h => h
      | false => exact TripleE.pure (stable_going.and stable_last.imp) fun _ _ h => h.1
    · exact going_triple (.pure _)

/-! ## One attempt -/

/-- Creating an attempt is the last call when it succeeds. -/
theorem createAttempt_records (g : Nat) :
    TripleE (sampling haround age) (Going age since) (createAttempt c.recorded g)
      (fun created s => Going age since s ∧ (created = true → s.calls.head? = some (.attemptCreated g))) fun _ => Dropped age := by
  have hR : ∀ _ : String, (sampling haround age).Stable (Dropped age) := fun _ => stable_dropped
  let published : Recorded L Y → Prop := fun s => Going age since s ∧ s.calls.head? = some (.attemptCreated g)
  have hpublished : (sampling haround age).Stable published := stable_going.and stable_last
  refine TripleE.bind hR (going_triple (.of ((hc.mono unrecorded_steady).createAttempt g))) fun created => ?_
  cases created with
  | false => exact TripleE.pure stable_going fun _ _ h => ⟨h, fun hf => by cases hf⟩
  | true =>
    refine TripleE.bind hR (Q := fun _ => published) ?_ fun _ => TripleE.bind hR (Q := fun _ => published) ?_ fun transport =>
      TripleE.bind hR (Q := fun _ => published) ?_ fun _ => TripleE.pure hpublished fun _ _ h => ⟨h.1, fun _ => h.2⟩
    · refine TripleE.lift (fun _ => hpublished) (Triple.modify stable_going hpublished ?_)
      intro s _ h
      have hgoing : Going age since (s.attemptPublished g) := h.steady
        ⟨rfl, List.suffix_cons _ _, fun ha => ⟨ha.created, ha.begun, ha.running, ha.lasting⟩, rfl⟩
      exact ⟨Or.inl hgoing.1.1, hgoing, rfl⟩
    · refine keeps_triple (.of (hc.observeAttempt g)) hpublished ?_ (fun _ h => Or.inl h.1.1.1) fun _ _ h => h.1.1.1.dropped
      intro s t h hs
      refine ⟨h.1.steady (unrecorded_steady s t hs), ?_⟩
      rw [hs.1]
      exact h.2
    · refine TripleE.lift (fun _ => hpublished) (Triple.modify hpublished hpublished ?_)
      intro s _ h
      have hgoing : Going age since (s.attemptCounted g transport) := h.1.steady
        (ordinary_steady _ _ ⟨.onObservation _ s, rfl, rfl, rfl⟩)
      exact ⟨Or.inl hgoing.1.1, hgoing, h.2⟩

omit hc in
/-- A piece that leaves the record alone. -/
theorem untroubled_triple {p : Throwing (Recorded L Y) ω String α} (hp : Throwing.All (fun s t => t.record = s.record) p) :
    TripleE (sampling haround age) (Untroubled age) p (fun _ => Untroubled age) fun _ => Dropped age :=
  keeps_triple hp stable_untroubled (fun _ _ h hs => h.steady hs) (fun _ h => Or.inl h) fun _ _ h => h.dropped

/-- A round leaves nothing on record against the coordinator, or the attempt of which it is has been stopped. -/
theorem attemptRound_records (hrotation : ∀ a, c.plannedRotation = some a → a = age) :
    TripleE (sampling haround age) (fun s => Untroubled age s ∧ Alive s) (attemptRound c.recorded) (fun _ => Untroubled age)
      fun _ => Dropped age := by
  have hS : c.Sections Steady := hc.mono unrecorded_steady
  have hU : c.Sections fun s t => t.record = s.record := hc.mono fun _ _ h => h.2
  have hR : ∀ _ : String, (sampling haround age).Stable (Dropped age) := fun _ => stable_dropped
  -- whatever the previous attempt has left of its begin
  refine TripleE.conseq (P := fun s => ∃ since, Going age since s) (Triple.exists_pre fun since => ?_)
    (fun s _ h => ⟨_, h, rfl⟩) (fun _ _ _ h => h) fun _ _ _ h => h
  have hleave : ∀ {since : Option Nat} (g : Nat), TripleE (sampling haround age) (Going age since)
      (do leaveForShutdown c.recorded g; pure false : Throwing (Recorded L Y) ω String Bool) (fun _ => Untroubled age)
      fun _ => Dropped age := by
    intro since g
    exact (going_triple (.bind (leave_records hc g) fun _ => .pure _)).conseq (fun _ _ h => h) (fun _ _ _ h => h.1.1) fun _ _ _ h => h
  have hstay : ∀ {since : Option Nat}, TripleE (sampling haround age) (Going age since)
      (pure false : Throwing (Recorded L Y) ω String Bool) (fun _ => Untroubled age) fun _ => Dropped age :=
    TripleE.pure stable_going fun _ _ h => h.1.1
  have hend : ∀ {since : Option Nat} (g : Nat) (due : Bool), TripleE (sampling haround age) (Going age since)
      (do let transport ← quiesceAttempt c.recorded g; settle c.recorded g due transport : Throwing (Recorded L Y) ω String Bool)
      (fun _ => Untroubled age) fun _ => Dropped age := by
    intro since g due
    refine TripleE.bind hR (going_triple (quiesceAttempt_all ordinary_steady hS released_steady g)) fun transport => ?_
    exact (untroubled_triple (settle_all ours_record hU g due transport)).conseq (fun _ _ h => h.1.1) (fun _ _ _ h => h) fun _ _ _ h => h
  refine TripleE.bind hR (going_triple (read_all ordinary_steady _)) fun stopping => ?_
  split
  · exact hstay
  refine TripleE.bind hR (going_triple (read_all ordinary_steady _)) fun g => ?_
  refine TripleE.bind hR (createAttempt_records hc g) fun created => ?_
  cases created with
  | false =>
    exact (untroubled_triple (giveUp_all ours_record _ _ _)).conseq (fun _ _ h => h.1.1.1) (fun _ _ _ h => h) fun _ _ _ h => h
  | true =>
    have hcreated : (sampling haround age).Stable fun s =>
        Going age since s ∧ (true = true → s.calls.head? = some (.attemptCreated g)) := stable_going.and stable_last.imp
    refine TripleE.bind hR (Q := fun _ s => Going age since s ∧ s.calls.head? = some (.attemptCreated g)) ?_ fun stopping => ?_
    · exact TripleE.lift (fun _ => stable_going.and stable_last)
        (Triple.read hcreated (fun _ => stable_going.and stable_last) fun _ _ h => ⟨h.1, h.2 rfl⟩)
    split
    · exact (hleave g).conseq (fun _ _ h => h.1) (fun _ _ _ h => h) fun _ _ _ h => h
    refine TripleE.bind hR (rotationSchedule_records hc hrotation) fun schedule => ?_
    refine TripleE.bind hR (Q := fun _ => Going age (schedule.map (·.1))) ?_ fun _ => ?_
    · refine TripleE.lift (fun _ => stable_going) (Triple.modify stable_going stable_going ?_)
      intro s _ h
      have hgoing : Going age (schedule.map (·.1)) (s.generationStarted (schedule.map (·.1))) :=
        ⟨⟨h.1.1, h.1.2.created, h.1.2.begun, h.1.2.running, h.1.2.lasting⟩, rfl⟩
      exact ⟨Or.inl hgoing.1.1, hgoing⟩
    refine TripleE.bind hR (going_triple (.of (hS.startAttempt g))) fun result => ?_
    refine TripleE.bind hR (going_triple (read_all ordinary_steady _)) fun stopping => ?_
    split
    · exact hleave g
    dsimp only
    split
    · refine TripleE.bind hR (awaitEnd_records hc schedule) fun ended => ?_
      cases ended with
      | none => exact hstay
      | some due => exact hend g due
    · exact hend g false

end Attempt

end Rely

end MarketDataGateway.Recovery
