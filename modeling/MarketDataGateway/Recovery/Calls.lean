import MarketDataGateway.Recovery.Contract
import MarketDataGateway.Recovery.Sections

/-!
# The coordinator under a contract

Where the coordinator's thread is between two calls, in terms of its place and of what the contract promises there, and what a call
and a section of its own make of that.
-/

namespace MarketDataGateway.Recovery

open BinanceTransport MarketRuntime OrderBook Threads Promise

variable {L : ProjectionLibrary} {X ω : Type} {around : World L X → X → Prop} {c : Collaborators L X ω}

/-- A source generation is open only where there are callbacks. -/
def Configured (c : Collaborators L X ω) (p : Place) : Prop :=
  p.opened.isSome = true → c.sourceGenerationLifecycle.isSome = true

/-- No other thread ends a recovery whose thread has been created. -/
theorem ClientStep.ended {reliable : Prop} {s t : World L X} (hi : CoordinatorInv reliable s) (hs : ClientStep around s t) :
    (t.coordinator.observation.terminal = s.coordinator.observation.terminal ∧
        t.coordinator.observation.exhausted = s.coordinator.observation.exhausted ∧
          t.coordinator.threadCreated = s.coordinator.threadCreated) ∨
      (s.coordinator.threadCreated = false ∧ (t.coordinator.observation.terminal = true → t.coordinator.threadCreated = false)) := by
  have hpending : s.coordinator.startPending = true → s.coordinator.threadCreated = false := by
    intro hp
    cases hc : s.coordinator.threadCreated with
    | false => rfl
    | true => rw [(hi.created hc).2] at hp; cases hp
  cases hs with
  | failStart hp hm => exact Or.inr ⟨hpending hp, fun _ => hpending hp⟩
  | createThread hp =>
    refine Or.inr ⟨hpending hp, fun ht => ?_⟩
    rw [(hi.failed ht).2] at hp
    cases hp
  | start hm =>
    refine Or.inl ?_
    unfold Coordinator.start
    split
    · exact ⟨rfl, rfl, rfl⟩
    · split <;> exact ⟨rfl, rfl, rfl⟩
  | requestStop hm =>
    refine Or.inl ?_
    unfold Coordinator.requestStop
    split
    · exact ⟨rfl, rfl, rfl⟩
    · split <;> exact ⟨rfl, rfl, rfl⟩
  | beginAcceptance hm =>
    refine Or.inl ?_
    unfold Coordinator.beginAcceptance
    split <;> exact ⟨rfl, rfl, rfl⟩
  | outside hx | submit hc hs | requestStopToken hr | takeAttempt hr hj | finishStop hr hj ha hm | finishAcceptance hr hj hm =>
    exact Or.inl ⟨rfl, rfl, rfl⟩

namespace Contract

variable (K : Contract L X ω around c)

/-- A failure has been recorded that is not recoverable. -/
def Unrecoverable (s : World L X) : Prop := ∃ g d e, .failureRecorded g d e ∈ s.calls ∧ d.recoverable = false

/-- Every failure that has been recorded is as promised. If the recovery is terminal its budget is exhausted, its runtime did not
start, a failure was not recoverable, or the collaborators are to blame. Before the thread is created and once the recovery is
terminal, outside is what is promised of the end. -/
structure Good (s : World L X) : Prop where
  failures : ∀ g d e, .failureRecorded g d e ∈ s.calls → K.good g d e
  terminal : s.coordinator.observation.terminal = true → s.coordinator.observation.exhausted = true ∨
    s.coordinator.threadCreated = false ∨ Unrecoverable s ∨ ¬K.calm
  ended : s.coordinator.observation.terminal = true ∨ s.coordinator.threadCreated = false → K.ended s.outside

variable {K} in
/-- The other threads keep the promises. -/
theorem Good.client {s t : World L X} (h : K.Good s) (hi : CoordinatorInv K.callbacks s)
    (hs : ClientStep around s t) : K.Good t := by
  have hcalls : Unrecoverable s → Unrecoverable t := by
    unfold Unrecoverable
    rw [hs.calls]
    exact id
  refine ⟨fun g d e hd => h.failures g d e (hs.calls ▸ hd), fun ht => ?_, fun ht => ?_⟩
  · rcases hs.ended hi with ⟨hterminal, hexhausted, hcreated⟩ | ⟨-, hunborn⟩
    · rw [hexhausted, hcreated]
      exact (h.terminal (hterminal ▸ ht)).imp id (Or.imp id (Or.imp hcalls id))
    · exact Or.inr (Or.inl (hunborn ht))
  · have hended : s.coordinator.observation.terminal = true ∨ s.coordinator.threadCreated = false := by
      rcases hs.ended hi with ⟨hterminal, -, hcreated⟩ | ⟨hunborn, -⟩
      · rwa [hterminal, hcreated] at ht
      · exact Or.inr hunborn
    cases hs with
    | outside hx => exact K.ended_around _ _ hx (h.ended hended)
    | _ => exact h.ended hended

/-- What the whole loop relies on. -/
def full : Rely (World L X) where
  env := ClientStep around
  inv s := CoordinatorInv K.callbacks s ∧ Outside K.inv s ∧ K.Good s
  inv_env := by
    rintro s t ⟨hi, ho, hg⟩ hs
    exact ⟨hs.inv hi, K.rely.inv_env s t ho hs, hg.client hi hs⟩

/-- The coordinator's thread is at a place, and what the contract promises of the stage holds. -/
def Here (σ : Stage L) (p : Place) (s : World L X) : Prop := At K.callbacks p s ∧ Outside (K.holds σ p.spot) s

/-- No attempt is under way; what is open of its source generation may be closed. -/
def Stilled (held : Bool) (s : World L X) : Prop :=
  ∃ p : Place, p.held = held ∧ Configured c p ∧ p.Quiet ∧ At K.callbacks p s ∧
    (p.opened.isSome = true → Outside (K.holds .closing p.spot) s)

/-- An exception is on its way: the attempt is to be given up, or it has been quiesced. -/
def Thrown (held : Bool) (s : World L X) : Prop :=
  ¬K.calm ∧ ((∃ p : Place, p.held = held ∧ Configured c p ∧ p.Running ∧ K.Here (.ending .loose) p s) ∨ K.Stilled held s)

/-- The attempt is over and its source generation closed. -/
def Done (held : Bool) (s : World L X) : Prop := ∃ p : Place, p.held = held ∧ p.Quiet ∧ p.opened = none ∧ At K.callbacks p s

/-- The thread is on its way out. -/
def Finished (held : Bool) (s : World L X) : Prop := ∃ p : Place, p.held = held ∧ p.opened = none ∧ At K.callbacks p s

/-- Another attempt may be made. -/
structure Ready (p : Place) : Prop where
  phase : p.phase = .ready
  active : p.active = none
  counted : p.counted = false
  opened : p.opened = none
  quiesced : p.quiesced = false
  ended : p.ended = false
  spent : p.spent = false
  held : p.held = false
  terminal : p.terminal = false
  lastLe : p.last ≤ p.made
  since : p.since = none

def AtHead (s : World L X) : Prop := ∃ p : Place, Ready p ∧ K.Here .head p s

variable {K} {σ τ : Stage L} {p q : Place} {held : Bool}

/-! ## Stability -/

/-- The other threads leave the thread where it is. -/
theorem stable_at : K.full.Stable (At K.callbacks p) :=
  fun _ _ hi ha hs => ha.kept (ClientStep.kept hs (hi.1.created ha.created) ha.created ha.running)

/-- What the contract promises of a stage is stable. -/
theorem stable_outside (q : Spot) : K.full.Stable (Outside (K.holds σ q)) :=
  fun _ _ hi hh hs => K.holds_step hi.2.1 hh hs

/-- A place and its promise are stable. -/
theorem stable_here : K.full.Stable (K.Here σ p) := stable_at.and (stable_outside _)

/-- A still attempt stays so. -/
theorem stable_stilled : K.full.Stable (K.Stilled held) :=
  Rely.Stable.exists fun _ => (Rely.Stable.const _).and <| (Rely.Stable.const _).and <| (Rely.Stable.const _).and <|
    stable_at.and (stable_outside _).imp

/-- An exception stays on its way. -/
theorem stable_thrown : K.full.Stable (K.Thrown held) :=
  (Rely.Stable.const _).and <|
    (Rely.Stable.exists fun _ => (Rely.Stable.const _).and <| (Rely.Stable.const _).and <| (Rely.Stable.const _).and stable_here).or
      stable_stilled

/-- An attempt that is over stays so. -/
theorem stable_done : K.full.Stable (K.Done held) :=
  Rely.Stable.exists fun _ => (Rely.Stable.const _).and <| (Rely.Stable.const _).and <| (Rely.Stable.const _).and stable_at

/-- A thread on its way out stays so. -/
theorem stable_finished : K.full.Stable (K.Finished held) :=
  Rely.Stable.exists fun _ => (Rely.Stable.const _).and <| (Rely.Stable.const _).and stable_at

/-- A thread at the head of its loop stays there. -/
theorem stable_atHead : K.full.Stable K.AtHead := Rely.Stable.exists fun _ => (Rely.Stable.const _).and stable_here

/-! ## Calls -/

/-- A call leaves the thread where it is. -/
theorem at_outsideOnly {s t : World L X} (h : OutsideOnly s t) : Kept s t := by
  rw [h]
  exact ⟨rfl, rfl, rfl, rfl, rfl, rfl, rfl, rfl, rfl, rfl, rfl, rfl⟩

/-- A call takes what is outside from one promise to the next. -/
theorem call {α : Type} {P : Bool → X → Prop} {q : Program (World L X) ω α} {Q : α → Bool → X → Prop}
    (hl : K.toPromise.Leads P q Q) (hlast : p.terminal = false) :
    Triple K.full (fun s => At K.callbacks p s ∧ Outside P s) q fun r s => At K.callbacks p s ∧ Outside (Q r) s := by
  have h : Triple K.full (fun s => Outside P s ∧ At K.callbacks p s) q fun r s => Outside (Q r) s ∧ At K.callbacks p s := by
    refine hl.2.strengthen (I := fun s => CoordinatorInv K.callbacks s ∧ K.Good s) hl.1 rfl ?_ stable_at ?_
    · intro t
      exact ⟨fun h => ⟨h.2.1, h.1, h.2.2⟩, fun h => ⟨h.2.1, h.1, h.2.2⟩⟩
    · intro t u hi ha ho
      refine ⟨⟨?_, ?_⟩, ha.kept (at_outsideOnly ho)⟩
      · rw [ho]
        exact hi.1.kept (at_outsideOnly rfl) ⟨hi.1.halted.token, hi.1.halted.stopped, hi.1.halted.stopping⟩ id rfl
      · rw [ho]
        refine ⟨hi.2.2.failures, hi.2.2.terminal, fun ht => ?_⟩
        rcases ht with ht | ht
        · exact absurd (ht.symm.trans (ha.terminal.trans hlast)) (by simp)
        · exact absurd (ht.symm.trans ha.created) (by simp)
  exact h.conseq (fun _ _ h => ⟨h.2, h.1⟩) fun _ _ _ h => ⟨h.2, h.1⟩

/-- A call that may throw: `Q` where it returns, `Z` where it throws. -/
theorem callE {α : Type} {P : Bool → X → Prop} {q : Program (World L X) ω (Except String α)} {Q : α → Bool → X → Prop}
    {Z : Bool → X → Prop} (hl : K.toPromise.Leads P q (orElse Q Z)) (hlast : p.terminal = false) :
    TripleE K.full (fun s => At K.callbacks p s ∧ Outside P s) (.of q) (fun r s => At K.callbacks p s ∧ Outside (Q r) s)
      fun _ s => At K.callbacks p s ∧ Outside Z s := by
  refine TripleE.of ((call hl hlast).post fun r s _ h => ?_)
  cases r with
  | ok a => exact h
  | error e => exact h

/-- An observation of the attempt is one of its own generation. -/
theorem observe {P : Bool → X → Prop} {g : Nat} {Q : TransportObservation → Bool → X → Prop} {Z : Bool → X → Prop}
    (hl : K.toPromise.Leads P (c.observeAttempt g) (orElse Q Z)) (hlast : p.terminal = false) :
    TripleE K.full (fun s => At K.callbacks p s ∧ Outside P s) (.of (c.observeAttempt g))
      (fun t s => (At K.callbacks p s ∧ Outside (Q t) s) ∧ t.connectionGeneration = g)
      fun _ s => (At K.callbacks p s ∧ Outside Z s) ∧ ¬K.reliable := by
  refine TripleE.of (((call hl hlast).returns (K.generations g)).post fun r s _ h => ?_)
  cases r with
  | ok t => exact ⟨h.1, h.2.1 t rfl⟩
  | error e =>
    refine ⟨h.1, fun hr => ?_⟩
    obtain ⟨t, ht⟩ := h.2.2 hr
    cases ht

/-! ## Sections -/

/-- A section leaves what is outside, whether a shutdown has been requested, and the failures on record as they are. -/
structure Own (f : World L X → World L X) : Prop where
  outside : ∀ s, (f s).outside = s.outside
  shutdown : ∀ s, (f s).coordinator.shutdownRequested = s.coordinator.shutdownRequested
  recorded : ∀ s g d e, .failureRecorded g d e ∈ (f s).calls ↔ .failureRecorded g d e ∈ s.calls
  ended : ∀ s, (f s).coordinator.observation.terminal = s.coordinator.observation.terminal ∧
    (f s).coordinator.observation.exhausted = s.coordinator.observation.exhausted ∧
      (f s).coordinator.threadCreated = s.coordinator.threadCreated

/-- A section of the thread's own leaves what is outside. -/
theorem Own.outsideIff {f : World L X → World L X} (hf : Own f) {P : Bool → X → Prop} {s : World L X} :
    Outside P (f s) ↔ Outside P s := by
  simp only [Outside, hf.outside, hf.shutdown]

/-- The promises look at the failures on record and at the end of the recovery only. -/
theorem Good.kept {s t : World L X} (h : K.Good s) (houtside : t.outside = s.outside) (hrecorded : ∀ g d e, .failureRecorded g d e ∈ t.calls ↔
      .failureRecorded g d e ∈ s.calls)
    (hended : t.coordinator.observation.terminal = s.coordinator.observation.terminal ∧
      t.coordinator.observation.exhausted = s.coordinator.observation.exhausted ∧
        t.coordinator.threadCreated = s.coordinator.threadCreated) : K.Good t := by
  obtain ⟨hterminal, hexhausted, hcreated⟩ := hended
  refine ⟨fun g d e hd => h.failures g d e ((hrecorded g d e).mp hd), fun ht => ?_, fun ht => ?_⟩
  swap
  · rw [hterminal, hcreated] at ht
    rw [houtside]
    exact h.ended ht
  rw [hexhausted, hcreated]
  refine (h.terminal (hterminal ▸ ht)).imp id (Or.imp id (Or.imp ?_ id))
  rintro ⟨g, d, e, hd, hr⟩
  exact ⟨g, d, e, (hrecorded g d e).mpr hd, hr⟩

/-- A section of the thread's own that leads from one place to the next. -/
theorem section_triple {P Q : World L X → Prop} {f : World L X → World L X} (hf : Own f) (hP : K.full.Stable P)
    (hQ : K.full.Stable Q) (h : ∀ s, CoordinatorInv K.callbacks s → P s → CoordinatorInv K.callbacks (f s) ∧ Q (f s)) :
    Triple K.full P (Program.modify f : Program (World L X) ω Unit) fun _ => Q := by
  refine Triple.modify hP hQ fun s hi hs => ?_
  obtain ⟨hi', hq⟩ := h s hi.1 hs
  exact ⟨⟨hi', hf.outsideIff.mpr hi.2.1, hi.2.2.kept (hf.outside s) (hf.recorded s) (hf.ended s)⟩, hq⟩

/-- The rule of a section of the thread's own. -/
theorem act_triple {P Q : World L X → Prop} {R : String → World L X → Prop} {f : World L X → World L X} (hf : Own f)
    (hP : K.full.Stable P) (hQ : K.full.Stable Q)
    (h : ∀ s, CoordinatorInv K.callbacks s → P s → CoordinatorInv K.callbacks (f s) ∧ Q (f s)) :
    TripleE K.full P (act f : Recovering L X ω Unit) (fun _ => Q) R :=
  TripleE.lift (fun _ => hQ) (section_triple hf hP hQ h)

/-- A section of the thread's own that takes the contract from stage to stage. -/
theorem act_here {R : String → World L X → Prop} {f : World L X → World L X} (hf : Own f)
    (hstand : ∀ s, Stands K.callbacks p s → Stands K.callbacks q (f s))
    (hh : ∀ b x, K.holds σ p.spot b x → K.holds τ q.spot b x) :
    TripleE K.full (K.Here σ p) (act f : Recovering L X ω Unit) (fun _ => K.Here τ q) R := by
  refine act_triple hf stable_here stable_here fun s hi hs => ?_
  obtain ⟨hi', ha'⟩ := hstand s ⟨hi, hs.1⟩
  exact ⟨hi', ha', hf.outsideIff.mpr (hh _ _ hs.2)⟩

/-- Reading the thread's own state, or whether a shutdown has been requested. -/
theorem read_triple {α : Type} {P : World L X → Prop} {R : String → World L X → Prop} {f : World L X → α} {V : α → Prop}
    (hP : K.full.Stable P) (h : ∀ s, CoordinatorInv K.callbacks s → P s → V (f s)) :
    TripleE K.full P (.lift (Program.read f) : Recovering L X ω α) (fun a s => V a ∧ P s) R :=
  TripleE.lift (fun _ => (Rely.Stable.const _).and hP)
    (Triple.read hP (fun _ => (Rely.Stable.const _).and hP) fun s hi hs => ⟨h s hi.1 hs, hs⟩)

/-- Asking for a requested shutdown changes nothing. -/
theorem stop_triple {P : World L X → Prop} {R : String → World L X → Prop} (hP : K.full.Stable P) :
    TripleE K.full P (stopRequested : Recovering L X ω Bool) (fun _ => P) R :=
  TripleE.conseq (read_triple (V := fun _ => True) hP fun _ _ _ => trivial) (fun _ _ h => h) (fun _ _ _ h => h.2)
    fun _ _ _ h => h

end Contract

end MarketDataGateway.Recovery
