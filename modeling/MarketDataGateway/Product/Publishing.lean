import MarketDataGateway.Product.Shutdown
import MarketDataGateway.Transport.StopCut

/-!
# Frames and generations

What the publication makes of a frame depends on where the coordinator is: nothing before it has opened the frame's generation, an
event while the generation is open. The invariant says where the source may be while a network thread runs; the contract of the
coordinator's calls says where it is at each stage of an attempt.
-/

namespace MarketDataGateway.ProductRuntime

open BinanceTransport Events Recovery Threads MarketRuntime Promise

variable {L : ProjectionLibrary} {T : EventTypes} {Y Ω : Type} {setup : EventPublicationSetup}
  {profile : BinanceTransportProfile} {base : Collaborators L (Wired T Y) (WiringOutcome Ω)}

/-! ## The invariant -/

/-- A frame is one of a generation that has not been quiesced. It is ignored before its generation is opened and after a shutdown,
and published in between, unless the numbers of a session have run out. -/
def WiringEvent.Fair (event : WiringEvent) (past : List WiringEvent) : Prop :=
  match event with
  | .frame g result runOut =>
    .quiesced g ∉ past ∧ (.opened g ∉ past ∨ .shutdown ∈ past → result = .ignoredBeforeOpen) ∧
      (.opened g ∈ past → .shutdown ∉ past → result = .published ∨ result = .invariantFailure ∧ runOut = true)
  | _ => True

/-- The source may be given frames of the generation. -/
def Receptive (generation : Nat) (publication : EventPublication T) : Prop :=
  publication.sourceState = .shutdown ∨
    (publication.sourceState = .opened ∧ publication.sourceGeneration = some generation) ∨
      (publication.sourceState = .closed ∧ ∀ n, publication.sourceGeneration = some n → n < generation)

/-- What holds of the publication and the transports in every run. -/
structure WiredInv (x : Wired T Y) : Prop where
  fair : Every WiringEvent.Fair x.log
  latest : ∀ g, .opened g ∈ x.log → ∃ n, x.publication.sourceGeneration = some n ∧ g ≤ n
  opened : ∀ n, x.publication.sourceGeneration = some n → .opened n ∈ x.log
  shutdown : .shutdown ∈ x.log ↔ x.publication.sourceState = .shutdown
  stopped : ∀ g t, x.transports g = some t → t.observation.stopped = true → t.thread.joinable = false
  running : ∀ g t, x.transports g = some t → t.thread = .running → Receptive g x.publication
  still : ∀ g t, .quiesced g ∈ x.log → x.transports g = some t → t.thread ≠ .running

/-- The attempt's network thread may be running. -/
@[simp] def Stage.mayRun : Stage L → Bool
  | .created | .started _ | .opening _ | .opened | .waited _ | .qualified _ | .observed _ _ | .live | .ending _ => true
  | _ => false

/-- The attempt's generation has not been quiesced. -/
@[simp] def Stage.unquiesced : Stage L → Bool
  | .head | .created | .started _ | .opening _ | .opened | .waited _ | .qualified _ | .observed _ _ | .live | .ending _
  | .stopped _ | .quiet _ _ => true
  | _ => false

/-- Where the source is at a spot of the coordinator: before the attempt's generation, at it, or quiesced. -/
def SourceAt (unquiesced : Bool) (p : Spot) (publication : EventPublication T) : Prop :=
  publication.sourceState = .shutdown ∨
    (p.opened = none ∧ publication.sourceState = .closed ∧
      ∀ n, publication.sourceGeneration = some n → n ≤ p.generation ∧ (unquiesced = true → n < p.generation)) ∨
      (p.opened.isSome = true ∧ publication.sourceState = (if p.quiesced then .quiesced else .opened) ∧
        publication.sourceGeneration = some p.generation)

/-- What holds at a stage of an attempt: only the attempt's own thread runs, if any, and the source is where it belongs. -/
structure Fits (σ : Stage L) (p : Spot) (x : Wired T Y) : Prop where
  runs : ∀ g t, x.transports g = some t → t.thread = .running → g = p.generation ∧ Stage.mayRun σ = true
  quiesced : ∀ g, .quiesced g ∈ x.log → g ≤ p.generation ∧ (Stage.unquiesced σ = true → g < p.generation)
  fresh : Stage.unquiesced σ = true → p.quiesced = false
  source : SourceAt (Stage.unquiesced σ) p x.publication

variable {x y : Wired T Y} {σ τ : Stage L} {p : Spot} {g : Nat}

/-- A stage that says no more follows from one that fits. -/
theorem Fits.mono (h : Fits σ p x) (hrun : Stage.mayRun σ = true → Stage.mayRun τ = true)
    (hfresh : Stage.unquiesced τ = true → Stage.unquiesced σ = true) : Fits τ p x where
  runs g t ht hr := ⟨(h.runs g t ht hr).1, hrun (h.runs g t ht hr).2⟩
  quiesced g hg := ⟨(h.quiesced g hg).1, fun hτ => (h.quiesced g hg).2 (hfresh hτ)⟩
  fresh hτ := h.fresh (hfresh hτ)
  source := h.source.imp id (Or.imp (fun ⟨ho, hc, hn⟩ => ⟨ho, hc, fun n hg => ⟨(hn n hg).1, fun hτ => (hn n hg).2 (hfresh hτ)⟩⟩) id)

/-- The attempt before has been replaced and another one may be made. -/
theorem Fits.renewed {since : Option Nat} {planned : Bool} (h : Fits (.replaced planned : Stage L) ⟨g, none, false, since⟩ x) :
    Fits (.head : Stage L) ⟨g + 1, none, false, none⟩ x where
  runs g' t ht hr := absurd (h.runs g' t ht hr).2 (by simp)
  quiesced g' hg := ⟨Nat.le_succ_of_le (h.quiesced g' hg).1, fun _ => Nat.lt_succ_of_le (h.quiesced g' hg).1⟩
  fresh _ := rfl
  source := by
    rcases h.source with hs | ⟨-, hc, hn⟩ | ⟨ho, -⟩
    · exact Or.inl hs
    · exact Or.inr (Or.inl ⟨rfl, hc, fun n hg => ⟨Nat.le_succ_of_le (hn n hg).1, fun _ => Nat.lt_succ_of_le (hn n hg).1⟩⟩)
    · cases ho

/-! ## What the others change -/

/-- A transport is there as it was, or as the operation has left it. -/
theorem onTransport_some {f : Transport → Transport} {g' : Nat} {t' : Transport}
    (h : (x.onTransport g f).transports g' = some t') :
    x.transports g' = some t' ∨ (g' = g ∧ ∃ t, x.transports g = some t ∧ t' = f t) := by
  have hupdate : Function.update x.transports g ((x.transports g).map f) g' = some t' := h
  by_cases hg : g' = g
  · subst hg
    rw [Function.update_self, Option.map_eq_some_iff] at hupdate
    obtain ⟨t, ht, rfl⟩ := hupdate
    exact Or.inr ⟨rfl, t, ht, rfl⟩
  · rw [Function.update_of_ne hg] at hupdate
    exact Or.inl hupdate

/-- A transport goes on: its thread does not begin to run, and is not left behind by a stop. -/
def Onward (x : Wired T Y) (g : Nat) (f : Transport → Transport) : Prop :=
  ∀ t, x.transports g = some t → ((f t).thread = .running → t.thread = .running) ∧
    ((f t).thread.joinable = true → t.thread.joinable = true) ∧
      ((f t).observation.stopped = true → (f t).thread.joinable = false)

/-- A transport that goes on keeps the invariant. -/
theorem WiredInv.onTransport (hi : WiredInv x) {f : Transport → Transport} (hf : Onward x g f) : WiredInv (x.onTransport g f) where
  fair := hi.fair
  latest := hi.latest
  opened := hi.opened
  shutdown := hi.shutdown
  stopped g' t' ht' hs := by
    rcases onTransport_some ht' with ht | ⟨rfl, t, ht, rfl⟩
    · exact hi.stopped g' t' ht hs
    · exact (hf t ht).2.2 hs
  running g' t' ht' hr := by
    rcases onTransport_some ht' with ht | ⟨rfl, t, ht, rfl⟩
    · exact hi.running g' t' ht hr
    · exact hi.running g' t ht ((hf t ht).1 hr)
  still g' t' hq ht' hr := by
    rcases onTransport_some ht' with ht | ⟨rfl, t, ht, rfl⟩
    · exact hi.still g' t' hq ht hr
    · exact hi.still g' t hq ht ((hf t ht).1 hr)

/-- A transport that goes on fits where it did. -/
theorem Fits.onTransport (h : Fits σ p x) {f : Transport → Transport} (hf : Onward x g f) : Fits σ p (x.onTransport g f) where
  runs g' t' ht' hr := by
    rcases onTransport_some ht' with ht | ⟨rfl, t, ht, rfl⟩
    · exact h.runs g' t' ht hr
    · exact h.runs g' t ht ((hf t ht).1 hr)
  quiesced := h.quiesced
  fresh := h.fresh
  source := h.source

/-- Sessions that move keep the invariant. -/
theorem WiredInv.sameSource (hi : WiredInv x) {publication : EventPublication T} (hs : SameSource x.publication publication) :
    WiredInv { x with publication := publication } where
  fair := hi.fair
  latest := by rw [hs.2]; exact hi.latest
  opened := by rw [hs.2]; exact hi.opened
  shutdown := by rw [hs.1]; exact hi.shutdown
  stopped := hi.stopped
  running g t ht hr := by
    have hrec := hi.running g t ht hr
    unfold Receptive at hrec ⊢
    rwa [hs.1, hs.2]
  still := hi.still

/-- Sessions that move leave the source where it belongs. -/
theorem Fits.sameSource (h : Fits σ p x) {publication : EventPublication T} (hs : SameSource x.publication publication) :
    Fits σ p { x with publication := publication } where
  runs := h.runs
  quiesced := h.quiesced
  fresh := h.fresh
  source := by
    have hsource := h.source
    unfold SourceAt at hsource ⊢
    rwa [hs.1, hs.2]

/-- What is noted says nothing about openings, quiescence or a shutdown. -/
def Plain (event : WiringEvent) : Prop := (∀ g, event ≠ .opened g) ∧ (∀ g, event ≠ .quiesced g) ∧ event ≠ .shutdown

/-- A fair note keeps the invariant. -/
theorem WiredInv.noted (hi : WiredInv x) {event : WiringEvent} (hp : Plain event) (hf : event.Fair x.log) :
    WiredInv { x with log := event :: x.log } where
  fair := ⟨hf, hi.fair⟩
  latest g hg := hi.latest g ((List.mem_cons.mp hg).resolve_left fun he => hp.1 g he.symm)
  opened n hn := List.mem_cons_of_mem _ (hi.opened n hn)
  shutdown := ⟨fun h => hi.shutdown.mp ((List.mem_cons.mp h).resolve_left fun he => hp.2.2 he.symm),
    fun h => List.mem_cons_of_mem _ (hi.shutdown.mpr h)⟩
  stopped := hi.stopped
  running := hi.running
  still g t hq ht := hi.still g t ((List.mem_cons.mp hq).resolve_left fun he => hp.2.1 g he.symm) ht

/-- A plain note leaves the source where it belongs. -/
theorem Fits.noted (h : Fits σ p x) {event : WiringEvent} (hp : Plain event) : Fits σ p { x with log := event :: x.log } where
  runs := h.runs
  quiesced g hg := h.quiesced g ((List.mem_cons.mp hg).resolve_left fun he => hp.2.1 g he.symm)
  fresh := h.fresh
  source := h.source

/-- A frame that a running thread gives to the source. -/
theorem WiredInv.frame_fair (hi : WiredInv x) {t : Transport} (ht : x.transports g = some t) (hr : t.thread = .running)
    {event : NormalizedMarketEvent T} {result : EventPublishResult} {publication : EventPublication T}
    (hp : Program.Evaluates EventOutcome.Fine (publish (some event) g) x.publication result publication) :
    (WiringEvent.frame g result publication.numbersRunOut).Fair x.log := by
  obtain ⟨-, hresult⟩ := publish_evaluates hp
  refine ⟨fun hq => hi.still g t hq ht hr, fun hearly => ?_, fun ho hs => ?_⟩
  · rcases hi.running g t ht hr with hshut | ⟨hopen, hgen⟩ | ⟨hclosed, hlt⟩
    · rwa [EventPublication.beginPublish, if_pos (Or.inl hshut)] at hresult
    · rcases hearly with hno | hshut
      · exact absurd (hi.opened g hgen) hno
      · rw [hi.shutdown.mp hshut] at hopen
        cases hopen
    · have hbefore : x.publication.sourceGeneration = none ∨ x.publication.sourceGeneration.any (· < g) = true := by
        cases hg : x.publication.sourceGeneration with
        | none => exact Or.inl rfl
        | some n => exact Or.inr (decide_eq_true (hlt n hg))
      rwa [EventPublication.beginPublish, if_pos (Or.inr ⟨hclosed, hbefore⟩)] at hresult
  · rcases hi.running g t ht hr with hshut | ⟨hopen, hgen⟩ | ⟨hclosed, hlt⟩
    · exact absurd (hi.shutdown.mpr hshut) hs
    · rwa [EventPublication.beginPublish, if_neg (by simp [hopen]), if_neg (by simp [hopen, hgen])] at hresult
    · obtain ⟨n, hn, hle⟩ := hi.latest g ho
      exact absurd (hlt n hn) (by omega)

/-- Whatever its network thread does, a transport goes on. -/
theorem onward_network {t t' : Transport} {submission : Option Submission} (hi : WiredInv x) (ht : x.transports g = some t)
    (hn : NetworkStep t submission t') : Onward x g fun _ => t' := by
  intro u hu
  obtain rfl : t = u := Option.some.inj (ht.symm.trans hu)
  obtain ⟨hr, -, -, hstopped, -⟩ := hn.frame
  refine ⟨fun _ => hr, fun _ => by rw [hr]; rfl, fun hs => ?_⟩
  have hnot := hi.stopped g t ht (hstopped ▸ hs)
  rw [hr] at hnot
  cases hnot

/-- A transport that is told to stop goes on. -/
theorem onward_enterStop (hi : WiredInv x) : Onward x g (·.enterStop.2) := by
  intro t ht
  have hthread : t.enterStop.2.thread = t.thread ∧ t.enterStop.2.observation.stopped = t.observation.stopped := by
    unfold Transport.enterStop
    split
    · exact ⟨rfl, rfl⟩
    · split <;> exact ⟨rfl, rfl⟩
  dsimp only
  rw [hthread.1, hthread.2]
  exact ⟨id, id, hi.stopped g t ht⟩

/-- A transport that is told to close its connection goes on. -/
theorem onward_post (hi : WiredInv x) : Onward x g (·.postCleanShutdown) := fun t ht => ⟨id, id, hi.stopped g t ht⟩

/-- A transport whose thread is joined goes on. -/
theorem onward_join : Onward x g (·.join) := by
  intro t _
  have hjoin := joinable_join t
  have hgone : t.join.thread ≠ .running := by
    intro hr
    rw [hr] at hjoin
    cases hjoin
  exact ⟨fun hr => absurd hr hgone, fun hj => absurd hj (by simp [hjoin]), fun _ => hjoin⟩

/-- A transport whose stop is over goes on. -/
theorem onward_finish (hj : x.joined g = true) : Onward x g (·.finishStop) := by
  intro t ht
  unfold Wired.joined at hj
  rw [ht] at hj
  have hnot : t.thread.joinable = false := by simpa using hj
  exact ⟨id, id, fun _ => hnot⟩

/-- A frame moves its transport, the publication and the history. -/
theorem framed_eq (x : Wired T Y) (g : Nat) (t : Transport) (kind : FrameKind) (result : EventPublishResult)
    (publication : EventPublication T) (ht : x.transports g = some t) :
    x.framed g t kind result publication =
      { { x.onTransport g fun _ =>
            t.publishNormalizedEvent kind (if result = .invariantFailure then .invariantFailure else .proceed) with
          publication := publication } with
        log := .frame g result publication.numbersRunOut :: x.log } := by
  unfold Wired.framed Wired.onTransport
  rw [ht]
  rfl

/-- A shutdown of the publication keeps the invariant. -/
theorem WiredInv.shutDown (hi : WiredInv x) : WiredInv x.shutDown := by
  obtain ⟨hstate, hgen⟩ := shutDown_source x.publication
  have hpublication : x.shutDown.publication = x.publication.shutDown := rfl
  by_cases hs : x.publication.sourceState = .shutdown
  · have hlog : x.shutDown.log = x.log := if_pos hs
    have heq : x.shutDown = { x with publication := x.publication.shutDown } := by
      unfold Wired.shutDown
      rw [if_pos hs]
    rw [heq]
    exact hi.sameSource ⟨hstate.trans hs.symm, hgen⟩
  · have hlog : x.shutDown.log = .shutdown :: x.log := if_neg hs
    refine ⟨?_, ?_, ?_, ?_, hi.stopped, fun g t ht hr => Or.inl hstate, ?_⟩
    · rw [hlog]
      exact ⟨trivial, hi.fair⟩
    · intro g hg
      rw [hlog] at hg
      rw [hpublication, hgen]
      exact hi.latest g ((List.mem_cons.mp hg).resolve_left (by simp))
    · intro n hn
      rw [hpublication, hgen] at hn
      rw [hlog]
      exact List.mem_cons_of_mem _ (hi.opened n hn)
    · rw [hlog, hpublication]
      exact ⟨fun _ => hstate, fun _ => List.mem_cons_self⟩
    · intro g t hq ht
      rw [hlog] at hq
      exact hi.still g t ((List.mem_cons.mp hq).resolve_left (by simp)) ht

/-- A shutdown fits every stage. -/
theorem Fits.shutDown (h : Fits σ p x) : Fits σ p x.shutDown where
  runs := h.runs
  quiesced g hg := by
    refine h.quiesced g ?_
    unfold Wired.shutDown at hg
    dsimp only at hg
    split at hg
    · exact hg
    · exact (List.mem_cons.mp hg).resolve_left (by simp)
  fresh := h.fresh
  source := Or.inl (shutDown_source x.publication).1

variable {s : World L (Wired T Y)}

/-- Whatever happens around the coordinator keeps the invariant. -/
theorem WiredInv.around (h : Around setup EventOutcome.Fine s x) (hi : WiredInv s.outside) : WiredInv x := by
  cases h with
  | network ht hn hs => exact hi.onTransport (onward_network hi ht hn)
  | frame ht hr hk hp =>
    rw [framed_eq _ _ _ _ _ _ ht]
    refine ((hi.onTransport ?_).sameSource (publish_evaluates hp).1).noted ⟨by simp, by simp, by simp⟩ (hi.frame_fair ht hr hp)
    exact onward_network hi ht (.publish hr hk _)
  | admission hp => exact hi.sameSource (sameSource_admitSubscription hp)
  | remove channel => exact hi.sameSource ⟨rfl, rfl⟩
  | writer hw => exact hi.sameSource hw.sameSource
  | shutdown => exact hi.shutDown
  | enterStop g => exact hi.onTransport (onward_enterStop hi)
  | postCleanShutdown g => exact hi.onTransport (onward_post hi)
  | join hj => exact hi.onTransport onward_join
  | finishStop hj => exact hi.onTransport (onward_finish hj)
  | elsewhere y => exact ⟨hi.fair, hi.latest, hi.opened, hi.shutdown, hi.stopped, hi.running, hi.still⟩

/-- Whatever happens around the coordinator leaves a stage fitting. -/
theorem Fits.around (h : Around setup EventOutcome.Fine s x) (hi : WiredInv s.outside) (hf : Fits σ p s.outside) : Fits σ p x := by
  cases h with
  | network ht hn hs => exact hf.onTransport (onward_network hi ht hn)
  | frame ht hr hk hp =>
    rw [framed_eq _ _ _ _ _ _ ht]
    refine ((hf.onTransport ?_).sameSource (publish_evaluates hp).1).noted ⟨by simp, by simp, by simp⟩
    exact onward_network hi ht (.publish hr hk _)
  | admission hp => exact hf.sameSource (sameSource_admitSubscription hp)
  | remove channel => exact hf.sameSource ⟨rfl, rfl⟩
  | writer hw => exact hf.sameSource hw.sameSource
  | shutdown => exact hf.shutDown
  | enterStop g => exact hf.onTransport (onward_enterStop hi)
  | postCleanShutdown g => exact hf.onTransport (onward_post hi)
  | join hj => exact hf.onTransport onward_join
  | finishStop hj => exact hf.onTransport (onward_finish hj)
  | elsewhere y => exact ⟨hf.runs, hf.quiesced, hf.fresh, hf.source⟩

/-! ## What the calls promise -/

/-- The invariant and, at each stage, where the source is. -/
def framePromise (L : ProjectionLibrary) (T : EventTypes) (Y : Type) (setup : EventPublicationSetup) :
    Promise L (Wired T Y) (Around setup EventOutcome.Fine) where
  callbacks := False
  reliable := False
  calm := False
  reliable_callbacks := id
  calm_reliable := False.elim
  inv _ := WiredInv
  ended _ := True
  holds σ p _ := Fits σ p
  inv_around _ _ h hi := hi.around h
  inv_shutdown _ hi := hi
  ended_inv _ _ := trivial
  ended_around _ _ _ _ := trivial
  holds_around _ _ _ _ h hi hf := hf.around h hi
  holds_shutdown _ _ _ _ hf := hf

/-- Outside of the coordinator. -/
def Out (P : Wired T Y → Prop) (s : World L (Wired T Y)) : Prop := P s.outside

/-- A stage that fits stays fitting. -/
theorem stable_fits : (framePromise L T Y setup).rely.Stable (Out (Fits σ p)) :=
  fun _ _ hi hf hs => (framePromise L T Y setup).holds_step (σ := σ) (p := p) hi hf hs

/-- What happens around the coordinator may keep an assertion. -/
theorem stable_out {P : Wired T Y → Prop}
    (h : ∀ (s : World L (Wired T Y)) x, Around setup EventOutcome.Fine s x → WiredInv s.outside → P s.outside → P x) :
    (framePromise L T Y setup).rely.Stable (Out P) := by
  intro s t hi hp hs
  unfold Out at hp ⊢
  rcases outside_step hs with ⟨-, ho | ha⟩ | ⟨-, -, ho⟩
  · rwa [ho]
  · exact h s _ ha hi hp
  · rwa [ho]

/-- Of two stable assertions either is stable. -/
theorem stable_choice {c : Prop} [Decidable c] {P Q : Wired T Y → Prop} (hP : (framePromise L T Y setup).rely.Stable (Out P))
    (hQ : (framePromise L T Y setup).rely.Stable (Out Q)) :
    (framePromise L T Y setup).rely.Stable (Out (if c then P else Q)) := by
  split
  · exact hP
  · exact hQ

/-- A section outside of the coordinator. -/
theorem wired_triple {α : Type} {f : WiringOutcome Ω → Wired T Y → α × Wired T Y} {P : Wired T Y → Prop} {Q : α → Wired T Y → Prop}
    (hP : (framePromise L T Y setup).rely.Stable (Out P)) (hQ : ∀ a, (framePromise L T Y setup).rely.Stable (Out (Q a)))
    (h : ∀ w x, WiredInv x → P x → WiredInv (f w x).2 ∧ Q (f w x).1 (f w x).2) :
    Triple (framePromise L T Y setup).rely (Out P) (wired f : WiredProgram L T Y Ω α) fun a => Out (Q a) :=
  Triple.atomic hP hQ fun w s hi hp => h w s.outside hi hp

/-- A waiting section outside of the coordinator. -/
theorem awaitWired_triple {α : Type} {guard : Wired T Y → Bool} {f : Wired T Y → α × Wired T Y} {P : Wired T Y → Prop}
    {Q : α → Wired T Y → Prop} (hP : (framePromise L T Y setup).rely.Stable (Out P))
    (hQ : ∀ a, (framePromise L T Y setup).rely.Stable (Out (Q a)))
    (h : ∀ x, WiredInv x → P x → guard x = true → WiredInv (f x).2 ∧ Q (f x).1 (f x).2) :
    Triple (framePromise L T Y setup).rely (Out P) (awaitWired guard f : WiredProgram L T Y Ω α) fun a => Out (Q a) :=
  Triple.await hP hQ fun _ s hi hp hg => h s.outside hi hp hg

/-- A callback that answers what the publication answers: refused, it leaves all as it is. -/
theorem answer_triple {call : EventPublication T → Bool × EventPublication T} {event : List WiringEvent} {P Q : Wired T Y → Prop}
    (hP : (framePromise L T Y setup).rely.Stable (Out P)) (hQ : (framePromise L T Y setup).rely.Stable (Out Q))
    (hno : ∀ x stopRequested, P x → P { x with log := .refused stopRequested :: x.log })
    (hfalse : ∀ x, WiredInv x → P x → (call x.publication).1 = false → (call x.publication).2 = x.publication)
    (htrue : ∀ x, WiredInv x → P x → (call x.publication).1 = true →
      WiredInv { x with publication := (call x.publication).2, log := event ++ x.log } ∧
        Q { x with publication := (call x.publication).2, log := event ++ x.log }) :
    Triple (framePromise L T Y setup).rely (Out P) (answer call event : WiredProgram L T Y Ω _)
      fun r => Out (if r = .ok true then Q else P) := by
  refine Triple.atomic hP (fun _ => stable_choice hQ hP) fun w s hi hp => ?_
  cases hr : (call s.outside.publication).1 with
  | true =>
    have hout : s.outside.answered (call s.outside.publication) event s.coordinator.shutdownRequested =
        { s.outside with publication := (call s.outside.publication).2, log := event ++ s.outside.log } := by
      rw [Wired.answered, if_pos hr]
    dsimp only [Out]
    rw [if_pos rfl, hout]
    exact htrue s.outside hi hp hr
  | false =>
    dsimp only [Out]
    rw [if_neg (by simp)]
    have hsame := hfalse s.outside hi hp hr
    unfold Wired.answered
    rw [hr, if_neg (by simp), hsame]
    split
    · exact ⟨WiredInv.noted hi ⟨by simp, by simp, by simp⟩ trivial, hno s.outside _ hp⟩
    · exact ⟨hi, hp⟩

/-- A call that changes only what is elsewhere leaves what holds at a stage. -/
theorem elsewhere_triple {α : Type} {q : WiredProgram L T Y Ω α} (hq : q.All ElsewhereOnly) :
    Triple (framePromise L T Y setup).rely (Out (Fits σ p)) q fun _ => Out (Fits σ p) := by
  refine Triple.of_all hq stable_fits ?_
  rintro s t hi hf ⟨y, rfl⟩
  exact ⟨⟨hi.fair, hi.latest, hi.opened, hi.shutdown, hi.stopped, hi.running, hi.still⟩, hf.runs, hf.quiesced, hf.fresh, hf.source⟩

/-- What goes on elsewhere goes on outside. -/
theorem elsewhere_outside {s t : World L (Wired T Y)} (h : ElsewhereOnly s t) : OutsideOnly s t := by
  obtain ⟨y, rfl⟩ := h
  rfl

/-- A call that goes on elsewhere leaves the stage fitting. -/
theorem leads_elsewhere {α : Type} {q : WiredProgram L T Y Ω (Except String α)} (hq : q.All ElsewhereOnly)
    {P : α → Bool → Wired T Y → Prop} {Q : Bool → Wired T Y → Prop} (hP : ∀ a b x, Fits σ p x → P a b x)
    (hQ : ∀ b x, Fits σ p x → Q b x) :
    (framePromise L T Y setup).Leads ((framePromise L T Y setup).holds σ p) q (orElse P Q) := by
  refine ⟨hq.mono fun _ _ => elsewhere_outside, (elsewhere_triple hq).post fun r s _ hf => ?_⟩
  cases r with
  | ok a => exact hP a _ _ hf
  | error e => exact hQ _ _ hf

/-- Observing an attempt changes nothing but what is elsewhere. -/
theorem observe_elsewhere (g : Nat) : (observeAttempt g : WiredProgram L T Y Ω _).All ElsewhereOnly :=
  .atomic fun _ s => ⟨s.outside.elsewhere, rfl⟩

/-- An answer of a callback. -/
theorem leads_callback {q : WiredProgram L T Y Ω (Except String Bool)} (hall : q.All OutsideOnly) {P Y' N : Wired T Y → Prop}
    (hq : Triple (framePromise L T Y setup).rely (Out P) q fun r => Out (if r = .ok true then Y' else N)) :
    (framePromise L T Y setup).Leads (fun _ => P) q (callback (framePromise L T Y setup).callbacks (fun _ => Y') fun _ => N) := by
  refine ⟨hall, hq.post fun r s _ h => ⟨False.elim, ?_⟩⟩
  split
  · rename_i hr
    rwa [Out, if_pos hr] at h
  · rename_i hr
    rwa [Out, if_neg hr] at h

/-! ## Starting and stopping -/

/-- A new transport fits the stage of a new attempt. -/
theorem create_fits {connectionId : String} (hi : WiredInv x) (hf : Fits (.head : Stage L) ⟨g, none, false, none⟩ x) :
    WiredInv (x.create g connectionId profile) ∧ Fits (.created : Stage L) ⟨g, none, false, none⟩ (x.create g connectionId profile) := by
  have hnew : ∀ g' t, (x.create g connectionId profile).transports g' = some t →
      (t.thread = .notCreated ∧ t.observation.stopped = false) ∨ x.transports g' = some t := by
    intro g' t ht
    have hupdate : Function.update x.transports g (some (Transport.fresh g connectionId profile)) g' = some t := ht
    by_cases hg : g' = g
    · subst hg
      rw [Function.update_self] at hupdate
      cases hupdate
      exact Or.inl ⟨rfl, rfl⟩
    · rw [Function.update_of_ne hg] at hupdate
      exact Or.inr hupdate
  refine ⟨⟨hi.fair, hi.latest, hi.opened, hi.shutdown, fun g' t ht hs => ?_, fun g' t ht hr => ?_, fun g' t hq ht hr => ?_⟩,
    fun g' t ht hr => ?_, hf.quiesced, hf.fresh, hf.source⟩
  · rcases hnew g' t ht with ⟨-, hno⟩ | hold
    · rw [hno] at hs
      cases hs
    · exact hi.stopped g' t hold hs
  · rcases hnew g' t ht with ⟨hno, -⟩ | hold
    · rw [hno] at hr
      cases hr
    · exact hi.running g' t hold hr
  · rcases hnew g' t ht with ⟨hno, -⟩ | hold
    · rw [hno] at hr
      cases hr
    · exact hi.still g' t hq hold hr
  · rcases hnew g' t ht with ⟨hno, -⟩ | hold
    · rw [hno] at hr
      cases hr
    · exact absurd (hf.runs g' t hold hr).2 (by simp)

/-- An attempt is created, or the head of the loop still fits. -/
theorem createAttempt_triple :
    Triple (framePromise L T Y setup).rely (Out (Fits (.head : Stage L) ⟨g, none, false, none⟩))
      (createAttempt profile g : WiredProgram L T Y Ω (Except String Bool))
      fun r => Out (if r = .ok true then Fits (.created : Stage L) ⟨g, none, false, none⟩ else fun _ => True) := by
  have htrue : (framePromise L T Y setup).rely.Stable (Out fun _ => True) := fun _ _ _ _ _ => trivial
  refine wired_triple stable_fits (fun _ => stable_choice stable_fits htrue) fun w x hi hf => ?_
  split
  · exact ⟨hi, trivial⟩
  · exact create_fits hi hf

/-- A thread begins to run only for the attempt that is under way. -/
theorem beginStart_fits {throws threadCreated : Bool} (hi : WiredInv x) (hf : Fits (.created : Stage L) p x) :
    WiredInv (x.beginStart p.generation throws threadCreated).2 ∧
      Fits (.created : Stage L) p (x.beginStart p.generation throws threadCreated).2 := by
  unfold Wired.beginStart
  split
  · exact ⟨hi, hf⟩
  · rename_i t ht
    split
    · exact ⟨hi, hf⟩
    · rename_i hnone
      split
      · have honward : Onward x p.generation fun t => { t with observation.started := true } := fun u hu =>
          ⟨id, id, hi.stopped _ u hu⟩
        exact ⟨hi.onTransport honward, hf.onTransport honward⟩
      · have hfresh : t.observation.stopped = false ∧ t.start.2.observation.stopped = false := by
          unfold Transport.start at hnone ⊢
          split at hnone
          · cases hnone
          · rename_i hs
            split at hnone
            · cases hnone
            · rename_i hstarted
              rw [if_neg hs, if_neg hstarted]
              exact ⟨by simpa using hs, by simpa using hs⟩
        have hreceptive : Receptive p.generation x.publication := by
          rcases hf.source with hshut | ⟨-, hclosed, hn⟩ | ⟨-, hstate, hgen⟩
          · exact Or.inl hshut
          · exact Or.inr (Or.inr ⟨hclosed, fun n hg => (hn n hg).2 rfl⟩)
          · rw [hf.fresh rfl] at hstate
            exact Or.inr (Or.inl ⟨hstate, hgen⟩)
        refine ⟨⟨hi.fair, hi.latest, hi.opened, hi.shutdown, fun g' t' ht' hs => ?_, fun g' t' ht' hr => ?_, fun g' t' hq ht' hr => ?_⟩,
          fun g' t' ht' hr => ?_, hf.quiesced, hf.fresh, hf.source⟩
        · rcases onTransport_some ht' with hold | ⟨rfl, u, hu, rfl⟩
          · exact hi.stopped g' t' hold hs
          · obtain rfl : t = u := Option.some.inj (ht.symm.trans hu)
            rw [hfresh.2] at hs
            cases hs
        · rcases onTransport_some ht' with hold | ⟨rfl, u, hu, rfl⟩
          · exact hi.running g' t' hold hr
          · exact hreceptive
        · rcases onTransport_some ht' with hold | ⟨rfl, u, hu, rfl⟩
          · exact hi.still g' t' hq hold hr
          · exact absurd ((hf.quiesced _ hq).2 rfl) (by omega)
        · rcases onTransport_some ht' with hold | ⟨rfl, u, hu, rfl⟩
          · exact hf.runs g' t' hold hr
          · exact ⟨rfl, rfl⟩

/-- An attempt may begin to run when it has been created. -/
theorem startAttempt_triple :
    Triple (framePromise L T Y setup).rely (Out (Fits (.created : Stage L) p))
      (startAttempt p.generation : WiredProgram L T Y Ω (Except String TransportStartResult)) fun _ => Out (Fits (.created : Stage L) p) := by
  refine Triple.bind (wired_triple stable_fits (fun _ => stable_fits) fun w x hi hf => beginStart_fits hi hf) fun answer => ?_
  cases answer with
  | some answer => exact Triple.done stable_fits fun _ _ h => h
  | none => exact awaitWired_triple stable_fits (fun _ => stable_fits) fun x hi hf _ => ⟨hi, hf⟩

/-- The attempt has no network thread that could run. -/
def Down (g : Nat) (x : Wired T Y) : Prop := ∀ t, x.transports g = some t → t.thread.joinable = false

/-- A transport that goes on leaves the attempt without a thread. -/
theorem Down.onTransport (h : Down g x) {f : Transport → Transport} {g' : Nat} (hf : Onward x g' f) : Down g (x.onTransport g' f) := by
  intro t ht
  rcases onTransport_some ht with hold | ⟨rfl, u, hu, rfl⟩
  · exact h t hold
  · cases hj : (f u).thread.joinable with
    | false => rfl
    | true => exact absurd ((hf u hu).2.1 hj) (by simp [h u hu])

/-- Nobody else gives a stopped attempt a thread. -/
theorem Down.around (h : Around setup EventOutcome.Fine s x) (hi : WiredInv s.outside) (hd : Down g s.outside) : Down g x := by
  cases h with
  | network ht hn hs => exact hd.onTransport (onward_network hi ht hn)
  | frame ht hr hk hp =>
    rw [framed_eq _ _ _ _ _ _ ht]
    exact hd.onTransport (onward_network hi ht (.publish hr hk _))
  | enterStop g => exact hd.onTransport (onward_enterStop hi)
  | postCleanShutdown g => exact hd.onTransport (onward_post hi)
  | join hj => exact hd.onTransport onward_join
  | finishStop hj => exact hd.onTransport (onward_finish hj)
  | admission | remove | writer | shutdown | elsewhere => exact hd

/-- An attempt without a thread fits the stage behind its stop. -/
theorem Fits.down {e : Ending} (hf : Fits (.ending e : Stage L) p x) (hd : Down p.generation x) : Fits (.stopped e : Stage L) p x where
  runs g t ht hr := by
    obtain ⟨rfl, -⟩ := hf.runs g t ht hr
    have hnot := hd t ht
    rw [hr] at hnot
    cases hnot
  quiesced := hf.quiesced
  fresh := hf.fresh
  source := hf.source

/-- A stopped attempt stays without a thread. -/
theorem stable_down : (framePromise L T Y setup).rely.Stable (Out (Down g)) := stable_out fun _ _ h hi hd => hd.around h hi

/-- When the stop of an attempt returns its thread is gone. -/
theorem stopAttempt_triple {e : Ending} :
    Triple (framePromise L T Y setup).rely (Out (Fits (.ending e : Stage L) p)) (stopAttempt p.generation : WiredProgram L T Y Ω Unit)
      fun _ => Out (Fits (.stopped e : Stage L) p) := by
  let entered : Transport.StopEntry → Wired T Y → Prop := fun entry x =>
    Fits (.ending e : Stage L) p x ∧ (entry = .alreadyStopped → Down p.generation x)
  have hentered : ∀ entry, (framePromise L T Y setup).rely.Stable (Out (entered entry)) := fun entry =>
    stable_fits.and stable_down.imp
  have hfinish : Triple (framePromise L T Y setup).rely (Out (Fits (.ending e : Stage L) p))
      (awaitWired (·.joined p.generation) fun x => ((), x.onTransport p.generation (·.finishStop)) : WiredProgram L T Y Ω Unit)
      fun _ => Out (Fits (.stopped e : Stage L) p) := by
    refine awaitWired_triple stable_fits (fun _ => stable_fits) fun x hi hf hj => ?_
    have honward : Onward x p.generation (·.finishStop) := onward_finish hj
    have hdown : Down p.generation x := by
      intro t ht
      unfold Wired.joined at hj
      rw [ht] at hj
      simpa using hj
    exact ⟨hi.onTransport honward, (hf.onTransport honward).down (hdown.onTransport honward)⟩
  refine Triple.bind (wired_triple stable_fits hentered fun w x hi hf => ?_) fun entry => ?_
  · have honward : Onward x p.generation (·.enterStop.2) := onward_enterStop hi
    refine ⟨hi.onTransport honward, hf.onTransport honward, fun halready => Down.onTransport (fun t ht => ?_) honward⟩
    have hentry : t.enterStop.1 = .alreadyStopped := by
      have h := halready
      unfold Wired.enterStop at h
      rwa [ht] at h
    refine hi.stopped _ t ht ?_
    unfold Transport.enterStop at hentry
    split at hentry
    · rename_i hs
      exact hs
    · split at hentry <;> cases hentry
  · cases entry with
    | alreadyStopped => exact Triple.done (hentered _) fun s _ h => h.1.down (h.2 rfl)
    | waits =>
      refine awaitWired_triple (hentered _) (fun _ => stable_fits) fun x hi h hs => ⟨hi, h.1.down fun t ht => ?_⟩
      unfold Wired.stopped at hs
      rw [ht] at hs
      exact hi.stopped _ t ht (by simpa using hs)
    | wins started =>
      cases started with
      | true =>
        refine Triple.bind (Q := fun _ => Out (Fits (.ending e : Stage L) p)) ?_ fun _ => Triple.bind
          (Q := fun _ => Out (Fits (.ending e : Stage L) p)) ?_ fun _ => hfinish
        · exact wired_triple (hentered _) (fun _ => stable_fits) fun w x hi h =>
            ⟨hi.onTransport (onward_post hi), h.1.onTransport (onward_post hi)⟩
        · exact awaitWired_triple stable_fits (fun _ => stable_fits) fun x hi h _ =>
            ⟨hi.onTransport onward_join, h.onTransport onward_join⟩
      | false => exact hfinish.pre fun s _ h => h.1

/-! ## The source generation -/

/-- The callback opens the generation, or the stage is as before. -/
theorem open_triple {since : Option Nat} {t : TransportObservation} :
    Triple (framePromise L T Y setup).rely (Out (Fits (.opening t : Stage L) ⟨g, none, false, since⟩))
      (openCallback g : WiredProgram L T Y Ω _) fun r => Out (if r = .ok true then Fits (.opened : Stage L) ⟨g, some g, false, since⟩
        else Fits (.opening t : Stage L) ⟨g, none, false, since⟩) := by
  refine answer_triple stable_fits stable_fits (fun x b h => h.noted ⟨by simp, by simp, by simp⟩) (fun x hi hf hno => ?_)
    fun x hi hf hyes => ?_
  · unfold EventPublication.openGeneration at hno ⊢
    split
    · rfl
    · rename_i hrefused
      rw [if_neg hrefused] at hno
      cases hno
  · unfold EventPublication.openGeneration at hyes ⊢
    split at hyes
    · cases hyes
    rename_i hopen
    rw [if_neg hopen]
    simp only [not_or] at hopen
    obtain ⟨-, hshut, -, -, -, hlater⟩ := hopen
    have hlt : ∀ n, x.publication.sourceGeneration = some n → n < g := by
      intro n hn
      rw [hn] at hlater
      simpa using hlater
    have hquiesced : ∀ g', .quiesced g' ∈ [.opened g] ++ x.log → .quiesced g' ∈ x.log := fun g' h =>
      (List.mem_cons.mp h).resolve_left (by simp)
    refine ⟨⟨⟨trivial, hi.fair⟩, fun g' hg' => ⟨g, rfl, ?_⟩, fun n hn => ?_, ?_, hi.stopped, fun g' u hu hr => ?_,
      fun g' u hq hu => hi.still g' u (hquiesced g' hq) hu⟩, fun g' u hu hr => ⟨(hf.runs g' u hu hr).1, rfl⟩,
      fun g' hq => hf.quiesced g' (hquiesced g' hq), fun _ => rfl, Or.inr (Or.inr ⟨rfl, rfl, rfl⟩)⟩
    · rcases List.mem_cons.mp hg' with he | hold
      · cases he
        exact Nat.le_refl _
      · obtain ⟨n, hn, hle⟩ := hi.latest g' hold
        exact hle.trans (hlt n hn).le
    · cases hn
      exact List.mem_cons_self
    · constructor
      · intro h
        exact absurd (hi.shutdown.mp ((List.mem_cons.mp h).resolve_left (by simp))) hshut
      · intro h
        cases h
    · obtain ⟨rfl, -⟩ := hf.runs g' u hu hr
      exact Or.inr (Or.inl ⟨rfl, rfl⟩)

/-- No network thread runs at the stage. -/
theorem Fits.nobody (hf : Fits σ p x) (hσ : Stage.mayRun σ = false) {g' : Nat} {t : Transport} (ht : x.transports g' = some t) :
    t.thread ≠ .running := by
  intro hr
  have hmay := (hf.runs g' t ht hr).2
  rw [hσ] at hmay
  cases hmay

/-- A source generation is quiesced when its attempt has been stopped. -/
theorem quiesced_fits {since : Option Nat} {e : Ending} {t : TransportObservation} (hi : WiredInv x)
    (hf : Fits (.quiet e t : Stage L) ⟨g, some g, false, since⟩ x) {publication : EventPublication T}
    (hgen : publication.sourceGeneration = x.publication.sourceGeneration)
    (hshut : publication.sourceState = .shutdown ↔ x.publication.sourceState = .shutdown)
    (hsource : SourceAt false ⟨g, some g, true, since⟩ publication) :
    WiredInv { x with publication := publication, log := .quiesced g :: x.log } ∧
      Fits (.quiesced e t : Stage L) ⟨g, some g, true, since⟩ { x with publication := publication, log := .quiesced g :: x.log } := by
  have hold : ∀ event, event ≠ .quiesced g → event ∈ WiringEvent.quiesced g :: x.log → event ∈ x.log := fun event hne h =>
    (List.mem_cons.mp h).resolve_left hne
  refine ⟨⟨⟨trivial, hi.fair⟩, fun g' hg' => ?_, fun n hn => ?_, ?_, hi.stopped, fun g' u hu hr => absurd hr (hf.nobody rfl hu),
    fun g' u _ hu => hf.nobody rfl hu⟩, fun g' u hu hr => absurd hr (hf.nobody rfl hu), fun g' hg' => ⟨?_, by simp⟩, by simp, hsource⟩
  · dsimp only
    rw [hgen]
    exact hi.latest g' (hold _ (by simp) hg')
  · rw [hgen] at hn
    exact List.mem_cons_of_mem _ (hi.opened n hn)
  · dsimp only
    rw [hshut]
    exact ⟨fun h => hi.shutdown.mp (hold _ (by simp) h), fun h => List.mem_cons_of_mem _ (hi.shutdown.mpr h)⟩
  · rcases List.mem_cons.mp hg' with he | h
    · cases he
      exact Nat.le_refl _
    · exact (hf.quiesced g' h).1

/-- The callback quiesces the generation of a stopped attempt. -/
theorem quiesce_triple {since : Option Nat} {e : Ending} {t : TransportObservation} :
    Triple (framePromise L T Y setup).rely (Out (Fits (.quiet e t : Stage L) ⟨g, some g, false, since⟩))
      (quiesceCallback g : WiredProgram L T Y Ω _) fun r => Out (if r = .ok true then
          Fits (.quiesced e t : Stage L) ⟨g, some g, true, since⟩ else Fits (.quiet e t : Stage L) ⟨g, some g, false, since⟩) := by
  refine Triple.bind (Q := fun isShutdown => Out (if isShutdown = true then Fits (.quiesced e t : Stage L) ⟨g, some g, true, since⟩
    else Fits (.quiet e t : Stage L) ⟨g, some g, false, since⟩)) (wired_triple stable_fits (fun _ => stable_choice stable_fits stable_fits)
      fun w x hi hf => ?_) fun isShutdown => ?_
  · unfold Wired.quiesceAfterShutdown
    split
    · rename_i hshut
      exact quiesced_fits hi hf rfl Iff.rfl (Or.inl hshut)
    · exact ⟨hi, hf⟩
  · cases isShutdown with
    | true => exact Triple.done stable_fits fun _ _ h => h
    | false =>
      refine answer_triple stable_fits stable_fits (fun x b h => h.noted ⟨by simp, by simp, by simp⟩) (fun x hi hf hno => ?_)
        fun x hi hf hyes => ?_
      · unfold EventPublication.quiesceGeneration at hno ⊢
        split
        · rfl
        · rename_i hrefused
          rw [if_neg hrefused] at hno
          cases hno
      · unfold EventPublication.quiesceGeneration at hyes ⊢
        split at hyes
        · cases hyes
        rename_i hopen
        rw [if_neg hopen]
        rw [not_or, not_not, not_not] at hopen
        refine quiesced_fits hi hf rfl ?_ (Or.inr (Or.inr ⟨rfl, rfl, hopen.2⟩))
        simp [hopen.1]

/-- A source that is closed when no thread runs. -/
theorem WiredInv.closed (hi : WiredInv x) (hf : Fits σ p x) (hσ : Stage.mayRun σ = false) {publication : EventPublication T}
    (hstate : publication.sourceState ≠ .shutdown) (hbefore : x.publication.sourceState ≠ .shutdown)
    (hgen : publication.sourceGeneration = x.publication.sourceGeneration) : WiredInv { x with publication := publication } where
  fair := hi.fair
  latest := by rw [hgen]; exact hi.latest
  opened := by rw [hgen]; exact hi.opened
  shutdown := ⟨fun h => absurd (hi.shutdown.mp h) hbefore, fun h => absurd h hstate⟩
  stopped := hi.stopped
  running g t ht hr := absurd hr (hf.nobody hσ ht)
  still := hi.still

/-- A source that is quiesced at a generation is quiesced, and has that generation. -/
theorem quiescedAt {s : EventPublication T} (h : s.isQuiescedAt g = true) :
    s.sourceState = .quiesced ∧ s.sourceGeneration = some g := by
  unfold EventPublication.isQuiescedAt at h
  simpa using h

/-- The callback closes a quiesced generation for a replacement. -/
theorem replace_triple {since : Option Nat} {planned : Bool} :
    Triple (framePromise L T Y setup).rely (Out (Fits (.replacing planned : Stage L) ⟨g, some g, true, since⟩))
      (closeCallback g .replacement : WiredProgram L T Y Ω _) fun r => Out (if r = .ok true then
          Fits (.replaced planned : Stage L) ⟨g, none, false, since⟩ else Fits (.replacing planned : Stage L) ⟨g, some g, true, since⟩) := by
  refine Triple.bind (Triple.choose stable_fits) fun sampled => ?_
  cases sampled with
  | none => exact Triple.done stable_fits fun _ _ h => h
  | some publishedAt =>
    refine answer_triple stable_fits stable_fits (fun x b h => h.noted ⟨by simp, by simp, by simp⟩) (fun x hi hf hno => ?_)
      fun x hi hf hyes => ?_
    · rcases closeReplaced_cases x.publication g publishedAt with ⟨-, hyes, -⟩ | ⟨-, he⟩
      · exact absurd (hyes.symm.trans hno) (by simp)
      · exact congrArg Prod.snd he
    · rcases closeReplaced_cases x.publication g publishedAt with ⟨hq, -, hstate, hgen⟩ | ⟨-, he⟩
      · obtain ⟨hbefore, hat⟩ := quiescedAt hq
        refine ⟨hi.closed hf rfl (by simp [hstate]) (by simp [hbefore]) hgen, fun g' u hu hr => absurd hr (hf.nobody rfl hu),
          hf.quiesced, by simp, Or.inr (Or.inl ⟨rfl, hstate, fun n hn => ⟨?_, by simp⟩⟩)⟩
        rw [hgen.trans hat] at hn
        cases hn
        exact Nat.le_refl _
      · exact absurd ((congrArg Prod.fst he).symm.trans hyes) (by simp)

/-- The callback closes a quiesced generation for good. -/
theorem close_triple {since : Option Nat} {outcome : SourceGenerationCloseOutcome} (ho : outcome ≠ .replacement) :
    Triple (framePromise L T Y setup).rely (Out (Fits (.closing : Stage L) ⟨g, some g, true, since⟩))
      (closeCallback g outcome : WiredProgram L T Y Ω _) fun r => Out (if r = .ok true then fun _ => True
        else Fits (.closing : Stage L) ⟨g, some g, true, since⟩) := by
  have htrue : (framePromise L T Y setup).rely.Stable (Out fun _ => True) := fun _ _ _ _ _ => trivial
  cases outcome with
  | replacement => exact absurd rfl ho
  | globalShutdown =>
    show Triple _ _ (wired fun _ x => (.ok true, x.shutDown) : WiredProgram L T Y Ω (Except String Bool)) _
    exact wired_triple stable_fits (fun _ => stable_choice htrue stable_fits) fun w x hi hf => ⟨hi.shutDown, trivial⟩
  | permanentFailure =>
    refine answer_triple stable_fits htrue (fun x b h => h.noted ⟨by simp, by simp, by simp⟩) (fun x hi hf hno => ?_)
      fun x hi hf hyes => ⟨?_, trivial⟩
    · rcases closePermanently_cases x.publication g with ⟨-, hyes, -⟩ | ⟨-, he⟩
      · exact absurd (hyes.symm.trans hno) (by simp)
      · exact congrArg Prod.snd he
    · rcases closePermanently_cases x.publication g with ⟨hq, -, hstate, hgen⟩ | ⟨-, he⟩
      · exact hi.closed hf rfl (by simp [hstate]) (by simp [(quiescedAt hq).1]) hgen
      · exact absurd ((congrArg Prod.fst he).symm.trans hyes) (by simp)

/-! ## The contract -/

/-- Both arms of a choice may be weakened. -/
theorem choice_mono {c : Prop} [Decidable c] {P P' Q Q' : Wired T Y → Prop} (hP : ∀ x, P x → P' x) (hQ : ∀ x, Q x → Q' x)
    (h : (if c then P else Q) x) : (if c then P' else Q') x := by
  split
  · rename_i hc
    rw [if_pos hc] at h
    exact hP x h
  · rename_i hc
    rw [if_neg hc] at h
    exact hQ x h

/-- Where the source and the network threads are while the coordinator goes from call to call. -/
def frameContract (setup : EventPublicationSetup) (hb : Bystanders base) :
    Contract L (Wired T Y) (WiringOutcome Ω) (Around setup EventOutcome.Fine) (coordinatorOptions profile base) :=
  have hmoves : (coordinatorOptions profile base).Moves (orderlyUpkeep L Y setup EventOutcome.Fine).Keeps := coordinatorOptions_keeps hb
  { toPromise := framePromise L T Y setup
    good := fun _ _ _ => True
    generations := fun g => (hmoves.generations g).mono fun _ h => ⟨h, False.elim⟩
    create := fun g => by
      refine ⟨(hmoves.createAttempt g).mono fun _ _ h => h.1, ?_⟩
      refine createAttempt_triple.post fun r s _ h => ?_
      match r with
      | .ok true => exact h
      | .ok false => exact ⟨id, trivial⟩
      | .error _ => exact ⟨id, trivial⟩
    observeCreated := fun p => leads_elsewhere (observe_elsewhere _) (fun _ _ _ h => h) fun _ _ h => ⟨id, h⟩
    clockCreated := fun p _ _ => leads_elsewhere hb.monotonicClock (fun now b x h => ⟨False.elim, h.runs, h.quiesced, h.fresh, h.source⟩)
      fun _ _ h => ⟨id, h⟩
    start := fun p => by
      refine ⟨(hmoves.startAttempt _).mono fun _ _ h => h.1, startAttempt_triple.post fun r s _ h => ?_⟩
      cases r with
      | ok result => exact Fits.mono h (by simp) (by simp)
      | error e => exact ⟨id, Fits.mono h (by simp) (by simp)⟩
    observeStarted := fun p => leads_elsewhere (observe_elsewhere _) (fun _ _ _ h => h.mono (by simp) (by simp))
      fun _ _ h => ⟨id, h.mono (by simp) (by simp)⟩
    openGeneration := fun l hl g since t _ => by
      cases hl
      exact leads_callback ((hmoves.lifecycle _ rfl g).1.mono fun _ _ h => h.1)
        (open_triple.post fun r s _ h => choice_mono (fun _ h => h) (fun _ h => h.mono (by simp) (by simp)) h)
    waitLive := fun p => leads_elsewhere hb.waitUntilLiveOrRecoveryRequired (fun _ _ _ h => h.mono (by simp) (by simp))
      fun _ _ h => ⟨id, h.mono (by simp) (by simp)⟩
    observeLive := fun p r _ => leads_elsewhere hb.observeRuntime (fun _ _ _ h => h.mono (by simp) (by simp))
      fun _ _ h => ⟨id, h.mono (by simp) (by simp)⟩
    observeQualifying := fun p r => leads_elsewhere (observe_elsewhere _) (fun _ _ _ h => h.mono (by simp) (by simp))
      fun _ _ h => ⟨id, h.mono (by simp) (by simp)⟩
    clockLive := fun p => leads_elsewhere hb.monotonicClock (fun _ _ _ h => ⟨False.elim, h⟩) fun _ _ h => ⟨id, h⟩
    waitRotation := fun p d => leads_elsewhere (hb.waitForRotation d)
      (fun r _ _ h => by cases r <;> exact h.mono (by simp) (by simp)) fun _ _ h => ⟨id, h.mono (by simp) (by simp)⟩
    waitRecovery := fun p => leads_elsewhere hb.waitUntilRecoveryRequired
      (fun r _ _ h => by cases r <;> exact h.mono (by simp) (by simp)) fun _ _ h => ⟨id, h.mono (by simp) (by simp)⟩
    stop := fun p e => ⟨(hmoves.stopAttempt _).mono fun _ _ h => h.1, stopAttempt_triple⟩
    observeStopped := fun p e => leads_elsewhere (observe_elsewhere _) (fun _ _ _ h => h.mono (by simp) (by simp))
      fun _ _ h => h.mono (by simp) (by simp)
    quiesce := fun l hl g since e t => by
      cases hl
      exact leads_callback ((hmoves.lifecycle _ rfl g).2.1.mono fun _ _ h => h.1)
        (quiesce_triple.post fun r s _ h => choice_mono (fun _ h => h) (fun _ h => h.mono (by simp) (by simp)) h)
    judge := fun p due t => leads_elsewhere hb.observeRuntime (fun _ _ _ h => h.mono (by simp) (by simp))
      fun _ _ h => ⟨id, h.mono (by simp) (by simp)⟩
    report := fun p due t r _ => leads_elsewhere hb.submitTransportFailure (fun a b x h => by
      split
      · exact h.mono (by simp) (by simp)
      · exact ⟨id, h.mono (by simp) (by simp)⟩) fun _ _ h => ⟨id, h.mono (by simp) (by simp)⟩
    rejudge := fun p due t => leads_elsewhere hb.observeRuntime (fun _ _ _ h => h.mono (by simp) (by simp))
      fun _ _ h => ⟨id, h.mono (by simp) (by simp)⟩
    close := fun l hl g since outcome ho => by
      cases hl
      exact leads_callback (((hmoves.lifecycle _ rfl g).2.2 outcome).mono fun _ _ h => h.1) (close_triple ho)
    replace := fun l hl g since planned => by
      cases hl
      exact leads_callback (((hmoves.lifecycle _ rfl g).2.2 _).mono fun _ _ h => h.1)
        (replace_triple.post fun r s _ h => choice_mono (fun _ h => h) (fun _ h => h.mono (by simp) (by simp)) h)
    resetPlanned := fun g since => leads_elsewhere hb.resetLiveForPlannedRebootstrap (fun r b x h => by
      split
      · exact Fits.renewed h
      · exact ⟨id, trivial⟩) fun _ _ _ => ⟨id, trivial⟩
    backoff := fun p d => leads_elsewhere (hb.waitBackoff d) (fun _ _ _ h => h) fun _ _ _ => ⟨id, trivial⟩
    reset := fun g since => leads_elsewhere hb.resetForRebootstrap (fun r b x h => by
      split
      · exact Fits.renewed h
      · exact ⟨id, trivial⟩) fun _ _ _ => ⟨id, trivial⟩
    openable := fun _ _ _ _ _ h => h.elim
    unopened := fun h => by cases h
    markLive := fun _ _ _ _ _ h => h.mono (by simp) (by simp)
    unqualified := fun _ _ _ _ _ _ h => h.mono (by simp) (by simp)
    deadline := fun _ _ _ h => h.mono (by simp) (by simp)
    unstarted := fun _ _ _ _ _ h => h.mono (by simp) (by simp)
    unlive := fun _ _ _ _ _ h => h.mono (by simp) (by simp)
    loosen := fun σ _ _ _ hσ h => h.mono (by cases σ <;> simp) (by cases σ <;> simp_all [Stage.underWay])
    unquiesced := fun _ _ _ _ _ _ h => h.mono (by simp) (by simp)
    reported := fun _ _ _ _ _ _ _ h => h.mono (by simp) (by simp)
    conclude := fun σ _ _ _ hσ h => h.mono (by cases σ <;> simp_all [Stage.settled]) (by simp)
    rotate := fun _ _ _ _ _ h => h.mono (by simp) (by simp)
    recover := fun _ _ _ _ _ _ _ h => ⟨trivial, fun _ => h.mono (by simp) (by simp)⟩
    unclosed := fun _ _ _ _ _ h => h.mono (by simp) (by simp) }

/-! ## Composed publication -/

/-- A frame is given to the publication only before its generation is quiesced. It is ignored before its generation is opened, and
after a shutdown; in between it is published, and refused only when the numbers of a session have run out. -/
theorem frames_published (hb : Bystanders base) {y : Y} {ph : Phase (World L (Wired T Y)) (WiringOutcome Ω)}
    (h : Recovery.Reachable (Around setup EventOutcome.Fine) (coordinatorOptions profile base) { elsewhere := y } ph s)
    {later past : List WiringEvent} {g : Nat} {result : EventPublishResult} {runOut : Bool}
    (hlog : s.outside.log = later ++ .frame g result runOut :: past) :
    .quiesced g ∉ past ∧ (.opened g ∉ past → result = .ignoredBeforeOpen) ∧ (.shutdown ∈ past → result = .ignoredBeforeOpen) ∧
      (.opened g ∈ past → .shutdown ∉ past → runOut = false → result = .published) ∧
        (result = .invariantFailure → runOut = true) := by
  have hinv : WiredInv ({ elsewhere := y } : Wired T Y) :=
    ⟨trivial, fun g hg => (by cases hg), fun n hn => (by cases hn), ⟨fun h => (by cases h), fun h => (by cases h)⟩,
      fun g t ht => (by cases ht), fun g t ht => (by cases ht), fun g t hg => (by cases hg)⟩
  have hhead : Fits (.head : Stage L) ⟨1, none, false, none⟩ ({ elsewhere := y } : Wired T Y) :=
    ⟨fun g t ht => (by cases ht), fun g hg => (by cases hg), fun _ => rfl, Or.inr (Or.inl ⟨rfl, rfl, fun n hn => by cases hn⟩)⟩
  obtain ⟨-, hi, -⟩ := Contract.reachable (K := frameContract setup hb) hinv hhead h
  obtain ⟨hquiesced, hignored, hpublished⟩ := WiredInv.fair hi |>.at_event hlog
  refine ⟨hquiesced, fun ho => hignored (Or.inl ho), fun hs => hignored (Or.inr hs), fun ho hs hr => ?_, fun hr => ?_⟩
  · rcases hpublished ho hs with hp | ⟨-, hout⟩
    · exact hp
    · rw [hr] at hout
      cases hout
  · by_cases hearly : .opened g ∉ past ∨ .shutdown ∈ past
    · rw [hignored hearly] at hr
      cases hr
    · rw [not_or, not_not] at hearly
      rcases hpublished hearly.1 hearly.2 with hp | ⟨-, hout⟩
      · rw [hp] at hr
        cases hr
      · exact hout

/-! ## A stream of trades -/

/-- Some run comes to this place outside. -/
def Occurs (x : Wired numberTypes Unit) : Prop := ∃ p : SpotConfig, p.Reached ∧ p.2.outside = x

/-- What happens around a place that occurs leads to one that does. -/
theorem Occurs.step {x y : Wired numberTypes Unit} (h : Occurs x)
    (hs : ∀ s : World countingLibrary (Wired numberTypes Unit), s.outside = x → Around numberSetup EventOutcome.Fine s y) : Occurs y := by
  obtain ⟨p, hp, hx⟩ := h
  exact ⟨p.outside fun _ => y, hp.outside (hs p.2 hx), rfl⟩

/-- The network thread of the first attempt takes a step. -/
theorem Occurs.network {x : Wired numberTypes Unit} {t t' : Transport} (h : Occurs x) (ht : x.transports 1 = some t)
    (hn : NetworkStep t none t') : Occurs (x.onTransport 1 fun _ => t') :=
  h.step (by rintro s rfl; exact .network ht hn (by simp))

/-- The network thread of the first attempt gives a trade to the publication. -/
theorem Occurs.frame {x : Wired numberTypes Unit} {t : Transport} (h : Occurs x) (ht : x.transports 1 = some t)
    (hr : t.thread = .running) (hk : t.task = .publishing .aggTrade) {r : EventPublishResult} {publication : EventPublication numberTypes}
    (hp : Program.Evaluates EventOutcome.Fine (publish (some (tradeNumber 7)) 1) x.publication r publication) :
    Occurs (x.framed 1 t .aggTrade r publication) :=
  h.step (by rintro s rfl; exact .frame ht hr hk hp)

/-- A writer takes a step. -/
theorem Occurs.writer {x : Wired numberTypes Unit} {publication : EventPublication numberTypes} (h : Occurs x)
    (hw : WriterStep x.publication publication) : Occurs { x with publication := publication } :=
  h.step (by rintro s rfl; exact .writer hw)

/-- The network thread reads from its connection and has nothing to do. -/
structure Listening (t : Transport) : Prop where
  running : t.thread = .running
  idle : t.task = .idle
  reading : t.reading = true
  opened : t.done = false
  profile : t.observation.profile = .spotCombinedEvents

/-- The only session is one of trades of the first generation, its writer has nothing left to read, and its next number is `n`. -/
structure Caught (n : Nat) (session : EventSession numberTypes) : Prop where
  active : session.channel.state = .active
  stream : session.channel.stream = .aggTrade
  generation : session.channel.sourceGeneration = 1
  room : 0 < session.channel.ordinaryCapacity
  queued : session.channel.queued = []
  next : session.channel.nextSessionSequence = n

/-- The first generation is open and has one session. -/
structure Streaming (n : Nat) (x : Wired numberTypes Unit) (t : Transport) (session : EventSession numberTypes) : Prop where
  transport : x.transports 1 = some t
  listening : Listening t
  opened : x.publication.sourceState = .opened
  generation : x.publication.sourceGeneration = some 1
  channels : x.publication.channels = [0]
  sessions : x.publication.sessions = [session]
  caught : Caught n session

/-- What publishing a trade comes to. -/
theorem publish_trade {n : Nat} {session : EventSession numberTypes} {s : EventPublication numberTypes}
    (hopened : s.sourceState = .opened) (hgeneration : s.sourceGeneration = some 1) (hchannels : s.channels = [0])
    (hsessions : s.sessions = [session]) (hc : Caught n session) :
    ∃ r publication, Program.Evaluates EventOutcome.Fine (publish (some (tradeNumber 7)) 1) s r publication ∧
      (n = maxUInt64 → r = .invariantFailure) ∧ (n < maxUInt64 → r = .published ∧ publication.sourceState = .opened ∧
        publication.sourceGeneration = some 1 ∧ publication.channels = [0] ∧
          publication.sessions = [(session.admitEvent (tradeNumber 7) {} (some s.nextAddress)).2]) := by
  let w : EventOutcome numberTypes := ⟨.shutdown, some {}, false⟩
  have hw : w.Fine := ⟨rfl, rfl⟩
  have hbegin : s.beginPublish (tradeNumber 7) 1 = (none, { s with publishing := some (tradeNumber 7, 1) }) := by
    rw [EventPublication.beginPublish, if_neg (by simp [hopened]), if_neg (by simp [hopened, hgeneration])]
  let begun : EventPublication numberTypes := { s with publishing := some (tradeNumber 7, 1) }
  let admitted := session.admitEvent (tradeNumber 7) {} (some s.nextAddress)
  let handed : EventPublication numberTypes := { begun with sessions := [admitted.2], nextAddress := s.nextAddress + 1 }
  have hmatch : ¬(session.channel.stream ≠ normalizedEventStream (tradeNumber 7) ∨ session.channel.sourceGeneration ≠ 1) := by
    simp [hc.stream, hc.generation, normalizedEventStream, tradeNumber]
  have hto : begun.publishTo (tradeNumber 7) 1 {} 0 false = if admitted.1 = .allocationFailure then
      (some admitted.1, { handed with publishing := none, log := .failed 0 :: s.log }) else (some admitted.1, handed) := by
    unfold EventPublication.publishTo
    simp only [begun, hsessions, List.getElem?_cons_zero, if_neg hmatch, List.set_cons_zero, Bool.false_eq_true, if_false, admitted,
      handed]
  have hall : ∀ {r publication}, Program.Evaluates EventOutcome.Fine (publishToAll (tradeNumber 7) 1 {} [0]) begun r publication →
      Program.Evaluates EventOutcome.Fine (publish (some (tradeNumber 7)) 1) s r publication := by
    intro r publication h
    refine Program.evaluates_bind.mpr ⟨some {}, s, Program.evaluates_choose.mpr ⟨⟨w, hw, rfl⟩, rfl⟩, ?_⟩
    refine Program.evaluates_bind.mpr ⟨none, begun, (Program.evaluates_section ⟨w, hw⟩).mpr hbegin, ?_⟩
    refine Program.evaluates_bind.mpr ⟨[0], begun, (Program.evaluates_read ⟨w, hw⟩).mpr ⟨hchannels.symm, rfl⟩, h⟩
  by_cases hfailed : admitted.1 = .allocationFailure
  · rw [if_pos hfailed] at hto
    refine ⟨.invariantFailure, { handed with publishing := none, log := .failed 0 :: s.log }, hall (Program.evaluates_bind.mpr ⟨_, _, Program.evaluates_atomic.mpr ⟨w, hw, hto⟩, ?_⟩),
      fun _ => rfl, fun hn => ?_⟩
    · rw [if_pos (by rw [hfailed])]
      exact Program.evaluates_pure.mpr ⟨rfl, rfl⟩
    · have hmax := (EventSubscriberChannel.admitEvent_failure (c := session.channel) (by simp [hc.stream, normalizedEventStream,
        tradeNumber]) hfailed).1
      rw [hc.next] at hmax
      omega
  · rw [if_neg hfailed] at hto
    refine ⟨.published, { handed with publishing := none, log := .published (tradeNumber 7) 1 :: handed.log },
      hall (Program.evaluates_bind.mpr ⟨_, _, Program.evaluates_atomic.mpr ⟨w, hw, hto⟩, ?_⟩), fun hn => ?_,
      fun _ => ⟨rfl, hopened, hgeneration, hchannels, rfl⟩⟩
    · rw [if_neg (by simpa using hfailed)]
      refine Program.evaluates_bind.mpr ⟨(), _, (Program.evaluates_modify ⟨w, hw⟩).mpr rfl, Program.evaluates_pure.mpr ⟨rfl, rfl⟩⟩
    · refine absurd ?_ hfailed
      have hsize : session.channel.ordinaryRing.size ≠ session.channel.ordinaryCapacity := by
        rw [← session.channel.queued_length, hc.queued]
        exact hc.room.ne
      simp [admitted, EventSession.admitEvent, EventSubscriberChannel.admitEvent, hc.active, hc.stream, normalizedEventStream, tradeNumber,
        hsize, hc.next, hn]

/-- The transport is there as the operation has left it. -/
theorem onTransport_self {x : Wired numberTypes Unit} {t : Transport} (h : x.transports 1 = some t) (f : Transport → Transport) :
    (x.onTransport 1 f).transports 1 = some (f t) := by
  simp [Wired.onTransport, h]

/-- A trade arrives and is about to be published. -/
theorem Streaming.arrives {n : Nat} {x : Wired numberTypes Unit} {t : Transport} {session : EventSession numberTypes}
    (hx : Occurs x) (h : Streaming n x t session) : ∃ t', Occurs (x.onTransport 1 fun _ => t') ∧ t'.thread = .running ∧
      t'.task = .publishing .aggTrade ∧ t'.reading = true ∧ t'.done = false ∧ t'.observation.profile = .spotCombinedEvents := by
  obtain ⟨hr, hi, hread, hopen, hprofile⟩ := h.listening
  let received := t.receiveWebsocketMessage (.event .aggTrade) 1
  have htask : received.task = .allocating .aggTrade := by
    simp [received, Transport.receiveWebsocketMessage, hprofile]
  have hreceived : Occurs (x.onTransport 1 fun _ => received) := hx.network h.transport (.message hr hi hread hopen _ 1)
  refine ⟨received.allocateEvent .aggTrade false, ?_, hr, rfl, hread, ?_, hprofile⟩
  · have htwice : (x.onTransport 1 fun _ => received).onTransport 1 (fun _ => received.allocateEvent .aggTrade false) =
        x.onTransport 1 fun _ => received.allocateEvent .aggTrade false := by
      unfold Wired.onTransport
      rw [h.transport]
      simp
    rw [← htwice]
    exact hreceived.network (onTransport_self h.transport _) (.allocate (t := received) hr htask false)
  · show (t.done || false) = false
    rw [hopen]
    rfl

/-- A trade that there is room for is read and acknowledged, and the writer has caught up again. -/
theorem caught_after {n : Nat} {session : EventSession numberTypes} (hc : Caught n session) (hn : n < maxUInt64) (address : Nat) :
    let admitted := (session.admitEvent (tradeNumber 7) {} (some address)).2
    Caught (n + 1) (admitted.peek.acknowledge admitted.channel.peek) := by
  intro admitted
  have hsize : session.channel.ordinaryRing.size ≠ session.channel.ordinaryCapacity := by
    rw [← session.channel.queued_length, hc.queued]
    exact hc.room.ne
  obtain ⟨address', c, hadmitted, hactive, hstream, hgeneration, hnext, hqueued⟩ : ∃ (address' : Nat) (c : EventSubscriberChannel _),
      admitted.channel = c ∧ c.state = .active ∧ c.stream = .aggTrade ∧ c.sourceGeneration = 1 ∧ c.nextSessionSequence = n + 1 ∧
        c.queued = [⟨address', session.nextRecord (tradeNumber 7) {}⟩] := by
    have hfirst : (session.admitEvent (tradeNumber 7) {} (some address)).1 = .admitted := by
      obtain ⟨c, hp, -⟩ := EventSubscriberChannel.ringPushLocked_some (⟨address, session.nextRecord (tradeNumber 7) {}⟩ :
        Shared (EventPublicationRecord numberTypes)) (Nat.lt_of_le_of_ne session.channel.ordinaryRing.size_le hsize)
      unfold EventSession.nextRecord at hp
      simp [EventSession.admitEvent, EventSubscriberChannel.admitEvent, hc.active, hc.stream, normalizedEventStream, tradeNumber, hsize,
        show session.channel.nextSessionSequence ≠ maxUInt64 by rw [hc.next]; exact hn.ne]
      simp only [tradeNumber] at hp
      rw [hp]
    rcases session.admitEvent_cases (tradeNumber 7) {} (some address) with
      ⟨-, he⟩ | ⟨-, he⟩ | ⟨-, he⟩ | ⟨-, address', c, -, he, hstate, -, hs, hg, -, hnext, hq⟩
    · rw [he] at hfirst
      cases hfirst
    · rw [he] at hfirst
      cases hfirst
    · rw [he] at hfirst
      cases hfirst
    · refine ⟨address', c, ?_, hstate, hs.trans hc.stream, hg.trans hc.generation, by rw [hnext, hc.next], ?_⟩
      · show (session.admitEvent (tradeNumber 7) {} (some address)).2.channel = c
        rw [he]
      · rw [hq, hc.queued]
        rfl
  have hfront : c.ordinaryRing.front = some ⟨address', session.nextRecord (tradeNumber 7) {}⟩ := by
    rw [c.front_eq, hqueued]
    rfl
  have hpeek : c.peek = { ordinary := some ⟨address', session.nextRecord (tradeNumber 7) {}⟩ } := by
    rw [EventSubscriberChannel.peek, if_neg (by simp [hactive]), hfront]
  have hacknowledged : (admitted.peek.acknowledge admitted.channel.peek).channel = c.ringPopLocked := by
    show (admitted.channel.acknowledge admitted.channel.peek).2 = _
    rw [hadmitted, hpeek, EventSubscriberChannel.acknowledge, if_neg (by simp [hactive])]
    simp [hfront]
  have hroom : 0 < c.ordinaryCapacity := by
    have hle := c.ordinaryRing.size_le
    rw [← c.queued_length, hqueued] at hle
    exact hle
  have hpop : c.ringPopLocked.queued = [] := by
    have htail : c.ringPopLocked.queued = c.queued.tail := c.ordinaryRing.toList_pop
    rw [htail, hqueued]
    rfl
  exact ⟨by rw [hacknowledged]; exact hactive, by rw [hacknowledged]; exact hstream, by rw [hacknowledged]; exact hgeneration,
    by rw [hacknowledged]; exact hroom, by rw [hacknowledged]; exact hpop, by rw [hacknowledged]; exact hnext⟩

/-- One more trade is published and read. -/
theorem Streaming.next {n : Nat} {x : Wired numberTypes Unit} {t : Transport} {session : EventSession numberTypes}
    (hx : Occurs x) (h : Streaming n x t session) (hn : n < maxUInt64) :
    ∃ x' t' session', Occurs x' ∧ Streaming (n + 1) x' t' session' := by
  obtain ⟨t₁, hx₁, hr, htask, hread, hopen, hprofile⟩ := h.arrives hx
  have ht₁ : (x.onTransport 1 fun _ => t₁).transports 1 = some t₁ := onTransport_self h.transport _
  obtain ⟨r, publication, hp, -, hpublished⟩ := publish_trade (s := x.publication) h.opened h.generation h.channels h.sessions h.caught
  obtain ⟨rfl, hstate, hgeneration, hchannels, hsessions⟩ := hpublished hn
  let admitted := (session.admitEvent (tradeNumber 7) {} (some x.publication.nextAddress)).2
  let x₂ := (x.onTransport 1 fun _ => t₁).framed 1 t₁ .aggTrade .published publication
  have hx₂ : Occurs x₂ := hx₁.frame ht₁ hr htask hp
  let t₂ := t₁.publishNormalizedEvent .aggTrade .proceed
  have ht₂ : x₂.transports 1 = some t₂ := by simp [x₂, t₂, Wired.framed]
  have htask₂ : t₂.task = .counting .aggTrade := by simp [t₂, Transport.publishNormalizedEvent, hprofile]
  have hopen₂ : t₂.done = false := by simp [t₂, Transport.publishNormalizedEvent, hopen]
  let x₃ := x₂.onTransport 1 fun _ => t₂.countFrame .aggTrade
  have hx₃ : Occurs x₃ := hx₂.network ht₂ (.count hr htask₂)
  have hsessions₃ : x₃.publication.sessions = [admitted] := hsessions
  -- the writer reads the trade and acknowledges it
  let x₄ : Wired numberTypes Unit := { x₃ with publication := x₃.publication.onSession 0 (·.peek) }
  have hx₄ : Occurs x₄ := hx₃.writer (.peek 0)
  have hsessions₄ : x₄.publication.sessions = [admitted.peek] := by
    show x₃.publication.sessions.modify 0 _ = _
    rw [hsessions₃]
    rfl
  let x₅ : Wired numberTypes Unit :=
    { x₄ with publication := x₄.publication.onSession 0 (·.acknowledge admitted.channel.peek) }
  have hx₅ : Occurs x₅ := by
    have hmember : x₄.publication.sessions[0]? = some admitted.peek := by
      rw [hsessions₄]
      rfl
    exact hx₄.writer (.acknowledge hmember List.mem_cons_self)
  refine ⟨x₅, t₂.countFrame .aggTrade, _, hx₅, ?_, ⟨hr, rfl, hread, hopen₂, hprofile⟩, hstate, hgeneration, hchannels, ?_,
    caught_after h.caught hn x.publication.nextAddress⟩
  · exact onTransport_self ht₂ _
  · show x₄.publication.sessions.modify 0 _ = _
    rw [hsessions₄]
    rfl

/-- A trade that is published is refused when the numbers have run out. -/
theorem Streaming.refused {x : Wired numberTypes Unit} {t : Transport} {session : EventSession numberTypes}
    (hx : Occurs x) (h : Streaming maxUInt64 x t session) :
    ∃ x' : Wired numberTypes Unit, Occurs x' ∧ ∃ runOut, .frame 1 .invariantFailure runOut ∈ x'.log := by
  obtain ⟨t₁, hx₁, hr, htask, -⟩ := h.arrives hx
  obtain ⟨r, publication, hp, hrefused, -⟩ := publish_trade (s := x.publication) h.opened h.generation h.channels h.sessions h.caught
  obtain rfl := hrefused rfl
  exact ⟨_, hx₁.frame (onTransport_self h.transport _) hr htask hp, _, List.mem_cons_self⟩

/-- The first generation is open. -/
def trading : SpotConfig := (begun.run 10).connect.run 5

theorem trading_reached : trading.Reached := by
  have hconnected : (begun.run 10).connect.Reached :=
    (begun_reached.run 10).connect (t := ((begun.run 10).2.outside.transports 1).getD {}) rfl rfl rfl rfl rfl
  exact hconnected.run 5

/-- Somebody has subscribed to the trades. -/
def subscribed : Wired numberTypes Unit :=
  { trading.2.outside with
    publication := (trading.2.outside.publication.admitLocked numberSetup ⟨"r", .aggTrade, "agg-trade.v1"⟩ {} false).2 }

/-- What the subscriber reads first. -/
def acceptance : PeekedEventPublication numberTypes := (subscribed.publication.sessions.head?.map (·.channel.peek)).getD {}

/-- The subscriber has read that it has subscribed. -/
def welcomed : Wired numberTypes Unit :=
  { subscribed with
    publication := (subscribed.publication.onSession 0 (·.peek)).onSession 0 (·.acknowledge acceptance) }

/-- The subscriber's first read occurs. -/
theorem welcomed_occurs : Occurs welcomed := by
  have hsubscribed : Occurs subscribed := by
    refine Occurs.step ⟨trading, trading_reached, rfl⟩ ?_
    rintro s hs
    rw [show subscribed = { s.outside with publication := subscribed.publication } by rw [hs]; rfl]
    refine .admission (show Program.Evaluates _ (admitSubscription numberSetup ⟨"r", .aggTrade, "agg-trade.v1"⟩)
      s.outside.publication (.ok 0) subscribed.publication from ?_)
    rw [hs]
    refine Program.evaluates_bind.mpr ⟨some {}, _, Program.evaluates_choose.mpr ⟨⟨⟨.shutdown, some {}, false⟩, trivial, rfl⟩, rfl⟩, ?_⟩
    exact Program.evaluates_atomic.mpr ⟨⟨.shutdown, none, false⟩, trivial, rfl⟩
  have hsession : (subscribed.publication.onSession 0 (·.peek)).sessions[0]? = subscribed.publication.sessions.head?.map (·.peek) :=
    rfl
  exact (hsubscribed.writer (.peek 0)).writer (.acknowledge hsession List.mem_cons_self)

/-- The subscriber has read its acceptance and waits for number two. -/
theorem welcomed_streaming : ∃ t session, Streaming 2 welcomed t session :=
  ⟨_, _, rfl, ⟨rfl, rfl, rfl, rfl, rfl⟩, rfl, rfl, rfl, rfl, ⟨rfl, rfl, rfl, by decide, by rfl, rfl⟩⟩

/-- In the sample run a trade is published. -/
theorem frames_published_trade : ∃ ph s runOut,
    Recovery.Reachable (Around numberSetup EventOutcome.Fine) SpotConfig.options { elsewhere := () } ph s ∧
      s.outside.log = [.frame 1 .published runOut, .opened 1] ∧ .quiesced 1 ∉ [WiringEvent.opened 1] ∧
        (.opened 1 ∉ [WiringEvent.opened 1] → EventPublishResult.published = .ignoredBeforeOpen) ∧
          (.shutdown ∈ [WiringEvent.opened 1] → EventPublishResult.published = .ignoredBeforeOpen) ∧
            (.opened 1 ∈ [WiringEvent.opened 1] → .shutdown ∉ [WiringEvent.opened 1] → runOut = false →
              EventPublishResult.published = .published) ∧ (EventPublishResult.published = .invariantFailure → runOut = true) := by
  obtain ⟨t, session, h⟩ := welcomed_streaming
  obtain ⟨t₁, hx₁, hr, htask, -⟩ := h.arrives welcomed_occurs
  obtain ⟨r, publication, hp, -, hpublished⟩ := publish_trade h.opened h.generation h.channels h.sessions h.caught
  obtain ⟨rfl, -⟩ := hpublished (by decide)
  obtain ⟨p, hreached, hout⟩ := hx₁.frame (onTransport_self h.transport _) hr htask hp
  have hlog : p.2.outside.log = [] ++ WiringEvent.frame 1 .published publication.numbersRunOut :: [.opened 1] := by
    rw [hout]
    rfl
  exact ⟨p.1, p.2, _, hreached, hlog, frames_published waiting_bystanders hreached hlog⟩

/-- Trade after trade is published and read. -/
theorem streaming_occurs (k : Nat) (hk : 2 + k ≤ maxUInt64) : ∃ x t session, Occurs x ∧ Streaming (2 + k) x t session := by
  induction k with
  | zero =>
    obtain ⟨t, session, h⟩ := welcomed_streaming
    exact ⟨welcomed, t, session, welcomed_occurs, h⟩
  | succ k ih =>
    obtain ⟨x, t, session, hx, h⟩ := ih (by omega)
    exact h.next (n := 2 + k) hx (by omega)

/-- After 2 ^ 64 - 3 trades the next one is refused, although neither the clock nor an allocation has failed. -/
theorem trade_refused : ∃ ph s runOut,
    Recovery.Reachable (Around numberSetup EventOutcome.Fine) SpotConfig.options { elsewhere := () } ph s ∧
      .frame 1 .invariantFailure runOut ∈ s.outside.log := by
  obtain ⟨x, t, session, hx, h⟩ := streaming_occurs (maxUInt64 - 2) (by unfold maxUInt64; omega)
  rw [show 2 + (maxUInt64 - 2) = maxUInt64 by unfold maxUInt64; omega] at h
  obtain ⟨y, ⟨p, hp, rfl⟩, runOut, hframe⟩ := h.refused hx
  exact ⟨p.1, p.2, runOut, hp, hframe⟩

end MarketDataGateway.ProductRuntime
