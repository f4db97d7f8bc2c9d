import MarketDataGateway.Production.Startup
import MarketDataGateway.Runtime.Counting

/-!
# What a gateway guarantees

A start serves or it is taken back: whatever goes wrong on its way, what it leaves is a gateway that is stopped, and so does a stop.
Nothing of a gateway that is stopped is at work, and it stays that way.
-/

namespace MarketDataGateway.Production

open BinanceTransport GrpcService MarketRuntime OrderBook Recovery Threads Program

variable {κ : Type} [DecidableEq κ] {L : ProjectionLibrary} {Y ω α : Type} {g : Settings κ L Y ω}
  (h : ∀ k, (g.collaborators k).Sections Bystanding)
include h

/-! ## A round of the lifecycle -/

omit h in
/-- Between two rounds the gateway is at rest, or a start waits. -/
def Poised (g : Settings κ L Y ω) (s : ProductionGateway κ L Y ω) : Prop :=
  (∃ st, st.moving = false ∧ Rested st (Calm st) s) ∨ ∃ deadline, Waiting g deadline s

/-- A gateway that is poised stays so. -/
theorem stable_poised : (gatewayRely h).Stable (Poised g) :=
  (Rely.Stable.exists fun _ => (Rely.Stable.const _).and (stable_rested h _)).or (Rely.Stable.exists (stable_waiting h))

omit [DecidableEq κ] h in
/-- A gateway that serves has begun to start. -/
theorem Served.begun {keys : List κ} {log : List (GatewayEvent κ)} (hs : Served keys log) : .begun ∈ log := by
  obtain ⟨now, deadline, past, hawaited, -, rfl⟩ := hs
  have hpast : .begun ∈ past := hawaited.subset (by simp)
  simp [hpast]

/-- A start that has answered lets go of the mutex. -/
theorem finish_triple {P : ProductionGateway κ L Y ω → Prop} {st : GatewayState} (hst : st.moving = false)
    {p : GatewayThrowing κ L Y ω (Option (StartResult κ))}
    (hp : TripleE (gatewayRely h) P p (Begun g st) fun _ => Rested .stopped fun _ _ => True) :
    Triple (gatewayRely h) P (finish p) fun _ => Poised g := by
  have hpoised := stable_poised h
  have hbegun : ∀ result, (gatewayRely h).Stable (Begun g st result) := fun result =>
    (stable_concluded h result).or ((Rely.Stable.const _).and ((Rely.Stable.const _).and (stable_rested h _)))
  have htaken : ∀ (s : ProductionGateway κ L Y ω) (e : GatewayEvent κ), GatewayInv g s → Rested .stopped (fun _ _ => True) s →
      (.stopped ∈ s.log → Answered g.keys e s.log) → e ≠ .begun → e ≠ .stopped →
        GatewayInv g (s.finishStart e) ∧ Poised g (s.finishStart e) := by
    intro s e hi hs he hb hn
    have hm := hi.stopped.mpr hs.state
    exact ⟨(hi.aside _ none).noteAnswer (he hm) hb hn, Or.inl ⟨.stopped, rfl, hs.state,
      ⟨rfl, fun _ => Or.inr (List.mem_cons_of_mem e hm)⟩, trivial, hs.products⟩⟩
  refine Triple.bind hp fun r => ?_
  cases r with
  | error error =>
    exact Triple.modify (stable_rested h _) hpoised fun s hi hs => htaken s (.threw error) hi hs id nofun nofun
  | ok result =>
    cases result with
    | none =>
      refine Triple.done (hbegun none) fun s _ hs => ?_
      rcases hs with (⟨-, hs⟩ | ⟨hno, -⟩ | ⟨_, ⟨hno, -⟩, -⟩) | ⟨hno, -⟩
      · exact Or.inr hs
      · cases hno
      · cases hno
      · cases hno
    | some result =>
      refine Triple.modify (hbegun (some result)) hpoised fun s hi hs => ?_
      rcases hs with (⟨hno, -⟩ | ⟨hsome, hs⟩ | ⟨refusal, ⟨hsome, hr⟩, hs⟩) | ⟨hsome, hnew, hs⟩
      · cases hno
      · obtain rfl := Option.some.inj hsome
        exact ⟨(hi.aside _ none).noteAnswer hs.noted nofun nofun, Or.inl ⟨.serving, rfl, hs.state,
          ⟨rfl, fun _ => Or.inl (List.mem_cons_of_mem _ (Served.begun hs.noted))⟩, trivial, hs.products⟩⟩
      · obtain rfl := Option.some.inj hsome
        refine htaken s (.returned result) hi hs (fun hm => ?_) nofun nofun
        obtain ⟨code, product⟩ := result
        cases code with
        | serving => exact (hr.1 rfl).elim
        | alreadyStarted => exact (hr.2 rfl).elim
        | stopRequested | productStartFailed | productInitialFailure | initialStartupTimeout | grpcBindFailed => exact hm
      · obtain rfl := Option.some.inj hsome
        have hm := hs.noted.2 hnew
        exact ⟨(hi.aside _ none).noteAnswer hm nofun nofun, Or.inl ⟨st, hst, hs.state,
          ⟨rfl, fun _ => hm.imp (List.mem_cons_of_mem _) (List.mem_cons_of_mem _)⟩, trivial, hs.products⟩⟩

/-- A stop stops the gateway, or finds it stopped. -/
theorem stopGateway_triple {st : GatewayState} (hst : st.moving = false) :
    Triple (gatewayRely h) (Rested st (Calm st)) (stopGateway g) fun _ => Poised g := by
  have hcalm : (gatewayRely h).Stable (Rested st (Calm st)) := stable_rested h _
  have hstopped : (gatewayRely h).Stable (Rested .stopped fun _ w => w = none) := stable_rested h _
  have hmoving : (gatewayRely h).Stable (Stage .stopping (fun _ w => w = none) (fun t => t.shutdown = false) fun _ => Ready) :=
    stable_stage h stable_open fun k => stable_ready (h k)
  refine Triple.bind (Q := fun _ => Rested st (Calm st)) (Triple.modify hcalm hcalm fun s hi hs => ?_) fun _ => ?_
  · exact ⟨hi.aside true s.waiting, hs.state, hs.noted, trivial, hs.products⟩
  refine Triple.bind (Q := fun done s => (done = true ∧ Rested .stopped (fun _ w => w = none) s) ∨
    (done = false ∧ Stage .stopping (fun _ w => w = none) (fun t => t.shutdown = false) (fun _ => Ready) s)) ?_ fun done => ?_
  · refine Triple.atomic hcalm (fun _ => ((Rely.Stable.const _).and hstopped).or ((Rely.Stable.const _).and hmoving)) fun _ s hi hs => ?_
    unfold ProductionGateway.enterStop
    split
    · rename_i hstate
      exact ⟨hi, Or.inl ⟨rfl, hstate, hs.noted.1, trivial, hs.products⟩⟩
    · rename_i hstate
      have hstill : s.state ≠ .stopping := by
        rw [hs.state]
        rintro rfl
        cases hst
      have hfresh := hi.fresh hstill hstate
      exact ⟨hi.move hstate rfl hfresh, Or.inr ⟨rfl, rfl, hs.noted.1, hfresh, hs.products⟩⟩
  · have hend : Triple (gatewayRely h) (Rested .stopped fun _ w => w = none)
        (modify (·.note .stopReturned) : GatewayProgram κ L Y ω Unit) fun _ => Poised g := by
      refine Triple.modify hstopped (stable_poised h) fun s hi hs => ?_
      have hm := hi.stopped.mpr hs.state
      exact ⟨hi.noteAnswer hm (by simp) (by simp), Or.inl ⟨.stopped, rfl, hs.state, ⟨hs.noted, fun _ => Or.inr (List.mem_cons_of_mem _ hm)⟩,
        trivial, hs.products⟩⟩
    cases done with
    | true =>
      refine hend.pre fun s _ hs => ?_
      rcases hs with ⟨-, hs⟩ | ⟨hno, -⟩
      · exact hs
      · cases hno
    | false =>
      refine Triple.pre (P := Stage .stopping (fun _ w => w = none) (fun t => t.shutdown = false) fun _ => Ready) ?_ fun s _ hs => ?_
      · exact Triple.bind (shutdownGraph_triple h) fun _ => Triple.bind (setStopped_triple h fun _ _ => id) fun _ => hend
      · rcases hs with ⟨hno, -⟩ | ⟨-, hs⟩
        · cases hno
        · exact hs

/-- A round of the lifecycle goes from poised to poised. -/
theorem lifecycleRound_triple : Triple (gatewayRely h) (Poised g) (lifecycleRound g) (afterRound (Poised g) fun _ => False) := by
  have hpoised := stable_poised h
  have hwaiting : ∀ w, (gatewayRely h).Stable fun s => s.waiting = w := by
    rintro w s t - hs (_ | _ | _) <;> exact hs
  have hagain : ∀ {P : ProductionGateway κ L Y ω → Prop} {p : GatewayProgram κ L Y ω Unit}, Triple (gatewayRely h) P p (fun _ => Poised g) →
      Triple (gatewayRely h) P (do p; pure true : GatewayProgram κ L Y ω Bool) (afterRound (Poised g) fun _ => False) :=
    fun hp => Triple.bind hp fun _ => Triple.done hpoised fun _ _ => id
  refine Triple.bind (Q := fun choice s => s.waiting = choice.1 ∧ Poised g s)
    (Triple.atomic hpoised (fun _ => (hwaiting _).and hpoised) fun _ s hi hs => ⟨hi, rfl, hs⟩) fun choice => ?_
  obtain ⟨waiting, call⟩ := choice
  cases waiting with
  | some deadline =>
    refine hagain (finish_triple h (show GatewayState.stopped.moving = false from rfl)
      (TripleE.conseq (resume_triple h) ?_ (fun _ _ _ => Or.inl) fun _ _ _ => id))
    rintro s - ⟨hw, ⟨st, -, hs⟩ | ⟨deadline', hs⟩⟩
    · rw [hs.noted.1] at hw
      cases hw
    · obtain rfl : deadline' = deadline := Option.some.inj (hs.noted.1.symm.trans hw)
      exact hs
  | none =>
    have hrest : ∀ {p : GatewayProgram κ L Y ω Unit},
        (∀ st : GatewayState, st.moving = false → Triple (gatewayRely h) (Rested st (Calm st)) p fun _ => Poised g) →
        Triple (gatewayRely h) (fun s => s.waiting = none ∧ Poised g s) p fun _ => Poised g := by
      intro p hp
      refine Triple.pre (Triple.exists_pre fun st => Triple.pure_pre (hp st)) fun s _ hs => ?_
      rcases hs.2 with ⟨st, hst, hs⟩ | ⟨deadline, hs'⟩
      · exact ⟨st, hst, hs⟩
      · have hw := hs.1
        rw [hs'.noted.1] at hw
        cases hw
    cases call with
    | start => exact hagain (hrest fun st hst => finish_triple h hst (begin_triple h))
    | stop => exact hagain (hrest fun st hst => stopGateway_triple h hst)

/-! ## The history grows -/

section History

omit h

/-- Nothing that has been noted is forgotten. -/
def Remembers (s t : ProductionGateway κ L Y ω) : Prop := s.log <:+ t.log

omit [DecidableEq κ] in
/-- A history that is as it was is remembered. -/
theorem Remembers.same {s t : ProductionGateway κ L Y ω} (hs : t.log = s.log) : Remembers s t :=
  ⟨[], by rw [hs, List.nil_append]⟩

omit [DecidableEq κ] in
/-- A note is remembered. -/
theorem noted_all (e : GatewayEvent κ) : Throwing.All Remembers (noted e : GatewayThrowing κ L Y ω Unit) :=
  .lift (.atomic fun _ _ => List.suffix_cons _ _)

omit [DecidableEq κ] in
/-- The server's sections forget nothing. -/
theorem onServer_all (p : ServerProgram (GatewayOutcome ω) α) : (onServer p : GatewayProgram κ L Y ω α).All Remembers := by
  refine (Program.All.focus (Program.All.always p)).mono ?_
  rintro s _ ⟨_, -, rfl⟩
  exact .same rfl

/-- A product's sections forget nothing. -/
theorem onProduct_all (key : κ) (p : ProductProgram L Y ω α) : (onProduct key p : GatewayProgram κ L Y ω α).All Remembers := by
  refine (Program.All.focus (Program.All.always p)).mono ?_
  rintro s _ ⟨_, -, rfl⟩
  exact .same rfl

/-- Taking everything down forgets nothing. -/
theorem shutdownGraph_all : (shutdownGraph g).All Remembers := by
  have hpublications : (shutdownPublications g).All Remembers :=
    .bind (.forEach fun k => onProduct_all k _) fun _ => .bind (.forEach fun k => onProduct_all k _) fun _ => .forEach fun k => onProduct_all k _
  refine .bind (.bind (onServer_all _) fun shut => ?_) fun _ => .bind hpublications fun _ => .forEach fun k => onProduct_all k _
  cases shut with
  | true => trivial
  | false =>
    refine .bind (.bind (onServer_all _) fun begun => ?_) fun _ => onServer_all _
    cases begun with
    | true => trivial
    | false => exact .bind hpublications fun _ => onServer_all _

omit [DecidableEq κ] in
/-- Stating the stop forgets nothing. -/
theorem setStopped_all : (setStopped : GatewayProgram κ L Y ω Unit).All Remembers := .atomic fun _ _ => List.suffix_cons _ _

/-- Rolling back forgets nothing. -/
theorem rollback_all : (rollback g).All Remembers :=
  .bind (.atomic fun _ _ => .same rfl) fun _ => .bind shutdownGraph_all fun _ => setStopped_all

/-- Giving up a start forgets nothing. -/
theorem giveUp_all (result : StartResult κ) : Throwing.All Remembers (giveUp g result) := .bind (.lift rollback_all) fun _ => .pure _

omit [DecidableEq κ] in
/-- Asking for a requested stop forgets nothing. -/
theorem checkStop_all : Throwing.All Remembers (checkStop : GatewayThrowing κ L Y ω Bool) :=
  .bind (.of (.atomic fun _ _ => .same rfl)) fun _ => .bind (noted_all _) fun _ => .pure _

omit [DecidableEq κ] in
/-- Reading the clock forgets nothing. -/
theorem startupNow_all : Throwing.All Remembers (startupNow : GatewayThrowing κ L Y ω Int) := .of (.atomic fun _ _ => .same rfl)

/-- Starting the products forgets nothing. -/
theorem startProducts_all (keys : List κ) : Throwing.All Remembers (startProducts keys : GatewayThrowing κ L Y ω _) := by
  induction keys with
  | nil => exact .pure _
  | cons key rest ih =>
    exact .bind (.of (onProduct_all key _)) fun _ => .bind (noted_all _) fun _ => .bind ih fun _ => .pure _

/-- Looking at the products forgets nothing. -/
theorem firstWith_all (look : κ → Throwing (Product L Y ω) (ProductOutcome ω) String Bool) (event : κ → Bool → GatewayEvent κ)
    (last : Bool) (keys : List κ) : Throwing.All Remembers (firstWith look event last keys) := by
  induction keys with
  | nil => exact .pure _
  | cons key rest ih =>
    refine .bind (.of (onProduct_all key _)) fun seen => .bind (noted_all _) fun _ => ?_
    split
    · exact .pure _
    · exact ih

/-- A pass over the products forgets nothing. -/
theorem waitPass_all (deadline : Int) : Throwing.All Remembers (waitPass g deadline) := by
  refine .bind checkStop_all fun requested => .ite (.pure _) (.bind (firstWith_all _ _ _ _) fun failed => ?_)
  cases failed with
  | some key => exact .pure _
  | none =>
    refine .bind (.bind (firstWith_all _ _ _ _) fun _ => .pure _) fun live => .bind startupNow_all fun now => .bind (noted_all _) fun _ => ?_
    split
    · exact .pure _
    · exact .ite (.pure _) (.pure _)

/-- Opening the server forgets nothing. -/
theorem serve_all : Throwing.All Remembers (serve g) :=
  .bind checkStop_all fun _ => .ite (giveUp_all _) (.bind (.bind (.lift (onServer_all _)) fun _ => .bind (noted_all _) fun _ => .pure _)
    fun _ => .ite (giveUp_all _) (.bind checkStop_all fun _ => .ite (giveUp_all _)
      (.bind (.lift (.atomic fun _ _ => .same rfl)) fun _ => .pure _)))

/-- A start that goes on forgets nothing. -/
theorem resume_all (deadline : Int) : Throwing.All Remembers (resume g deadline) := by
  refine .onThrow (.bind (waitPass_all deadline) fun result => ?_) (.lift rollback_all)
  cases result with
  | none => exact .pure _
  | some result =>
    dsimp only
    split
    · exact serve_all
    · exact giveUp_all _

/-- A start that begins forgets nothing. -/
theorem begin_all : Throwing.All Remembers (begin g) := by
  refine .bind (.lift (.atomic fun _ s => ?_)) fun entered => .ite (.pure _) (.onThrow ?_ (.lift rollback_all))
  · unfold ProductionGateway.enterStart
    split
    · exact .same rfl
    · exact List.suffix_cons _ _
  · refine .bind checkStop_all fun requested => .ite (giveUp_all _) (.bind startupNow_all fun now => .bind (noted_all _) fun _ =>
      .bind (startProducts_all _) fun starts => ?_)
    unfold awaitProducts
    split
    · exact giveUp_all _
    · exact .bind (.lift (.atomic fun _ _ => .same rfl)) fun _ => .pure _

/-- A round of the lifecycle forgets nothing. -/
theorem lifecycleRound_all : (lifecycleRound g).All Remembers := by
  have hfinish : ∀ {p : GatewayThrowing κ L Y ω (Option (StartResult κ))}, Throwing.All Remembers p → (finish p).All Remembers := by
    intro p hp
    refine .bind hp fun r => ?_
    match r with
    | .ok none => trivial
    | .ok (some result) => exact .atomic fun _ _ => List.suffix_cons _ _
    | .error error => exact .atomic fun _ _ => List.suffix_cons _ _
  refine .bind (.atomic fun _ _ => .same rfl) fun choice => ?_
  obtain ⟨waiting, call⟩ := choice
  cases waiting with
  | some deadline => exact .bind (hfinish (resume_all deadline)) fun _ => trivial
  | none =>
    cases call with
    | start => exact .bind (hfinish begin_all) fun _ => trivial
    | stop =>
      refine .bind (.bind (.atomic fun _ _ => .same rfl) fun _ => .bind (.atomic fun _ s => ?_) fun done => ?_) fun _ => trivial
      · unfold ProductionGateway.enterStop
        split <;> exact .same rfl
      · cases done with
        | true => exact .atomic fun _ _ => List.suffix_cons _ _
        | false => exact .bind shutdownGraph_all fun _ => .bind setStopped_all fun _ => .atomic fun _ _ => List.suffix_cons _ _

end History

/-! ## Every run -/

variable {limit : Nat} {setup : κ → Setup L} {elsewhere : κ → Y}

/-- In every run the loop of the lifecycle keeps its invariant. -/
theorem GatewayReachable.loopInv {ph : Phase (ProductionGateway κ L Y ω) (GatewayOutcome ω)} {s : ProductionGateway κ L Y ω}
    (hr : GatewayReachable g limit setup elsewhere ph s) : LoopInv (gatewayRely h) (Poised g) (fun _ => False) ph s := by
  induction hr with
  | initial =>
    exact ⟨gatewayInv_initial limit setup elsewhere, Or.inl ⟨.constructed, rfl, rfl, ⟨rfl, fun hne => (hne rfl).elim⟩, trivial,
      fun _ => Or.inl rfl⟩⟩
  | step _ hs ih => exact ih.step (stable_poised h) (Rely.Stable.const False) (lifecycleRound_triple h) hs

/-- In every run the gateway's invariant holds. -/
theorem GatewayReachable.inv {ph : Phase (ProductionGateway κ L Y ω) (GatewayOutcome ω)} {s : ProductionGateway κ L Y ω}
    (hr : GatewayReachable g limit setup elsewhere ph s) : GatewayInv g s := (hr.loopInv h).inv

omit h in
/-- In every run what is left of a round forgets nothing. -/
theorem GatewayReachable.remembers {ph : Phase (ProductionGateway κ L Y ω) (GatewayOutcome ω)} {s : ProductionGateway κ L Y ω}
    (hr : GatewayReachable g limit setup elsewhere ph s) : PhaseAll Remembers ph := by
  induction hr with
  | initial => trivial
  | step _ hs ih => exact (hs.guarantee lifecycleRound_all ih).2

/-- In every run of a gateway, whatever calls are made on it, in whatever order, and whatever its products, its server and their
collaborators do in between:
1. a start answers that it serves only after it has started every product, has then seen none of them failed and every one live in one
   pass, with time left, has opened the server, and has not seen a stop requested; any other answer of a start that is not turned away at
   its gate, an exception, and the return of a stop find the gateway stopped; at most one start passes the gate;
2. a gateway that serves has its server, and every product has its coordinator's thread and its runtime's owner;
3. of a gateway that is stopped nothing is at work: the server is gone, with every handler and every tracked context, and of each product
   the coordinator's thread is over, every attempt that it has ever made is stopped, and the owner of its runtime, if there was one, is
   joined;
4. a gateway that is stopped stays so. -/
theorem lifecycle_all_or_nothing {ph : Phase (ProductionGateway κ L Y ω) (GatewayOutcome ω)} {s : ProductionGateway κ L Y ω}
    (hr : GatewayReachable g limit setup elsewhere ph s) :
    ((∀ later event past, s.log = later ++ event :: past → Answered g.keys event past) ∧
      (.stopped ∈ s.log ↔ s.state = .stopped) ∧ s.log.count .begun ≤ 1) ∧
    (s.state = .serving → s.server.running = true ∧ ∀ k ∈ g.keys, Running (s.products k)) ∧
    (s.state = .stopped → s.server.running = false ∧ (∀ handler ∈ s.server.service.handlers, handler.live = false) ∧
      s.server.service.contexts = [] ∧ ∀ k ∈ g.keys, Ended (s.products k)) ∧
    (∀ ph' s', LifecycleStep g ph s ph' s' → s.state = .stopped → s'.state = .stopped) := by
  have hi := hr.inv h
  refine ⟨⟨fun later event past hlog => hi.answered.at_event hlog, hi.stopped, hi.once⟩, fun hst => ⟨(hi.up hst).server, (hi.up hst).products⟩,
    fun hst => ?_, fun ph' s' hs hst => ?_⟩
  · have hd := hi.down hst
    refine ⟨hd.server.gone, fun handler hm => ?_, hi.server.contexts hd.server.gone, fun k hk => (hi.products k).ended (hd.products k hk)⟩
    simpa using List.all_eq_true.mp (hi.server.idle hd.server.gone) handler hm
  · have hi' := (hr.step hs).inv h
    refine hi'.stopped.mp ?_
    have hm := hi.stopped.mpr hst
    rcases (hs.guarantee lifecycleRound_all hr.remembers).1 with henv | hsuffix | rfl
    · cases henv with
      | requestStop | product | server => exact hm
    · exact hsuffix.subset hm
    · exact hm

/-! ## A start that takes too long -/

section Sluggish

omit h

/-- Every attempt starts, and none gets live before a stop. -/
def sluggish : Collaborators countingLibrary (Premises countingLibrary Unit) Unit where
  createAttempt _ := pure (.ok true)
  startAttempt _ := pure (.ok .started)
  stopAttempt _ := pure ()
  observeAttempt g := pure (.ok { started := true, running := true, websocketHandshake := true, connectionGeneration := g })
  monotonicClock := pure (.ok 0)
  waitUntilLiveOrRecoveryRequired := await (·.coordinator.stopToken) fun _ s => (.ok none, s)
  waitUntilRecoveryRequired := await (·.coordinator.stopToken) fun _ s => (.ok none, s)
  waitForRotation _ := pure (.ok .stopped)
  observeRuntime := pure (.ok {})
  submitTransportFailure := pure (.ok .accepted)
  resetForRebootstrap := pure (.ok .reset)
  resetLiveForPlannedRebootstrap := pure (.ok .invalidState)
  waitBackoff _ := pure (.ok false)
  sourceGenerationLifecycle := none
  plannedRotation := none

/-- The sample collaborators are bystanders. -/
theorem sluggish_bystanding : sluggish.Sections Bystanding := by
  have hwait : ∀ s : World countingLibrary (Premises countingLibrary Unit), Bystanding s s := fun s => ⟨s.outside, .refl _, rfl⟩
  exact
    { createAttempt := fun _ => trivial, startAttempt := fun _ => trivial, stopAttempt := fun _ => trivial
      observeAttempt := fun _ => trivial, monotonicClock := trivial
      waitUntilLiveOrRecoveryRequired := .await fun _ s _ => hwait s, waitUntilRecoveryRequired := .await fun _ s _ => hwait s
      waitForRotation := fun _ => trivial, observeRuntime := trivial, submitTransportFailure := trivial
      resetForRebootstrap := trivial, resetLiveForPlannedRebootstrap := trivial, waitBackoff := fun _ => trivial
      lifecycle := nofun }

/-- One product, and one nanosecond for it to become live. -/
def sluggishSettings : Settings Unit countingLibrary Unit Unit where
  keys := [()]
  nodup := by decide
  collaborators _ := sluggish
  shutdownEvents _ := id
  initialStartupTimeout := 1

abbrev SluggishGateway := ProductionGateway Unit countingLibrary Unit Unit

abbrev SluggishRun := Phase SluggishGateway (GatewayOutcome Unit) × SluggishGateway

/-- The holder of the lifecycle mutex runs for `n` sections, at this time. -/
def lifecycleRuns (time : Int) (n : Nat) (p : SluggishRun) : SluggishRun :=
  Phase.advances (lifecycleRound sluggishSettings) { clock := .ok time, product := { rest := () } } n p

/-- The coordinator's thread runs for `n` sections. -/
def threadRuns (n : Nat) (p : SluggishRun) : SluggishRun :=
  match n, (p.2.products ()).thread with
  | 0, _ | _, none => p
  | n + 1, some ph =>
    let q := Phase.advance (coordinatorRound sluggish) () (ph, (p.2.products ()).world)
    threadRuns n (p.1, p.2.setProduct () { p.2.products () with thread := some q.1, world := q.2 })

/-- The runtime's owner does something. -/
def ownerMoves (f : Impl countingLibrary → Impl countingLibrary) (p : SluggishRun) : SluggishRun :=
  (p.1, p.2.setProduct () ((p.2.products ()).onRuntime f))

def Reached (p : SluggishRun) : Prop := GatewayReachable sluggishSettings 1 (fun _ => countingSetup) (fun _ => ()) p.1 p.2

/-- Letting the lifecycle run leads to a state that is reached. -/
theorem Reached.lifecycleRuns {p : SluggishRun} (hp : Reached p) (time : Int) (n : Nat) : Reached (lifecycleRuns time n p) := by
  unfold Production.lifecycleRuns
  induction n generalizing p with
  | zero => exact hp
  | succ n ih =>
    apply ih
    rcases Phase.advance_step (GatewayStep sluggishSettings) (lifecycleRound sluggishSettings)
      { clock := .ok time, product := { rest := () } } p with hs | he
    · exact hp.step hs
    · rw [he]
      exact hp

/-- So does letting the coordinator's thread run. -/
theorem Reached.threadRuns {p : SluggishRun} (hp : Reached p) (n : Nat) : Reached (threadRuns n p) := by
  induction n generalizing p with
  | zero =>
    unfold Production.threadRuns
    exact hp
  | succ n ih =>
    unfold Production.threadRuns
    split
    · exact hp
    · exact hp
    · rename_i m ph heq ht
      obtain rfl : m = n := by
        injection heq with heq
        exact heq.symm
      apply ih
      rcases Phase.advance_step (fun _ _ => False) (coordinatorRound sluggish) () (ph, (p.2.products ()).world) with hs | he
      · exact hp.step (.env (.product () (.thread ht hs)))
      · rw [he, ← ht]
        exact hp.step (.env (.product () (.refl _)))

/-- So does a move of the runtime's owner. -/
theorem Reached.ownerMoves {p : SluggishRun} (hp : Reached p) {f : Impl countingLibrary → Impl countingLibrary}
    (hf : ∀ x : Premises countingLibrary Unit, Besides x { x with runtime := f x.runtime }) : Reached (ownerMoves f p) :=
  hp.step (.env (.product () (.around (hf _))))

/-- The owner gets ready and the coordinator makes an attempt; when the deadline has come the gateway is taken down. -/
def tookTooLong : SluggishRun :=
  let begun : SluggishRun := (.head, .initial 1 (fun _ => countingSetup) fun _ => ())
  let waiting := threadRuns 30 (lifecycleRuns 0 5 (ownerMoves (fun r => { r with mail.ownerReady := true }) (lifecycleRuns 0 12 begun)))
  let closing := ownerMoves (fun r => { r with mail.publicationShutdownCompleted := true }) (lifecycleRuns 1 60 waiting)
  let joined := threadRuns 30 (lifecycleRuns 1 60 closing)
  lifecycleRuns 1 5 (ownerMoves (fun r => { r with ownerExited := true }) (lifecycleRuns 1 60 joined))

/-- The start that took too long is reached. -/
theorem reached_tookTooLong : Reached tookTooLong := by
  have hbegun : Reached (.head, .initial 1 (fun _ => countingSetup) fun _ => ()) := .initial
  have hwaiting := (((hbegun.lifecycleRuns 0 12).ownerMoves (f := fun r => { r with mail.ownerReady := true })
    fun _ => ⟨rfl, rfl, rfl, id⟩).lifecycleRuns 0 5).threadRuns 30
  have hclosing := (hwaiting.lifecycleRuns 1 60).ownerMoves (f := fun r => { r with mail.publicationShutdownCompleted := true })
    fun _ => ⟨rfl, rfl, rfl, id⟩
  have hjoined := (hclosing.lifecycleRuns 1 60).threadRuns 30
  exact ((hjoined.lifecycleRuns 1 60).ownerMoves (f := fun r => { r with ownerExited := true }) fun _ => ⟨rfl, rfl, rfl, fun _ => rfl⟩).lifecycleRuns 1 5

/-- The attempt has been made, and stopped; the start has said that it took too long. -/
theorem lifecycle_all_or_nothing_late :
    .returned { code := .initialStartupTimeout } ∈ tookTooLong.2.log ∧
      .attemptCreated 1 ∈ (tookTooLong.2.products ()).world.calls ∧
      tookTooLong.2.server.running = false ∧ Ended (tookTooLong.2.products ()) := by
  have hend : tookTooLong.2.state = .stopped ∧ .returned { code := .initialStartupTimeout } ∈ tookTooLong.2.log ∧
      .attemptCreated 1 ∈ (tookTooLong.2.products ()).world.calls := by
    decide +kernel
  have hdown := (lifecycle_all_or_nothing (fun _ => sluggish_bystanding) reached_tookTooLong).2.2.1 hend.1
  exact ⟨hend.2.1, hend.2.2, hdown.1, hdown.2.2.2 () List.mem_cons_self⟩

end Sluggish

end MarketDataGateway.Production
