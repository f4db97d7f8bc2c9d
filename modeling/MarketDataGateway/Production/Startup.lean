import MarketDataGateway.Production.Lifecycle

/-!
# Starting the gateway

A start follows the history that it writes: what it has seen since it began says what it may answer. At the end of the module a round
of the lifecycle is put together, and `GatewayReachable.inv` has the invariant of every run.
-/

namespace MarketDataGateway.Production

open BinanceTransport GrpcService MarketRuntime OrderBook Recovery Threads Program

variable {κ : Type} [DecidableEq κ] {L : ProjectionLibrary} {Y ω α : Type} {g : Settings κ L Y ω}
  (h : ∀ k, (g.collaborators k).Sections Bystanding)
include h

/-! ## Looking at the products -/

section Start

omit h in
/-- The history has gone on by `block`. -/
def Since (block : List (GatewayEvent κ)) (N : List (GatewayEvent κ) → Option Int → Prop) (log : List (GatewayEvent κ))
    (waiting : Option Int) : Prop := ∃ past, log = block ++ past ∧ N past waiting

/-- A start is under way. -/
abbrev Under (N : List (GatewayEvent κ) → Option Int → Prop) (A : κ → Product L Y ω → Prop) : ProductionGateway κ L Y ω → Prop :=
  Stage .starting N (fun t => t.shutdown = false) A

variable {N N' : List (GatewayEvent κ) → Option Int → Prop} {A : κ → Product L Y ω → Prop}

omit [DecidableEq κ] h in
/-- Two blocks of history are one. -/
theorem Since.trans {block block' : List (GatewayEvent κ)} {log : List (GatewayEvent κ)} {waiting : Option Int}
    (hs : Since block (Since block' N) log waiting) : Since (block ++ block') N log waiting := by
  obtain ⟨_, rfl, past, rfl, hN⟩ := hs
  exact ⟨past, (List.append_assoc _ _ _).symm, hN⟩

variable {B : OrderBookGrpcServer → Prop} (hA : ∀ k, (productRely (h k)).Stable (A k))
include hA

/-- A start that is under way stays so. -/
theorem stable_under : (gatewayRely h).Stable (Under N A) := stable_stage h stable_open hA

/-- A plain note adds to the block. -/
theorem noted_triple (hB : serverRely.Stable B) {e : GatewayEvent κ} (he : e.plain = true)
    {R : String → ProductionGateway κ L Y ω → Prop} :
    TripleE (gatewayRely h) (Stage .starting N B A) (noted e) (fun _ => Stage .starting (Since [e] N) B A) R := by
  refine TripleE.lift (fun _ => stable_stage h hB hA) (Triple.modify (stable_stage h hB hA) (stable_stage h hB hA) fun s hi hs => ?_)
  exact ⟨hi.note he, hs.state, ⟨_, rfl, hs.noted⟩, hs.server, hs.products⟩

variable (hready : ∀ k p, A k p → Ready p)
include hready

omit [DecidableEq κ] h hA in
/-- What a start has done so far can be taken back. -/
theorem Stage.undone {s : ProductionGateway κ L Y ω} (hs : Stage .starting N B A s) (hopen : ∀ t, B t → t.shutdown = false) :
    Undone .starting s := hs.mono (fun _ _ _ => trivial) hopen hready

/-- Whether a stop was seen is noted. -/
theorem checkStop_triple (hB : serverRely.Stable B) (hopen : ∀ t, B t → t.shutdown = false) :
    TripleE (gatewayRely h) (Stage .starting N B A) checkStop (fun requested => Stage .starting (Since [.stopSeen requested] N) B A)
      fun _ => Undone .starting := by
  have hun : ∀ _ : String, (gatewayRely h).Stable (Undone .starting) := fun _ => stable_undone h
  have hstage : (gatewayRely h).Stable (Stage .starting N B A) := stable_stage h hB hA
  refine TripleE.bind hun (Q := fun _ => Stage .starting N B A) (TripleE.of ?_) fun requested =>
    TripleE.bind hun (noted_triple h hA hB rfl) fun _ => TripleE.pure (stable_stage h hB hA) fun _ _ => id
  refine (Triple.atomic hstage (fun _ => hstage) fun _ _ hi hs => ⟨hi, hs⟩).post fun r s _ hs => ?_
  cases r with
  | ok requested => exact hs
  | error e => exact Stage.undone hready hs hopen

/-- Reading the clock changes nothing. -/
theorem startupNow_triple : TripleE (gatewayRely h) (Under N A) startupNow (fun _ => Under N A) fun _ => Undone .starting := by
  refine TripleE.of ((Triple.choose (stable_under h hA)).post fun r s _ hs => ?_)
  cases r with
  | ok now => exact hs
  | error e => exact Stage.undone hready hs fun _ => id

/-- Looking at one product changes nothing that is said of them. -/
theorem look_triple (key : κ) {look : Throwing (Product L Y ω) (ProductOutcome ω) String α}
    (hlook : Throwing.All (ProductStep (g.collaborators key)) look) :
    TripleE (gatewayRely h) (Under N A) (throwingProduct key look) (fun _ => Under N A) fun _ => Undone .starting := by
  refine (onProduct_triple h stable_open hA rfl key (aside_triple (h key) (hA key) hlook)).post fun r s _ hs => ?_
  rw [Function.update_eq_self] at hs
  cases r with
  | ok seen => exact hs
  | error e => exact Stage.undone hready hs fun _ => id

/-- Whatever the looks have shown has been noted; when none has shown `last`, all of them. -/
theorem firstWith_triple {look : κ → Throwing (Product L Y ω) (ProductOutcome ω) String Bool}
    (hlook : ∀ k, Throwing.All (ProductStep (g.collaborators k)) (look k)) {event : κ → Bool → GatewayEvent κ}
    (hevent : ∀ k b, (event k b).plain = true) (last : Bool) (keys : List κ) :
    TripleE (gatewayRely h) (Under N A) (firstWith look event last keys)
      (fun result => Under (fun l w => (∃ block, Since block N l w) ∧ (result = none → Since (keys.map (event · !last)).reverse N l w)) A)
      fun _ => Undone .starting := by
  have hun : ∀ _ : String, (gatewayRely h).Stable (Undone .starting) := fun _ => stable_undone h
  induction keys generalizing N with
  | nil =>
    exact TripleE.pure (stable_under h hA) fun s _ hs =>
      hs.mono (fun l _ hl => ⟨⟨[], l, rfl, hl⟩, fun _ => ⟨l, rfl, hl⟩⟩) (fun _ => id) fun _ _ => id
  | cons key rest ih =>
    refine TripleE.bind hun (look_triple h hA hready key (hlook key)) fun seen =>
      TripleE.bind hun (noted_triple h hA stable_open (hevent key seen)) fun _ => ?_
    split
    · exact TripleE.pure (stable_under h hA) fun s _ hs =>
        hs.mono (fun l _ hl => ⟨⟨_, hl⟩, nofun⟩) (fun _ => id) fun _ _ => id
    · rename_i hseen
      obtain rfl : seen = !last := by
        cases seen <;> cases last <;> simp at hseen ⊢
      refine ih.conseq (fun _ _ => id) (fun result s _ hs => ?_) fun _ _ _ => id
      refine hs.mono (fun l w hl => ⟨?_, fun hnone => ?_⟩) (fun _ => id) fun _ _ => id
      · obtain ⟨block, hblock⟩ := hl.1
        exact ⟨_, hblock.trans⟩
      · rw [List.map_cons, List.reverse_cons]
        exact (hl.2 hnone).trans

end Start

/-! ## Starting -/

/-- Of the products, those that are `up` have been started. -/
def Risen (up : κ → Prop) (k : κ) (p : Product L Y ω) : Prop := Ready p ∧ (up k → Running p)

omit [DecidableEq κ] in
/-- A product that has risen stays risen. -/
theorem stable_risen (up : κ → Prop) (k : κ) : (productRely (h k)).Stable (Risen up k) :=
  (stable_ready (h k)).and (stable_running (h k)).imp

section Starting

variable {N : List (GatewayEvent κ) → Option Int → Prop}

def startEvents (starts : List (κ × RecoveryStartResult)) : List (GatewayEvent κ) :=
  (starts.map fun start => .productStarted start.1 start.2).reverse

/-- Every product has been asked to start, and runs if it said that it has started. -/
theorem startProducts_triple (up : κ → Prop) (keys : List κ) (hn : keys.Nodup) (hup : ∀ k ∈ keys, ¬ up k) :
    TripleE (gatewayRely h) (Under N (Risen up)) (startProducts keys)
      (fun starts s => starts.map Prod.fst = keys ∧
        Under (Since (startEvents starts) N) (Risen fun k => up k ∨ (k, .started) ∈ starts) s)
      fun _ => Undone .starting := by
  have hun : ∀ _ : String, (gatewayRely h).Stable (Undone .starting) := fun _ => stable_undone h
  have hready : ∀ (up : κ → Prop) k (p : Product L Y ω), Risen up k p → Ready p := fun _ _ _ hp => hp.1
  induction keys generalizing N up with
  | nil =>
    refine TripleE.pure (stable_under h (stable_risen h up)) fun s _ hs => ⟨rfl, hs.mono (fun l _ hl => ⟨l, rfl, hl⟩) (fun _ => id) ?_⟩
    exact fun k p hp => ⟨hp.1, fun hk => hp.2 (hk.resolve_right List.not_mem_nil)⟩
  | cons key rest ih =>
    obtain ⟨hkey, hrest⟩ := List.nodup_cons.mp hn
    have hstart : TripleE (gatewayRely h) (Under N (Risen up)) (throwingProduct key Production.start)
        (fun result => Under N (Risen fun k => up k ∨ (k = key ∧ result = .started))) fun _ => Undone .starting := by
      have hstart : TripleE (productRely (h key)) (Risen up key) Production.start
          (fun result p => Ready p ∧ (result = .started → Running p)) fun _ => Ready :=
        (start_ready (h key)).conseq (fun _ _ hp => hp.1) (fun _ _ _ => id) fun _ _ _ => id
      refine (onProduct_triple h stable_open (stable_risen h up) rfl key hstart).post fun r s _ hs => ?_
      cases r with
      | ok result =>
        refine hs.mono (fun _ _ => id) (fun _ => id) fun k p hp => ?_
        rcases eq_or_ne k key with rfl | hne
        · rw [Function.update_self] at hp
          exact ⟨hp.1, fun hk => hp.2 (hk.resolve_left (hup k List.mem_cons_self)).2⟩
        · rw [Function.update_of_ne hne] at hp
          exact ⟨hp.1, fun hk => hp.2 (hk.resolve_right fun he => hne he.1)⟩
      | error e =>
        refine hs.mono (fun _ _ _ => trivial) (fun _ => id) fun k p hp => ?_
        rcases eq_or_ne k key with rfl | hne
        · rw [Function.update_self] at hp
          exact hp
        · rw [Function.update_of_ne hne] at hp
          exact hp.1
    refine TripleE.bind hun hstart fun result => TripleE.bind hun (noted_triple h (stable_risen h _) stable_open rfl) fun _ => ?_
    refine TripleE.bind hun (ih _ hrest fun k hk hor => ?_) fun others => ?_
    · rcases hor with hk' | ⟨rfl, -⟩
      · exact hup k (List.mem_cons_of_mem key hk) hk'
      · exact hkey hk
    · refine TripleE.pure ((Rely.Stable.const _).and (stable_under h (stable_risen h _))) fun s _ hs => ⟨?_, hs.2.mono (fun l w hl => ?_) (fun _ => id) ?_⟩
      · rw [List.map_cons, hs.1]
      · unfold startEvents
        rw [List.map_cons, List.reverse_cons]
        exact hl.trans
      · refine fun k p hp => ⟨hp.1, fun hk => hp.2 ?_⟩
        rcases hk with hk | hk
        · exact Or.inl (Or.inl hk)
        · rcases List.mem_cons.mp hk with he | hm
          · cases he
            exact Or.inl (Or.inr ⟨rfl, rfl⟩)
          · exact Or.inr hm

end Starting

/-! ## A pass -/

omit h in
/-- A start waits for the products to be live. -/
abbrev Waiting (g : Settings κ L Y ω) (deadline : Int) : ProductionGateway κ L Y ω → Prop :=
  Under (fun l w => w = some deadline ∧ Awaited g.keys deadline l) (Risen (· ∈ g.keys))

omit h in
/-- A pass has found every product live in time. -/
def Passed (keys : List κ) (log : List (GatewayEvent κ)) (_ : Option Int) : Prop :=
  ∃ now deadline past, Awaited keys deadline past ∧ now < deadline ∧
    log = .clockRead now :: (liveEvents keys ++ (calmEvents keys ++ .stopSeen false :: past))

omit h in
/-- An answer that a start gives when it has been taken back. -/
def Refusal (result : StartResult κ) : Prop := result.code ≠ .serving ∧ result.code ≠ .alreadyStarted

omit h in
/-- What holds when a pass is over. -/
def AfterPass (g : Settings κ L Y ω) (deadline : Int) (result : Option (StartResult κ)) (s : ProductionGateway κ L Y ω) : Prop :=
  (result = none ∧ Waiting g deadline s) ∨
    (result = some { code := .serving } ∧ Under (Passed g.keys) (Risen (· ∈ g.keys)) s) ∨
    ∃ refusal, (result = some refusal ∧ Refusal refusal) ∧ Undone .starting s

section Pass

variable {deadline : Int} {N : List (GatewayEvent κ) → Option Int → Prop}

omit [DecidableEq κ] h in
/-- What was awaited is still in the history. -/
theorem Awaited.since {keys : List κ} {block log past : List (GatewayEvent κ)} (ha : Awaited keys deadline past)
    (hl : log = block ++ past) : Awaited keys deadline log := by
  rw [hl]
  exact ha.trans (List.suffix_append block past).isInfix

/-- A start that waits keeps waiting. -/
theorem stable_waiting (deadline : Int) : (gatewayRely h).Stable (Waiting g deadline) := stable_under h (stable_risen h _)

/-- What a pass has found stays found. -/
theorem stable_afterPass (result : Option (StartResult κ)) : (gatewayRely h).Stable (AfterPass g deadline result) :=
  ((Rely.Stable.const _).and (stable_waiting h deadline)).or (((Rely.Stable.const _).and (stable_under h (stable_risen h _))).or
    (Rely.Stable.exists fun _ => (Rely.Stable.const _).and (stable_undone h)))

/-- A look at all products notes what it has seen; when all are live, all of them. -/
theorem allLive_triple :
    TripleE (gatewayRely h) (Under N (Risen (· ∈ g.keys))) (allLive g)
      (fun live => Under (fun l w => (∃ block, Since block N l w) ∧ (live = true → Since (liveEvents g.keys) N l w)) (Risen (· ∈ g.keys)))
      fun _ => Undone .starting := by
  have hA := stable_risen h (· ∈ g.keys)
  refine TripleE.bind (fun _ => stable_undone h) (firstWith_triple h hA (fun _ _ hp => hp.1) (fun k => initialLive_all (h k))
    (fun _ _ => rfl) false g.keys) fun dull => TripleE.pure (stable_under h hA) fun s _ hs => ?_
  exact hs.mono (fun l w hl => ⟨hl.1, fun hn => hl.2 (Option.isNone_iff_eq_none.mp hn)⟩) (fun _ => id) fun _ _ => id

/-- A pass ends the wait with an answer, or goes on waiting. -/
theorem waitPass_triple :
    TripleE (gatewayRely h) (Waiting g deadline) (waitPass g deadline) (AfterPass g deadline) fun _ => Undone .starting := by
  have hA := stable_risen h (· ∈ g.keys)
  have hready : ∀ k (p : Product L Y ω), Risen (· ∈ g.keys) k p → Ready p := fun _ _ hp => hp.1
  have hun : ∀ _ : String, (gatewayRely h).Stable (Undone .starting) := fun _ => stable_undone h
  have hrefuse : ∀ {N : List (GatewayEvent κ) → Option Int → Prop} (refusal : StartResult κ), Refusal refusal →
      TripleE (gatewayRely h) (Under N (Risen (· ∈ g.keys))) (pure (some refusal) : GatewayThrowing κ L Y ω (Option (StartResult κ)))
        (AfterPass g deadline) fun _ => Undone .starting :=
    fun refusal hr => TripleE.pure (stable_under h hA) fun s _ hs =>
      Or.inr (Or.inr ⟨refusal, ⟨rfl, hr⟩, Stage.undone hready hs fun _ => id⟩)
  refine TripleE.bind hun (checkStop_triple h hA hready stable_open fun _ => id) fun requested => ?_
  cases requested with
  | true => exact hrefuse _ ⟨nofun, nofun⟩
  | false =>
    refine TripleE.bind hun (firstWith_triple h hA hready (fun k => initialFailure_all (h k)) (fun _ _ => rfl) true g.keys) fun failed => ?_
    cases failed with
    | some key => exact hrefuse _ ⟨nofun, nofun⟩
    | none =>
      refine TripleE.bind hun (allLive_triple h) fun live => TripleE.bind hun (startupNow_triple h hA hready) fun now =>
        TripleE.bind hun (noted_triple h hA stable_open rfl) fun _ => ?_
      split
      · exact hrefuse _ ⟨nofun, nofun⟩
      · rename_i hnow
        cases live with
        | true =>
          refine TripleE.pure (stable_under h hA) fun s _ hs => Or.inr (Or.inl ⟨rfl, hs.mono (fun l w hl => ?_) (fun _ => id) fun _ _ => id⟩)
          obtain ⟨_, rfl, -, hlive⟩ := hl
          obtain ⟨_, rfl, -, hcalm⟩ := hlive rfl
          obtain ⟨_, rfl, past, rfl, -, hawaited⟩ := hcalm rfl
          exact ⟨now, deadline, past, hawaited, not_le.mp hnow, rfl⟩
        | false =>
          refine TripleE.pure (stable_under h hA) fun s _ hs => Or.inl ⟨rfl, hs.mono (fun l w hl => ?_) (fun _ => id) fun _ _ => id⟩
          obtain ⟨_, rfl, ⟨block, _, rfl, ⟨block', _, rfl, past, rfl, hw, hawaited⟩, -⟩, -⟩ := hl
          refine ⟨hw, ((hawaited.since rfl).since rfl).since rfl |>.since rfl⟩

end Pass

/-! ## The answer -/

omit h in
/-- What holds when a start has answered, or waits. -/
def Concluded (g : Settings κ L Y ω) (result : Option (StartResult κ)) (s : ProductionGateway κ L Y ω) : Prop :=
  (result = none ∧ ∃ deadline, Waiting g deadline s) ∨
    (result = some { code := .serving } ∧ Rested .serving (fun l _ => Served g.keys l) s) ∨
    ∃ refusal, (result = some refusal ∧ Refusal refusal) ∧ Rested .stopped (fun _ _ => True) s

section Answer

variable {deadline : Int}

/-- A start that has answered stays so. -/
theorem stable_concluded (result : Option (StartResult κ)) : (gatewayRely h).Stable (Concluded g result) :=
  ((Rely.Stable.const _).and (Rely.Stable.exists (stable_waiting h))).or (((Rely.Stable.const _).and (stable_rested h _)).or
    (Rely.Stable.exists fun _ => (Rely.Stable.const _).and (stable_rested h _)))

/-- A refused start is taken back before it answers. -/
theorem giveUp_triple {refusal : StartResult κ} (hr : Refusal refusal) :
    TripleE (gatewayRely h) (Undone .starting) (giveUp g refusal) (Concluded g) fun _ => Undone .starting := by
  refine TripleE.bind (fun _ => stable_undone h) (TripleE.lift (fun _ => stable_rested h _) (rollback_triple h)) fun _ => ?_
  exact TripleE.pure (stable_rested h _) fun s _ hs => Or.inr (Or.inr ⟨refusal, ⟨rfl, hr⟩, hs⟩)

omit h in
/-- The server after it has been asked to start. -/
structure Opened (result : Bool) (t : OrderBookGrpcServer) : Prop where
  fresh : t.shutdown = false
  running : result = true → t.running = true

omit h in
/-- A server that was opened stays opened. -/
theorem stable_opened (result : Bool) : serverRely.Stable (Opened result) := by
  intro s t hi ho hs
  exact ⟨stable_open _ _ hi ho.fresh hs, fun hr => stable_serverRunning _ _ hi (ho.running hr) hs⟩

/-- The server is opened behind the products. -/
theorem startServer_triple {N : List (GatewayEvent κ) → Option Int → Prop} {A : κ → Product L Y ω → Prop}
    (hA : ∀ k, (productRely (h k)).Stable (A k)) {R : String → ProductionGateway κ L Y ω → Prop} (hR : ∀ e, (gatewayRely h).Stable (R e)) :
    TripleE (gatewayRely h) (Under N A) startServer (fun result => Stage .starting (Since [.bound result] N) (Opened result) A) R := by
  have hopened : ∀ result, (gatewayRely h).Stable (Stage .starting N (Opened result) A) :=
    fun result => stable_stage h (stable_opened result) hA
  have hstart : Triple (gatewayRely h) (Under N A) (onServer (atomic fun w t => t.start w.build) : GatewayProgram κ L Y ω Bool)
      fun result => Stage .starting N (Opened result) A := by
    have hsection : (onServer (atomic fun w t => t.start w.build) : GatewayProgram κ L Y ω Bool) =
        atomic fun w s => ((s.server.start w.build).1, { s with server := (s.server.start w.build).2 }) := rfl
    rw [hsection]
    refine Triple.atomic (stable_under h hA) hopened fun w s hi hs => ?_
    obtain ⟨hinv, hsame, hrunning⟩ := hi.server.start w.build
    have hstate : s.state = .starting := hs.state
    refine ⟨⟨hi.products, hinv, hi.answered, hi.stopped, fun he => ?_, fun he => ?_, fun _ _ => hsame.trans hs.server, hi.once, hi.unbegun⟩,
      hs.state, hs.noted, ⟨hsame.trans hs.server, hrunning⟩, hs.products⟩
    · rw [show s.state = .stopped from he] at hstate
      cases hstate
    · rw [show s.state = .serving from he] at hstate
      cases hstate
  exact TripleE.bind hR (TripleE.lift hopened hstart) fun result =>
    TripleE.bind hR (noted_triple h hA (stable_opened result) rfl) fun _ => TripleE.pure (stable_stage h (stable_opened result) hA) fun _ _ => id

/-- A start serves when its server is opened and no stop has been seen, and is taken back otherwise. -/
theorem serve_triple : TripleE (gatewayRely h) (Under (Passed g.keys) (Risen (· ∈ g.keys))) (serve g) (Concluded g)
    fun _ => Undone .starting := by
  have hA := stable_risen h (· ∈ g.keys)
  have hready : ∀ k (p : Product L Y ω), Risen (· ∈ g.keys) k p → Ready p := fun _ _ hp => hp.1
  have hun : ∀ _ : String, (gatewayRely h).Stable (Undone .starting) := fun _ => stable_undone h
  have hstopped := giveUp_triple h (show Refusal ({ code := .stopRequested } : StartResult κ) from ⟨nofun, nofun⟩)
  have hunbound := giveUp_triple h (show Refusal ({ code := .grpcBindFailed } : StartResult κ) from ⟨nofun, nofun⟩)
  refine TripleE.bind hun (checkStop_triple h hA hready stable_open fun _ => id) fun requested => ?_
  cases requested with
  | true => exact hstopped.conseq (fun _ _ hs => Stage.undone hready hs fun _ => id) (fun _ _ _ => id) fun _ _ _ => id
  | false =>
    refine TripleE.bind hun (startServer_triple h hA hun) fun started => ?_
    have hopened := fun t (ht : Opened started t) => ht.fresh
    cases started with
    | false =>
      exact hunbound.conseq (fun _ _ hs => Stage.undone hready hs hopened) (fun _ _ _ => id) fun _ _ _ => id
    | true =>
      refine TripleE.bind hun (checkStop_triple h hA hready (stable_opened true) hopened) fun requested => ?_
      cases requested with
      | true =>
        exact hstopped.conseq (fun _ _ hs => Stage.undone hready hs hopened) (fun _ _ _ => id) fun _ _ _ => id
      | false =>
        have hstage : (gatewayRely h).Stable (Rested .serving fun l _ => Served g.keys l) := stable_rested h _
        refine TripleE.bind hun (TripleE.lift (fun _ => hstage) (Triple.modify (stable_stage h (stable_opened true) hA) hstage fun s hi hs => ?_))
          fun _ => TripleE.pure hstage fun s _ hs => Or.inr (Or.inl ⟨rfl, hs⟩)
        obtain ⟨_, hlog, _, rfl, _, rfl, now, d, past, hawaited, hnow, rfl⟩ := hs.noted
        have hopen : ¬ .stopped ∈ s.log := fun hm => by
          have := hi.stopped.mp hm
          rw [hs.state] at this
          cases this
        exact ⟨⟨hi.products, hi.server, hi.answered, ⟨fun hm => (hopen hm).elim, nofun⟩, nofun,
          fun _ => ⟨hs.server.running rfl, fun k hk => (hs.products k).2 hk⟩, fun _ _ => hs.server.fresh, hi.once, nofun⟩, rfl,
          ⟨now, d, past, hawaited, hnow, hlog⟩, trivial, fun k => (hs.products k).1⟩

/-- A start that waits comes to its answer or waits on. -/
theorem resume_triple : TripleE (gatewayRely h) (Waiting g deadline) (resume g deadline) (Concluded g)
    fun _ => Rested .stopped fun _ _ => True := by
  have hun : ∀ _ : String, (gatewayRely h).Stable (Undone .starting) := fun _ => stable_undone h
  refine TripleE.onThrow (stable_concluded h) (fun _ => stable_rested h _) ?_ fun _ =>
    TripleE.lift (fun _ => stable_rested h _) (rollback_triple h)
  refine TripleE.bind hun (waitPass_triple h) fun result => ?_
  cases result with
  | none =>
    refine TripleE.pure (stable_afterPass h none) fun s _ hs => Or.inl ⟨rfl, deadline, ?_⟩
    rcases hs with ⟨-, hs⟩ | ⟨hno, -⟩ | ⟨_, ⟨hno, -⟩, -⟩
    · exact hs
    · cases hno
    · cases hno
  | some result =>
    dsimp only
    split
    · rename_i hcode
      refine (serve_triple h).conseq (fun s _ hs => ?_) (fun _ _ _ => id) fun _ _ _ => id
      rcases hs with ⟨hno, -⟩ | ⟨-, hs⟩ | ⟨_, ⟨hsome, hr⟩, -⟩
      · cases hno
      · exact hs
      · cases hsome
        exact (hr.1 hcode).elim
    · rename_i hcode
      have hgiveUp : TripleE (gatewayRely h) (fun s => Refusal result ∧ Undone .starting s) (giveUp g result) (Concluded g)
          fun _ => Undone .starting := Triple.pure_pre fun hr => giveUp_triple h hr
      refine hgiveUp.conseq (fun s _ hs => ?_) (fun _ _ _ => id) fun _ _ _ => id
      rcases hs with ⟨hno, -⟩ | ⟨hsome, -⟩ | ⟨_, ⟨hsome, hr⟩, hs⟩
      · cases hno
      · cases hsome
        exact (hcode rfl).elim
      · cases hsome
        exact ⟨hr, hs⟩

end Answer

/-! ## The beginning -/

section Begin

omit h in
/-- What is known of the history of a gateway at rest. -/
def Calm (st : GatewayState) (log : List (GatewayEvent κ)) (waiting : Option Int) : Prop :=
  waiting = none ∧ (st ≠ .constructed → .begun ∈ log ∨ .stopped ∈ log)

variable {st : GatewayState}

omit [DecidableEq κ] h in
/-- When no product is to blame, all of them have started. -/
theorem notStarted_none {starts : List (κ × RecoveryStartResult)} (hn : notStarted starts = none) :
    startEvents starts = startedEvents (starts.map Prod.fst) ∧ ∀ k ∈ starts.map Prod.fst, (k, .started) ∈ starts := by
  have hall : ∀ start ∈ starts, start.2 = .started := by
    intro start hm
    have hnot := List.find?_eq_none.mp (Option.map_eq_none_iff.mp hn) start hm
    simpa using hnot
  constructor
  · unfold startEvents startedEvents
    rw [List.map_map]
    congr 1
    refine List.map_congr_left fun start hm => ?_
    rw [Function.comp, hall start hm]
  · intro k hk
    obtain ⟨start, hm, rfl⟩ := List.mem_map.mp hk
    rw [← hall start hm]
    exact hm

/-- The gate of a start lets the first one pass. -/
theorem enterStart_triple :
    Triple (gatewayRely h) (Rested st (Calm st)) (atomic fun _ s => s.enterStart : GatewayProgram κ L Y ω Bool) fun entered s =>
      (entered = false ∧ st ≠ .constructed ∧ Rested st (Calm st) s) ∨
        (entered = true ∧ Under (Since [.begun] fun _ _ => True) (fun _ => Ready) s) := by
  have hready := fun k => stable_ready (h k)
  refine Triple.atomic (stable_rested h _) (fun _ => ((Rely.Stable.const _).and ((Rely.Stable.const _).and (stable_rested h _))).or
    ((Rely.Stable.const _).and (stable_under h hready))) fun _ s hi hs => ?_
  unfold ProductionGateway.enterStart
  split
  · rename_i hstate
    exact ⟨hi, Or.inl ⟨rfl, hs.state ▸ hstate, hs⟩⟩
  · rename_i hstate
    have hnew : s.state = .constructed := not_not.mp hstate
    have hopen : ¬ .stopped ∈ s.log := fun hm => by
      have := hi.stopped.mp hm
      rw [hnew] at this
      cases this
    have hfresh : s.server.shutdown = false := hi.fresh (by rw [hnew]; nofun) (by rw [hnew]; nofun)
    have hcount : (.begun :: s.log : List (GatewayEvent κ)).count .begun ≤ 1 := by
      rw [List.count_cons_self, List.count_eq_zero.mpr (hi.unbegun hnew)]
    refine ⟨⟨hi.products, hi.server, ⟨trivial, hi.answered⟩, ⟨fun hm => ?_, nofun⟩, nofun, nofun, fun _ _ => hfresh, hcount, nofun⟩,
      Or.inr ⟨rfl, rfl, ⟨s.log, rfl, trivial⟩, hfresh, hs.products⟩⟩
    exact ((List.mem_cons.mp hm).elim nofun fun hm => (hopen hm).elim)

/-- Every product has been asked to start: either one is to blame, or the start begins to wait. -/
theorem awaitProducts_triple {deadline : Int} (starts : List (κ × RecoveryStartResult)) :
    TripleE (gatewayRely h) (fun s => starts.map Prod.fst = g.keys ∧
        Under (Since (startEvents starts) (Since [.deadline deadline] (Since [.stopSeen false] (Since [.begun] fun _ _ => True))))
          (Risen fun k => False ∨ (k, .started) ∈ starts) s)
      (awaitProducts g deadline starts) (Concluded g) fun _ => Undone .starting := by
  have hA := stable_risen h fun k => False ∨ (k, .started) ∈ starts
  have hun : ∀ _ : String, (gatewayRely h).Stable (Undone .starting) := fun _ => stable_undone h
  have hwaiting : ∀ _ : Unit, (gatewayRely h).Stable (Waiting g deadline) := fun _ => stable_waiting h deadline
  unfold awaitProducts
  cases hblame : notStarted starts with
  | some key =>
    have hgiveUp := giveUp_triple h (show Refusal ({ code := .productStartFailed, product := some key } : StartResult κ) from ⟨nofun, nofun⟩)
    exact hgiveUp.conseq (fun _ _ hs => Stage.undone (fun _ _ hp => hp.1) hs.2 fun _ => id) (fun _ _ _ => id) fun _ _ _ => id
  | none =>
    obtain ⟨hevents, hstarted⟩ := notStarted_none hblame
    refine TripleE.bind hun (TripleE.lift hwaiting (Triple.modify ((Rely.Stable.const _).and (stable_under h hA)) (hwaiting ()) ?_))
      fun _ => TripleE.pure (hwaiting ()) fun s _ hs => Or.inl ⟨rfl, deadline, hs⟩
    rintro s hi ⟨hkeys, hs⟩
    refine ⟨hi.aside _ _, hs.state, ⟨rfl, ?_⟩, hs.server, fun k => ?_⟩
    · obtain ⟨_, hlog, _, rfl, _, rfl, past, rfl, -⟩ := hs.noted
      rw [hevents, hkeys] at hlog
      exact ⟨[], past, by rw [List.nil_append]; exact (List.append_assoc _ _ _).trans hlog.symm⟩
    · exact ⟨(hs.products k).1, fun hk => (hs.products k).2 (Or.inr (hstarted k (hkeys ▸ hk)))⟩

/-- What holds when a call of `start` has returned, or waits. -/
def Begun (g : Settings κ L Y ω) (st : GatewayState) (result : Option (StartResult κ)) (s : ProductionGateway κ L Y ω) : Prop :=
  Concluded g result s ∨ (result = some { code := .alreadyStarted } ∧ st ≠ .constructed ∧ Rested st (Calm st) s)

/-- A start begins: it is refused, answers, or waits. -/
theorem begin_triple :
    TripleE (gatewayRely h) (Rested st (Calm st)) (begin g) (Begun g st) fun _ => Rested .stopped fun _ _ => True := by
  have hR : ∀ _ : String, (gatewayRely h).Stable (Rested .stopped fun _ _ => True) := fun _ => stable_rested h _
  have hun : ∀ _ : String, (gatewayRely h).Stable (Undone .starting) := fun _ => stable_undone h
  have hA := fun k => stable_ready (h k)
  have hready : ∀ (_ : κ) (p : Product L Y ω), Ready p → Ready p := fun _ _ => id
  have hgate : ∀ entered, (gatewayRely h).Stable fun s => (entered = false ∧ st ≠ .constructed ∧ Rested st (Calm st) s) ∨
      (entered = true ∧ Under (Since [.begun] fun _ _ => True) (fun _ => Ready) s) :=
    fun _ => ((Rely.Stable.const _).and ((Rely.Stable.const _).and (stable_rested h _))).or ((Rely.Stable.const _).and (stable_under h hA))
  refine TripleE.bind hR (TripleE.lift hgate (enterStart_triple h)) fun entered => ?_
  cases entered with
  | false =>
    refine TripleE.pure (hgate false) fun s _ hs => Or.inr ⟨rfl, ?_⟩
    rcases hs with ⟨-, hs⟩ | ⟨hno, -⟩
    · exact hs
    · cases hno
  | true =>
    refine TripleE.conseq (P := Under (Since [.begun] fun _ _ => True) fun _ => Ready) (Q := Concluded g) ?_ (fun s _ hs => ?_)
      (fun _ _ _ => Or.inl) fun _ _ _ => id
    · refine TripleE.onThrow (stable_concluded h) hR ?_ fun _ => TripleE.lift (fun _ => stable_rested h _) (rollback_triple h)
      refine TripleE.bind hun (checkStop_triple h hA hready stable_open fun _ => id) fun requested => ?_
      cases requested with
      | true =>
        have hgiveUp := giveUp_triple h (show Refusal ({ code := .stopRequested } : StartResult κ) from ⟨nofun, nofun⟩)
        exact hgiveUp.conseq (fun _ _ hs => Stage.undone hready hs fun _ => id) (fun _ _ _ => id) fun _ _ _ => id
      | false =>
        refine TripleE.bind hun (startupNow_triple h hA hready) fun now => TripleE.bind hun (noted_triple h hA stable_open rfl) fun _ =>
          ?_
        have hstarts := startProducts_triple h (N := Since [.deadline (now + g.initialStartupTimeout)] (Since [.stopSeen false]
          (Since [.begun] fun _ _ => True))) (fun _ => False) g.keys g.nodup fun _ _ => id
        refine TripleE.bind hun (hstarts.conseq (fun s _ hs => ?_) (fun _ _ _ => id) fun _ _ _ => id) (awaitProducts_triple h)
        exact hs.mono (fun _ _ => id) (fun _ => id) fun k p hp => ⟨hp, False.elim⟩
    · rcases hs with ⟨hno, -⟩ | ⟨-, hs⟩
      · cases hno
      · exact hs

end Begin

end MarketDataGateway.Production
