import MarketDataGateway.Lib.History
import MarketDataGateway.Production.Gateway
import MarketDataGateway.Production.Stopping

/-!
# The lifecycle of the gateway

`GatewayInv` holds in every state of a run: what a start has answered is borne out by what it had seen before, and a gateway that is
stopped is down altogether. A `Stage` says where the holder of the lifecycle mutex is; the products and the server are followed by the
triples of their own.
-/

namespace MarketDataGateway.Production

open BinanceTransport GrpcService MarketRuntime OrderBook Recovery Threads Program

variable {κ : Type} [DecidableEq κ] {L : ProjectionLibrary} {Y ω α : Type} {g : Settings κ L Y ω}

/-- A start or a stop is at work. -/
def GatewayState.moving : GatewayState → Bool
  | .starting | .stopping => true
  | _ => false

/-! ## What an answer rests on -/

def startedEvents (keys : List κ) : List (GatewayEvent κ) := (keys.map (.productStarted · .started)).reverse

def calmEvents (keys : List κ) : List (GatewayEvent κ) := (keys.map (.failureSeen · false)).reverse

def liveEvents (keys : List κ) : List (GatewayEvent κ) := (keys.map (.liveSeen · true)).reverse

/-- A start with this deadline has started every product. -/
def Awaited (keys : List κ) (deadline : Int) (log : List (GatewayEvent κ)) : Prop :=
  startedEvents keys ++ [.deadline deadline, .stopSeen false, .begun] <:+: log

/-- A start has seen no product that had failed and every one live in one pass, in time, then opened the server, and not seen a stop
requested on the way. -/
def Served (keys : List κ) (log : List (GatewayEvent κ)) : Prop :=
  ∃ now deadline past, Awaited keys deadline past ∧ now < deadline ∧
    log = [.stopSeen false, .bound true, .stopSeen false, .clockRead now] ++ (liveEvents keys ++ (calmEvents keys ++
      .stopSeen false :: past))

/-- What an answer says of the events before it. -/
def Answered (keys : List κ) : GatewayEvent κ → List (GatewayEvent κ) → Prop
  | .returned result, past =>
    match result.code with
    | .serving => Served keys past
    | .alreadyStarted => .begun ∈ past ∨ .stopped ∈ past
    | _ => .stopped ∈ past
  | .threw _, past | .stopReturned, past => .stopped ∈ past
  | _, _ => True

/-- Nothing is left of the gateway's work. -/
structure Down (g : Settings κ L Y ω) (s : ProductionGateway κ L Y ω) : Prop where
  server : s.server.Down
  products : ∀ k ∈ g.keys, (s.products k).coordinator.stopped = true

/-- The server is there, and every product has been started. -/
structure Up (g : Settings κ L Y ω) (s : ProductionGateway κ L Y ω) : Prop where
  server : s.server.running = true
  products : ∀ k ∈ g.keys, Running (s.products k)

structure GatewayInv (g : Settings κ L Y ω) (s : ProductionGateway κ L Y ω) : Prop where
  products : ∀ k, ProductInv (s.products k)
  server : ServerInv s.server
  answered : Every (Answered g.keys) s.log
  stopped : .stopped ∈ s.log ↔ s.state = .stopped
  down : s.state = .stopped → Down g s
  up : s.state = .serving → Up g s
  fresh : s.state ≠ .stopping → s.state ≠ .stopped → s.server.shutdown = false
  once : s.log.count .begun ≤ 1
  unbegun : s.state = .constructed → .begun ∉ s.log

/-- The invariant holds of a gateway that has just been made. -/
theorem gatewayInv_initial (limit : Nat) (setup : κ → Setup L) (elsewhere : κ → Y) :
    GatewayInv g (.initial limit setup elsewhere) where
  products k := productInv_initial (setup k) (elsewhere k)
  server := serverInv_initial limit
  answered := trivial
  stopped := ⟨nofun, nofun⟩
  down := nofun
  up := nofun
  fresh _ _ := rfl
  once := Nat.zero_le _
  unbegun _ := List.not_mem_nil

variable (h : ∀ k, (g.collaborators k).Sections Bystanding)
include h

/-- Each step of a gateway keeps its invariant. -/
theorem GatewayStep.inv {s t : ProductionGateway κ L Y ω} (hs : GatewayStep g s t) (hi : GatewayInv g s) : GatewayInv g t := by
  cases hs with
  | requestStop =>
    exact
      { products := hi.products, server := hi.server, answered := hi.answered, stopped := hi.stopped
        down := fun hst => ⟨(hi.down hst).server, (hi.down hst).products⟩
        up := fun hst => ⟨(hi.up hst).server, (hi.up hst).products⟩
        fresh := hi.fresh, once := hi.once, unbegun := hi.unbegun }
  | @product q key hs =>
    have hkept := hs.kept (h key) (hi.products key)
    have hkeep : ∀ P : Product L Y ω → Prop, (P (s.products key) → P q) →
        ∀ k, P (s.products k) → P ((s.setProduct key q).products k) := by
      intro P hP
      exact (Function.forall_update_iff s.products fun k p => P (s.products k) → P p).mpr ⟨hP, fun _ _ => id⟩
    exact
      { products := fun k => hkeep ProductInv (fun _ => hs.inv (h key) (hi.products key)) k (hi.products k)
        server := hi.server, answered := hi.answered, stopped := hi.stopped
        down := fun hst => ⟨(hi.down hst).server, fun k hk => hkeep (fun p => p.coordinator.stopped = true) hkept.stopped.trans k
          ((hi.down hst).products k hk)⟩
        up := fun hst => ⟨(hi.up hst).server, fun k hk =>
          hkeep Running (fun hr => stable_running (h key) _ _ (hi.products key) hr hs) k ((hi.up hst).products k hk)⟩
        fresh := hi.fresh, once := hi.once, unbegun := hi.unbegun }
  | @server t hs =>
    have hdown := stable_down _ t hi.server
    have hinv := hs.inv hi.server
    cases hs with
    | handler hr ht hp =>
      exact
        { products := hi.products, server := hinv, answered := hi.answered, stopped := hi.stopped
          down := fun hst => ⟨hdown (hi.down hst).server (.handler hr ht hp), (hi.down hst).products⟩
          up := fun hst => ⟨hr, (hi.up hst).products⟩
          fresh := hi.fresh, once := hi.once, unbegun := hi.unbegun }

/-- What goes on besides the holder of the lifecycle mutex. -/
def gatewayRely : Rely (ProductionGateway κ L Y ω) where
  env := GatewayStep g
  inv := GatewayInv g
  inv_env _ _ hi hs := hs.inv h hi

/-! ## Stages -/

omit h in
/-- Where the holder of the lifecycle mutex is, and what it knows of the history and its deadline, of the server and the products. -/
structure Stage (st : GatewayState) (N : List (GatewayEvent κ) → Option Int → Prop) (B : OrderBookGrpcServer → Prop)
    (A : κ → Product L Y ω → Prop) (s : ProductionGateway κ L Y ω) : Prop where
  state : s.state = st
  noted : N s.log s.waiting
  server : B s.server
  products : ∀ k, A k (s.products k)

section Stages

variable {st : GatewayState} {N N' : List (GatewayEvent κ) → Option Int → Prop} {B B' : OrderBookGrpcServer → Prop}
  {A A' : κ → Product L Y ω → Prop} {s : ProductionGateway κ L Y ω}

omit [DecidableEq κ] h in
/-- What is known at a stage may be weakened. -/
theorem Stage.mono (hs : Stage st N B A s) (hN : ∀ l w, N l w → N' l w) (hB : ∀ t, B t → B' t) (hA : ∀ k p, A k p → A' k p) :
    Stage st N' B' A' s :=
  ⟨hs.state, hN _ _ hs.noted, hB _ hs.server, fun k => hA k _ (hs.products k)⟩

omit h in
/-- What is said of one product is replaced. -/
theorem Stage.setProduct (hs : Stage st N B A s) (key : κ) (q : Product L Y ω) {P : Product L Y ω → Prop} (hq : P q) :
    Stage st N B (Function.update A key P) (s.setProduct key q) := by
  refine ⟨hs.state, hs.noted, hs.server, (Function.forall_update_iff s.products _).mpr ⟨?_, fun k hne => ?_⟩⟩
  · rw [Function.update_self]
    exact hq
  · rw [Function.update_of_ne hne]
    exact hs.products k

variable (hB : serverRely.Stable B) (hA : ∀ k, (productRely (h k)).Stable (A k))
include hB hA

/-- A stage whose parts are stable is stable. -/
theorem stable_stage : (gatewayRely h).Stable (Stage st N B A) := by
  intro s t hi hp hs
  cases hs with
  | requestStop => exact ⟨hp.state, hp.noted, hp.server, hp.products⟩
  | server hs => exact ⟨hp.state, hp.noted, hB _ _ hi.server hp.server hs, hp.products⟩
  | @product q key hs =>
    have hq := hA key _ _ (hi.products key) (hp.products key) hs
    exact ⟨hp.state, hp.noted, hp.server, (Function.forall_update_iff s.products _).mpr ⟨hq, fun k _ => hp.products k⟩⟩

variable (hst : st.moving = true)
include hst

/-- A program of a product's, in a stage. -/
theorem onProduct_triple (key : κ) {p : ProductProgram L Y ω α} {Q : α → Product L Y ω → Prop}
    (hp : Triple (productRely (h key)) (A key) p Q) :
    Triple (gatewayRely h) (Stage st N B A) (onProduct key p) fun a => Stage st N B (Function.update A key (Q a)) := by
  have hfree : ∀ k, (productRely (h k)).Stable (Function.update A key (fun _ => True) k) := by
    intro k
    rcases eq_or_ne k key with rfl | hne
    · rw [Function.update_self]
      exact Rely.Stable.const True
    · rw [Function.update_of_ne hne]
      exact hA k
  have hfocus : Triple (gatewayRely h) (fun s => Stage st N B (Function.update A key fun _ => True) s ∧ A key (s.products key))
      (onProduct key p) fun a s => Stage st N B (Function.update A key fun _ => True) s ∧ Q a (s.products key) := by
    refine Triple.focus (fun q s => ?_) ?_ (stable_stage h hB hfree) ?_ hp fun s hi => hi.products key
    · exact Function.update_self key q s.products
    · -- the environment may take a step of this product, or of something else
      intro s t hi hs
      cases hs with
      | requestStop | server => exact .refl
      | @product q k hs =>
        show Relation.ReflTransGen (ProductStep _) (s.products key) (Function.update s.products k q key)
        rcases eq_or_ne key k with rfl | hne
        · rw [Function.update_self]
          exact .single hs
        · rw [Function.update_of_ne hne]
    · intro s q hi hs hq
      have hproducts : ∀ k, ProductInv ((s.setProduct key q).products k) :=
        (Function.forall_update_iff s.products fun _ p => ProductInv p).mpr ⟨hq, fun k _ => hi.products k⟩
      have hmoving : s.state.moving = true := hs.state ▸ hst
      have hset := hs.setProduct key q (P := fun _ => True) trivial
      rw [Function.update_idem] at hset
      refine ⟨⟨hproducts, hi.server, hi.answered, hi.stopped, fun he => ?_, fun he => ?_, hi.fresh, hi.once, hi.unbegun⟩, hset⟩
      · rw [show s.state = .stopped from he] at hmoving
        cases hmoving
      · rw [show s.state = .serving from he] at hmoving
        cases hmoving
  refine hfocus.conseq (fun s _ hs => ⟨hs.mono (fun _ _ => id) (fun _ => id) fun k p hk => ?_, hs.products key⟩) fun a s _ hs => ?_
  · rcases eq_or_ne k key with rfl | hne
    · rw [Function.update_self]
      trivial
    · rw [Function.update_of_ne hne]
      exact hk
  · refine ⟨hs.1.state, hs.1.noted, hs.1.server, fun k => ?_⟩
    have hk := hs.1.products k
    rcases eq_or_ne k key with rfl | hne
    · rw [Function.update_self]
      exact hs.2
    · rw [Function.update_of_ne hne] at hk ⊢
      exact hk

omit hst hB in
/-- A program of the server's, in a shutdown. -/
theorem onServer_triple {p : ServerProgram (GatewayOutcome ω) α} {Q : α → OrderBookGrpcServer → Prop} (hp : Triple serverRely B p Q) :
    Triple (gatewayRely h) (Stage .stopping N B A) (onServer p) fun a => Stage .stopping N (Q a) A := by
  have htrue : serverRely.Stable fun _ => True := Rely.Stable.const True
  have hfocus : Triple (gatewayRely h) (fun s => Stage .stopping N (fun _ => True) A s ∧ B s.server) (onServer p)
      fun a s => Stage .stopping N (fun _ => True) A s ∧ Q a s.server := by
    refine Triple.focus (fun _ _ => rfl) ?_ (stable_stage h htrue hA) ?_ hp fun s hi => hi.server
    · intro s t hi hs
      cases hs with
      | requestStop | product => exact .refl
      | server hs => exact .single hs
    · intro s t hi hs ht
      have hstate : s.state = .stopping := hs.state
      refine ⟨⟨hi.products, ht, hi.answered, hi.stopped, fun he => ?_, fun he => ?_, fun he _ => ?_, hi.once, hi.unbegun⟩,
        hs.state, hs.noted, trivial, hs.products⟩
      · rw [show s.state = .stopped from he] at hstate
        cases hstate
      · rw [show s.state = .serving from he] at hstate
        cases hstate
      · exact (he hstate).elim
  exact hfocus.conseq (fun s _ hs => ⟨⟨hs.state, hs.noted, trivial, hs.products⟩, hs.server⟩)
    fun a s _ hs => ⟨hs.1.state, hs.1.noted, hs.2, hs.1.products⟩

end Stages

/-! ## Taking everything down -/

section Shutdown

variable {N : List (GatewayEvent κ) → Option Int → Prop}

omit h in
/-- An event that no answer rests on, and that is no answer itself. -/
def GatewayEvent.plain : GatewayEvent κ → Bool
  | .begun | .stopped | .returned _ | .threw _ | .stopReturned => false
  | _ => true

/-- Shutting the publications down keeps the stage. -/
theorem shutdownPublications_triple {st : GatewayState} {B : OrderBookGrpcServer → Prop} {A : κ → Product L Y ω → Prop}
    (hst : st.moving = true) (hB : serverRely.Stable B) (hA : ∀ k, (productRely (h k)).Stable (A k)) :
    Triple (gatewayRely h) (Stage st N B A) (shutdownPublications g) fun _ => Stage st N B A := by
  have hstable : (gatewayRely h).Stable (Stage st N B A) := stable_stage h hB hA
  have hloop : ∀ call : κ → ProductProgram L Y ω Unit, (∀ k, (call k).All (ProductStep (g.collaborators k))) →
      Triple (gatewayRely h) (Stage st N B A) (forEach g.keys fun k => onProduct k (call k)) fun _ => Stage st N B A := by
    intro call hcall
    refine Triple.forEach (I := fun _ => Stage st N B A) hstable (fun k _ => ?_) g.keys
    refine (onProduct_triple h hB hA hst k (aside_triple (h k) (hA k) (hcall k))).post fun _ s _ hs => ?_
    rwa [Function.update_eq_self] at hs
  exact Triple.bind (hloop _ fun _ => closePublicationAdmission_all) fun _ =>
    Triple.bind (hloop _ fun _ => shutdownPublication_all) fun _ => hloop _ fun _ => shutdownEvents_all _

/-- The server's shutdown, which finds none before it. -/
theorem shutdownServer_triple {A : κ → Product L Y ω → Prop} (hA : ∀ k, (productRely (h k)).Stable (A k)) :
    Triple (gatewayRely h) (Stage .stopping N (fun t => t.shutdown = false) A) (shutdownServer g) fun _ =>
      Stage .stopping N OrderBookGrpcServer.Down A := by
  have hstage : ∀ {B : OrderBookGrpcServer → Prop}, serverRely.Stable B → (gatewayRely h).Stable (Stage .stopping N B A) :=
    fun hB => stable_stage h hB hA
  have hwait : Triple (gatewayRely h) (Stage .stopping N (fun t => t.shutdown = true) A) (onServer waitForHandlers)
      fun _ => Stage .stopping N OrderBookGrpcServer.Down A := onServer_triple h hA waitForHandlers_triple
  refine Triple.bind (onServer_triple h hA enterShutdown_triple) fun shut => ?_
  cases shut with
  | true => exact fun s _ hs => nomatch hs.server.1
  | false =>
    refine Triple.bind (Q := fun _ => Stage .stopping N (fun t => t.shutdown = true) A) ?_ fun _ => hwait
    refine Triple.bind ((onServer_triple h hA beginShutdown_triple).pre fun s _ hs => hs.mono (fun _ _ => id) (fun _ ht => ht.2) fun _ _ => id)
      fun begun => ?_
    cases begun with
    | true => exact fun s _ hs => nomatch hs.server.1
    | false =>
      refine Triple.bind (Q := fun _ => Stage .stopping N (Cancelling .entered) A) ?_ fun _ => ?_
      · exact (shutdownPublications_triple h rfl (stable_cancelling _) hA).pre fun s _ hs =>
          hs.mono (fun _ _ => id) (fun _ ht => ht.2) fun _ _ => id
      · exact (onServer_triple h hA cancelContexts_triple).post fun _ s _ hs =>
          hs.mono (fun _ _ => id) (fun _ ht => ht.shutdown) fun _ _ => id

omit h in
/-- What is left of a product when its stop has returned, or is not due yet. -/
def StoppedBut (keys rest : List κ) (k : κ) (p : Product L Y ω) : Prop :=
  Ready p ∧ (k ∈ keys → k ∉ rest → p.coordinator.stopped = true)

omit [DecidableEq κ] in
/-- A product that was stopped stays stopped. -/
theorem stable_stoppedBut (keys rest : List κ) (k : κ) : (productRely (h k)).Stable (StoppedBut keys rest k) :=
  (stable_ready (h k)).and (stable_stopped (h k)).imp.imp

/-- One after the other the products are stopped. -/
theorem stopProducts_triple :
    Triple (gatewayRely h) (Stage .stopping N OrderBookGrpcServer.Down fun _ => Ready) (stopProducts g) fun _ =>
      Stage .stopping N OrderBookGrpcServer.Down (StoppedBut g.keys []) := by
  have hstable : ∀ rest, (gatewayRely h).Stable (Stage .stopping N OrderBookGrpcServer.Down (StoppedBut g.keys rest)) :=
    fun rest => stable_stage h stable_down (stable_stoppedBut h g.keys rest)
  refine Triple.bind (shutdownPublications_triple h rfl stable_down fun k => stable_ready (h k)) fun _ => ?_
  refine Triple.pre (P := Stage .stopping N OrderBookGrpcServer.Down (StoppedBut g.keys g.keys)) ?_ fun s _ hs =>
    hs.mono (fun _ _ => id) (fun _ => id) fun k p hp => ⟨hp, fun hk hn => (hn hk).elim⟩
  refine Triple.forEach (I := fun rest => Stage .stopping N OrderBookGrpcServer.Down (StoppedBut g.keys rest)) (hstable []) (fun k rest => ?_)
    g.keys
  refine (onProduct_triple h stable_down (stable_stoppedBut h g.keys (k :: rest)) rfl k
    ((stop_stops (h k)).pre fun p _ hp => hp.1)).post fun _ s _ hs => hs.mono (fun _ _ => id) (fun _ => id) fun k' p hp => ?_
  rcases eq_or_ne k' k with rfl | hne
  · rw [Function.update_self] at hp
    exact ⟨Or.inr hp, fun _ _ => hp⟩
  · rw [Function.update_of_ne hne] at hp
    exact ⟨hp.1, fun hk hn => hp.2 hk fun hm => (List.mem_cons.mp hm).elim hne hn⟩

/-- When everything has been taken down the server is down and every product stopped. -/
theorem shutdownGraph_triple :
    Triple (gatewayRely h) (Stage .stopping N (fun t => t.shutdown = false) fun _ => Ready) (shutdownGraph g) fun _ =>
      Stage .stopping N OrderBookGrpcServer.Down (StoppedBut g.keys []) :=
  Triple.bind (shutdownServer_triple h fun k => stable_ready (h k)) fun _ => stopProducts_triple h

end Shutdown

/-! ## Sections of the lifecycle -/

section Sections

variable {s : ProductionGateway κ L Y ω} {st : GatewayState}

omit h in
/-- What is noted is borne out by what has been noted before. -/
theorem GatewayInv.noteAnswer (hi : GatewayInv g s) {e : GatewayEvent κ} (hanswered : Answered g.keys e s.log) (hbegun : e ≠ .begun)
    (hstop : e ≠ .stopped) : GatewayInv g (s.note e) where
  products := hi.products
  server := hi.server
  answered := ⟨hanswered, hi.answered⟩
  stopped := Iff.trans ⟨fun hm => (List.mem_cons.mp hm).resolve_left hstop.symm, List.mem_cons_of_mem e⟩ hi.stopped
  down hst := ⟨(hi.down hst).server, (hi.down hst).products⟩
  up hst := ⟨(hi.up hst).server, (hi.up hst).products⟩
  fresh := hi.fresh
  once := (List.count_cons_of_ne hbegun).trans_le hi.once
  unbegun hst hm := hi.unbegun hst ((List.mem_cons.mp hm).resolve_left hbegun.symm)

omit h in
/-- A plain note keeps the invariant. -/
theorem GatewayInv.note (hi : GatewayInv g s) {e : GatewayEvent κ} (he : e.plain = true) : GatewayInv g (s.note e) := by
  refine hi.noteAnswer ?_ ?_ ?_
  · cases e <;> trivial
  · rintro rfl
    cases he
  · rintro rfl
    cases he

omit h in
/-- Neither a request to stop nor a deadline is part of the invariant. -/
theorem GatewayInv.aside (hi : GatewayInv g s) (requested : Bool) (waiting : Option Int) :
    GatewayInv g { s with stopRequested := requested, waiting := waiting } where
  products := hi.products
  server := hi.server
  answered := hi.answered
  stopped := hi.stopped
  down hst := ⟨(hi.down hst).server, (hi.down hst).products⟩
  up hst := ⟨(hi.up hst).server, (hi.up hst).products⟩
  fresh := hi.fresh
  once := hi.once
  unbegun := hi.unbegun

omit h in
/-- The gateway begins to move, or moves on. -/
theorem GatewayInv.move (hi : GatewayInv g s) (hopen : s.state ≠ .stopped) (hst : st.moving = true)
    (hfresh : s.server.shutdown = false) : GatewayInv g { s with state := st } where
  products := hi.products
  server := hi.server
  answered := hi.answered
  stopped := by
    refine ⟨fun hm => (hopen (hi.stopped.mp hm)).elim, fun he => ?_⟩
    rw [show st = .stopped from he] at hst
    cases hst
  down he := by
    rw [show st = .stopped from he] at hst
    cases hst
  up he := by
    rw [show st = .serving from he] at hst
    cases hst
  fresh _ _ := hfresh
  once := hi.once
  unbegun he := by
    rw [show st = .constructed from he] at hst
    cases hst

/-- A gateway that has a server still and products that can be stopped. -/
abbrev Undone (st : GatewayState) : ProductionGateway κ L Y ω → Prop :=
  Stage st (fun _ _ => True) (fun t => t.shutdown = false) fun _ => Ready

/-- A gateway at rest. -/
abbrev Rested (st : GatewayState) (N : List (GatewayEvent κ) → Option Int → Prop) : ProductionGateway κ L Y ω → Prop :=
  Stage st N (fun _ => True) fun _ => Ready

/-- What can be taken back can still be. -/
theorem stable_undone : (gatewayRely h).Stable (Undone st) := stable_stage h stable_open fun k => stable_ready (h k)

/-- A gateway at rest stays at rest. -/
theorem stable_rested (N : List (GatewayEvent κ) → Option Int → Prop) : (gatewayRely h).Stable (Rested st N) :=
  stable_stage h (Rely.Stable.const True) fun k => stable_ready (h k)

/-- Behind everything the gateway states that it is stopped. -/
theorem setStopped_triple {N : List (GatewayEvent κ) → Option Int → Prop} (hN : ∀ l w, N l w → N (.stopped :: l) w) :
    Triple (gatewayRely h) (Stage .stopping N OrderBookGrpcServer.Down (StoppedBut g.keys [])) setStopped fun _ => Rested .stopped N := by
  refine Triple.modify (stable_stage h stable_down (stable_stoppedBut h g.keys [])) (stable_rested h _) fun s hi hs => ?_
  have hbegun : GatewayEvent.stopped ≠ (.begun : GatewayEvent κ) := nofun
  refine ⟨⟨hi.products, hi.server, ⟨trivial, hi.answered⟩, ⟨fun _ => rfl, fun _ => List.mem_cons_self⟩, fun _ => ⟨hs.server, ?_⟩, nofun,
    fun _ hn => (hn rfl).elim, (List.count_cons_of_ne hbegun).trans_le hi.once, nofun⟩, rfl, hN _ _ hs.noted, trivial,
    fun k => (hs.products k).1⟩
  exact fun k hk => (hs.products k).2 hk List.not_mem_nil

/-- A rollback leaves the gateway stopped. -/
theorem rollback_triple : Triple (gatewayRely h) (Undone .starting) (rollback g) fun _ => Rested .stopped fun _ _ => True := by
  refine Triple.bind (Q := fun _ => Undone .stopping) ?_ fun _ =>
    Triple.bind (shutdownGraph_triple h) fun _ => setStopped_triple h fun _ _ => id
  refine Triple.modify (stable_undone h) (stable_undone h) fun s hi hs => ?_
  have hopen : s.state ≠ .stopped := by
    rw [hs.state]
    nofun
  exact ⟨hi.move hopen rfl hs.server, rfl, trivial, hs.server, hs.products⟩

end Sections

end MarketDataGateway.Production
