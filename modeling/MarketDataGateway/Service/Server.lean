import MarketDataGateway.Lib.Program
import MarketDataGateway.Service.Contexts

/-!
# The server of the service

Starting it, and the parts of its shutdown that are its own: the cancellation of the calls under way, and the wait for their handlers.
The rest of a shutdown stands between `enterShutdown` and `cancelContexts`. A handler runs only while there is a server.
-/

namespace MarketDataGateway.GrpcService

open Threads

/-- What comes of building a server. Without the baseline of the status nothing is built. -/
inductive BuildResult where
  | notPrepared
  | throws
  | null
  | server (selectedPort : Int)
  deriving DecidableEq, Repr

/-- `running` says that there is a server. -/
structure OrderBookGrpcServer where
  running : Bool := false
  shutdown : Bool := false
  selectedPort : Int := 0
  service : ContextTable

namespace OrderBookGrpcServer

/-- A server without a port of its own is shut down again; no call has reached it. -/
def start (build : BuildResult) (s : OrderBookGrpcServer) : Bool × OrderBookGrpcServer :=
  if s.running || s.shutdown then (false, s)
  else
    match build with
    | .notPrepared | .throws => (false, s)
    | .null => (false, { s with selectedPort := 0 })
    | .server port =>
      if 0 < port then (true, { s with running := true, selectedPort := port }) else (false, { s with selectedPort := 0 })

/-- True when there has been a shutdown before. -/
def enterShutdown (s : OrderBookGrpcServer) : Bool × OrderBookGrpcServer :=
  if s.shutdown then (true, s) else (false, { s with shutdown := true })

def onService (f : ContextTable → ContextTable) (s : OrderBookGrpcServer) : OrderBookGrpcServer := { s with service := f s.service }

/-- True when the service's own shutdown has begun before. -/
def beginShutdown (s : OrderBookGrpcServer) : Bool × OrderBookGrpcServer := (s.service.shutdownStarted, s.onService (·.beginShutdown))

/-- Copy the contexts, for the pass. -/
def takeSnapshot (s : OrderBookGrpcServer) : List Nat × OrderBookGrpcServer :=
  (s.service.contexts.map (·.context), s.onService (·.takeSnapshot))

/-- Cancel the next context of the pass. -/
def tryCancel (s : OrderBookGrpcServer) : OrderBookGrpcServer :=
  match s.service.pass with
  | .cancelling (_ :: rest) => s.onService fun t => { t with pass := .cancelling rest }
  | _ => s

/-- No handler has a call left. -/
def drained (s : OrderBookGrpcServer) : Bool := s.service.handlers.all fun h => !h.live

end OrderBookGrpcServer

abbrev ServerProgram (ω α : Type) := Program OrderBookGrpcServer ω α

/-- The last part of `begin_shutdown`. -/
def cancelContexts {ω : Type} : ServerProgram ω Unit := do
  let contexts ← Program.atomic fun _ s => s.takeSnapshot
  Program.forEach contexts fun _ => Program.modify (·.tryCancel)
  Program.modify (·.onService (·.endPass))

/-- `Shutdown` and `Wait` of a server, if there is one. -/
def waitForHandlers {ω : Type} : ServerProgram ω Unit := do
  let running ← Program.read (·.running)
  if running then Program.await (·.drained) fun _ s => ((), { s with running := false })
  else pure ()

/-- One section of a handler. -/
inductive ServerStep : OrderBookGrpcServer → OrderBookGrpcServer → Prop where
  | handler {s t} (hr : s.running = true) (hs : TableStep s.service t) (hp : t.pass = s.service.pass) :
      ServerStep s { s with service := t }

/-! ## Handlers and their server -/

/-- Without a server there is no call, and before its shutdown none is cancelled. -/
structure ServerInv (s : OrderBookGrpcServer) : Prop where
  table : TableInv s.service
  idle : s.running = false → s.drained = true
  fresh : s.shutdown = false → s.service.shutdownStarted = false

/-- There is no server any more. -/
structure OrderBookGrpcServer.Down (s : OrderBookGrpcServer) : Prop where
  shutdown : s.shutdown = true
  gone : s.running = false

/-- The invariant holds of an empty table. -/
theorem tableInv_initial (limit : Nat) : TableInv { maximumTrackedContexts := limit } where
  distinct i j h h' hs := by simp at hs
  entries entry := by simp
  nodup := List.nodup_nil
  bounded := Nat.zero_le _
  active := by simp
  closed h := by cases h
  started h := (h rfl).elim
  selected := by simp
  remaining contexts h := by cases h
  erased := by simp
  reported := by simp

/-- The invariant holds of a server that has just been made. -/
theorem serverInv_initial (limit : Nat) : ServerInv { service := { maximumTrackedContexts := limit } } where
  table := tableInv_initial limit
  idle _ := rfl
  fresh _ := rfl

/-- A handler leaves it to others to begin a shutdown. -/
theorem TableStep.shutdownStarted {s t : ContextTable} (hs : TableStep s t) (hi : TableInv s) (hp : t.pass = s.pass) :
    t.shutdownStarted = s.shutdownStarted := by
  cases hs with
  | beginShutdown =>
    unfold ContextTable.beginShutdown at hp ⊢
    split
    · rfl
    · rename_i hnew
      rw [if_neg hnew] at hp
      refine (hnew (hi.started ?_)).elim
      rw [← hp]
      nofun
  | track _ _ =>
    show (ContextTable.trackContext _ s).2.shutdownStarted = s.shutdownStarted
    unfold ContextTable.trackContext
    split
    · rfl
    · split <;> rfl
  | arrive | propose | unwind | finalizeContext | untrackContext | takeSnapshot | tryCancel | endPass => rfl

/-- Each step of the server keeps its invariant. -/
theorem ServerStep.inv {s t : OrderBookGrpcServer} (hs : ServerStep s t) (hi : ServerInv s) : ServerInv t := by
  cases hs with
  | handler hr hs hp =>
    refine ⟨hs.inv hi.table, fun hn => ?_, fun hn => (hs.shutdownStarted hi.table hp).trans (hi.fresh hn)⟩
    rw [show _ = true from hr] at hn
    cases hn

/-- What the rest of the service does besides. -/
def serverRely : Rely OrderBookGrpcServer where
  env := ServerStep
  inv := ServerInv
  inv_env _ _ hi hs := hs.inv hi

/-- A server that is down stays down. -/
theorem stable_down : serverRely.Stable OrderBookGrpcServer.Down := by
  rintro s _ - hd ⟨hr, -, -⟩
  rw [hd.gone] at hr
  cases hr

/-- When the handlers are gone no context is tracked. -/
theorem ServerInv.contexts {s : OrderBookGrpcServer} (hi : ServerInv s) (hd : s.running = false) : s.service.contexts = [] := by
  refine List.eq_nil_iff_forall_not_mem.mpr fun entry hm => ?_
  obtain ⟨h, hh, hheld, -⟩ := (hi.table.entries entry).mp hm
  have hgone := List.all_eq_true.mp (hi.idle hd) h hh
  rw [StreamHandler.live_of_held hheld] at hgone
  cases hgone

/-- A running server keeps running but for its shutdown. -/
theorem stable_serverRunning : serverRely.Stable fun s => s.running = true := by
  rintro s _ - hr ⟨-, -, -⟩
  exact hr

/-- What a start leaves of the server. -/
theorem ServerInv.start {s : OrderBookGrpcServer} (hi : ServerInv s) (build : BuildResult) :
    ServerInv (s.start build).2 ∧ (s.start build).2.shutdown = s.shutdown ∧
      ((s.start build).1 = true → (s.start build).2.running = true) := by
  unfold OrderBookGrpcServer.start
  split
  · exact ⟨hi, rfl, nofun⟩
  · cases build with
    | notPrepared | throws => exact ⟨hi, rfl, nofun⟩
    | null => exact ⟨⟨hi.table, hi.idle, hi.fresh⟩, rfl, nofun⟩
    | server port =>
      dsimp only
      split
      · exact ⟨⟨hi.table, nofun, hi.fresh⟩, rfl, fun _ => rfl⟩
      · exact ⟨⟨hi.table, hi.idle, hi.fresh⟩, rfl, nofun⟩

/-! ## The shutdown -/

section Shutdown

variable {ω : Type}

/-- A server that has not been shut down stays so but for its shutdown. -/
theorem stable_open : serverRely.Stable fun s => s.shutdown = false := by
  rintro s _ - ho ⟨-, -, -⟩
  exact ho

/-- The shutdown of the server has begun, that of the service has not. -/
structure Entered (s : OrderBookGrpcServer) : Prop where
  shutdown : s.shutdown = true
  service : s.service.shutdownStarted = false

/-- A shutdown that has begun stays begun. -/
theorem stable_entered : serverRely.Stable Entered := by
  rintro s _ hi he ⟨-, ht, hp⟩
  exact ⟨he.shutdown, (ht.shutdownStarted hi.table hp).trans he.service⟩

/-- The first shutdown enters. -/
theorem enterShutdown_triple : Triple serverRely (fun s => s.shutdown = false)
    (Program.atomic fun _ s => s.enterShutdown : ServerProgram ω Bool) fun shut s => shut = false ∧ Entered s := by
  refine Triple.atomic stable_open (fun _ => (Rely.Stable.const _).and stable_entered) fun _ s hi ho => ?_
  unfold OrderBookGrpcServer.enterShutdown
  rw [ho]
  exact ⟨⟨hi.table, hi.idle, nofun⟩, rfl, rfl, hi.fresh ho⟩

/-- The cancellation stands at `pass`. -/
structure Cancelling (pass : CancellationPass) (s : OrderBookGrpcServer) : Prop where
  shutdown : s.shutdown = true
  pass : s.service.pass = pass

/-- The pass of the cancellation stays where it is. -/
theorem stable_cancelling (pass : CancellationPass) : serverRely.Stable (Cancelling pass) := by
  rintro s _ - hc ⟨-, -, hp⟩
  exact ⟨hc.shutdown, hp.trans hc.pass⟩

/-- What a section of the pass keeps. -/
theorem ServerInv.pass {s : OrderBookGrpcServer} (hi : ServerInv s) (hd : s.shutdown = true) {f : ContextTable → ContextTable}
    (hs : TableStep s.service (f s.service)) (hl : ∀ t : ContextTable, (f t).handlers.all (fun h => !h.live) = t.handlers.all fun h => !h.live) :
    ServerInv (s.onService f) where
  table := hs.inv hi.table
  idle hn := (hl s.service).trans (hi.idle hn)
  fresh hn := by
    rw [show (s.onService f).shutdown = s.shutdown from rfl, hd] at hn
    cases hn

/-- A shutdown begins to cancel. -/
theorem beginShutdown_triple : Triple serverRely Entered (Program.atomic fun _ s => s.beginShutdown : ServerProgram ω Bool)
    fun begun s => begun = false ∧ Cancelling .entered s := by
  refine Triple.atomic stable_entered (fun _ => (Rely.Stable.const _).and (stable_cancelling _)) fun _ s hi he => ?_
  have hlive : ∀ t : ContextTable, t.beginShutdown.handlers.all (fun h => !h.live) = t.handlers.all fun h => !h.live := by
    intro t
    unfold ContextTable.beginShutdown
    split <;> rfl
  refine ⟨hi.pass he.shutdown .beginShutdown hlive, he.service, he.shutdown, ?_⟩
  show s.service.beginShutdown.pass = .entered
  simp [ContextTable.beginShutdown, he.service]

/-- The cancellation comes to the end of its snapshot. -/
theorem cancelContexts_triple : Triple serverRely (Cancelling .entered) (cancelContexts : ServerProgram ω Unit) fun _ => Cancelling .ended := by
  have hst := stable_cancelling
  refine Triple.bind (Q := fun contexts => Cancelling (.cancelling contexts)) (Triple.atomic (hst _) (fun _ => hst _) ?_) fun contexts => ?_
  · intro w s hi hc
    have hlive : ∀ t : ContextTable, t.takeSnapshot.handlers.all (fun h => !h.live) = t.handlers.all fun h => !h.live := by
      intro t
      show (t.handlers.map _).all _ = _
      rw [List.all_map]
      congr 1
      funext h
      simp only [Function.comp]
      split <;> rfl
    exact ⟨hi.pass hc.shutdown (.takeSnapshot hc.pass) hlive, hc.shutdown, rfl⟩
  · refine Triple.bind (Triple.forEach (I := fun rest => Cancelling (.cancelling rest)) (hst _) (fun context rest => ?_) contexts)
      fun _ => Triple.modify (hst _) (hst _) fun s hi hc => ?_
    · refine Triple.modify (hst _) (hst _) fun s hi hc => ?_
      have hnext : s.tryCancel = s.onService fun t => { t with pass := .cancelling rest } := by
        unfold OrderBookGrpcServer.tryCancel
        rw [hc.pass]
      rw [hnext]
      exact ⟨hi.pass hc.shutdown (.tryCancel hc.pass) fun _ => rfl, hc.shutdown, rfl⟩
    · exact ⟨hi.pass hc.shutdown (.endPass hc.pass) fun _ => rfl, hc.shutdown, rfl⟩

/-- When the wait is over there is no server, and no call either. -/
theorem waitForHandlers_triple :
    Triple serverRely (fun s => s.shutdown = true) (waitForHandlers : ServerProgram ω Unit) fun _ => OrderBookGrpcServer.Down := by
  have hshut : serverRely.Stable fun s => s.shutdown = true := by
    rintro s _ - hs ⟨-, -, -⟩
    exact hs
  have hgone : serverRely.Stable fun s => s.running = false := by
    rintro s _ - hs ⟨hr, -, -⟩
    rw [hs] at hr
    cases hr
  refine Triple.bind (Q := fun running s => s.shutdown = true ∧ (running = false → s.running = false)) ?_ fun running => ?_
  · exact Triple.read hshut (fun _ => hshut.and hgone.imp) fun _ _ hs => ⟨hs, id⟩
  · cases running with
    | false => exact Triple.done (hshut.and hgone.imp) fun _ _ hs => ⟨hs.1, hs.2 rfl⟩
    | true =>
      refine Triple.await (hshut.and hgone.imp) (fun _ => stable_down) fun _ s hi hs hd => ⟨⟨hi.table, fun _ => hd, fun hn => ?_⟩, hs.1, rfl⟩
      rw [show _ = true from hs.1] at hn
      cases hn

end Shutdown

end MarketDataGateway.GrpcService
