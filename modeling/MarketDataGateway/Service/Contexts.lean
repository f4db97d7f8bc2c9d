import MarketDataGateway.Events.Delivery
import MarketDataGateway.Lib.Heap

/-!
# The contexts of running calls

The service keeps a bounded list of the contexts of its stream handlers, so that a shutdown can cancel them. The cancelling thread
copies the list and works on the copy without the lock; a handler that is about to leave waits until it is done. A handler is
numbered, its context is an address that may be used again once the handler has returned.
-/

namespace MarketDataGateway.GrpcService

open Containers Events

def kMaximumGrpcTrackedContexts : Nat := 48

structure TrackedContext where
  context : Nat
  selectedForTryCancel : Bool := false
  deriving DecidableEq, Repr

inductive TrackResult where
  | tracked | closed | full
  deriving DecidableEq, Repr

/-- Where a handler is: its call has arrived, its context was refused, it serves its stream, it wants to finalize with a proposed
status, it leaves on an exception, or it has left, with the status proposed and the one reported. -/
inductive HandlerStage where
  | arrived
  | refused (result : TrackResult)
  | serving
  | finalizing (proposed : RpcStatus)
  | untracking
  | finished (report : Option (RpcStatus × RpcStatus))
  deriving DecidableEq, Repr

/-- A handler, whether the cancellation pass has selected its context, and how often its context has been erased. -/
structure StreamHandler where
  context : Nat
  stage : HandlerStage := .arrived
  selected : Bool := false
  erased : Nat := 0
  deriving DecidableEq, Repr

/-- The handler's context exists still. -/
def StreamHandler.live (h : StreamHandler) : Bool :=
  match h.stage with
  | .refused _ | .finished _ => false
  | _ => true

/-- The handler's context has been tracked and the handler has not left. -/
def StreamHandler.held (h : StreamHandler) : Bool :=
  match h.stage with
  | .serving | .finalizing _ | .untracking => true
  | _ => false

/-- Where the one shutdown is that does not find another one before it. -/
inductive CancellationPass where
  | idle
  | entered
  | cancelling (contexts : List Nat)
  | ended
  deriving DecidableEq, Repr

/-- The state under the service's mutex, and the handlers and the shutdown that use it. -/
structure ContextTable where
  maximumTrackedContexts : Nat
  contexts : List TrackedContext := []
  admissionOpen : Bool := true
  shutdownStarted : Bool := false
  cancellationSnapshotActive : Bool := false
  pass : CancellationPass := .idle
  handlers : List StreamHandler := []

namespace ContextTable

/-! ## Sections -/

def trackContext (context : Nat) (s : ContextTable) : TrackResult × ContextTable :=
  if !s.admissionOpen then (.closed, s)
  else if s.contexts.length = s.maximumTrackedContexts then (.full, s)
  else (.tracked, { s with contexts := s.contexts ++ [{ context := context }] })

/-- Look for a context and erase it. -/
def eraseContext (context : Nat) (s : ContextTable) : Option TrackedContext × ContextTable :=
  (s.contexts.find? (·.context = context), { s with contexts := s.contexts.eraseP (·.context = context) })

def serverShutdown : RpcStatus := { code := .cancelled, message := "server shutdown" }

/-- What a handler reports that proposes a status. -/
def finalStatus (proposed : RpcStatus) (selected : Bool) : RpcStatus :=
  if proposed.code = .ok ∧ selected then serverShutdown else proposed

def finalizeContext (context : Nat) (proposed : RpcStatus) (s : ContextTable) : RpcStatus × ContextTable :=
  let found := s.eraseContext context
  (finalStatus proposed (found.1.any (·.selectedForTryCancel)), found.2)

def untrackContext (context : Nat) (s : ContextTable) : ContextTable := (s.eraseContext context).2

/-- The first section of a shutdown; only one gets further. -/
def beginShutdown (s : ContextTable) : ContextTable :=
  if s.shutdownStarted then s
  else { s with shutdownStarted := true, admissionOpen := false, pass := .entered }

/-- The section that copies the contexts. -/
def takeSnapshot (s : ContextTable) : ContextTable :=
  { s with
    cancellationSnapshotActive := true
    contexts := s.contexts.map fun entry => { entry with selectedForTryCancel := true }
    pass := .cancelling (s.contexts.map (·.context))
    handlers := s.handlers.map fun h => if h.held then { h with selected := true } else h }

def endPass (s : ContextTable) : ContextTable := { s with cancellationSnapshotActive := false, pass := .ended }

/-- The handler after it has asked for its context to be tracked. -/
def StreamHandler.afterTrack (h : StreamHandler) : TrackResult → StreamHandler
  | .tracked => { h with stage := .serving }
  | refusal => { h with stage := .refused refusal }

/-- The handler after its context has been looked for, and erased where it was found. -/
def StreamHandler.leave (h : StreamHandler) (found : Option TrackedContext) (report : Option (RpcStatus × RpcStatus)) :
    StreamHandler :=
  { h with stage := .finished report, erased := if found.isSome then h.erased + 1 else h.erased }

end ContextTable

open ContextTable

/-! ## Runs -/

/-- One section of a handler or of a shutdown. A new call's context is none of those that exist. -/
inductive TableStep : ContextTable → ContextTable → Prop where
  | arrive {s} (context : Nat) (hnew : ∀ h ∈ s.handlers, h.live = true → h.context ≠ context) :
      TableStep s { s with handlers := s.handlers ++ [{ context := context }] }
  | track {s i h} (hs : s.handlers[i]? = some h) (hst : h.stage = .arrived) :
      TableStep s { (s.trackContext h.context).2 with
        handlers := s.handlers.set i (StreamHandler.afterTrack h (s.trackContext h.context).1) }
  | propose {s i h} (hs : s.handlers[i]? = some h) (hst : h.stage = .serving) (proposed : RpcStatus) :
      TableStep s { s with handlers := s.handlers.set i { h with stage := .finalizing proposed } }
  | unwind {s i h} (hs : s.handlers[i]? = some h) (hst : h.stage = .serving) :
      TableStep s { s with handlers := s.handlers.set i { h with stage := .untracking } }
  | finalizeContext {s i h proposed} (hs : s.handlers[i]? = some h) (hst : h.stage = .finalizing proposed)
      (hready : s.cancellationSnapshotActive = false) :
      TableStep s { (s.finalizeContext h.context proposed).2 with
        handlers := s.handlers.set i (StreamHandler.leave h (s.eraseContext h.context).1
          (some (proposed, (s.finalizeContext h.context proposed).1))) }
  | untrackContext {s i h} (hs : s.handlers[i]? = some h) (hst : h.stage = .untracking)
      (hready : s.cancellationSnapshotActive = false) :
      TableStep s { s.untrackContext h.context with
        handlers := s.handlers.set i (StreamHandler.leave h (s.eraseContext h.context).1 none) }
  | beginShutdown {s} : TableStep s s.beginShutdown
  | takeSnapshot {s} (hp : s.pass = .entered) : TableStep s s.takeSnapshot
  | tryCancel {s context rest} (hp : s.pass = .cancelling (context :: rest)) : TableStep s { s with pass := .cancelling rest }
  | endPass {s} (hp : s.pass = .cancelling []) : TableStep s s.endPass

/-- The limits with which a service can be constructed. -/
def validTrackedContexts (limit : Nat) : Bool := limit ≠ 0 && limit ≤ kMaximumGrpcTrackedContexts

/-- Every run of the handlers and shutdowns of a service. -/
inductive Reachable (limit : Nat) : ContextTable → Prop where
  | initial (hlimit : validTrackedContexts limit = true) : Reachable limit { maximumTrackedContexts := limit }
  | step {s t} (h : Reachable limit s) (hs : TableStep s t) : Reachable limit t

/-! ## The invariant -/

/-- The entry of a handler. -/
def StreamHandler.entry (h : StreamHandler) : TrackedContext := ⟨h.context, h.selected⟩

/-- Live contexts are distinct, the list has exactly the entries of the handlers that hold one, and the pass works on contexts that
are held by handlers it has selected. -/
structure TableInv (s : ContextTable) : Prop where
  distinct : ∀ (i j : Nat) h h', s.handlers[i]? = some h → s.handlers[j]? = some h' → h.live = true → h'.live = true →
    h.context = h'.context → i = j
  entries : ∀ entry, entry ∈ s.contexts ↔ ∃ h ∈ s.handlers, h.held = true ∧ h.entry = entry
  nodup : (s.contexts.map (·.context)).Nodup
  bounded : s.contexts.length ≤ s.maximumTrackedContexts
  active : s.cancellationSnapshotActive = true ↔ ∃ contexts, s.pass = .cancelling contexts
  closed : s.shutdownStarted = true → s.admissionOpen = false
  started : s.pass ≠ .idle → s.shutdownStarted = true
  selected : ∀ h ∈ s.handlers, h.selected = true → s.pass = .ended ∨ ∃ contexts, s.pass = .cancelling contexts
  remaining : ∀ contexts, s.pass = .cancelling contexts →
    ∀ context ∈ contexts, ∃ h ∈ s.handlers, h.held = true ∧ h.entry = ⟨context, true⟩
  erased : ∀ h ∈ s.handlers, h.erased = match h.stage with
    | .finished _ => 1
    | _ => 0
  reported : ∀ h ∈ s.handlers, ∀ proposed reported, h.stage = .finished (some (proposed, reported)) →
    reported = finalStatus proposed h.selected

/-- A handler that holds its context is live. -/
theorem StreamHandler.live_of_held {h : StreamHandler} (hh : h.held = true) : h.live = true := by
  obtain ⟨context, stage, selected, erased⟩ := h
  cases stage <;> first | rfl | cases hh

/-- A handler is at its number and no other. -/
theorem TableInv.unique {s : ContextTable} (hi : TableInv s) {i : Nat} {h h' : StreamHandler} (hs : s.handlers[i]? = some h)
    (hm : h' ∈ s.handlers) (hl : h.live = true) (hl' : h'.live = true) (hc : h'.context = h.context) : h' = h := by
  obtain ⟨j, hj⟩ := List.mem_iff_getElem?.mp hm
  obtain rfl := hi.distinct j i h' h hj hs hl' hl hc
  exact Option.some.inj (hj.symm.trans hs)

/-! ## The list -/

section entries

variable {entries : List TrackedContext} {entry : TrackedContext} {context : Nat}

/-- With distinct contexts the entry that is found is the one there is. -/
theorem find_entry (hn : (entries.map (·.context)).Nodup) (hm : entry ∈ entries) :
    entries.find? (·.context = entry.context) = some entry := by
  induction entries with
  | nil => cases hm
  | cons first rest ih =>
    rw [List.map_cons, List.nodup_cons] at hn
    rcases List.mem_cons.mp hm with rfl | hm
    · simp
    · have hne : first.context ≠ entry.context := fun he => hn.1 (he ▸ List.mem_map_of_mem hm)
      simpa [hne] using ih hn.2 hm

/-- With distinct contexts an erasure takes that entry and no other. -/
theorem mem_erased (hn : (entries.map (·.context)).Nodup) :
    entry ∈ entries.eraseP (·.context = context) ↔ entry ∈ entries ∧ entry.context ≠ context := by
  induction entries with
  | nil => simp
  | cons first rest ih =>
    rw [List.map_cons, List.nodup_cons] at hn
    by_cases hf : first.context = context
    · subst hf
      have hrest : ∀ e ∈ rest, e.context ≠ first.context := fun e he hc => hn.1 (hc ▸ List.mem_map_of_mem he)
      simp only [List.eraseP_cons, decide_true, cond_true, List.mem_cons]
      constructor
      · intro hm
        exact ⟨Or.inr hm, hrest entry hm⟩
      · rintro ⟨rfl | hm, hne⟩
        · exact absurd rfl hne
        · exact hm
    · simp only [List.eraseP_cons, hf, decide_false, cond_false, List.mem_cons, ih hn.2]
      constructor
      · rintro (rfl | ⟨hm, hne⟩)
        · exact ⟨Or.inl rfl, hf⟩
        · exact ⟨Or.inr hm, hne⟩
      · rintro ⟨rfl | hm, hne⟩
        · exact Or.inl rfl
        · exact Or.inr ⟨hm, hne⟩

end entries

/-! ## Every section keeps the invariant -/

variable {s t : ContextTable} {i : Nat} {h h' : StreamHandler}

/-- After a handler has been replaced each handler is the new one or another one from before. -/
theorem mem_replaced {handlers : List StreamHandler} (hm : h' ∈ handlers.set i h) : h' = h ∨ h' ∈ handlers := by
  obtain ⟨j, hj⟩ := List.mem_iff_getElem?.mp hm
  rcases getElem?_set_cases hj with ⟨-, rfl⟩ | ⟨-, ho⟩
  · exact Or.inl rfl
  · exact Or.inr (List.mem_of_getElem? ho)

/-- A handler that is written to its place is among the handlers. -/
theorem replaced_mem {handlers : List StreamHandler} (hs : handlers[i]? = some h') : h ∈ handlers.set i h :=
  List.mem_of_getElem? (getElem?_set_self hs)

/-- The other handlers stay among the handlers. -/
theorem kept_mem {handlers : List StreamHandler} {other : StreamHandler} (hs : handlers[i]? = some h) (hm : other ∈ handlers)
    (hne : other ≠ h) (h' : StreamHandler) : other ∈ handlers.set i h' := by
  obtain ⟨j, hj⟩ := List.mem_iff_getElem?.mp hm
  have hji : j ≠ i := by
    rintro rfl
    exact hne (Option.some.inj (hj.symm.trans hs))
  exact List.mem_of_getElem? ((getElem?_set_other hji).trans hj)

/-- Distinct live contexts stay distinct when a handler goes on with its own. -/
theorem distinct_replaced (hi : TableInv s) (hs : s.handlers[i]? = some h) (hl : h.live = true) (hc : h'.context = h.context) :
    ∀ (j k : Nat) g g', (s.handlers.set i h')[j]? = some g → (s.handlers.set i h')[k]? = some g' → g.live = true →
      g'.live = true → g.context = g'.context → j = k := by
  intro j k g g' hj hk hg hg' hcc
  rcases getElem?_set_cases hj with ⟨rfl, rfl⟩ | ⟨-, ho⟩
  · rcases getElem?_set_cases hk with ⟨rfl, -⟩ | ⟨-, ho'⟩
    · rfl
    · exact hi.distinct j k h g' hs ho' hl hg' (hc ▸ hcc)
  · rcases getElem?_set_cases hk with ⟨rfl, rfl⟩ | ⟨-, ho'⟩
    · exact hi.distinct j k g h ho hs hg hl (hc ▸ hcc)
    · exact hi.distinct j k g g' ho ho' hg hg' hcc

/-- A handler that holds a context changes its mind about how to leave. -/
theorem TableInv.restage (hi : TableInv s) (hs : s.handlers[i]? = some h) (hh : h.held = true) (hh' : h'.held = true)
    (he : h'.entry = h.entry) (her : h'.erased = h.erased) : TableInv { s with handlers := s.handlers.set i h' } := by
  have hm : h ∈ s.handlers := List.mem_of_getElem? hs
  have hc : h'.context = h.context := congrArg TrackedContext.context he
  have hsel : h'.selected = h.selected := congrArg TrackedContext.selectedForTryCancel he
  -- as far as held contexts go the handlers are the same
  have hsame : ∀ entry, (∃ g ∈ s.handlers.set i h', g.held = true ∧ g.entry = entry) ↔
      ∃ g ∈ s.handlers, g.held = true ∧ g.entry = entry := by
    intro entry
    constructor
    · rintro ⟨g, hg, hgh, hge⟩
      rcases mem_replaced hg with rfl | hg
      · exact ⟨h, hm, hh, he ▸ hge⟩
      · exact ⟨g, hg, hgh, hge⟩
    · rintro ⟨g, hg, hgh, hge⟩
      by_cases heq : g = h
      · subst heq
        exact ⟨h', replaced_mem hs, hh', he.trans hge⟩
      · exact ⟨g, kept_mem hs hg heq h', hgh, hge⟩
  refine ⟨distinct_replaced hi hs (StreamHandler.live_of_held hh) hc, fun entry => (hi.entries entry).trans (hsame entry).symm,
    hi.nodup, hi.bounded, hi.active, hi.closed, hi.started, fun g hg hgs => ?_,
    fun contexts hp context hcm => (hsame _).mpr (hi.remaining contexts hp context hcm), fun g hg => ?_,
    fun g hg proposed reported hst => ?_⟩
  · rcases mem_replaced hg with rfl | hg
    · exact hi.selected h hm (hsel ▸ hgs)
    · exact hi.selected g hg hgs
  · rcases mem_replaced hg with rfl | hg
    · have herased := hi.erased h hm
      obtain ⟨context, stage, selected, erased⟩ := h
      obtain ⟨context', stage', selected', erased'⟩ := g
      rw [show erased' = erased from her, show erased = _ from herased]
      cases stage <;> cases hh <;> cases stage' <;> cases hh' <;> rfl
    · exact hi.erased g hg
  · rcases mem_replaced hg with rfl | hg
    · obtain ⟨context', stage', selected', erased'⟩ := g
      have hst' : stage' = .finished (some (proposed, reported)) := hst
      subst hst'
      cases hh'
    · exact hi.reported g hg proposed reported hst

/-- A handler leaves, and its entry with it. -/
theorem TableInv.leave (hi : TableInv s) (hs : s.handlers[i]? = some h) (hh : h.held = true)
    (hready : s.cancellationSnapshotActive = false) (report : Option (RpcStatus × RpcStatus))
    (hreport : ∀ proposed reported, report = some (proposed, reported) → reported = finalStatus proposed h.selected) :
    TableInv { (s.eraseContext h.context).2 with
      handlers := s.handlers.set i (StreamHandler.leave h (s.eraseContext h.context).1 report) } := by
  have hm : h ∈ s.handlers := List.mem_of_getElem? hs
  have hentry : h.entry ∈ s.contexts := (hi.entries _).mpr ⟨h, hm, hh, rfl⟩
  have hfound : (s.eraseContext h.context).1 = some h.entry := find_entry hi.nodup hentry
  have hnotheld : (StreamHandler.leave h (some h.entry) report).held = false := rfl
  rw [hfound]
  refine ⟨?_, fun entry => ?_, ?_, ?_, hi.active, hi.closed, hi.started, fun g hg hgs => ?_, fun contexts hp => ?_,
    fun g hg => ?_, fun g hg proposed reported hst => ?_⟩
  · exact distinct_replaced hi hs (StreamHandler.live_of_held hh) rfl
  · show entry ∈ s.contexts.eraseP _ ↔ _
    rw [mem_erased hi.nodup, hi.entries]
    constructor
    · rintro ⟨⟨g, hg, hgh, rfl⟩, hne⟩
      refine ⟨g, kept_mem hs hg (fun heq => hne ?_) _, hgh, rfl⟩
      rw [heq]; rfl
    · rintro ⟨g, hg, hgh, rfl⟩
      rcases mem_replaced hg with rfl | hg
      · rw [hnotheld] at hgh
        cases hgh
      · refine ⟨⟨g, hg, hgh, rfl⟩, fun hc => ?_⟩
        obtain rfl := hi.unique hs hg (StreamHandler.live_of_held hh) (StreamHandler.live_of_held hgh) hc
        obtain ⟨j, hj⟩ := List.mem_iff_getElem?.mp ‹g ∈ s.handlers.set i _›
        rcases getElem?_set_cases hj with ⟨-, heq⟩ | ⟨hne, ho⟩
        · rw [heq, hnotheld] at hgh
          cases hgh
        · exact hne (hi.distinct j i g g ho hs (StreamHandler.live_of_held hgh) (StreamHandler.live_of_held hgh) rfl)
  · exact hi.nodup.sublist (List.eraseP_sublist.map _)
  · exact Nat.le_trans (List.eraseP_sublist.length_le) hi.bounded
  · rcases mem_replaced hg with rfl | hg
    · exact hi.selected h hm hgs
    · exact hi.selected g hg hgs
  · have : s.cancellationSnapshotActive = true := hi.active.mpr ⟨contexts, hp⟩
    rw [hready] at this
    cases this
  · rcases mem_replaced hg with rfl | hg
    · have herased := hi.erased h hm
      obtain ⟨context, stage, selected, erased⟩ := h
      have h0 : erased = 0 := by cases stage <;> first | exact herased | cases hh
      subst h0
      rfl
    · exact hi.erased g hg
  · rcases mem_replaced hg with rfl | hg
    · exact hreport proposed reported (HandlerStage.finished.inj hst)
    · exact hi.reported g hg proposed reported hst

/-- A new handler keeps the invariant of the table. -/
theorem TableInv.arrive (hi : TableInv s) {context : Nat} (hnew : ∀ h ∈ s.handlers, h.live = true → h.context ≠ context) :
    TableInv { s with handlers := s.handlers ++ [{ context := context }] } := by
  have hmem : ∀ {g : StreamHandler}, g ∈ s.handlers ++ [{ context := context }] → g ∈ s.handlers ∨ g = { context := context } := by
    intro g hg
    rcases List.mem_append.mp hg with hg | hg
    · exact Or.inl hg
    · exact Or.inr (List.mem_singleton.mp hg)
  refine ⟨fun j k g g' hj hk hl hl' hc => ?_, fun entry => (hi.entries entry).trans ⟨?_, ?_⟩, hi.nodup, hi.bounded, hi.active,
    hi.closed, hi.started, fun g hg hgs => ?_, fun contexts hp c hcm => ?_, fun g hg => ?_, fun g hg proposed reported hst => ?_⟩
  · rcases getElem?_push_cases hj with ⟨rfl, rfl⟩ | ⟨-, ho⟩
    · rcases getElem?_push_cases hk with ⟨rfl, -⟩ | ⟨-, ho'⟩
      · rfl
      · exact absurd hc.symm (hnew g' (List.mem_of_getElem? ho') hl')
    · rcases getElem?_push_cases hk with ⟨rfl, rfl⟩ | ⟨-, ho'⟩
      · exact absurd hc (hnew g (List.mem_of_getElem? ho) hl)
      · exact hi.distinct j k g g' ho ho' hl hl' hc
  · rintro ⟨g, hg, hgh, rfl⟩
    exact ⟨g, List.mem_append_left _ hg, hgh, rfl⟩
  · rintro ⟨g, hg, hgh, rfl⟩
    rcases hmem hg with hg | rfl
    · exact ⟨g, hg, hgh, rfl⟩
    · cases hgh
  · rcases hmem hg with hg | rfl
    · exact hi.selected g hg hgs
    · cases hgs
  · obtain ⟨g, hg, hgh⟩ := hi.remaining contexts hp c hcm
    exact ⟨g, List.mem_append_left _ hg, hgh⟩
  · rcases hmem hg with hg | rfl
    · exact hi.erased g hg
    · rfl
  · rcases hmem hg with hg | rfl
    · exact hi.reported g hg proposed reported hst
    · cases hst

/-- A call whose context is not tracked returns at once. -/
theorem TableInv.refuse (hi : TableInv s) (hs : s.handlers[i]? = some h) (hst : h.stage = .arrived) (result : TrackResult) :
    TableInv { s with handlers := s.handlers.set i { h with stage := .refused result } } := by
  have hm : h ∈ s.handlers := List.mem_of_getElem? hs
  have hl : h.live = true := by simp [StreamHandler.live, hst]
  have hnot : h.held = false := by simp [StreamHandler.held, hst]
  have hheld : ∀ entry, (∃ g ∈ s.handlers.set i { h with stage := .refused result }, g.held = true ∧ g.entry = entry) ↔
      ∃ g ∈ s.handlers, g.held = true ∧ g.entry = entry := by
    intro entry
    constructor
    · rintro ⟨g, hg, hgh, hge⟩
      rcases mem_replaced hg with rfl | hg
      · cases hgh
      · exact ⟨g, hg, hgh, hge⟩
    · rintro ⟨g, hg, hgh, hge⟩
      refine ⟨g, kept_mem hs hg (fun heq => ?_) _, hgh, hge⟩
      rw [heq, hnot] at hgh
      cases hgh
  refine ⟨distinct_replaced hi hs hl rfl, fun entry => (hi.entries entry).trans (hheld entry).symm, hi.nodup, hi.bounded,
    hi.active, hi.closed, hi.started, fun g hg hgs => ?_, fun contexts hp c hcm => (hheld _).mpr (hi.remaining contexts hp c hcm),
    fun g hg => ?_, fun g hg proposed reported hgst => ?_⟩
  · rcases mem_replaced hg with rfl | hg
    · exact hi.selected h hm hgs
    · exact hi.selected g hg hgs
  · rcases mem_replaced hg with rfl | hg
    · have := hi.erased h hm
      rw [hst] at this
      exact this
    · exact hi.erased g hg
  · rcases mem_replaced hg with rfl | hg
    · cases hgst
    · exact hi.reported g hg proposed reported hgst

/-- A call whose context is tracked serves its stream. -/
theorem TableInv.serve (hi : TableInv s) (hs : s.handlers[i]? = some h) (hst : h.stage = .arrived) (hopen : s.admissionOpen = true)
    (hroom : s.contexts.length ≠ s.maximumTrackedContexts) :
    TableInv { s with
      contexts := s.contexts ++ [{ context := h.context }]
      handlers := s.handlers.set i { h with stage := .serving } } := by
  have hm : h ∈ s.handlers := List.mem_of_getElem? hs
  have hl : h.live = true := by simp [StreamHandler.live, hst]
  have hnot : h.held = false := by simp [StreamHandler.held, hst]
  -- while calls are admitted no pass has begun, so the handler has not been selected
  have hidle : s.pass = .idle := by
    by_contra hne
    rw [hi.closed (hi.started hne)] at hopen
    cases hopen
  have hsel : h.selected = false := by
    cases hselected : h.selected with
    | false => rfl
    | true =>
      rcases hi.selected h hm hselected with hp | ⟨contexts, hp⟩ <;> rw [hidle] at hp <;> cases hp
  have hentry : ({ h with stage := .serving } : StreamHandler).entry = ⟨h.context, false⟩ := by
    simp [StreamHandler.entry, hsel]
  refine ⟨distinct_replaced hi hs hl rfl, fun entry => ?_, ?_, ?_, hi.active, hi.closed, hi.started, fun g hg hgs => ?_,
    fun contexts hp => ?_, fun g hg => ?_, fun g hg proposed reported hgst => ?_⟩
  · rw [List.mem_append, hi.entries, List.mem_singleton]
    constructor
    · rintro (⟨g, hg, hgh, rfl⟩ | rfl)
      · refine ⟨g, kept_mem hs hg (fun heq => ?_) _, hgh, rfl⟩
        rw [heq, hnot] at hgh
        cases hgh
      · exact ⟨_, replaced_mem hs, rfl, hentry⟩
    · rintro ⟨g, hg, hgh, rfl⟩
      rcases mem_replaced hg with rfl | hg
      · exact Or.inr hentry
      · exact Or.inl ⟨g, hg, hgh, rfl⟩
  · rw [List.map_append, List.nodup_append]
    refine ⟨hi.nodup, by simp, fun c hc d hd hcd => ?_⟩
    obtain ⟨entry, he, rfl⟩ := List.mem_map.mp hc
    obtain ⟨g, hg, hgh, rfl⟩ := (hi.entries entry).mp he
    have hcontext : g.context = h.context := hcd.trans (List.mem_singleton.mp hd)
    obtain rfl := hi.unique hs hg hl (StreamHandler.live_of_held hgh) hcontext
    rw [hnot] at hgh
    cases hgh
  · show (s.contexts ++ [_]).length ≤ s.maximumTrackedContexts
    rw [List.length_append, List.length_singleton]
    have := hi.bounded
    omega
  · rcases mem_replaced hg with rfl | hg
    · rw [show ({ h with stage := .serving } : StreamHandler).selected = h.selected from rfl, hsel] at hgs
      cases hgs
    · exact hi.selected g hg hgs
  · have hp' : s.pass = .cancelling contexts := hp
    rw [hidle] at hp'
    cases hp'
  · rcases mem_replaced hg with rfl | hg
    · have := hi.erased h hm
      rw [hst] at this
      exact this
    · exact hi.erased g hg
  · rcases mem_replaced hg with rfl | hg
    · cases hgst
    · exact hi.reported g hg proposed reported hgst

/-- Tracking a context keeps the invariant of the table. -/
theorem TableInv.track (hi : TableInv s) (hs : s.handlers[i]? = some h) (hst : h.stage = .arrived) :
    TableInv { (s.trackContext h.context).2 with
      handlers := s.handlers.set i (StreamHandler.afterTrack h (s.trackContext h.context).1) } := by
  unfold ContextTable.trackContext
  split
  · exact hi.refuse hs hst .closed
  · rename_i hopen
    split
    · exact hi.refuse hs hst .full
    · rename_i hroom
      exact hi.serve hs hst (by simpa using hopen) hroom

/-- The snapshot of the contexts keeps the invariant of the table. -/
theorem TableInv.takeSnapshot (hi : TableInv s) (hp : s.pass = .entered) : TableInv s.takeSnapshot := by
  have hselect : ∀ g : StreamHandler, (if g.held then { g with selected := true } else g).held = g.held ∧
      (if g.held then { g with selected := true } else g).live = g.live ∧
      (if g.held then { g with selected := true } else g).context = g.context ∧
      (if g.held then { g with selected := true } else g).stage = g.stage ∧
      (if g.held then { g with selected := true } else g).erased = g.erased := by
    intro g
    split <;> exact ⟨rfl, rfl, rfl, rfl, rfl⟩
  have hnone : ∀ g ∈ s.handlers, g.selected = false := by
    intro g hg
    cases hsel : g.selected with
    | false => rfl
    | true => rcases hi.selected g hg hsel with he | ⟨contexts, he⟩ <;> rw [hp] at he <;> cases he
  refine ⟨fun j k g g' hj hk hl hl' hc => ?_, fun entry => ?_, ?_, ?_, ⟨fun _ => ⟨_, rfl⟩, fun _ => rfl⟩, hi.closed,
    fun _ => hi.started (by rw [hp]; simp), fun g hg _ => Or.inr ⟨_, rfl⟩, fun contexts hpass c hc => ?_, fun g hg => ?_,
    fun g hg proposed reported hst => ?_⟩
  · simp only [ContextTable.takeSnapshot, List.getElem?_map, Option.map_eq_some_iff] at hj hk
    obtain ⟨a, ha, rfl⟩ := hj
    obtain ⟨b, hb, rfl⟩ := hk
    rw [(hselect a).2.1] at hl
    rw [(hselect b).2.1] at hl'
    rw [(hselect a).2.2.1, (hselect b).2.2.1] at hc
    exact hi.distinct j k a b ha hb hl hl' hc
  · simp only [ContextTable.takeSnapshot, List.mem_map]
    constructor
    · rintro ⟨e, he, rfl⟩
      obtain ⟨g, hg, hgh, rfl⟩ := (hi.entries e).mp he
      exact ⟨_, ⟨g, hg, rfl⟩, by rw [(hselect g).1, hgh], by simp [hgh, StreamHandler.entry]⟩
    · rintro ⟨_, ⟨g, hg, rfl⟩, hgh, rfl⟩
      rw [(hselect g).1] at hgh
      exact ⟨g.entry, (hi.entries _).mpr ⟨g, hg, hgh, rfl⟩, by simp [hgh, StreamHandler.entry]⟩
  · have : (s.takeSnapshot.contexts.map (·.context)) = s.contexts.map (·.context) := by
      simp [ContextTable.takeSnapshot, Function.comp_def]
    rw [this]
    exact hi.nodup
  · show (s.contexts.map _).length ≤ s.maximumTrackedContexts
    rw [List.length_map]
    exact hi.bounded
  · obtain rfl := CancellationPass.cancelling.inj hpass
    obtain ⟨e, he, rfl⟩ := List.mem_map.mp hc
    obtain ⟨g, hg, hgh, rfl⟩ := (hi.entries e).mp he
    exact ⟨_, List.mem_map_of_mem hg, by rw [(hselect g).1, hgh], by simp [hgh, StreamHandler.entry]⟩
  · obtain ⟨a, ha, rfl⟩ := List.mem_map.mp hg
    rw [(hselect a).2.2.2.1, (hselect a).2.2.2.2]
    exact hi.erased a ha
  · obtain ⟨a, ha, rfl⟩ := List.mem_map.mp hg
    rw [(hselect a).2.2.2.1] at hst
    -- a handler that has left is not selected any more
    have hnot : a.held = false := by simp [StreamHandler.held, hst]
    rw [hnot]
    exact hi.reported a ha proposed reported hst

/-- Every section keeps the invariant. -/
theorem TableStep.inv (hs : TableStep s t) (hi : TableInv s) : TableInv t := by
  cases hs with
  | arrive context hnew => exact hi.arrive hnew
  | track hs hst => exact hi.track hs hst
  | propose hs hst proposed => exact hi.restage hs (by simp [StreamHandler.held, hst]) rfl rfl rfl
  | unwind hs hst => exact hi.restage hs (by simp [StreamHandler.held, hst]) rfl rfl rfl
  | @finalizeContext i h proposed hs hst hready =>
    have hh : h.held = true := by simp [StreamHandler.held, hst]
    refine hi.leave hs hh hready _ fun p r hpr => ?_
    obtain ⟨rfl, rfl⟩ := Prod.mk.inj (Option.some.inj hpr)
    have hfound : (s.eraseContext h.context).1 = some h.entry :=
      find_entry hi.nodup ((hi.entries _).mpr ⟨h, List.mem_of_getElem? hs, hh, rfl⟩)
    simp only [ContextTable.finalizeContext, hfound]
    rfl
  | untrackContext hs hst hready =>
    exact hi.leave hs (by simp [StreamHandler.held, hst]) hready none fun _ _ hpr => by cases hpr
  | beginShutdown =>
    unfold ContextTable.beginShutdown
    split
    · exact hi
    · rename_i hfirst
      have hidle : s.pass = .idle := by
        by_contra hne
        exact hfirst (hi.started hne)
      refine ⟨hi.distinct, hi.entries, hi.nodup, hi.bounded, ?_, fun _ => rfl, fun _ => rfl, fun g hg hgs => ?_,
        fun contexts hp => (by cases hp), hi.erased, hi.reported⟩
      · rw [show s.cancellationSnapshotActive = true ↔ _ from hi.active, hidle]
        simp
      · rcases hi.selected g hg hgs with he | ⟨contexts, he⟩ <;> rw [hidle] at he <;> cases he
  | takeSnapshot hp => exact hi.takeSnapshot hp
  | @tryCancel context rest hp =>
    refine ⟨hi.distinct, hi.entries, hi.nodup, hi.bounded, ?_, hi.closed, fun _ => hi.started (by rw [hp]; simp),
      fun _ _ _ => Or.inr ⟨rest, rfl⟩, fun contexts hpass c hc => ?_, hi.erased, hi.reported⟩
    · rw [show s.cancellationSnapshotActive = true ↔ _ from hi.active, hp]
      simp
    · obtain rfl := CancellationPass.cancelling.inj hpass
      exact hi.remaining _ hp c (List.mem_cons_of_mem _ hc)
  | endPass hp =>
    exact ⟨hi.distinct, hi.entries, hi.nodup, hi.bounded, ⟨fun h => (by cases h), fun ⟨_, h⟩ => (by cases h)⟩, hi.closed,
      fun _ => hi.started (by rw [hp]; simp), fun _ _ _ => Or.inl rfl, fun _ h => (by cases h), hi.erased, hi.reported⟩

/-- The invariant holds in every state of every run. -/
theorem Reachable.inv {limit : Nat} (h : Reachable limit s) : TableInv s := by
  induction h with
  | initial _ =>
    refine ⟨fun i j g g' hj => (by simp at hj), fun entry => (by simp), List.nodup_nil, Nat.zero_le _, (by simp),
      fun h => (by cases h), fun h => absurd rfl h, fun g hg => (by cases hg), fun _ h => (by cases h), fun g hg => (by cases hg),
      fun g hg => (by cases hg)⟩
  | step _ hs ih => exact hs.inv ih

/-- No step changes the limit. -/
theorem TableStep.limit (hs : TableStep s t) : t.maximumTrackedContexts = s.maximumTrackedContexts := by
  cases hs with
  | track hs hst =>
    unfold ContextTable.trackContext
    split
    · rfl
    · split <;> rfl
  | beginShutdown =>
    unfold ContextTable.beginShutdown
    split <;> rfl
  | _ => rfl

/-- The limit stays the configured one, and the copy of the contexts has room for so many. -/
theorem Reachable.limit {limit : Nat} (h : Reachable limit s) :
    s.maximumTrackedContexts = limit ∧ limit ≤ kMaximumGrpcTrackedContexts := by
  induction h with
  | initial hlimit =>
    simp only [validTrackedContexts, Bool.and_eq_true, decide_eq_true_eq] at hlimit
    exact ⟨rfl, hlimit.2⟩
  | step _ hs ih => exact ⟨hs.limit.trans ih.1, ih.2⟩

/-! ## Tracking under shutdown -/

/-- An entry goes when its handler leaves, which it does while no pass is active. -/
theorem TableStep.erases (hs : TableStep s t) (hi : TableInv s) {entry : TrackedContext} (hm : entry ∈ s.contexts)
    (hsel : entry.selectedForTryCancel = true) (hgone : ∀ entry' ∈ t.contexts, entry'.context ≠ entry.context) :
    s.pass = .ended := by
  have hready : s.cancellationSnapshotActive = false → s.pass = .ended := by
    intro hready
    obtain ⟨h, hh, -, rfl⟩ := (hi.entries entry).mp hm
    rcases hi.selected h hh hsel with hp | hp
    · exact hp
    · rw [hi.active.mpr hp] at hready
      cases hready
  cases hs with
  | finalizeContext _ _ hr => exact hready hr
  | untrackContext _ _ hr => exact hready hr
  | track hs hst =>
    refine absurd rfl (hgone entry ?_)
    unfold ContextTable.trackContext
    split
    · exact hm
    · split
      · exact hm
      · exact List.mem_append_left _ hm
  | beginShutdown =>
    refine absurd rfl (hgone entry ?_)
    unfold ContextTable.beginShutdown
    split <;> exact hm
  | takeSnapshot _ => exact absurd rfl (hgone { entry with selectedForTryCancel := true } (List.mem_map.mpr ⟨entry, hm, rfl⟩))
  | arrive _ _ => exact absurd rfl (hgone entry hm)
  | propose _ _ _ => exact absurd rfl (hgone entry hm)
  | unwind _ _ => exact absurd rfl (hgone entry hm)
  | tryCancel _ => exact absurd rfl (hgone entry hm)
  | endPass _ => exact absurd rfl (hgone entry hm)

/-- Once admission is closed it stays so, and no context is added. -/
theorem TableStep.closed (hs : TableStep s t) (hc : s.admissionOpen = false) :
    t.admissionOpen = false ∧ ∀ context ∈ t.contexts.map (·.context), context ∈ s.contexts.map (·.context) := by
  have herase : ∀ c, ∀ context ∈ (s.eraseContext c).2.contexts.map (·.context), context ∈ s.contexts.map (·.context) := by
    intro c context hcontext
    exact (List.eraseP_sublist.map _).subset hcontext
  cases hs with
  | track hs hst =>
    unfold ContextTable.trackContext
    rw [if_pos (by simp [hc])]
    exact ⟨hc, fun _ h => h⟩
  | @finalizeContext i h proposed _ _ _ => exact ⟨hc, herase h.context⟩
  | @untrackContext i h _ _ _ => exact ⟨hc, herase h.context⟩
  | beginShutdown =>
    unfold ContextTable.beginShutdown
    split
    · exact ⟨hc, fun _ h => h⟩
    · exact ⟨rfl, fun _ h => h⟩
  | takeSnapshot _ =>
    refine ⟨hc, fun context hcontext => ?_⟩
    simpa [ContextTable.takeSnapshot, Function.comp_def] using hcontext
  | arrive _ _ => exact ⟨hc, fun _ h => h⟩
  | propose _ _ _ => exact ⟨hc, fun _ h => h⟩
  | unwind _ _ => exact ⟨hc, fun _ h => h⟩
  | tryCancel _ => exact ⟨hc, fun _ h => h⟩
  | endPass _ => exact ⟨hc, fun _ h => h⟩

/-- Whatever the order of the sections of the handlers and of the shutdowns:
1. a context on which the pass calls TryCancel next is tracked, and its handler has not left;
2. a selected context is erased only when the pass has ended;
3. a handler whose context was selected and that proposed an OK status reports that it was cancelled, any other status it
   proposed is reported as it is;
4. there are never more contexts than configured, which the copy has room for;
5. once admission is closed it stays so and no context is added;
6. a context is tracked as long as its handler has one, as one entry, and a handler that has left has had it erased once. -/
theorem context_tracking_safe {limit : Nat} (h : Reachable limit s) :
    (∀ context rest, s.pass = .cancelling (context :: rest) →
      ⟨context, true⟩ ∈ s.contexts ∧ ∃ h ∈ s.handlers, h.held = true ∧ h.context = context ∧ h.selected = true) ∧
    (∀ t, TableStep s t → ∀ entry ∈ s.contexts, entry.selectedForTryCancel = true →
      (∀ entry' ∈ t.contexts, entry'.context ≠ entry.context) → s.pass = .ended) ∧
    (∀ h ∈ s.handlers, ∀ proposed reported, h.stage = .finished (some (proposed, reported)) →
      (proposed.code = .ok → h.selected = true → reported = { code := .cancelled, message := "server shutdown" }) ∧
      (proposed.code ≠ .ok ∨ h.selected = false → reported = proposed)) ∧
    (s.contexts.length ≤ limit ∧ limit ≤ kMaximumGrpcTrackedContexts) ∧
    ((s.shutdownStarted = true → s.admissionOpen = false) ∧
      ∀ t, TableStep s t → s.admissionOpen = false →
        t.admissionOpen = false ∧ ∀ context ∈ t.contexts.map (·.context), context ∈ s.contexts.map (·.context)) ∧
    ((∀ entry, entry ∈ s.contexts ↔ ∃ h ∈ s.handlers, h.held = true ∧ h.entry = entry) ∧
      (s.contexts.map (·.context)).Nodup ∧
      ∀ h ∈ s.handlers, h.erased = match h.stage with
        | .finished _ => 1
        | _ => 0) := by
  have hi := h.inv
  refine ⟨fun context rest hp => ?_, fun t hs entry hm hsel hgone => hs.erases hi hm hsel hgone,
    fun g hg proposed reported hst => ⟨fun hok hsel => ?_, fun hother => ?_⟩, ⟨?_, h.limit.2⟩,
    ⟨hi.closed, fun t hs => hs.closed⟩, hi.entries, hi.nodup, hi.erased⟩
  · obtain ⟨g, hg, hgh, hge⟩ := hi.remaining _ hp context List.mem_cons_self
    exact ⟨(hi.entries _).mpr ⟨g, hg, hgh, hge⟩, g, hg, hgh, congrArg TrackedContext.context hge,
      congrArg TrackedContext.selectedForTryCancel hge⟩
  · rw [hi.reported g hg proposed reported hst, finalStatus, if_pos ⟨hok, hsel⟩]
    rfl
  · rw [hi.reported g hg proposed reported hst, finalStatus, if_neg ?_]
    rintro ⟨hok, hsel⟩
    rcases hother with hne | hne
    · exact hne hok
    · rw [hsel] at hne
      cases hne
  · rw [← h.limit.1]
    exact hi.bounded

/-- One call whose handler wants to finalize with OK while a pass is about to cancel its context. -/
def selectedTable : ContextTable where
  maximumTrackedContexts := 1
  contexts := [⟨7, true⟩]
  admissionOpen := false
  shutdownStarted := true
  cancellationSnapshotActive := true
  pass := .cancelling [7]
  handlers := [{ context := 7, stage := .finalizing RpcStatus.ok, selected := true }]

/-- The same call after the pass: it has reported that it was cancelled. -/
def cancelledTable : ContextTable where
  maximumTrackedContexts := 1
  admissionOpen := false
  shutdownStarted := true
  pass := .ended
  handlers := [{ context := 7, stage := .finished (some (RpcStatus.ok, serverShutdown)), selected := true, erased := 1 }]

theorem reachable_selectedTable : Reachable 1 selectedTable := by
  have h : Reachable 1 { maximumTrackedContexts := 1 } := Reachable.initial rfl
  have h := h.step (.arrive 7 (by simp))
  have h := h.step (.track (i := 0) rfl rfl)
  have h := h.step (.propose (i := 0) rfl rfl RpcStatus.ok)
  have h := h.step .beginShutdown
  exact h.step (.takeSnapshot rfl)

theorem reachable_cancelledTable : Reachable 1 cancelledTable := by
  have h := reachable_selectedTable.step (.tryCancel rfl)
  have h := h.step (.endPass rfl)
  have h := h.step (.finalizeContext (i := 0) rfl rfl rfl)
  exact h

/-- The selected handler holds its context, and the one that ended was cancelled by the shutdown of the server. -/
theorem context_tracking_safe_cancelled :
    (∃ h ∈ selectedTable.handlers, h.held = true ∧ h.context = 7 ∧ h.selected = true) ∧
      serverShutdown = { code := .cancelled, message := "server shutdown" } :=
  ⟨((context_tracking_safe reachable_selectedTable).1 7 [] rfl).2,
    ((context_tracking_safe reachable_cancelledTable).2.2.1
      { context := 7, stage := .finished (some (RpcStatus.ok, serverShutdown)), selected := true, erased := 1 }
      List.mem_cons_self RpcStatus.ok serverShutdown rfl).1 rfl rfl⟩

end MarketDataGateway.GrpcService
