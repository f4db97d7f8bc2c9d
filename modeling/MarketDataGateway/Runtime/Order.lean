import Mathlib.Data.List.Induction
import Mathlib.Data.List.Sort
import MarketDataGateway.Runtime.Integrity
import MarketDataGateway.Runtime.Submissions

/-!
# Updates keep their order

What has been applied, followed by what waits in the bootstrap buffer, is a selection of what was received, in the order in which it
was received: `Impl.Flows`. Nothing is applied twice, and nothing overtakes. With `Balanced` this reaches from the submissions to the
sessions.
-/

namespace MarketDataGateway.MarketRuntime

open OrderBook Threads

variable {L : ProjectionLibrary} {setup : Setup L} {s t : Impl L}

/-! ## One section -/

/-- What was applied, what the owner has in hand and what is buffered, one behind the other, are a selection of what was received. -/
def Impl.Flows (hand : List (DepthUpdateInput L)) (s : Impl L) : Prop :=
  List.Sublist (appliedUpdates s.bookLog ++ hand ++ s.book.bootstrap) (receivedUpdates s.bookLog)

variable {hand : List (DepthUpdateInput L)}

/-- What was in hand is dropped. -/
theorem Impl.Flows.drop (hs : s.Flows hand) : s.Flows [] := by
  refine List.Sublist.trans ?_ hs
  rw [List.append_nil]
  exact (List.sublist_append_left _ _).append_right _

/-- What leaves the supply alone lets the updates flow on. -/
theorem LeavesSupply.flows (h : LeavesSupply s t) (hs : s.Flows hand) : t.Flows hand := by
  unfold Impl.Flows
  rw [h.applied, h.received]
  exact (h.bootstrap.sublist.append_left _).trans hs

/-- Callers let the updates flow on. -/
theorem ClientStep.flows (h : ClientStep setup s t) (hs : s.Flows hand) : t.Flows hand := by
  unfold Impl.Flows
  rw [h.aside.log]
  rcases h.aside.bootstrap with hb | hb
  · rw [hb]
    exact hs
  · rw [hb]
    exact ((List.nil_sublist _).append_left _).trans hs

/-- The callers do not touch the book. -/
def flowRely (setup : Setup L) : Rely (Impl L) where
  env := ClientStep setup
  inv := Impl.Flows []
  inv_env _ _ hs h := h.flows hs

/-- Callers do not get between the updates in hand and those received. -/
theorem stable_flows (hand : List (DepthUpdateInput L)) : (flowRely setup).Stable (Impl.Flows hand) := fun _ _ _ hs h => h.flows hs

/-- Nothing is buffered once there is a baseline. -/
def Impl.Waits (s : Impl L) : Prop := s.book.bootstrap ≠ [] → L.status s.book.projection = .awaitingBaseline

/-- Callers do not touch the buffer of a projection that waits for its baseline. -/
theorem stable_waits : (flowRely setup).Stable (Impl.Waits : Impl L → Prop) := by
  intro s t _ hs he hne
  rw [he.aside.projection]
  rcases he.aside.bootstrap with hb | hb
  · exact hs (hb ▸ hne)
  · exact absurd hb hne

/-! ## The owner -/

/-- A piece of the owner that keeps the order, whatever it has in hand. -/
def Flowing (setup : Setup L) (α : Type) (p : OwnerProgram L α) : Prop :=
  ∀ hand, Triple (flowRely setup) (Impl.Flows hand) p fun _ => Impl.Flows hand

/-- The owner's routine lets the updates flow on. -/
theorem routine_flowing : Routine setup LeavesSupply (Flowing setup) :=
  allChores_leavesSupply.routine
    (fun hp hand => Triple.of_all hp (stable_flows hand) fun _ _ _ hs h => ⟨(h.flows hs).drop, h.flows hs⟩)
    fun hp hk hand => Triple.bind (hp hand) fun a => hk a hand

/-- An update that is applied is no longer in hand. -/
theorem flows_apply {input : DepthUpdateInput L} (hs : s.Flows [input]) (w : Outcome L) :
    (s.applyToProjection setup input w).2.Flows [] := by
  have hdropped : s.Flows [] := hs.drop
  unfold Impl.applyToProjection
  split
  · exact hdropped
  · split
    · exact hdropped
    · split
      · exact hdropped
      · split
        · exact hdropped
        · unfold Impl.Flows
          dsimp only
          split
          · rw [appliedUpdates, List.append_nil]
            exact hs
          · exact hdropped

/-- The update in hand is applied or dropped, in its turn. -/
theorem applyUpdate_flows (input : DepthUpdateInput L) :
    Triple (flowRely setup) (Impl.Flows [input]) (applyUpdate setup input) fun _ => Impl.Flows [] := by
  have hroutine : Routine setup LeavesSupply (Flowing setup) := routine_flowing
  refine Triple.bind (Triple.atomic (stable_flows _) (fun _ => stable_flows _) fun w s _ hs => ⟨flows_apply hs w, flows_apply hs w⟩)
    fun call => ?_
  cases call with
  | generationMismatch => exact hroutine.faulting _ _ _ []
  | threw => exact hroutine.done _ []
  | adapterError error => exact hroutine.faulting _ _ _ []
  | result result =>
    exact hroutine.bind (hroutine.modify fun s => leavesSupply_recordApply input result s)
      (fun _ => hroutine.bind (hroutine.publishDisposition _ _) fun _ => hroutine.publishing _) []

/-- Where an update goes once it is received. Behind a baseline nothing is buffered, so the update is next. -/
theorem flows_buffer {input : DepthUpdateInput L} (hs : s.Flows []) (hw : s.Waits) (w : Outcome L) :
    (s.bufferDepthUpdate setup input w).2.Flows
      (if (s.bufferDepthUpdate setup input w).1 = .apply then [input] else []) := by
  unfold Impl.Flows at hs
  rw [List.append_nil] at hs
  rcases bufferDepthUpdate_cases setup input w s with ⟨hstatus, he⟩ | ⟨-, -, he⟩ | ⟨hcall, he⟩
  · have hempty : s.book.bootstrap = [] := by
      by_contra hne
      exact hstatus (hw hne)
    rw [he]
    unfold Impl.Flows
    simp only [if_pos, hempty, List.append_nil, receivedUpdates, appliedUpdates] at hs ⊢
    exact hs.append_right [input]
  · rw [he]
    unfold Impl.Flows
    simp only [reduceCtorEq, if_false, List.append_nil, receivedUpdates, appliedUpdates]
    rw [← List.append_assoc]
    exact hs.append_right [input]
  · have hother : (s.bufferDepthUpdate setup input w).1 ≠ .apply := by
      intro ha
      rw [ha] at hcall
      simp at hcall
    rw [if_neg hother, he]
    unfold Impl.Flows
    simp only [List.append_nil, receivedUpdates, appliedUpdates]
    exact hs.trans (List.sublist_append_left _ _)

/-- An update comes in, and is buffered or applied in its turn. -/
theorem processDepthUpdate_flows (input : DepthUpdateInput L) :
    Triple (flowRely setup) (fun s => s.Flows [] ∧ s.Waits) (processDepthUpdate setup input) fun _ => Impl.Flows [] := by
  have hroutine : Routine setup LeavesSupply (Flowing setup) := routine_flowing
  refine Triple.bind (Q := fun call => Impl.Flows (if call = .apply then [input] else []))
    (Triple.atomic ((stable_flows _).and stable_waits) (fun _ => stable_flows _) fun w s _ hs => ⟨(flows_buffer hs.1 hs.2 w).drop, flows_buffer hs.1 hs.2 w⟩)
    fun call => ?_
  cases call with
  | overflow => exact hroutine.faulting _ _ _ []
  | threw => exact hroutine.done _ []
  | buffered => exact hroutine.publishing _ []
  | apply => exact applyUpdate_flows input

/-- The front of the buffer is the next to be applied. -/
theorem flows_pop (hs : s.Flows []) : s.popBootstrap.2.Flows s.popBootstrap.1.toList := by
  unfold Impl.popBootstrap
  split
  · exact hs
  · rename_i front rest hb
    unfold Impl.Flows at hs ⊢
    rw [hb] at hs
    simpa using hs

/-- The replay takes the buffered updates in their order. -/
theorem replayBootstrap_flows (bound : Nat) :
    Triple (flowRely setup) (Impl.Flows []) (replayBootstrap setup bound) fun _ => Impl.Flows [] := by
  have hroutine : Routine setup LeavesSupply (Flowing setup) := routine_flowing
  induction bound with
  | zero => exact hroutine.done _ []
  | succ bound ih =>
    refine Triple.bind (Q := fun front => Impl.Flows front.toList)
      (Triple.atomic (stable_flows _) (fun _ => stable_flows _) fun _ s _ hs => ⟨(flows_pop hs).drop, flows_pop hs⟩) fun front => ?_
    cases front with
    | none => exact hroutine.done _ []
    | some update =>
      refine Triple.bind (applyUpdate_flows update) fun completion => ?_
      cases completion with
      | threw => exact hroutine.done _ []
      | returned =>
        refine Triple.bind (hroutine.read _ []) fun ends => ?_
        split
        · exact hroutine.bind (hroutine.modify fun s => hroutine.chores.clearBootstrap s) (fun _ => hroutine.done _) []
        · exact ih

/-- An install and its replay keep the order. -/
theorem processSnapshot_flows (input : SnapshotInput L) :
    Triple (flowRely setup) (Impl.Flows []) (processSnapshot setup input) fun _ => Impl.Flows [] := by
  have hroutine : Routine setup LeavesSupply (Flowing setup) := routine_flowing
  refine Triple.bind (hroutine.atomic (fun w s => hroutine.chores.install input w s) []) fun call => ?_
  cases call with
  | threw => exact hroutine.done _ []
  | adapterError error => exact hroutine.faulting _ _ _ []
  | result result =>
    refine Triple.bind (hroutine.modify (fun s => hroutine.chores.recordInstall _ s) []) fun _ => ?_
    split
    · exact hroutine.faulting _ _ _ []
    · refine Triple.bind (hroutine.modify (fun s => hroutine.chores.setGeneration _ s) []) fun _ =>
        Triple.bind (hroutine.read _ []) fun buffered => Triple.bind (replayBootstrap_flows buffered) fun completion => ?_
      cases completion with
      | threw => exact hroutine.done _ []
      | returned => exact hroutine.publishing _ []

/-- An item is processed in the order of the updates. -/
theorem processItem_flows (item : IngressItem L) :
    Triple (flowRely setup) (fun s => s.Flows [] ∧ s.Waits) (processItem setup item) fun _ => Impl.Flows [] := by
  have hroutine : Routine setup LeavesSupply (Flowing setup) := routine_flowing
  refine Triple.bind (Q := fun _ => Impl.Flows []) ?_ fun completion => hroutine.finishing _ completion []
  cases item.input with
  | depthUpdate input => exact processDepthUpdate_flows input
  | snapshot input => exact (processSnapshot_flows input).pre fun _ _ h => h.1
  | failure failure => exact (hroutine.faulting _ _ _ []).pre fun _ _ h => h.1

/-- A round that finds the buffer as it should be between items keeps the order. -/
theorem ownerRound_flows :
    Triple (flowRely setup) (fun s => s.Flows [] ∧ s.Waits) (ownerRound setup) fun _ => Impl.Flows [] := by
  have hroutine : Routine setup LeavesSupply (Flowing setup) := routine_flowing
  have hstable : (flowRely setup).Stable fun s : Impl L => s.Flows [] ∧ s.Waits := (stable_flows _).and stable_waits
  refine Triple.bind (Q := fun _ s => s.Flows [] ∧ s.Waits) (Triple.await hstable (fun _ => hstable) fun w s _ hs _ => ?_)
    fun work => ?_
  · have hbook : s.takeWork.2.book = s.book := by
      unfold Impl.takeWork
      repeat' split
      all_goals rfl
    have hlog : s.takeWork.2.bookLog = s.bookLog := by
      unfold Impl.takeWork
      repeat' split
      all_goals rfl
    unfold flowRely Impl.Flows Impl.Waits
    dsimp only
    rw [hbook, hlog]
    exact ⟨hs.1, hs⟩
  · by_cases hitem : ∃ item, work = .item item
    · obtain ⟨item, rfl⟩ := hitem
      exact Triple.bind (processItem_flows item) fun _ => hroutine.done _ []
    · refine (hroutine.perform (fun item he => absurd ⟨item, he⟩ hitem) (fun request subscription _ => ?_) []).pre fun _ _ h => h.1
      exact hroutine.all (allChores_leavesSupply.all_performAdmission request subscription)

/-! ## Runs -/

/-- The event is a reset that has thrown while inputs waited. -/
def TicketEvent.strands : TicketEvent → Bool
  | .resetThrew waiting => !waiting.isEmpty
  | _ => false

/-- No reset has thrown while inputs waited. -/
def Unbroken (log : List TicketEvent) : Prop := ∀ event ∈ log, event.strands = false

instance (log : List TicketEvent) : Decidable (Unbroken log) := inferInstanceAs (Decidable (∀ event ∈ log, event.strands = false))

/-- A run that is unbroken was unbroken before. -/
theorem Unbroken.of_suffix {log log' : List TicketEvent} (h : Unbroken log') (hs : log <:+ log') : Unbroken log :=
  fun event hm => h event (hs.mem hm)

/-- In an unbroken run the last reset has not broken off. -/
theorem Unbroken.brokenReset {log : List TicketEvent} (h : Unbroken log) : brokenReset log = false := by
  induction log with
  | nil => rfl
  | cons event past ih =>
    have hpast := ih (h.of_suffix (List.suffix_cons _ _))
    cases event with
    | resetThrew waiting =>
      have hempty : (!waiting.isEmpty) = false := h _ List.mem_cons_self
      rw [MarketRuntime.brokenReset, hempty, hpast]
      rfl
    | reset => rfl
    | _ => exact hpast

/-- Where no reset has thrown over a queue, the order is kept throughout. -/
theorem Reachable.flowing {ph : Phase (Impl L) (Outcome L)} (h : Reachable setup ph s) (hu : Unbroken s.ticketLog) :
    LoopInv (flowRely setup) (Impl.Flows []) (Impl.Flows []) ph s := by
  have hinitial : (Impl.initial setup).Flows [] := List.Sublist.refl _
  have hround : ∀ again : Bool, afterRound (Impl.Flows []) (Impl.Flows []) again = (Impl.Flows [] : Impl L → Prop) := fun again => by
    cases again <;> rfl
  induction h with
  | initial =>
    have hbegin : Triple (flowRely setup) (Impl.Flows []) ownerPrologue fun _ => Impl.Flows [] :=
      Triple.bind (Triple.await (stable_flows _) (fun _ => stable_flows _) fun _ s _ hs _ => ⟨hs, hs⟩)
        fun _ => Triple.done (stable_flows _) fun _ _ hs => hs
    exact (hbegin _ hinitial hinitial).mono fun again t _ hs => by rw [hround]; exact hs
  | @step ph ph' s t h hs ih =>
    have hbefore : Unbroken s.ticketLog := hu.of_suffix (h.log_suffix hs)
    replace ih := ih hbefore
    cases hs with
    | env he =>
      cases ph with
      | head => exact ⟨he.flows ih.1, he.flows ih.2⟩
      | running p => exact Safe.env ih he
      | exited => exact ⟨he.flows ih.1, he.flows ih.2⟩
    | enter hstep =>
      -- between items nothing is buffered behind a baseline
      have hwaits : s.Waits := h.head.2.2.1 hbefore.brokenReset
      have hsafe : Safe (flowRely setup) (fun _ => Impl.Flows []) (ownerRound setup) s := ownerRound_flows s ih.1 ⟨ih.2, hwaits⟩
      exact (hsafe.step hstep).mono fun again t _ hs => by rw [hround]; exact hs
    | run hstep => exact Safe.step ih hstep
    | again =>
      have hdone : Safe (flowRely setup) (afterRound (Impl.Flows []) (Impl.Flows [])) (.done true : OwnerProgram L Bool) s := ih
      exact ⟨hdone.inv, hdone.post⟩
    | leave =>
      have hdone : Safe (flowRely setup) (afterRound (Impl.Flows []) (Impl.Flows [])) (.done false : OwnerProgram L Bool) s := ih
      exact ⟨hdone.inv, hdone.post⟩

/-! ## From the submissions to the sessions -/

/-- The updates among the inputs counted, in the order of their tickets. -/
def suppliedUpdates (inputs : List (Option (RuntimeInput L))) : List (DepthUpdateInput L) :=
  inputs.filterMap fun input => input.bind RuntimeInput.depth

/-- The updates at all tickets are the updates supplied. -/
theorem filterMap_depthAt_all (inputs : List (Option (RuntimeInput L))) :
    (List.range' 1 inputs.length).filterMap (depthAt inputs) = suppliedUpdates inputs := by
  induction inputs using List.reverseRecOn with
  | nil => rfl
  | append_singleton inputs input ih =>
    have hbefore : (List.range' 1 inputs.length).filterMap (depthAt (inputs ++ [input])) = suppliedUpdates inputs := by
      rw [← ih]
      refine List.filterMap_congr fun ticket hticket => ?_
      rw [List.mem_range'_1] at hticket
      exact depthAt_append hticket.1 (by omega) [input]
    have hlast : depthAt (inputs ++ [input]) (1 + inputs.length) = input.bind RuntimeInput.depth := by simp [depthAt]
    rw [List.length_append, List.length_singleton, List.range'_concat, List.filterMap_append, suppliedUpdates, List.filterMap_append,
      hbefore, Nat.one_mul]
    cases hd : input.bind RuntimeInput.depth with
    | none => simp [hlast, hd, suppliedUpdates]
    | some update => simp [hlast, hd, suppliedUpdates]

/-- Tickets that ascend pick their updates from the inputs in order. -/
theorem filterMap_depthAt {inputs : List (Option (RuntimeInput L))} {tickets : List Nat} (ha : tickets.Pairwise (· < ·))
    (hr : ∀ ticket ∈ tickets, 1 ≤ ticket ∧ ticket ≤ inputs.length) :
    (tickets.filterMap (depthAt inputs)).Sublist (suppliedUpdates inputs) := by
  have hsubset : tickets ⊆ List.range' 1 inputs.length := fun ticket hticket => by
    have := hr ticket hticket
    rw [List.mem_range'_1]
    omega
  have hnodup : tickets.Nodup := ha.imp fun hlt => Nat.ne_of_lt hlt
  rw [← filterMap_depthAt_all]
  exact (List.sublist_of_subperm_of_pairwise (List.subperm_of_subset hnodup hsubset) ha List.pairwise_lt_range').filterMap _

/-- What a session sees of an update. -/
def DepthUpdateInput.content (input : DepthUpdateInput L) : Option Nat × L.DepthUpdate :=
  (input.provenance.connectionGeneration, input.update)

/-- The update in a record, if it carries one. -/
def updateOf : RecordContent L → Option (Option Nat × L.DepthUpdate)
  | (_, generation, .depthUpdate update) => some (generation, update)
  | (_, _, .subscriptionAccepted _) | (_, _, .snapshot _) => none

/-- The updates of a session, delivered or queued, oldest first. -/
def Subscriber.updates (sub : Subscriber L) : List (Option Nat × L.DepthUpdate) :=
  (sub.records.map recordContent).filterMap updateOf

/-- The updates of consecutive records are those they were made of. -/
theorem filterMap_updateContent (n : Nat) (updates : List (DepthUpdateInput L)) :
    (updateContent n updates).filterMap updateOf = updates.map DepthUpdateInput.content := by
  induction updates generalizing n with
  | nil => rfl
  | cons update rest ih => simp [updateContent, updateOf, DepthUpdateInput.content, ih]

/-- The updates of a session's content are those behind its snapshot. -/
theorem filterMap_sessionContent (accepted : SubscriptionAccepted) (snapshot : L.LocalSnapshot) (generation : Option Nat)
    (updates : List (DepthUpdateInput L)) :
    (sessionContent accepted snapshot generation updates).filterMap updateOf = updates.map DepthUpdateInput.content :=
  filterMap_updateContent 3 updates

/-- What was applied since an admission is the end of what was applied. -/
theorem appliedSince_suffix (channel : Nat) (log : List (BookEvent L)) : appliedSince channel log <:+ appliedUpdates log := by
  induction log with
  | nil => exact List.suffix_refl _
  | cons event past ih =>
    cases event with
    | applied input =>
      obtain ⟨before, hbefore⟩ := ih
      exact ⟨before, by rw [appliedSince, appliedUpdates, ← hbefore, List.append_assoc]⟩
    | admitted c projection =>
      unfold appliedSince
      split
      · exact List.nil_suffix
      · exact ih
    | received _ | installed _ | published _ _ | mismatched _ _ _ | reset | resetThrew => exact ih

/-- A session shows a stretch of what was applied, without a hole. -/
theorem Follows.updates {channel : Nat} {sub : Subscriber L} (h : Follows setup channel s.bookLog sub.records) :
    sub.updates <:+: (appliedUpdates s.bookLog).map DepthUpdateInput.content := by
  obtain ⟨accepted, snapshot, projection, generation, -, -, hprefix⟩ := h
  have hshown : sub.updates <+: (appliedSince channel s.bookLog).map DepthUpdateInput.content := by
    rw [← filterMap_sessionContent accepted snapshot generation]
    exact hprefix.filterMap _
  exact hshown.isInfix.trans ((appliedSince_suffix channel s.bookLog).map _).isInfix

/-- What becomes of the inputs, from their submission to the sessions. -/
structure InSubmissionOrder (inputs : List (Option (RuntimeInput L))) (ph : Phase (Impl L) (Outcome L)) (s : Impl L) : Prop where
  /-- Ticket `n` is that of the `n`-th submission counted. -/
  count : inputs.length = s.mail.lastAdmittedTicket
  ascending : (s.mail.ingress.map (·.ticket)).Pairwise (· < ·)
  waiting : ∀ item ∈ s.mail.ingress, 1 ≤ item.ticket ∧ inputs[item.ticket - 1]? = some (some item.input)
  /-- Each input waits, or has been taken, or has been discarded, and no two of these. -/
  settled : ∀ ticket, 1 ≤ ticket → ∀ input, inputs[ticket - 1]? = some (some input) →
    (ticket ∈ s.mail.ingress.map (·.ticket) ∨ ticket ∈ takenTickets s.ticketLog ∨ Discarded ticket s.ticketLog) ∧
    (ticket ∈ s.mail.ingress.map (·.ticket) → ticket ∉ takenTickets s.ticketLog ∧ ¬Discarded ticket s.ticketLog) ∧
    (ticket ∈ takenTickets s.ticketLog → ¬Discarded ticket s.ticketLog)
  /-- The ticket of a submission that threw is nowhere. -/
  lost : ∀ ticket, 1 ≤ ticket → inputs[ticket - 1]? = some none →
    ticket ∉ s.mail.ingress.map (·.ticket) ∧ ticket ∉ takenTickets s.ticketLog
  taken : (takenTickets s.ticketLog).Pairwise (· < ·)
  /-- Each update that was taken is received once and in its turn. Between items none is outstanding. -/
  received : ∃ pending, receivedUpdates s.bookLog ++ pending = (takenTickets s.ticketLog).filterMap (depthAt inputs) ∧
    pending.length ≤ 1 ∧ (ph = .head ∨ ph = .exited → pending = [])
  applied : Unbroken s.ticketLog → (appliedUpdates s.bookLog ++ s.book.bootstrap).Sublist (receivedUpdates s.bookLog)
  shown : ∀ (i : Nat) sub, s.channels[i]? = some sub → sub.updates <:+: (appliedUpdates s.bookLog).map DepthUpdateInput.content
  submitted : Unbroken s.ticketLog → ∀ (i : Nat) sub, s.channels[i]? = some sub →
    sub.updates.Sublist ((suppliedUpdates inputs).map DepthUpdateInput.content)

/-- In every run with every interleaving of callers, until the ticket counter comes round: tickets number the submissions counted, an
input waits until it is taken or discarded, and the updates of those taken are received once and in the order of submission. Where no
reset has thrown over a queue, what is applied, what is buffered and what a session shows are selections of them in that order; the
session's has no hole in what was applied. -/
theorem updates_in_submission_order {inputs : List (Option (RuntimeInput L))} {ph : Phase (Impl L) (Outcome L)}
    (h : Supplied setup inputs ph s) (hr : InRange s.ticketLog) : InSubmissionOrder inputs ph s := by
  obtain ⟨pending, hbalanced, hlength, hph⟩ := h.balanced
  have hb := hbalanced hr
  have hreach := h.reachable
  have htickets := hreach.inv.tickets hr
  have hcount := hb.count
  have hascending := takenTickets_ascending htickets.history
  have hrange : ∀ ticket ∈ takenTickets s.ticketLog, 1 ≤ ticket ∧ ticket ≤ inputs.length := fun ticket hticket => by
    rw [hcount]
    exact (htickets.given ticket).mp (Or.inl (htickets.accepted_of_taken (mem_takenTickets.mp hticket)))
  have happlied : Unbroken s.ticketLog → (appliedUpdates s.bookLog ++ s.book.bootstrap).Sublist (receivedUpdates s.bookLog) := fun hu => by
    have hflows : s.Flows [] := (hreach.flowing hu).inv
    unfold Impl.Flows at hflows
    rwa [List.append_nil] at hflows
  have hshown : ∀ (i : Nat) sub, s.channels[i]? = some sub →
      sub.updates <:+: (appliedUpdates s.bookLog).map DepthUpdateInput.content := fun i sub hsub =>
    (hreach.book.inv.follows i sub hsub).updates
  refine
    { count := hcount
      ascending := htickets.ascending
      waiting := fun item hitem => ⟨?_, hb.waiting item hitem⟩
      settled := fun ticket h1 input hinput => ⟨?_, fun hwaits => ?_, fun htaken => ?_⟩
      lost := fun ticket h1 hnone => ⟨fun hwaits => ?_, fun htaken => ?_⟩
      taken := hascending
      received := ⟨pending, hb.received, hlength, ?_⟩
      applied := happlied
      shown := hshown
      submitted := fun hu i sub hsub => ?_ }
  · exact ((htickets.given item.ticket).mp (Or.inl (htickets.queued _ (List.mem_map_of_mem hitem)).1)).1
  · have haccepted : .accepted ticket ∈ s.ticketLog := hb.given ticket h1 _ hinput
    exact (htickets.gone ticket haccepted).imp_right (Or.imp_left mem_takenTickets.mpr)
  · obtain ⟨-, hnot, hkept⟩ := htickets.queued ticket hwaits
    exact ⟨fun htaken => hnot (mem_takenTickets.mp htaken), hkept⟩
  · exact not_discarded_of_taken htickets.history (mem_takenTickets.mp htaken)
  · exact htickets.apart ticket (htickets.queued ticket hwaits).1 (hb.given ticket h1 _ hnone)
  · exact htickets.apart ticket (htickets.accepted_of_taken (mem_takenTickets.mp htaken)) (hb.given ticket h1 _ hnone)
  · rintro (rfl | rfl)
    · exact hph
    · exact hph
  · -- shown, applied, received, taken, submitted: each a selection of the next
    have hreceived : (receivedUpdates s.bookLog).Sublist (suppliedUpdates inputs) := by
      refine List.Sublist.trans ?_ (filterMap_depthAt hascending hrange)
      rw [← hb.received]
      exact List.sublist_append_left _ _
    have hsubmitted := ((List.sublist_append_left _ _).trans (happlied hu)).trans hreceived
    exact (hshown i sub hsub).sublist.trans (hsubmitted.map _)

/-- A submission to the runtime with its new session throws, and the next is accepted. -/
def sessionWithLoss : CountingConfig :=
  ((countingAdmitted.call (fun s => (s.submit countingSetup (depthInput 9 none) true).2)).call
    (fun s => (s.submit countingSetup (depthInput 7 (some 1)) false).2)).run 20

/-- The run with its four submissions on record, one of them lost. -/
theorem sessionWithLoss_supplied : Supplied countingSetup
    [some (snapshotInput 5 (some 1)), some (depthInput 6 (some 1)), none, some (depthInput 7 (some 1))]
    sessionWithLoss.1 sessionWithLoss.2 := by
  have hstarted : Supplied countingSetup [] countingStarted.1 countingStarted.2 :=
    (Supplied.other .initial (.env .start) rfl).advances calmOutcome 2
  have hlive : Supplied countingSetup [some (snapshotInput 5 (some 1)), some (depthInput 6 (some 1))] countingLive.1 countingLive.2 :=
    (((hstarted.submit (snapshotInput 5 (some 1)) false rfl).submit (depthInput 6 (some 1)) false rfl)).advances calmOutcome 30
  have hadmitted : Supplied countingSetup [some (snapshotInput 5 (some 1)), some (depthInput 6 (some 1))]
      countingAdmitted.1 countingAdmitted.2 :=
    (Supplied.other hlive (.env (.admitSubscription ⟨"r", "g", none⟩ false)) rfl).advances calmOutcome 20
  exact ((hadmitted.lose (depthInput 9 none) true rfl).submit (depthInput 7 (some 1)) false rfl).advances calmOutcome 20

/-- The third submission throws behind its ticket; the session goes on with the fourth one. -/
theorem updates_in_submission_order_with_loss :
    InSubmissionOrder [some (snapshotInput 5 (some 1)), some (depthInput 6 (some 1)), none, some (depthInput 7 (some 1))]
        sessionWithLoss.1 sessionWithLoss.2 ∧
      takenTickets sessionWithLoss.2.ticketLog = [1, 2, 4] ∧ Unbroken sessionWithLoss.2.ticketLog ∧
      ∃ sub, sessionWithLoss.2.channels[0]? = some sub ∧ sub.updates = [(some 1, (7 : Nat))] :=
  ⟨updates_in_submission_order sessionWithLoss_supplied (by decide), rfl, by decide, _, rfl, rfl⟩

end MarketDataGateway.MarketRuntime
