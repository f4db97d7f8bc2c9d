import MarketDataGateway.Lib.Notes
import MarketDataGateway.Runtime.Book
import MarketDataGateway.Runtime.Progress

/-!
# What was submitted, and what the owner has taken of it

`Supplied` is a run together with the inputs whose submission it has counted, in order: ticket `n` is the `n`-th of them, and a ticket
that was lost stands for nothing. Nothing in the program keeps that list. The owner takes the ingress item by item, and it receives the
update of an item right after it has taken it, before anything else: `Supplied.balanced`.
-/

namespace MarketDataGateway.MarketRuntime

open OrderBook Threads

variable {L : ProjectionLibrary} {setup : Setup L} {s t : Impl L}

/-- The update that an input carries. -/
def RuntimeInput.depth : RuntimeInput L → Option (DepthUpdateInput L)
  | .depthUpdate input => some input
  | .snapshot _ | .failure _ => none

/-- The updates that the owner has received, oldest first. -/
def receivedUpdates : List (BookEvent L) → List (DepthUpdateInput L)
  | [] => []
  | .received input :: past => receivedUpdates past ++ [input]
  | _ :: past => receivedUpdates past

/-- The updates that the projection has applied, oldest first. -/
def appliedUpdates : List (BookEvent L) → List (DepthUpdateInput L)
  | [] => []
  | .applied input :: past => appliedUpdates past ++ [input]
  | _ :: past => appliedUpdates past

/-- The tickets that the owner has taken, oldest first. -/
def takenTickets : List TicketEvent → List Nat
  | [] => []
  | .taken ticket :: past => takenTickets past ++ [ticket]
  | _ :: past => takenTickets past

/-- A run and the inputs whose submission it has counted; one that threw has left nothing. In the other steps no ticket is given
out. -/
inductive Supplied (setup : Setup L) : List (Option (RuntimeInput L)) → Phase (Impl L) (Outcome L) → Impl L → Prop where
  | initial : Supplied setup [] (.running ownerPrologue) (Impl.initial setup)
  | submit {inputs ph s} (input : RuntimeInput L) (throws : Bool) (h : Supplied setup inputs ph s)
      (ha : (s.submit setup input throws).1 = some .accepted) :
      Supplied setup (inputs ++ [some input]) ph (s.submit setup input throws).2
  | lose {inputs ph s} (input : RuntimeInput L) (throws : Bool) (h : Supplied setup inputs ph s)
      (ha : (s.submit setup input throws).1 = none) : Supplied setup (inputs ++ [none]) ph (s.submit setup input throws).2
  | other {inputs ph ph' s t} (h : Supplied setup inputs ph s) (hs : RunStep setup ph s ph' t)
      (hn : t.mail.lastAdmittedTicket = s.mail.lastAdmittedTicket) : Supplied setup inputs ph' t

/-- A run with its submissions on record is a run. -/
theorem Supplied.reachable {inputs : List (Option (RuntimeInput L))} {ph : Phase (Impl L) (Outcome L)} (h : Supplied setup inputs ph s) :
    Reachable setup ph s := by
  induction h with
  | initial => exact .initial
  | submit input throws _ _ ih | lose input throws _ _ ih => exact .step ih (.env (.submit input throws))
  | other _ hs _ ih => exact .step ih hs

/-! ## The tickets that were taken -/

/-- The tickets taken are those that the history says are. -/
theorem mem_takenTickets {log : List TicketEvent} {ticket : Nat} : ticket ∈ takenTickets log ↔ .taken ticket ∈ log := by
  induction log with
  | nil => simp [takenTickets]
  | cons event past ih => cases event <;> simp [takenTickets, ih, or_comm, eq_comm]

/-- Other events add no ticket to those taken. -/
theorem takenTickets_other {log : List TicketEvent} {event : TicketEvent} (he : ∀ ticket, event ≠ .taken ticket) :
    takenTickets (event :: log) = takenTickets log := by
  cases event with
  | taken ticket => exact absurd rfl (he ticket)
  | _ => rfl

/-- Tickets are taken in the order in which they were given out, and none twice. -/
theorem takenTickets_ascending {log : List TicketEvent} (h : Every TicketEvent.Allowed log) :
    (takenTickets log).Pairwise (· < ·) := by
  induction log with
  | nil => exact List.Pairwise.nil
  | cons event past ih =>
    have hpast := ih h.2
    by_cases he : ∃ ticket, event = .taken ticket
    · obtain ⟨ticket, rfl⟩ := he
      obtain ⟨haccepted, hfresh, hkept, -⟩ := h.1
      refine List.pairwise_append.mpr ⟨hpast, List.pairwise_singleton _ _, fun earlier hearlier later hlater => ?_⟩
      obtain rfl := List.mem_singleton.mp hlater
      have htaken := mem_takenTickets.mp hearlier
      rcases Nat.lt_trichotomy earlier later with hlt | rfl | hgt
      · exact hlt
      · exact absurd htaken hfresh
      · -- a ticket below one that was taken was dealt with by then
        rcases done_of_taken h.2 hgt htaken haccepted with hfinished | hdiscarded
        · obtain ⟨after, before, rfl⟩ := List.append_of_mem hfinished
          exact absurd (List.mem_append_right _ (List.mem_cons_of_mem _ (h.2.at_event rfl).1)) hfresh
        · exact absurd hdiscarded hkept
    · rw [takenTickets_other fun ticket heq => he ⟨ticket, heq⟩]
      exact hpast

/-! ## What the sections of a round do to the supply -/

/-- A section that takes nothing from the ingress and receives, buffers and applies nothing. It may forget items that wait. -/
structure LeavesSupply (s t : Impl L) : Prop where
  received : receivedUpdates t.bookLog = receivedUpdates s.bookLog
  applied : appliedUpdates t.bookLog = appliedUpdates s.bookLog
  taken : takenTickets t.ticketLog = takenTickets s.ticketLog
  last : t.mail.lastAdmittedTicket = s.mail.lastAdmittedTicket
  ingress : t.mail.ingress <:+ s.mail.ingress
  bootstrap : t.book.bootstrap <:+ s.book.bootstrap

namespace LeavesSupply

/-- Nothing happens to the supply when nothing happens. -/
theorem refl (s : Impl L) : LeavesSupply s s := ⟨rfl, rfl, rfl, rfl, List.suffix_refl _, List.suffix_refl _⟩

/-- Leaving the supply alone twice leaves it alone. -/
theorem trans {u : Impl L} (h : LeavesSupply s t) (h' : LeavesSupply t u) : LeavesSupply s u where
  received := h'.received.trans h.received
  applied := h'.applied.trans h.applied
  taken := h'.taken.trans h.taken
  last := h'.last.trans h.last
  ingress := h'.ingress.trans h.ingress
  bootstrap := h'.bootstrap.trans h.bootstrap

/-- A section that leaves the ingress and the buffer alone, and notes nothing that matters. -/
theorem same (hr : receivedUpdates t.bookLog = receivedUpdates s.bookLog) (ha : appliedUpdates t.bookLog = appliedUpdates s.bookLog)
    (ht : takenTickets t.ticketLog = takenTickets s.ticketLog) (hl : t.mail.lastAdmittedTicket = s.mail.lastAdmittedTicket)
    (hi : t.mail.ingress = s.mail.ingress) (hb : t.book.bootstrap = s.book.bootstrap) : LeavesSupply s t :=
  ⟨hr, ha, ht, hl, hi ▸ List.suffix_refl _, hb ▸ List.suffix_refl _⟩

/-- Discarding the ingress takes inputs away and adds none. -/
theorem discard (s : Impl L) : LeavesSupply s s.discardIngressLocked := by
  unfold Impl.discardIngressLocked
  split
  · exact refl s
  · exact ⟨rfl, rfl, rfl, rfl, List.nil_suffix, List.suffix_refl _⟩

/-- Completing an admission leaves the supply alone. -/
theorem complete (request : Nat) (result : SubscriptionAdmissionResult) (s : Impl L) :
    LeavesSupply s (s.completeAdmissionRequestUnlocked request result) := by
  unfold Impl.completeAdmissionRequestUnlocked
  split
  · cases result <;> exact same rfl rfl rfl rfl rfl rfl
  · exact refl s

/-- The gate of an admission leaves the supply alone. -/
theorem gate (request : Nat) (s : Impl L) : LeavesSupply s (s.gateAdmission request).2 := by
  unfold Impl.gateAdmission
  split_ifs
  · exact complete _ _ s
  · exact complete _ _ s
  · exact refl s

end LeavesSupply

/-- Every chore of the owner leaves the supply alone. -/
theorem allChores_leavesSupply : AllChores setup (LeavesSupply (L := L)) where
  look := .refl
  begin _ := .same rfl rfl rfl rfl rfl rfl
  terminalize _ _ _ _ _ _ := .same rfl rfl rfl rfl rfl rfl
  close _ _ := .same rfl rfl rfl rfl rfl rfl
  fault reason adapterError s := by
    unfold Impl.faultLocked
    dsimp only
    rw [Impl.answerSnapshotLocked_eq]
    refine LeavesSupply.trans (t := Impl.discardIngressLocked _) (LeavesSupply.trans ?_ (.discard _)) (.same rfl rfl rfl rfl rfl rfl)
    exact ⟨rfl, rfl, rfl, rfl, List.suffix_refl _, List.nil_suffix⟩
  publish s := by
    unfold Impl.publishProjectionStateLocked
    dsimp only
    split
    · refine LeavesSupply.trans ?_ (.discard _)
      exact .same rfl rfl rfl rfl rfl rfl
    · exact .same rfl rfl rfl rfl rfl rfl
  admitUpdate channel input publishedAt w s := by
    unfold Impl.admitUpdate
    split
    · exact .refl s
    · dsimp only
      split_ifs <;> exact .same rfl rfl rfl rfl rfl rfl
  popBootstrap s := by
    unfold Impl.popBootstrap
    split
    · exact .refl s
    · rename_i front rest hb
      exact ⟨rfl, rfl, rfl, rfl, List.suffix_refl _, hb ▸ List.suffix_cons _ _⟩
  clearBootstrap _ := ⟨rfl, rfl, rfl, rfl, List.suffix_refl _, List.nil_suffix⟩
  install input w s := by
    obtain ⟨projection, he⟩ := installBaseline_eq setup input w s
    rw [he]
    exact .same rfl rfl rfl rfl rfl rfl
  recordInstall _ _ := .same rfl rfl rfl rfl rfl rfl
  setGeneration _ _ := .same rfl rfl rfl rfl rfl rfl
  finishTicket _ _ := .same rfl rfl rfl rfl rfl rfl
  completeSnapshot result s := by
    unfold Impl.completeSnapshotLocked
    split
    · exact .refl s
    · cases result <;> exact .same rfl rfl rfl rfl rfl rfl
  checkReset s := by
    unfold Impl.checkReset
    split
    · exact .refl s
    · dsimp only
      split <;> exact .same rfl rfl rfl rfl rfl rfl
  reset _ := ⟨rfl, rfl, rfl, rfl, List.suffix_refl _, List.nil_suffix⟩
  abandonReset _ _ := .same rfl rfl rfl rfl rfl rfl
  failReset _ := .same rfl rfl rfl rfl rfl rfl
  completeReset result s := by
    unfold Impl.completeResetLocked
    split
    · exact .refl s
    · dsimp only
      split_ifs <;> exact .same rfl rfl rfl rfl rfl rfl
  completeShutdown _ := .same rfl rfl rfl rfl rfl rfl
  leave s := by
    unfold Impl.leaveLocked
    dsimp only
    rw [Impl.answerSnapshotLocked_eq, Impl.answerResetLocked_eq]
    exact .same rfl rfl rfl rfl rfl rfl
  exit _ := .same rfl rfl rfl rfl rfl rfl
  roster _ _ _ := .same rfl rfl rfl rfl rfl rfl
  complete := .complete
  gate := .gate
  stage subscription depthLimit publishedAt w s := by
    unfold Impl.stageSession
    split
    · exact .refl s
    · split <;> exact .same rfl rfl rfl rfl rfl rfl
  commit request channel s := by
    unfold Impl.commitAdmission
    dsimp only
    split
    · refine LeavesSupply.trans ?_ (.complete _ _ _)
      exact .same rfl rfl rfl rfl rfl rfl
    · exact .gate request s

/-- Recording an application leaves the supply alone. -/
theorem leavesSupply_recordApply (input : DepthUpdateInput L) (result : L.ApplyResult) (s : Impl L) : LeavesSupply s (s.recordApply input result) :=
  .same rfl rfl rfl rfl rfl rfl

/-- A section that receives the updates `now`, takes no item and gives out no ticket. It may forget items of the ingress. -/
structure Receives (now : List (DepthUpdateInput L)) (s t : Impl L) : Prop where
  received : receivedUpdates t.bookLog = receivedUpdates s.bookLog ++ now
  taken : takenTickets t.ticketLog = takenTickets s.ticketLog
  last : t.mail.lastAdmittedTicket = s.mail.lastAdmittedTicket
  ingress : t.mail.ingress <:+ s.mail.ingress

/-- What leaves the supply alone receives nothing. -/
theorem LeavesSupply.receives (h : LeavesSupply s t) : Receives [] s t :=
  ⟨by rw [h.received, List.append_nil], h.taken, h.last, h.ingress⟩

/-- Applying an update receives nothing anew. -/
theorem receives_apply (input : DepthUpdateInput L) (w : Outcome L) (s : Impl L) :
    Receives [] s (s.applyToProjection setup input w).2 := by
  unfold Impl.applyToProjection
  repeat' split
  all_goals exact ⟨(List.append_nil _).symm, rfl, rfl, List.suffix_refl _⟩

/-- An update is received in the section that decides where it goes. -/
theorem receives_buffer (input : DepthUpdateInput L) (w : Outcome L) (s : Impl L) :
    Receives [input] s (s.bufferDepthUpdate setup input w).2 := by
  rcases bufferDepthUpdate_cases setup input w s with ⟨-, he⟩ | ⟨-, -, he⟩ | ⟨-, he⟩ <;> rw [he] <;>
    exact ⟨rfl, rfl, rfl, List.suffix_refl _⟩

/-! ## What a round receives -/

/-- The update that comes with the work. -/
def Work.supply : Work L → List (DepthUpdateInput L)
  | .item ingressItem => ingressItem.input.depth.toList
  | _ => []

/-- A piece of the owner that receives nothing. -/
def ReceivesNothing (α : Type) (p : OwnerProgram L α) : Prop := p.All (Receives [])

/-- The owner's routine receives nothing. -/
theorem routine_receives : Routine setup LeavesSupply (ReceivesNothing (L := L)) :=
  allChores_leavesSupply.routine (fun hp => hp.mono fun _ _ h => h.receives) Program.All.bind

/-- An application receives nothing anew. -/
theorem applyUpdate_receives (input : DepthUpdateInput L) : ReceivesNothing _ (applyUpdate setup input) := by
  have hroutine : Routine setup LeavesSupply (ReceivesNothing (L := L)) := routine_receives
  exact hroutine.applyUpdate (Program.All.atomic fun w s => receives_apply input w s) fun result =>
    hroutine.modify fun s => leavesSupply_recordApply input result s

/-- An update that is processed is received. -/
theorem processDepthUpdate_notes (input : DepthUpdateInput L) : (processDepthUpdate setup input).Notes Receives [input] := by
  have hroutine : Routine setup LeavesSupply (ReceivesNothing (L := L)) := routine_receives
  refine Program.Notes.bind_silent (Program.Notes.atomic fun w s => receives_buffer input w s) fun call => ?_
  cases call with
  | overflow => exact hroutine.faulting _ _ _
  | threw => trivial
  | buffered => exact hroutine.publishing _
  | apply => exact applyUpdate_receives input

/-- Processing an input receives the update in it, if it is one. -/
theorem processInput_notes (input : RuntimeInput L) : (processInput setup input).Notes Receives input.depth.toList := by
  have hroutine : Routine setup LeavesSupply (ReceivesNothing (L := L)) := routine_receives
  cases input with
  | depthUpdate input => exact processDepthUpdate_notes input
  | snapshot input => exact .of_all (hroutine.processSnapshot applyUpdate_receives input)
  | failure failure => exact .of_all (hroutine.faulting _ _ _)

/-- Whatever the owner does with the work it has taken, it receives the update that came with it, once, and no other. -/
theorem perform_notes (work : Work L) : (perform setup work).Notes Receives work.supply := by
  have hroutine : Routine setup LeavesSupply (ReceivesNothing (L := L)) := routine_receives
  have hsilent : (∀ item, work ≠ .item item) → (perform setup work).Notes Receives [] := fun hwork =>
    .of_all (hroutine.perform (fun item he => absurd he (hwork item)) fun _ _ _ =>
      hroutine.all (allChores_leavesSupply.all_performAdmission _ _))
  cases work with
  | item item =>
    exact (Program.Notes.bind_silent (processInput_notes item.input) fun completion => hroutine.finishing _ completion).bind_silent
      fun _ => trivial
  | publicationShutdown | fault _ | reset | admission _ _ | snapshot | removalSweep | exit | nothing =>
    exact hsilent fun _ he => by cases he

/-- What taking work on does: the front of the ingress is taken, or nothing happens to the supply. -/
theorem takeWork_supply (s : Impl L) :
    (∃ front rest, s.mail.ingress = front :: rest ∧ s.takeWork.1 = .item front ∧ s.takeWork.2.mail.ingress = rest ∧
      s.takeWork.2.mail.lastAdmittedTicket = s.mail.lastAdmittedTicket ∧ s.takeWork.2.bookLog = s.bookLog ∧
      s.takeWork.2.ticketLog = .taken front.ticket :: s.ticketLog) ∨
    s.takeWork.1.supply = [] ∧ LeavesSupply s s.takeWork.2 := by
  unfold Impl.takeWork
  split
  · exact Or.inr ⟨rfl, .refl s⟩
  · split
    · exact Or.inr ⟨rfl, .same rfl rfl rfl rfl rfl rfl⟩
    · split
      · exact Or.inr ⟨rfl, .refl s⟩
      · split
        · exact Or.inr ⟨rfl, .same rfl rfl rfl rfl rfl rfl⟩
        · split
          · exact Or.inr ⟨rfl, .refl s⟩
          · split
            · exact Or.inr ⟨rfl, .same rfl rfl rfl rfl rfl rfl⟩
            · split
              · rename_i front rest hi
                exact Or.inl ⟨front, rest, hi, rfl, rfl, rfl, rfl, rfl⟩
              · split <;> exact Or.inr ⟨rfl, .refl s⟩

/-! ## The callers -/

/-- The section is a submission that is counted: its input is accepted, or lost. -/
def Counts (setup : Setup L) (input : RuntimeInput L) (throws : Bool) (s : Impl L) : Prop :=
  (s.submit setup input throws).1 = some .accepted ∨ (s.submit setup input throws).1 = none

/-- A caller's section is a submission that is counted, or it leaves the supply alone. -/
theorem ClientStep.supply (h : ClientStep setup s t) :
    (∃ input throws, Counts setup input throws s ∧ t = (s.submit setup input throws).2) ∨
    t.mail.lastAdmittedTicket = s.mail.lastAdmittedTicket ∧ t.mail.ingress = s.mail.ingress ∧
      takenTickets t.ticketLog = takenTickets s.ticketLog := by
  cases h with
  | submit input throws =>
    by_cases ha : Counts setup input throws s
    · exact Or.inl ⟨input, throws, ha, rfl⟩
    · right
      revert ha
      unfold Counts Impl.submit
      split_ifs <;> intro ha
      iterate 5 exact ⟨rfl, rfl, rfl⟩
      · exact absurd (Or.inr rfl) ha
      · exact absurd (Or.inl rfl) ha
  | start => unfold Impl.start; split_ifs <;> exact Or.inr ⟨rfl, rfl, rfl⟩
  | requestStop => unfold Impl.requestStop; split_ifs <;> exact Or.inr ⟨rfl, rfl, rfl⟩
  | finishStop =>
    unfold Impl.finishStop
    dsimp only
    rw [Impl.answerSnapshotLocked_eq]
    exact Or.inr ⟨rfl, rfl, rfl⟩
  | observe => unfold Impl.observe; split <;> exact Or.inr ⟨rfl, rfl, rfl⟩
  | requestReset kind => unfold Impl.requestReset; split_ifs <;> exact Or.inr ⟨rfl, rfl, rfl⟩
  | returnReset _ => unfold Impl.returnReset; split <;> exact Or.inr ⟨rfl, rfl, rfl⟩
  | captureSnapshot => unfold Impl.captureSnapshot; split_ifs <;> exact Or.inr ⟨rfl, rfl, rfl⟩
  | returnSnapshot _ => unfold Impl.returnSnapshot; split <;> exact Or.inr ⟨rfl, rfl, rfl⟩
  | admitSubscription subscription throws =>
    unfold Impl.admitOrderBookSubscription; split_ifs <;> exact Or.inr ⟨rfl, rfl, rfl⟩
  | shutdownPublication => unfold Impl.shutdownPublication; dsimp only; split_ifs <;> exact Or.inr ⟨rfl, rfl, rfl⟩
  | observeReturns _ _ | observeTimesOut _ | waitReturns _ | notifySubscriberClosed | closePublicationAdmission | peek _
  | acknowledge _ _ | closeFromWriter _ => exact Or.inr ⟨rfl, rfl, rfl⟩

/-- An accepted submission puts its input behind the ingress, under the next ticket. -/
theorem submit_accepted {input : RuntimeInput L} {throws : Bool} (ha : (s.submit setup input throws).1 = some .accepted) :
    (s.submit setup input throws).2 = { s with
      mail.lastAdmittedTicket := s.nextTicket
      mail.ingress := s.mail.ingress ++ [⟨s.nextTicket, input⟩]
      mail.observation.ingressOccupancy := s.mail.ingress.length + 1
      ticketLog := .accepted s.nextTicket :: s.ticketLog } := by
  revert ha
  unfold Impl.submit
  split_ifs <;> intro ha
  iterate 6 cases ha
  rfl

/-- A submission that throws leaves the ticket it has counted. -/
theorem submit_lost {input : RuntimeInput L} {throws : Bool} (ha : (s.submit setup input throws).1 = none) :
    (s.submit setup input throws).2 = { s with
      mail.lastAdmittedTicket := s.nextTicket
      ticketLog := .lost s.nextTicket :: s.ticketLog } := by
  revert ha
  unfold Impl.submit
  split_ifs <;> intro ha
  iterate 5 cases ha
  · rfl
  · cases ha

/-- The next ticket is another one. -/
theorem nextTicket_ne (s : Impl L) : s.nextTicket ≠ s.mail.lastAdmittedTicket := by
  unfold Impl.nextTicket
  omega

/-! ## Runs -/

/-- The history only grows. -/
theorem ClientStep.log_suffix (h : ClientStep setup s t) : s.ticketLog <:+ t.ticketLog := by
  have hsame : ∀ u : Impl L, u.ticketLog = s.ticketLog → s.ticketLog <:+ u.ticketLog := fun u hu => hu ▸ List.suffix_refl _
  cases h with
  | start => unfold Impl.start; split_ifs <;> exact hsame _ rfl
  | requestStop => unfold Impl.requestStop; split_ifs <;> exact hsame _ rfl
  | finishStop => unfold Impl.finishStop; dsimp only; rw [Impl.answerSnapshotLocked_eq]; exact hsame _ rfl
  | submit input throws =>
    unfold Impl.submit
    split_ifs
    iterate 4 exact hsame _ rfl
    all_goals exact List.suffix_cons _ _
  | observe =>
    unfold Impl.observe
    split
    · exact List.suffix_cons _ _
    · exact (List.suffix_cons _ _).trans (List.suffix_cons _ _)
  | observeReturns _ _ => exact List.suffix_cons _ _
  | requestReset kind => unfold Impl.requestReset; split_ifs <;> exact hsame _ rfl
  | returnReset _ => unfold Impl.returnReset; split <;> exact hsame _ rfl
  | captureSnapshot => unfold Impl.captureSnapshot; split_ifs <;> exact hsame _ rfl
  | returnSnapshot _ => unfold Impl.returnSnapshot; split <;> exact hsame _ rfl
  | admitSubscription subscription throws => unfold Impl.admitOrderBookSubscription; split_ifs <;> exact hsame _ rfl
  | shutdownPublication => unfold Impl.shutdownPublication; dsimp only; split_ifs <;> exact hsame _ rfl
  | observeTimesOut _ | waitReturns _ | notifySubscriberClosed | closePublicationAdmission | peek _ | acknowledge _ _
  | closeFromWriter _ => exact hsame _ rfl

/-- The history only grows. -/
theorem Reachable.log_suffix {ph ph' : Phase (Impl L) (Outcome L)} (h : Reachable setup ph s) (hs : RunStep setup ph s ph' t) :
    s.ticketLog <:+ t.ticketLog := by
  rcases h.move hs with he | hg | he
  · exact he.log_suffix
  · obtain ⟨new, hlog, -⟩ := (Advances.section hg).log
    exact ⟨new, hlog.symm⟩
  · exact he ▸ List.suffix_refl _

/-- What is in range was in range before. -/
theorem InRange.of_suffix {log log' : List TicketEvent} (h : InRange log') (hs : log <:+ log') : InRange log := by
  obtain ⟨new, rfl⟩ := hs
  induction new with
  | nil => exact h
  | cons event new ih => exact ih h.past

/-- How the history records what a ticket was given to. -/
def givenTo (ticket : Nat) : Option (RuntimeInput L) → TicketEvent
  | some _ => .accepted ticket
  | none => .lost ticket

/-- The update of the input that was submitted under the ticket. -/
def depthAt (inputs : List (Option (RuntimeInput L))) (ticket : Nat) : Option (DepthUpdateInput L) :=
  inputs[ticket - 1]?.join.bind RuntimeInput.depth

/-- Later submissions do not change what was submitted under a ticket. -/
theorem depthAt_append {inputs : List (Option (RuntimeInput L))} {ticket : Nat} (h1 : 1 ≤ ticket)
    (hle : ticket ≤ inputs.length) (later : List (Option (RuntimeInput L))) :
    depthAt (inputs ++ later) ticket = depthAt inputs ticket := by
  rw [depthAt, depthAt, List.getElem?_append_left (by omega)]

/-- The inputs and the state agree: on the tickets given out, on the items that wait, and on the updates that came with the tickets
taken, of which the owner is still to receive `pending`. -/
structure Balanced (inputs : List (Option (RuntimeInput L))) (pending : List (DepthUpdateInput L)) (s : Impl L) : Prop where
  count : inputs.length = s.mail.lastAdmittedTicket
  given : ∀ ticket, 1 ≤ ticket → ∀ input, inputs[ticket - 1]? = some input → givenTo ticket input ∈ s.ticketLog
  waiting : ∀ item ∈ s.mail.ingress, inputs[item.ticket - 1]? = some (some item.input)
  received : receivedUpdates s.bookLog ++ pending = (takenTickets s.ticketLog).filterMap (depthAt inputs)

namespace Balanced

variable {inputs : List (Option (RuntimeInput L))} {pending : List (DepthUpdateInput L)}

/-- What was given out stays given out. -/
theorem given_suffix (h : Balanced inputs pending s) (hlog : s.ticketLog <:+ t.ticketLog) (ticket : Nat) (h1 : 1 ≤ ticket)
    (input : Option (RuntimeInput L)) (hi : inputs[ticket - 1]? = some input) : givenTo ticket input ∈ t.ticketLog :=
  hlog.mem (h.given ticket h1 input hi)

/-- What was outstanding is received in its turn. -/
theorem receives {now later : List (DepthUpdateInput L)} (h : Balanced inputs (now ++ later) s) (hr : Receives now s t)
    (hlog : s.ticketLog <:+ t.ticketLog) : Balanced inputs later t where
  count := h.count.trans hr.last.symm
  given := h.given_suffix hlog
  waiting item hitem := h.waiting item (hr.ingress.mem hitem)
  received := by rw [hr.received, hr.taken, List.append_assoc]; exact h.received

/-- The owner takes the front of the ingress; the update that comes with it is the next to be received. -/
theorem take {front : IngressItem L} {rest : List (IngressItem L)} (h : Balanced inputs [] s)
    (hi : s.mail.ingress = front :: rest) (ht : t.mail.ingress = rest)
    (hl : t.mail.lastAdmittedTicket = s.mail.lastAdmittedTicket) (hb : t.bookLog = s.bookLog)
    (hlog : t.ticketLog = .taken front.ticket :: s.ticketLog) : Balanced inputs front.input.depth.toList t where
  count := h.count.trans hl.symm
  given := h.given_suffix (hlog ▸ List.suffix_cons _ _)
  waiting item hitem := h.waiting item (hi ▸ List.mem_cons_of_mem _ (ht ▸ hitem))
  received := by
    have hinput : depthAt inputs front.ticket = front.input.depth := by
      rw [depthAt, h.waiting front (hi ▸ List.mem_cons_self)]
      rfl
    rw [hb, hlog, takenTickets, List.filterMap_append, ← h.received, List.append_nil]
    cases hd : front.input.depth with
    | none => simp [hinput, hd]
    | some update => simp [hinput, hd]

/-- One more input is counted; the state has its ticket, and the item if there is one. -/
theorem count_one {input : Option (RuntimeInput L)} (h : Balanced inputs pending s)
    (hf : TicketOrder s.mail.ingress s.mail.lastAdmittedTicket s.mail.processedTicket s.ticketLog)
    (hl : t.mail.lastAdmittedTicket = s.mail.lastAdmittedTicket + 1) (hb : t.bookLog = s.bookLog)
    (hlog : t.ticketLog = givenTo (s.mail.lastAdmittedTicket + 1) input :: s.ticketLog)
    (hi : ∀ item ∈ t.mail.ingress, item ∈ s.mail.ingress ∨
      item.ticket = s.mail.lastAdmittedTicket + 1 ∧ input = some item.input) : Balanced (inputs ++ [input]) pending t where
  count := by rw [List.length_append, List.length_singleton, h.count, hl]
  given ticket h1 input' hget := by
    rcases Nat.lt_or_ge (ticket - 1) inputs.length with hlt | hge
    · rw [List.getElem?_append_left hlt] at hget
      exact h.given_suffix (hlog ▸ List.suffix_cons _ _) ticket h1 input' hget
    · have hbound := (List.getElem?_eq_some_iff.mp hget).1
      rw [List.length_append, List.length_singleton] at hbound
      have hticket : ticket = s.mail.lastAdmittedTicket + 1 := by have := h.count; omega
      rw [List.getElem?_append_right hge, show ticket - 1 - inputs.length = 0 by omega] at hget
      cases hget
      rw [hlog, hticket]
      exact List.mem_cons_self
  waiting item hitem := by
    rcases hi item hitem with hold | ⟨hticket, hinput⟩
    · have hget := h.waiting item hold
      rw [List.getElem?_append_left (List.getElem?_eq_some_iff.mp hget).1]
      exact hget
    · rw [hticket, Nat.add_sub_cancel, ← h.count, List.getElem?_append_right (Nat.le_refl _), Nat.sub_self, hinput]
      rfl
  received := by
    have htaken : takenTickets t.ticketLog = takenTickets s.ticketLog := by
      rw [hlog]
      exact takenTickets_other fun ticket => by cases input <;> simp [givenTo]
    rw [hb, htaken]
    refine h.received.trans (List.filterMap_congr fun ticket hticket => ?_)
    -- a ticket that was taken was given out before
    have hrange := (hf.given ticket).mp (Or.inl (hf.accepted_of_taken (mem_takenTickets.mp hticket)))
    exact (depthAt_append hrange.1 (h.count ▸ hrange.2) [input]).symm

/-- A submission is counted. -/
theorem submit {input : RuntimeInput L} {throws : Bool} (h : Balanced inputs pending s)
    (hf : TicketFacts s.mail.ingress s.mail.lastAdmittedTicket s.mail.processedTicket s.ticketLog)
    (hr : InRange (s.submit setup input throws).2.ticketLog) (ha : (s.submit setup input throws).1 = some .accepted) :
    Balanced (inputs ++ [some input]) pending (s.submit setup input throws).2 := by
  rw [submit_accepted ha] at hr ⊢
  have hf := hf hr.past
  have hnext : s.nextTicket = s.mail.lastAdmittedTicket + 1 := succ_mod_of_inRange hf.total hr
  refine h.count_one hf hnext rfl (by rw [hnext]; rfl) fun item hitem => ?_
  rcases List.mem_append.mp hitem with hold | hnew
  · exact Or.inl hold
  · rw [List.mem_singleton.mp hnew]
    exact Or.inr ⟨hnext, rfl⟩

/-- A submission is counted and lost. -/
theorem lose {input : RuntimeInput L} {throws : Bool} (h : Balanced inputs pending s)
    (hf : TicketFacts s.mail.ingress s.mail.lastAdmittedTicket s.mail.processedTicket s.ticketLog)
    (hr : InRange (s.submit setup input throws).2.ticketLog) (ha : (s.submit setup input throws).1 = none) :
    Balanced (inputs ++ [none]) pending (s.submit setup input throws).2 := by
  rw [submit_lost ha] at hr ⊢
  have hf := hf hr.past
  have hnext : s.nextTicket = s.mail.lastAdmittedTicket + 1 := succ_mod_of_inRange hf.total hr
  exact h.count_one hf hnext rfl (by rw [hnext]; rfl) fun item hitem => Or.inl hitem

end Balanced

/-- An input is at most one update. -/
theorem RuntimeInput.length_depth (input : RuntimeInput L) : input.depth.toList.length ≤ 1 := by
  cases input <;> simp [RuntimeInput.depth]

/-- A piece of work brings at most one input. -/
theorem Work.length_supply (work : Work L) : work.supply.length ≤ 1 := by
  cases work with
  | item ingressItem => exact ingressItem.input.length_depth
  | _ => exact Nat.zero_le _

/-- Somewhere in a round the owner is still to receive at most what came with the item it has taken. -/
theorem Supplied.balanced {inputs : List (Option (RuntimeInput L))} {ph : Phase (Impl L) (Outcome L)}
    (h : Supplied setup inputs ph s) :
    ∃ pending, (InRange s.ticketLog → Balanced inputs pending s) ∧ pending.length ≤ 1 ∧ PhaseNotes Receives ph pending := by
  induction h with
  | initial =>
    refine ⟨[], fun _ => ⟨rfl, fun _ _ _ hi => (by simp at hi), fun _ hi => (by cases hi), rfl⟩, Nat.zero_le _, ?_⟩
    exact .of_all (Program.All.bind (Program.All.await fun _ s _ => ((allChores_leavesSupply : AllChores setup _).begin s).receives)
      fun _ => trivial)
  | submit input throws h ha ih =>
    obtain ⟨pending, hb, hlength, hph⟩ := ih
    exact ⟨pending, fun hr => (hb (hr.of_suffix (ClientStep.submit input throws).log_suffix)).submit h.reachable.inv.tickets hr ha,
      hlength, hph⟩
  | lose input throws h ha ih =>
    obtain ⟨pending, hb, hlength, hph⟩ := ih
    exact ⟨pending, fun hr => (hb (hr.of_suffix (ClientStep.submit input throws).log_suffix)).lose h.reachable.inv.tickets hr ha,
      hlength, hph⟩
  | @other inputs ph ph' s t h hs hn ih =>
    obtain ⟨pending, hb, hlength, hph⟩ := ih
    have hlog := h.reachable.log_suffix hs
    cases hs with
    | env he =>
      rcases he.supply with ⟨input, throws, ha, rfl⟩ | ⟨hl, hi, ht⟩
      · rcases ha with ha | ha
        · rw [submit_accepted ha] at hn
          exact absurd hn (nextTicket_ne s)
        · rw [submit_lost ha] at hn
          exact absurd hn (nextTicket_ne s)
      · refine ⟨pending, fun hr => ?_, hlength, hph⟩
        have hb := hb (hr.of_suffix hlog)
        exact ⟨hb.count.trans hl.symm, hb.given_suffix hlog, hi ▸ hb.waiting, by rw [he.aside.log, ht]; exact hb.received⟩
    | enter hstep =>
      obtain rfl : pending = [] := hph
      cases hstep with
      | sect w hg =>
        refine ⟨s.takeWork.1.supply, fun hr => ?_, Work.length_supply _, perform_notes _⟩
        have hb := hb (hr.of_suffix hlog)
        rcases takeWork_supply s with ⟨front, rest, hi, hw, ht, hl, hbook, htaken⟩ | ⟨hw, hreceives⟩
        · rw [hw]
          exact hb.take hi ht hl hbook htaken
        · rw [hw]
          exact hb.receives hreceives.receives hlog
    | run hstep =>
      obtain ⟨now, later, rfl, hreceives, hlater⟩ := Program.Notes.of_step hph hstep
      exact ⟨later, fun hr => (hb (hr.of_suffix hlog)).receives hreceives hlog,
        by rw [List.length_append] at hlength; omega, hlater⟩
    | again =>
      obtain rfl : pending = [] := hph
      exact ⟨[], hb, hlength, rfl⟩
    | leave =>
      obtain rfl : pending = [] := hph
      exact ⟨[], hb, hlength, rfl⟩

/-- A move of the owner gives out no ticket. -/
theorem Supplied.owner {inputs : List (Option (RuntimeInput L))} {ph ph' : Phase (Impl L) (Outcome L)}
    (h : Supplied setup inputs ph s) (hs : LoopStep (fun _ _ => False) (ownerRound setup) ph s ph' t) :
    Supplied setup inputs ph' t := by
  refine .other h (hs.mono False.elim) ?_
  obtain ⟨pending, -, -, hph⟩ := h.balanced
  cases hs with
  | env he => exact he.elim
  | enter hstep =>
    cases hstep with
    | sect w hg =>
      rcases takeWork_supply s with ⟨_, _, _, _, _, hl, _⟩ | ⟨_, hr⟩
      · exact hl
      · exact hr.last
  | run hstep =>
    obtain ⟨now, later, rfl, hr, -⟩ := Program.Notes.of_step hph hstep
    exact hr.last
  | again | leave => rfl

/-- Every run is supplied by some inputs. -/
theorem Reachable.supplied {ph : Phase (Impl L) (Outcome L)} (h : Reachable setup ph s) : ∃ inputs, Supplied setup inputs ph s := by
  induction h with
  | initial => exact ⟨[], .initial⟩
  | step h hs ih =>
    obtain ⟨inputs, hsupplied⟩ := ih
    cases hs with
    | env he =>
      rcases he.supply with ⟨input, throws, ha | ha, rfl⟩ | ⟨hl, -⟩
      · exact ⟨_, .submit input throws hsupplied ha⟩
      · exact ⟨_, .lose input throws hsupplied ha⟩
      · exact ⟨inputs, .other hsupplied (.env he) hl⟩
    | enter hstep => exact ⟨inputs, hsupplied.owner (.enter hstep)⟩
    | run hstep => exact ⟨inputs, hsupplied.owner (.run hstep)⟩
    | again => exact ⟨inputs, hsupplied.owner .again⟩
    | leave => exact ⟨inputs, hsupplied.owner .leave⟩

/-- The owner runs for a while. -/
theorem Supplied.advances {inputs : List (Option (RuntimeInput L))} (w : Outcome L) (n : Nat)
    {p : Phase (Impl L) (Outcome L) × Impl L} (h : Supplied setup inputs p.1 p.2) :
    Supplied setup inputs (Phase.advances (ownerRound setup) w n p).1 (Phase.advances (ownerRound setup) w n p).2 := by
  induction n generalizing p with
  | zero => exact h
  | succ n ih =>
    apply ih
    rcases Phase.advance_step (fun _ _ => False) (ownerRound setup) w p with hs | he
    · exact h.owner hs
    · rw [he]
      exact h

end MarketDataGateway.MarketRuntime
