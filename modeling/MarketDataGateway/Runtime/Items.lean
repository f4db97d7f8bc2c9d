import MarketDataGateway.Runtime.Rounds

/-!
# Items

The owner takes an item from the ingress and works it off: a depth update, a snapshot with the replay of what was buffered, or an
injected failure. Whatever comes of it, the mailbox invariant holds on, and the owner ends where it may take the next item. A reset that has
thrown may leave the owner a faulted runtime with items to work off; what is said of the buffer is said but for that case.
-/

namespace MarketDataGateway.MarketRuntime

open OrderBook Threads

variable {L : ProjectionLibrary} {setup : Setup L} {item : Nat} {service : Option Nat}

/-- Between items: the published status is the projection's, only an update that waits for its baseline is buffered, and a faulted
runtime buffers nothing. -/
def Idle : View L :=
  Shown (fun b broken => broken = false → b.bootstrap ≠ [] → L.status b.projection = .awaitingBaseline)

/-- What holds between items does not depend on a stop. -/
theorem stopClosed_idle : (Idle : View L).StopClosed := stopClosed_shown _

/-- Behind a fault the book is as it is between items. -/
theorem idle_of_faulted {item : Option Nat} {s : Impl L} {flagged : Bool} (h : At item service flagged Faulted s) :
    At item service flagged Idle s :=
  ⟨h.1, h.2.1, fun _ hb => absurd h.2.2.1 hb, fun _ => h.2.2.2.1, fun _ _ => h.2.2.1⟩

/-- A runtime that is faulted or out of sync buffers nothing between items. -/
theorem idle_bootstrap {item : Option Nat} {s : Impl L} {flagged : Bool} (hi : MailboxInv setup s)
    (h : At item service flagged Idle s) (hbroken : brokenReset s.ticketLog = false)
    (hs : s.mail.observation.state = .faulted ∨ s.mail.observation.state = .needsResync) : s.book.bootstrap = [] := by
  obtain ⟨hb, hp, hf⟩ := h.2.2
  rcases hs with hs | hs
  · exact hf hs hbroken
  · by_contra hne
    have := hi.states.needsResync hs
    rw [hp (by rw [hs]; simp), hb hbroken hne] at this
    cases this

/-- A buffer that is as it was, or empty: what an update leaves of it. -/
def KeptOrCleared (C : List (DepthUpdateInput L) → Bool → Prop) (b : Book L) (broken : Bool) : Prop :=
  C b.bootstrap broken ∨ b.bootstrap = []

/-- A fault leaves an empty buffer, of which everything asked holds. -/
theorem ready_of_faulted {K : Book L → Bool → Prop} (hK : ∀ b broken, b.bootstrap = [] → K b broken) {b : Book L}
    {p : ProjectionStatus} {st : RuntimeState} {broken : Bool} (h : Faulted b p st broken) : Ready K b p st broken :=
  ⟨hK b broken h.1, fun hs => (by rw [h.2.2] at hs; cases hs), fun _ _ => h.1⟩

/-- What the owner knows of the book may be weakened. -/
theorem At.mono {item : Option Nat} {flagged : Bool} {P Q : View L} {s : Impl L} (h : At item service flagged P s)
    (hPQ : ∀ b p st broken, P b p st broken → Q b p st broken) : At item service flagged Q s :=
  ⟨h.1, h.2.1, hPQ _ _ _ _ h.2.2⟩

/-! ## Publishing an applied update -/

/-- Handing an update to a session touches nothing of the mailbox. -/
theorem quiet_admitUpdate (channel : Nat) (input : DepthUpdateInput L) (publishedAt : PublicationTime) :
    (Program.atomic (Impl.admitUpdate channel input publishedAt) : OwnerProgram L _).All Quiet := by
  refine Program.All.atomic (fun w s => ?_)
  unfold Impl.admitUpdate
  split
  · exact quiet_refl s
  · exact ⟨rfl, rfl, rfl, rfl, _, rfl⟩

section

variable {K : Book L → Bool → Prop} (hK : ∀ b broken, b.bootstrap = [] → K b broken)
include hK

/-- A fault in the middle of an item keeps what the item asks of the book. -/
theorem fault_ready (reason : FaultReason) (adapterError : Option L.AdapterError) :
    Triple (mailboxRely setup) (At (some item) service true (Ready K)) (transitionToFault reason adapterError)
      (fun _ => At (some item) service true (Ready K)) :=
  (transitionToFault_triple (stopClosed_ready K) reason adapterError).post
    (fun _ _ _ h => h.mono (fun _ _ _ _ => ready_of_faulted hK))

/-- The fan-out keeps what the item asks of the book. -/
theorem fanOut_triple (input : DepthUpdateInput L) (publishedAt : PublicationTime) (subscribers : List Nat) :
    Triple (mailboxRely setup) (At (some item) service true (Ready K)) (fanOut input publishedAt subscribers)
      (fun _ => At (some item) service true (Ready K)) := by
  induction subscribers with
  | nil => exact Triple.done (stable_at (stopClosed_ready K)) (fun _ _ h => h)
  | cons i rest ih =>
    refine Triple.bind (quiet_triple (quiet_admitUpdate i input publishedAt) (steady_at (stopClosed_ready K))) ?_
    intro result
    split
    · exact fault_ready hK _ _
    · exact ih

/-- Publishing an applied update keeps what the item asks of the book, even where the clock fails. -/
theorem publishAppliedUpdate_triple (input : DepthUpdateInput L) :
    Triple (mailboxRely setup) (At (some item) service true (Ready K)) (publishAppliedUpdate input)
      (fun _ => At (some item) service true (Ready K)) := by
  have hsteady : Steady setup (At (some item) service true (Ready K)) := steady_at (stopClosed_ready K)
  refine Triple.bind (quiet_triple (quiet_read _) hsteady) fun shutDown => ?_
  split
  · exact Triple.done hsteady.env (fun _ _ h => h)
  · refine Triple.bind (quiet_triple quiet_sweep hsteady) fun _ => ?_
    refine Triple.bind (quiet_triple (quiet_read _) hsteady) fun subscribers => ?_
    split
    · exact Triple.done hsteady.env (fun _ _ h => h)
    · refine Triple.bind (quiet_triple (quiet_choose _) hsteady) fun sampled => ?_
      cases sampled with
      | none => exact fault_ready hK _ _
      | some publishedAt =>
        refine Triple.bind (quiet_triple (quiet_choose _) hsteady) fun throws => ?_
        split
        · exact fault_ready hK _ _
        · exact fanOut_triple hK input publishedAt subscribers

end

/-! ## Applying an update -/

/-- A runtime that works off an item is not out of sync, and it is faulted only behind a broken reset. -/
def Open (K : Book L → Bool → Prop) : View L := fun b _ st broken =>
  K b broken ∧ st ≠ .needsResync ∧ (st = .faulted → broken = true)

/-- An open book does not depend on a stop. -/
theorem stopClosed_open (K : Book L → Bool → Prop) : (Open K).StopClosed :=
  fun _ _ _ _ _ _ h => ⟨h.1, fun hs => (by cases hs), fun hs => (by cases hs)⟩

/-- An open book is ready for more of the item. -/
theorem ready_of_open {K : Book L → Bool → Prop} {b : Book L} {p : ProjectionStatus} {st : RuntimeState} {broken : Bool}
    (h : Open K b p st broken) : Ready K b p st broken :=
  ⟨h.1, fun hs => absurd hs h.2.1, fun hs hb => by rw [h.2.2 hs] at hb; cases hb⟩

/-- The published state is never `NeedsResync` without the published status being so. -/
theorem ready_of_shown {flagged : Bool} {K : Book L → Bool → Prop} {s : Impl L} (hi : MailboxInv setup s)
    (h : At (some item) service flagged (Shown K) s) : At (some item) service flagged (Ready K) s :=
  ⟨h.1, h.2.1, h.2.2.1, fun hs => h.2.2.2.1 (by rw [hs]; simp) ▸ hi.states.needsResync hs, h.2.2.2.2⟩

/-- What the owner knows when a call that may throw has come back. -/
def After (item : Nat) (service : Option Nat) (P : View L) : Completion → Impl L → Prop
  | .returned => At (some item) service true P
  | .threw => At (some item) service true AnyView

/-- Code that throws nothing ends with `returned`. -/
theorem returned_triple {P Q : View L} (hQ : Q.StopClosed) {p : OwnerProgram L Unit}
    (hp : Triple (mailboxRely setup) (At (some item) service true P) p (fun _ => At (some item) service true Q)) :
    Triple (mailboxRely setup) (At (some item) service true P) (p >>= fun _ => pure Completion.returned)
      (After item service Q) :=
  Triple.bind hp (fun _ => Triple.done (stable_at hQ) (fun _ _ h => h))

/-- A call that throws hands over what was known before it. -/
theorem threw_triple {P Q : View L} :
    Triple (mailboxRely setup) (At (some item) service true P) (pure Completion.threw : OwnerProgram L Completion)
      (After item service Q) :=
  Triple.pre (Triple.done (stable_at stopClosed_any) (fun _ _ h => h)) (fun _ _ h => h.mono (fun _ _ _ _ _ => trivial))

/-- A private section that changes the projection and nothing else the invariant speaks of. -/
theorem projection_at {flagged : Bool} {P Q : View L} {s : Impl L} {projection : L.Projection} {log : List (BookEvent L)}
    (h : MailboxInv setup s) (ha : At (some item) service flagged P s)
    (hPQ : ∀ p st broken, P s.book p st broken → Q { s.book with projection := projection } p st broken) :
    MailboxInv setup { s with book.projection := projection, bookLog := log } ∧
      At (some item) service flagged Q { s with book.projection := projection, bookLog := log } :=
  ⟨⟨h.tickets, h.requests, h.states, h.occupancy, h.observers,
      ⟨h.lifecycle.unstarted, h.lifecycle.stopped, h.lifecycle.stopRequested, h.lifecycle.stateStopped,
        h.lifecycle.exited⟩, h.returnedSnapshots, h.returnedResets, IdleFacts.of_busy ha.1.tickets⟩,
    ⟨ha.1.running, ha.1.tickets, ha.1.waiting, ha.1.full⟩, ha.2.1, hPQ _ _ _ ha.2.2⟩

/-- An application changes the projection and the histories only. -/
theorem applyToProjection_eq (setup : Setup L) (input : DepthUpdateInput L) (w : Outcome L) (s : Impl L) :
    ∃ projection log, (s.applyToProjection setup input w).2 = { s with book.projection := projection, bookLog := log } := by
  unfold Impl.applyToProjection
  repeat' split
  all_goals exact ⟨_, _, rfl⟩

/-- A section under the mutex that only changes the observation's results. -/
theorem recordApply_at {flagged : Bool} {P : View L} {s : Impl L} (h : MailboxInv setup s)
    (ha : At (some item) service flagged P s) (input : DepthUpdateInput L) (result : L.ApplyResult) :
    MailboxInv setup (s.recordApply input result) ∧ At (some item) service flagged P (s.recordApply input result) :=
  ⟨⟨h.tickets, h.requests, h.states, h.occupancy, h.observers,
      ⟨h.lifecycle.unstarted, h.lifecycle.stopped, h.lifecycle.stopRequested, h.lifecycle.stateStopped,
        h.lifecycle.exited⟩, h.returnedSnapshots, h.returnedResets, IdleFacts.of_busy ha.1.tickets⟩,
    ⟨ha.1.running, ha.1.tickets, ha.1.waiting, ha.1.full⟩, ha.2.1, ha.2.2⟩

/-- An update that is applied, ignored, refused or in gap leaves the published status at the projection's, and the buffer as it was
or empty. -/
theorem applyUpdate_triple (input : DepthUpdateInput L) (C : List (DepthUpdateInput L) → Bool → Prop) :
    Triple (mailboxRely setup) (At (some item) service true (Open (fun b => C b.bootstrap))) (applyUpdate setup input)
      (After item service (Shown (KeptOrCleared C))) := by
  have hK : ∀ (b : Book L) broken, b.bootstrap = [] → KeptOrCleared C b broken := fun _ _ hb => Or.inr hb
  have hopen : (mailboxRely setup).Stable (At (some item) service true (Open (fun b : Book L => C b.bootstrap))) :=
    stable_at (stopClosed_open _)
  have hshown := stopClosed_shown (KeptOrCleared C)
  have hfault : ∀ reason adapterError, Triple (mailboxRely setup)
      (At (some item) service true (Open (fun b => C b.bootstrap))) (transitionToFault reason adapterError)
      (fun _ => At (some item) service true (Shown (KeptOrCleared C))) := fun reason adapterError =>
    (transitionToFault_triple (stopClosed_open _) reason adapterError).post
      (fun _ _ _ h => h.mono (fun _ _ _ _ hf => ⟨Or.inr hf.1, fun _ => hf.2.1, fun _ _ => hf.1⟩))
  refine Triple.bind (Q := fun _ => At (some item) service true (Open (fun b => C b.bootstrap)))
    (Triple.atomic hopen (fun _ => hopen) fun w s hi ha => ?_) fun call => ?_
  · obtain ⟨projection, log, he⟩ := applyToProjection_eq setup input w s
    rw [he]
    exact projection_at hi ha (fun _ _ _ h => h)
  · cases call with
    | generationMismatch => exact returned_triple hshown (hfault _ _)
    | threw => exact threw_triple
    | adapterError error => exact returned_triple hshown (hfault _ _)
    | result result =>
      refine Triple.bind (Q := fun _ => At (some item) service true (Open (fun b => C b.bootstrap)))
        (Triple.modify hopen hopen fun s hi ha => recordApply_at hi ha input result) fun _ => ?_
      refine Triple.bind (Q := fun _ => At (some item) service true (Ready (KeptOrCleared C))) ?_ fun _ =>
        returned_triple hshown (publishProjectionState_triple _)
      have hready : ∀ s, (mailboxRely setup).inv s → At (some item) service true (Open (fun b => C b.bootstrap)) s →
          At (some item) service true (Ready (KeptOrCleared C)) s := fun s _ h =>
        h.mono (fun _ _ _ _ ho => ready_of_open ⟨Or.inl ho.1, ho.2⟩)
      have hsteady : Steady setup (At (some item) service true (Ready (KeptOrCleared C))) := steady_at (stopClosed_ready _)
      cases L.applyDisposition result with
      | applied => exact (publishAppliedUpdate_triple hK input).pre hready
      | gapDetected => exact (quiet_triple (quiet_terminalize _ _ _) hsteady).pre hready
      | ignoredStale | ignoredDuplicate | rejectedWrongState =>
        exact Triple.pre (Triple.done hsteady.env (fun _ _ h => h)) hready

/-! ## Items -/

/-- An update that comes in is passed on, buffered, too much for the buffer, or lost to an exception. -/
theorem bufferDepthUpdate_cases (setup : Setup L) (input : DepthUpdateInput L) (w : Outcome L) (s : Impl L) :
    (L.status s.book.projection ≠ .awaitingBaseline ∧
      s.bufferDepthUpdate setup input w = (.apply, { s with bookLog := .received input :: s.bookLog })) ∨
    (L.status s.book.projection = .awaitingBaseline ∧ s.book.bootstrap.length ≠ setup.limits.bootstrapCapacity ∧
      s.bufferDepthUpdate setup input w = (.buffered, { s with
        book.bootstrap := s.book.bootstrap ++ [input]
        bookLog := .received input :: s.bookLog })) ∨
    ((s.bufferDepthUpdate setup input w).1 ∈ [BufferCall.overflow, BufferCall.threw] ∧
      (s.bufferDepthUpdate setup input w).2 = { s with bookLog := .received input :: s.bookLog }) := by
  unfold Impl.bufferDepthUpdate
  dsimp only
  split
  · rename_i hb
    split
    · exact Or.inr (Or.inr ⟨by simp, rfl⟩)
    · rename_i hc
      split
      · exact Or.inr (Or.inr ⟨by simp, rfl⟩)
      · exact Or.inr (Or.inl ⟨hb, hc, rfl⟩)
  · rename_i hb
    exact Or.inl ⟨hb, rfl⟩

/-- A private section that appends to the buffer below its capacity. -/
theorem buffer_at {flagged : Bool} {P Q : View L} {s : Impl L} {input : DepthUpdateInput L} {log : List (BookEvent L)}
    (h : MailboxInv setup s) (ha : At (some item) service flagged P s)
    (hc : s.book.bootstrap.length ≠ setup.limits.bootstrapCapacity)
    (hPQ : ∀ p st broken, P s.book p st broken → Q { s.book with bootstrap := s.book.bootstrap ++ [input] } p st broken) :
    MailboxInv setup { s with book.bootstrap := s.book.bootstrap ++ [input], bookLog := log } ∧
      At (some item) service flagged Q { s with book.bootstrap := s.book.bootstrap ++ [input], bookLog := log } := by
  have hle := h.occupancy.bootstrap
  have hlt : (s.book.bootstrap ++ [input]).length ≤ setup.limits.bootstrapCapacity := by simp; omega
  exact ⟨⟨h.tickets, h.requests, h.states,
      ⟨h.occupancy.ingress, hlt, h.occupancy.observedIngress, h.occupancy.observedBootstrap⟩, h.observers,
      ⟨h.lifecycle.unstarted, h.lifecycle.stopped, h.lifecycle.stopRequested, h.lifecycle.stateStopped,
        h.lifecycle.exited⟩, h.returnedSnapshots, h.returnedResets, IdleFacts.of_busy ha.1.tickets⟩,
    ⟨ha.1.running, ha.1.tickets, ha.1.waiting, ha.1.full⟩, ha.2.1, hPQ _ _ _ ha.2.2⟩

/-- A private section that takes away from the buffer. -/
theorem shrink_at {flagged : Bool} {P Q : View L} {s : Impl L} {rest : List (DepthUpdateInput L)}
    (h : MailboxInv setup s) (ha : At (some item) service flagged P s) (hl : rest.length ≤ s.book.bootstrap.length)
    (hPQ : ∀ p st broken, P s.book p st broken → Q { s.book with bootstrap := rest } p st broken) :
    MailboxInv setup { s with book.bootstrap := rest } ∧ At (some item) service flagged Q { s with book.bootstrap := rest } :=
  ⟨⟨h.tickets, h.requests, h.states,
      ⟨h.occupancy.ingress, Nat.le_trans hl h.occupancy.bootstrap, h.occupancy.observedIngress,
        h.occupancy.observedBootstrap⟩, h.observers,
      ⟨h.lifecycle.unstarted, h.lifecycle.stopped, h.lifecycle.stopRequested, h.lifecycle.stateStopped,
        h.lifecycle.exited⟩, h.returnedSnapshots, h.returnedResets, IdleFacts.of_busy ha.1.tickets⟩,
    ⟨ha.1.running, ha.1.tickets, ha.1.waiting, ha.1.full⟩, ha.2.1, hPQ _ _ _ ha.2.2⟩

/-- What the owner starts an item with. -/
def Starting : View L :=
  Open (fun b broken => broken = false → b.bootstrap ≠ [] → L.status b.projection = .awaitingBaseline)

/-- What an item starts with does not depend on a stop. -/
theorem stopClosed_starting : (Starting : View L).StopClosed := stopClosed_open _

/-- A fault ends an item's work on the book. -/
theorem fault_idle {P : View L} (hP : P.StopClosed) (reason : FaultReason) (adapterError : Option L.AdapterError) :
    Triple (mailboxRely setup) (At (some item) service true P) (transitionToFault reason adapterError)
      (fun _ => At (some item) service true Idle) :=
  (transitionToFault_triple hP reason adapterError).post (fun _ _ _ h => idle_of_faulted h)

/-- An update is processed to the state between items. -/
theorem processDepthUpdate_triple (input : DepthUpdateInput L) :
    Triple (mailboxRely setup) (At (some item) service true Starting) (processDepthUpdate setup input)
      (After item service Idle) := by
  let buffered : BufferCall → View L := fun
    | .apply => Open (fun b broken => broken = false → b.bootstrap = [])
    | .buffered | .overflow | .threw => Starting
  have hstable : ∀ call, (mailboxRely setup).Stable (At (some item) service true (buffered call)) := fun call => by
    cases call with
    | apply => exact stable_at (stopClosed_open _)
    | _ => exact stable_at stopClosed_starting
  refine Triple.bind (Q := fun call => At (some item) service true (buffered call))
    (Triple.atomic (stable_at stopClosed_starting) hstable fun w s hi ha => ?_) fun call => ?_
  · rcases bufferDepthUpdate_cases setup input w s with ⟨hb, he⟩ | ⟨hb, hc, he⟩ | ⟨hcall, he⟩
    · rw [he]
      refine projection_at hi ha (fun p st broken h => ⟨fun hbroken => ?_, h.2⟩)
      by_contra hne
      exact hb (h.1 hbroken hne)
    · rw [he]
      exact buffer_at hi ha hc (fun p st broken h => ⟨fun _ _ => hb, h.2⟩)
    · have hview : buffered (s.bufferDepthUpdate setup input w).1 = Starting := by
        rcases List.mem_cons.mp hcall with hc | hc
        · rw [hc]
        · rw [List.mem_singleton.mp hc]
      rw [he, hview]
      exact projection_at hi ha (fun _ _ _ h => h)
  · cases call with
    | overflow => exact returned_triple stopClosed_idle (fault_idle stopClosed_starting _ _)
    | threw => exact threw_triple
    | buffered =>
      refine returned_triple stopClosed_idle ((publishProjectionState_triple _).pre fun s _ h => ?_)
      exact h.mono (fun _ _ _ _ => ready_of_open)
    | apply =>
      refine (applyUpdate_triple input (fun l broken => broken = false → l = [])).post fun completion s _ h => ?_
      cases completion with
      | returned =>
        refine h.mono (fun b p st broken hv => ⟨fun hbroken hb => absurd ?_ hb, hv.2⟩)
        exact hv.1.elim (fun h => h hbroken) id
      | threw => exact h

/-- The replay ends with an empty buffer, and a published `NeedsResync` that is the projection's. -/
theorem replayBootstrap_triple (bound : Nat) :
    Triple (mailboxRely setup) (At (some item) service true (Open (fun b _ => b.bootstrap.length ≤ bound)))
      (replayBootstrap setup bound) (After item service (Ready (fun b _ => b.bootstrap = []))) := by
  have hready : ((Ready (fun (b : Book L) _ => b.bootstrap = [])) : View L).StopClosed := stopClosed_ready _
  induction bound with
  | zero =>
    refine Triple.done (stable_at (stopClosed_open _)) fun s _ h => ?_
    exact h.mono (fun b _ _ _ hv => ready_of_open ⟨List.eq_nil_of_length_eq_zero (Nat.le_zero.mp hv.1), hv.2⟩)
  | succ bound ih =>
    let popped : Option (DepthUpdateInput L) → Impl L → Prop := fun front =>
      front.elim (At (some item) service true (Open (fun b _ => b.bootstrap = [])))
        fun _ => At (some item) service true (Open (fun b _ => b.bootstrap.length ≤ bound))
    have hpopped : ∀ front, (mailboxRely setup).Stable (popped front) := fun front => by
      cases front with
      | none => exact stable_at (stopClosed_open _)
      | some _ => exact stable_at (stopClosed_open _)
    refine Triple.bind (Q := popped) (Triple.atomic (stable_at (stopClosed_open _)) hpopped fun w s hi ha => ?_)
      fun front => ?_
    · unfold Impl.popBootstrap
      split
      · rename_i hnil
        exact ⟨hi, ha.1, ha.2.1, hnil, ha.2.2.2⟩
      · rename_i front rest hcons
        refine shrink_at hi ha (by rw [hcons]; simp) (fun p st broken h => ⟨?_, h.2⟩)
        have hle : s.book.bootstrap.length ≤ bound + 1 := h.1
        rw [hcons, List.length_cons] at hle
        exact Nat.le_of_succ_le_succ hle
    · cases front with
      | none =>
        refine Triple.pre (Triple.done (stable_at hready) (fun _ _ h => h)) fun s _ h => ?_
        exact h.mono (fun _ _ _ _ => ready_of_open)
      | some update =>
        refine Triple.bind (applyUpdate_triple update (fun l _ => l.length ≤ bound)) fun completion => ?_
        have hbound : ∀ (b : Book L) broken, KeptOrCleared (fun l _ => l.length ≤ bound) b broken →
            b.bootstrap.length ≤ bound :=
          fun b _ hb => hb.elim id (fun hn => by rw [hn]; exact Nat.zero_le _)
        cases completion with
        | threw => exact threw_triple
        | returned =>
          -- the replay goes on only when the projection is in sync and the runtime has not faulted
          let read : Bool → View L := fun ends b p st broken =>
            Ready (KeptOrCleared (fun l _ => l.length ≤ bound)) b p st broken ∧
              (ends = false → L.status b.projection ≠ .needsResync ∧ st ≠ .faulted)
          have hread : ∀ ends, (read ends).StopClosed := fun ends b p st broken hf hn h =>
            ⟨stopClosed_ready _ _ _ _ _ hf hn h.1, fun he => ⟨(h.2 he).1, fun hs => (by cases hs)⟩⟩
          refine Triple.bind (Q := fun ends => At (some item) service true (read ends))
            (Triple.read (stable_at (stopClosed_shown _)) (fun ends => stable_at (hread ends)) fun s hi ha => ?_)
            fun ends => ?_
          · refine ⟨ha.1, ha.2.1, (ready_of_shown hi ha).2.2, fun he => ?_⟩
            simp only [Impl.replayEnds, Bool.or_eq_false_iff, decide_eq_false_iff_not] at he
            exact he
          · cases ends with
            | true =>
              refine returned_triple hready (Triple.modify (stable_at (hread true)) (stable_at hready) fun s hi ha => ?_)
              exact shrink_at hi ha (Nat.zero_le _) (fun p st broken h => ⟨rfl, h.1.2.1, fun _ _ => rfl⟩)
            | false =>
              refine Triple.pre ih fun s hi h => ?_
              exact h.mono fun b p st broken hv =>
                ⟨hbound _ _ hv.1.1, fun hs => (hv.2 rfl).1 (hv.1.2.1 hs), fun hs => absurd hs (hv.2 rfl).2⟩

/-- An install changes the projection only. -/
theorem installBaseline_eq (setup : Setup L) (input : SnapshotInput L) (w : Outcome L) (s : Impl L) :
    ∃ projection, (s.installBaseline setup input w).2 = { s with book.projection := projection } := by
  unfold Impl.installBaseline
  repeat' split
  all_goals exact ⟨_, rfl⟩

/-- Sections of a snapshot that write to the observation, the generation and the history. -/
theorem observation_at {flagged : Bool} {P Q : View L} {s : Impl L} {install : Option L.InstallResult}
    {generation observed : Option Nat} {log : List (BookEvent L)} (h : MailboxInv setup s)
    (ha : At (some item) service flagged P s)
    (hPQ : ∀ p st broken, P s.book p st broken →
      Q { s.book with currentProjectionGeneration := generation } p st broken) :
    MailboxInv setup { s with
        book.currentProjectionGeneration := generation
        mail.observation.lastInstall := install
        mail.observation.currentProjectionGeneration := observed
        bookLog := log } ∧
      At (some item) service flagged Q { s with
        book.currentProjectionGeneration := generation
        mail.observation.lastInstall := install
        mail.observation.currentProjectionGeneration := observed
        bookLog := log } :=
  ⟨⟨h.tickets, h.requests, h.states, h.occupancy, h.observers,
      ⟨h.lifecycle.unstarted, h.lifecycle.stopped, h.lifecycle.stopRequested, h.lifecycle.stateStopped,
        h.lifecycle.exited⟩, h.returnedSnapshots, h.returnedResets, IdleFacts.of_busy ha.1.tickets⟩,
    ⟨ha.1.running, ha.1.tickets, ha.1.waiting, ha.1.full⟩, ha.2.1, hPQ _ _ _ ha.2.2⟩

/-- A snapshot is processed to the state between items. -/
theorem processSnapshot_triple (input : SnapshotInput L) :
    Triple (mailboxRely setup) (At (some item) service true Starting) (processSnapshot setup input)
      (After item service Idle) := by
  let installed : View L := Open (fun _ _ => True)
  have hinst : (mailboxRely setup).Stable (At (some item) service true installed) := stable_at (stopClosed_open _)
  refine Triple.bind (Q := fun _ => At (some item) service true installed)
    (Triple.atomic (stable_at stopClosed_starting) (fun _ => hinst) fun w s hi ha => ?_) fun call => ?_
  · obtain ⟨projection, he⟩ := installBaseline_eq setup input w s
    rw [he]
    exact projection_at hi ha (fun _ _ _ h => ⟨trivial, h.2⟩)
  · cases call with
    | threw => exact threw_triple
    | adapterError error => exact returned_triple stopClosed_idle (fault_idle (stopClosed_open _) _ _)
    | result result =>
      refine Triple.bind (Q := fun _ => At (some item) service true installed)
        (Triple.modify hinst hinst fun s hi ha => observation_at hi ha (fun _ _ _ h => h)) fun _ => ?_
      split
      · exact returned_triple stopClosed_idle (fault_idle (stopClosed_open _) _ _)
      · refine Triple.bind (Q := fun _ => At (some item) service true installed)
          (Triple.modify hinst hinst fun s hi ha => observation_at hi ha (fun _ _ _ h => h)) fun _ => ?_
        have hbound : ∀ n, ((Open (fun (b : Book L) _ => b.bootstrap.length ≤ n)) : View L).StopClosed :=
          fun n => stopClosed_open _
        refine Triple.bind (Q := fun n => At (some item) service true (Open (fun b _ => b.bootstrap.length ≤ n)))
          (Triple.read hinst (fun n => stable_at (hbound n)) fun s hi ha => ?_) fun n => ?_
        · exact ⟨ha.1, ha.2.1, Nat.le_refl _, ha.2.2.2⟩
        · refine Triple.bind (replayBootstrap_triple n) fun completion => ?_
          cases completion with
          | threw => exact threw_triple
          | returned =>
            refine returned_triple stopClosed_idle ((publishProjectionState_triple _).post fun _ s _ h => ?_)
            exact h.mono (fun b p st broken hv => ⟨fun _ hb => absurd hv.1 hb, hv.2⟩)

/-- Each kind of input is processed to the state between items. -/
theorem processInput_triple (input : RuntimeInput L) :
    Triple (mailboxRely setup) (At (some item) service true Starting) (processInput setup input) (After item service Idle) := by
  cases input with
  | depthUpdate input => exact processDepthUpdate_triple input
  | snapshot input => exact processSnapshot_triple input
  | failure failure => exact returned_triple stopClosed_idle (fault_idle stopClosed_starting _ _)

/-- An item is worked off: its ticket is finished, and the owner is between items again. -/
theorem processItem_triple (ingressItem : IngressItem L) :
    Triple (mailboxRely setup) (At (some ingressItem.ticket) none true Starting) (processItem setup ingressItem)
      (fun _ => At none none true Idle) := by
  refine Triple.bind (processInput_triple ingressItem.input) fun completion => ?_
  refine Triple.bind (Q := fun _ => At (some ingressItem.ticket) none true Idle) ?_ fun _ => ?_
  · cases completion with
    | returned => exact Triple.done (stable_at stopClosed_idle) (fun _ _ h => h)
    | threw => exact fault_idle stopClosed_any _ _
  · refine Triple.modify (stable_at stopClosed_idle) (stable_at stopClosed_idle) fun s hi ha => ?_
    obtain ⟨hf, ho⟩ := hi.tickets.finish ha.1.tickets
    have hb := idle_bootstrap hi ha
    refine ⟨⟨hf, hi.requests, hi.states.log_cons (fun h => h) rfl, ?_, hi.observers.log_cons (fun _ => trivial) (fun _ h => h),
      ?_, hi.returnedSnapshots, hi.returnedResets, fun _ hbroken _ hs => hb hbroken hs⟩,
      ⟨ha.1.running, ho, ha.1.waiting, ha.1.full⟩, ha.2⟩
    · exact ⟨hi.occupancy.ingress, hi.occupancy.bootstrap, hi.occupancy.observedIngress, hi.occupancy.bootstrap⟩
    · exact lifecycle_of_running hi.lifecycle ha.1.running ha.2.1 rfl rfl rfl rfl id Or.inl

end MarketDataGateway.MarketRuntime
