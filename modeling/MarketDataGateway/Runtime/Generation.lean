import MarketDataGateway.Runtime.Publication

/-!
# Generations stay apart

An item of the ingress, from the moment the owner takes it to the moment it is done with it, as triples over the invariant of the
book. An update is in hand between being received and being applied or buffered; one whose generation is not the baseline's faults
the runtime before it can be applied.
-/

namespace MarketDataGateway.MarketRuntime

open OrderBook Threads

variable {L : ProjectionLibrary} {setup : Setup L} {s : Impl L}

/-- No update of another generation has been found since the last reset. -/
def Clean (s : Impl L) : Prop := mismatchSinceReset s.bookLog = none

/-- A clean book stays clean while sessions move. -/
theorem steadfast_clean : Steadfast setup (Clean : Impl L → Prop) := fun s t _ h ha => by
  unfold Clean
  rw [ha.log]
  exact h

/-- The update has been received and has neither been applied nor buffered. -/
def InHand (input : DepthUpdateInput L) (s : Impl L) : Prop :=
  (input :: appliedSinceReset s.bookLog ++ s.book.bootstrap).Subperm (receivedSinceReset s.bookLog)

/-- The update in hand stays in hand. -/
theorem steadfast_inHand (input : DepthUpdateInput L) : Steadfast setup (InHand input) := fun s t _ h ha => by
  unfold InHand
  rw [ha.log]
  rcases ha.bootstrap with hb | hb
  · rw [hb]; exact h
  · rw [hb]; exact ((List.nil_sublist _).append_left _).subperm.trans h

/-! ## Sections that write to the book -/

/-- A section that changes the private book and writes down one event. -/
theorem BookInv.event {e : BookEvent L} {book : Book L} (hi : BookInv setup s) (he : e.Matched s.bookLog)
    (hf : ∀ i records, Follows setup i s.bookLog records → Follows setup i (e :: s.bookLog) records)
    (hgen : installedGeneration (e :: s.bookLog) = book.currentProjectionGeneration)
    (hbuf : (appliedSinceReset (e :: s.bookLog) ++ book.bootstrap).Subperm (receivedSinceReset (e :: s.bookLog)))
    (hmis : ∀ projection records, mismatchSinceReset (e :: s.bookLog) = some (projection, records) →
      (threwSinceMismatch (e :: s.bookLog) = false → book.projection = projection) ∧
        ∀ (i : Nat) sub, s.channels[i]? = some sub → ∃ found, records[i]? = some found ∧ sub.records <+: found)
    (hend : ∀ (i : Nat) sub, s.channels[i]? = some sub → resetSince i (e :: s.bookLog) = true → sub.channel.state ≠ .active) :
    BookInv setup { s with book := book, bookLog := e :: s.bookLog } where
  facts := hi.facts
  follows i sub hs := hf i _ (hi.follows i sub hs)
  enrolled := hi.enrolled
  nodup := hi.nodup
  shutdown := hi.shutdown
  unstarted := hi.unstarted
  generation := hgen
  matched := ⟨he, hi.matched⟩
  buffered := hbuf
  mismatch := hmis
  ended := hend
  known := hi.known

/-- A section that changes the private book of a clean runtime and writes nothing down. -/
theorem BookInv.rebook {book : Book L} (hi : BookInv setup s) (hc : Clean s)
    (hgen : book.currentProjectionGeneration = s.book.currentProjectionGeneration)
    (hbuf : (appliedSinceReset s.bookLog ++ book.bootstrap).Subperm (receivedSinceReset s.bookLog)) :
    BookInv setup { s with book := book } where
  facts := hi.facts
  follows := hi.follows
  enrolled := hi.enrolled
  nodup := hi.nodup
  shutdown := hi.shutdown
  unstarted := hi.unstarted
  generation := hi.generation.trans hgen.symm
  matched := hi.matched
  buffered := hbuf
  mismatch p rs hm := by
    have : mismatchSinceReset s.bookLog = some (p, rs) := hm
    rw [show mismatchSinceReset s.bookLog = none from hc] at this
    cases this
  ended := hi.ended
  known := hi.known

/-- An event that neither admits nor applies nor mismatches leaves everything at rest. -/
theorem AtRest.event {e : BookEvent L} {book : Book L} (h : AtRest setup s) (he : e.isSilent = true)
    (hm : mismatchSinceReset (e :: s.bookLog) = none) : AtRest setup { s with book := book, bookLog := e :: s.bookLog } :=
  ⟨h.1, fun i sub hs ha => (h.2.1 i sub hs ha).silent he, fun hne => absurd hm hne⟩

/-- What applying an update leaves behind, by how it went. -/
def Applied (setup : Setup L) (input : DepthUpdateInput L) : ApplyCall L → Impl L → Prop
  | .result result, s =>
    if L.applyDisposition result = .applied then Owing setup input (fun _ => [input]) s else AtRest setup s
  | .generationMismatch, s | .threw, s | .adapterError _, s => s.Running

/-- What a call into the library has left stays until it is dealt with. -/
theorem steadfast_applied (input : DepthUpdateInput L) (call : ApplyCall L) : Steadfast setup (Applied setup input call) := by
  cases call with
  | result result =>
    by_cases hd : L.applyDisposition result = .applied
    · have he : Applied setup input (.result result) = Owing setup input (fun _ => [input]) := by
        funext s; simp only [Applied, if_pos hd]
      rw [he]; exact steadfast_owing _ _
    · have he : Applied setup input (.result result) = AtRest setup := by
        funext s; simp only [Applied, if_neg hd]
      rw [he]; exact steadfast_atRest
  | generationMismatch | threw | adapterError _ => exact steadfast_running

/-- The section that applies an update checks its generation first. -/
theorem applyToProjection_book {input : DepthUpdateInput L} (hi : BookInv setup s) (h : AtRest setup s) (hc : Clean s)
    (hin : InHand input s) (w : Outcome L) :
    BookInv setup (s.applyToProjection setup input w).2 ∧
      Applied setup input (s.applyToProjection setup input w).1 (s.applyToProjection setup input w).2 := by
  have hrebook : ∀ projection, BookInv setup { s with book.projection := projection } := fun projection =>
    hi.rebook hc rfl hi.buffered
  unfold Impl.applyToProjection
  split
  · rename_i hg
    refine ⟨BookInv.event hi ⟨hc, ?_⟩ (fun i records hf => hf.silent rfl) hi.generation hi.buffered ?_ hi.ended, h.1.1⟩
    · obtain ⟨g, hcur⟩ := Option.isSome_iff_exists.mp hg.1
      obtain ⟨g', hgen⟩ := Option.isSome_iff_exists.mp hg.2.1
      refine ⟨g, g', hi.generation.trans hcur, hgen, fun he => hg.2.2 ?_⟩
      rw [hcur, hgen, he]
    · intro projection records hm
      obtain ⟨rfl, rfl⟩ := Prod.mk.inj (Option.some.inj hm)
      exact ⟨fun _ => rfl, fun i sub hs => ⟨sub.records, by rw [List.getElem?_map, hs]; rfl, List.prefix_refl _⟩⟩
  · rename_i hg
    have hagrees : Agrees (installedGeneration s.bookLog) input := by
      intro g hcur g' hgen
      rw [hi.generation] at hcur
      by_contra hne
      exact hg ⟨by rw [hcur]; rfl, by rw [hgen]; rfl, by rw [hcur, hgen]; exact fun he => hne (Option.some.inj he).symm⟩
    split
    · exact ⟨hrebook _, h.1.1⟩
    · split
      · exact ⟨hi, h.1.1⟩
      · split
        · exact ⟨hrebook _, h.1.1⟩
        · rename_i result projection _
          by_cases hd : L.applyDisposition result = .applied
          · simp only [if_pos hd, Applied]
            refine ⟨hi.event (e := .applied input) ⟨hagrees, hc⟩ (fun i records hf => hf.applied input) hi.generation hin ?_ hi.ended, ?_⟩
            · intro p rs hm
              have : mismatchSinceReset s.bookLog = some (p, rs) := hm
              rw [show mismatchSinceReset s.bookLog = none from hc] at this
              cases this
            · exact ⟨h.1, fun i sub hs ha => (h.2.1 i sub hs ha).applied input, hc, hagrees⟩
          · simp only [if_neg hd, Applied]
            exact ⟨hrebook _, h⟩

/-! ## Updates -/

/-- Recording an application does not touch the book. -/
theorem aside_recordApply (input : DepthUpdateInput L) (result : L.ApplyResult) (s : Impl L) :
    Aside s (s.recordApply input result) :=
  .of_mail rfl rfl rfl rfl rfl rfl rfl rfl rfl id

/-- A call that returned has left everything at rest; one that threw has left the owner running. -/
def AfterCall (setup : Setup L) : Completion → Impl L → Prop
  | .returned, s => AtRest setup s
  | .threw, s => s.Running

/-- A fault inside a call that then returns. -/
theorem faulting_triple {A : Impl L → Prop} (hA : ∀ s, A s → s.Running) (reason : FaultReason)
    (adapterError : Option L.AdapterError) :
    Triple (bookRely setup) A ((transitionToFault reason adapterError).bind fun _ => pure .returned) (AfterCall setup) :=
  Triple.bind (fault_atRest hA reason adapterError) fun _ => Triple.done steadfast_atRest.stable (fun _ _ h => h)

/-- Publishing the projection's state keeps the book at rest. -/
theorem publishProjectionState_book :
    Triple (bookRely setup) (AtRest setup) (publishProjectionState : OwnerProgram L Unit) (fun _ => AtRest setup) :=
  aside_triple (Program.All.atomic fun _ s => aside_publish s) steadfast_atRest

/-- The update in hand is applied with its generation, or faults and ends the sessions. -/
theorem applyUpdate_book (input : DepthUpdateInput L) :
    Triple (bookRely setup) (fun s => (AtRest setup s ∧ Clean s) ∧ InHand input s) (applyUpdate setup input)
      (AfterCall setup) := by
  have hpre : Steadfast setup (fun s => (AtRest setup s ∧ Clean s) ∧ InHand input s) :=
    (steadfast_atRest.and steadfast_clean).and (steadfast_inHand input)
  refine Triple.bind (Triple.atomic hpre.stable (fun call => (steadfast_applied input call).stable) fun w s hi h =>
    applyToProjection_book hi h.1.1 h.1.2 h.2 w) fun call => ?_
  cases call with
  | generationMismatch => exact faulting_triple (fun _ h => h) _ _
  | threw => exact Triple.done steadfast_running.stable (fun _ _ h => h)
  | adapterError error => exact faulting_triple (fun _ h => h) _ _
  | result result =>
    refine Triple.bind (aside_triple (Program.All.atomic fun _ s => aside_recordApply input result s)
      (steadfast_applied input _)) fun _ => ?_
    refine Triple.bind (Q := fun _ => AtRest setup) ?_ fun _ =>
      Triple.bind publishProjectionState_book fun _ => Triple.done steadfast_atRest.stable (fun _ _ h => h)
    have hrest : Steadfast setup (AtRest setup) := steadfast_atRest
    cases hd : L.applyDisposition result with
    | applied =>
      refine (publishAppliedUpdate_book input).pre fun s _ h => ?_
      simpa only [Applied, if_pos hd] using h
    | gapDetected =>
      refine (terminalize_book hrest _ _ _).conseq (fun s _ h => ?_) (fun _ _ _ h => h.1)
      simpa only [Applied, hd, reduceCtorEq, if_false] using h
    | ignoredStale | ignoredDuplicate | rejectedWrongState =>
      refine Triple.pre (Triple.done hrest.stable (fun _ _ h => h)) fun s _ h => ?_
      simpa only [Applied, hd, reduceCtorEq, if_false] using h

/-- What receiving an update leaves behind, by where it goes. -/
def Received (setup : Setup L) (input : DepthUpdateInput L) : BufferCall → Impl L → Prop
  | .apply, s => (AtRest setup s ∧ Clean s) ∧ InHand input s
  | .buffered, s | .overflow, s | .threw, s => AtRest setup s

/-- What was received stays received. -/
theorem steadfast_received (input : DepthUpdateInput L) (call : BufferCall) :
    Steadfast setup (Received setup input call) := by
  cases call with
  | apply => exact (steadfast_atRest.and steadfast_clean).and (steadfast_inHand input)
  | buffered | overflow | threw => exact steadfast_atRest

/-- An update that comes in is noted, and buffered or passed on. -/
theorem buffer_book (input : DepthUpdateInput L) (hi : BookInv setup s) (h : AtRest setup s) (hc : Clean s) (w : Outcome L) :
    BookInv setup (s.bufferDepthUpdate setup input w).2 ∧
      Received setup input (s.bufferDepthUpdate setup input w).1 (s.bufferDepthUpdate setup input w).2 := by
  have hmis : ∀ projection records, mismatchSinceReset (.received input :: s.bookLog) = some (projection, records) →
      ∀ book : Book L, (threwSinceMismatch (.received input :: s.bookLog) = false → book.projection = projection) ∧
        ∀ (i : Nat) sub, s.channels[i]? = some sub → ∃ found, records[i]? = some found ∧ sub.records <+: found := by
    intro p rs hm
    have : mismatchSinceReset s.bookLog = some (p, rs) := hm
    rw [show mismatchSinceReset s.bookLog = none from hc] at this
    cases this
  have hevent : ∀ book : Book L, book.currentProjectionGeneration = s.book.currentProjectionGeneration →
      (appliedSinceReset s.bookLog ++ book.bootstrap).Subperm (input :: receivedSinceReset s.bookLog) →
      BookInv setup { s with book := book, bookLog := .received input :: s.bookLog } := fun book hg hbuf =>
    hi.event trivial (fun i records hf => hf.silent rfl) (hi.generation.trans hg.symm) hbuf
      (fun p rs hm => hmis p rs hm book) hi.ended
  have hkeep := hevent s.book rfl (hi.buffered.trans (List.sublist_cons_self _ _).subperm)
  rcases bufferDepthUpdate_cases setup input w s with ⟨-, he⟩ | ⟨-, -, he⟩ | ⟨hcall, he⟩
  · rw [he]
    exact ⟨hkeep, ⟨h.event rfl hc, hc⟩, (List.subperm_cons input).mpr hi.buffered⟩
  · rw [he]
    refine ⟨hevent { s.book with bootstrap := s.book.bootstrap ++ [input] } rfl ?_, h.event rfl hc⟩
    have hperm : (appliedSinceReset s.bookLog ++ (s.book.bootstrap ++ [input])).Perm
        (input :: (appliedSinceReset s.bookLog ++ s.book.bootstrap)) := by
      rw [← List.append_assoc]
      exact List.perm_append_singleton _ _
    exact hperm.subperm.trans ((List.subperm_cons input).mpr hi.buffered)
  · rw [he]
    refine ⟨hkeep, ?_⟩
    have hrest : AtRest setup { s with bookLog := .received input :: s.bookLog } := AtRest.event h rfl hc
    simp only [List.mem_cons, List.not_mem_nil, or_false] at hcall
    rcases hcall with hcall | hcall <;> rw [hcall] <;> exact hrest

/-- An update is processed with its generation. -/
theorem processDepthUpdate_book (input : DepthUpdateInput L) :
    Triple (bookRely setup) (fun s => AtRest setup s ∧ Clean s) (processDepthUpdate setup input) (AfterCall setup) := by
  refine Triple.bind (Triple.atomic (steadfast_atRest.and steadfast_clean).stable
    (fun call => (steadfast_received input call).stable) fun w s hi h => buffer_book input hi h.1 h.2 w) fun call => ?_
  cases call with
  | overflow => exact faulting_triple (fun _ h => h.1.1) _ _
  | threw => exact Triple.done steadfast_atRest.stable (fun _ _ h => h.1.1)
  | buffered =>
    exact Triple.bind publishProjectionState_book fun _ => Triple.done steadfast_atRest.stable (fun _ _ h => h)
  | apply => exact applyUpdate_book input

/-! ## Snapshots -/

/-- The front of the buffer is in hand once it has been popped. -/
theorem pop_book (hi : BookInv setup s) (h : AtRest setup s) (hc : Clean s) :
    BookInv setup s.popBootstrap.2 ∧ (AtRest setup s.popBootstrap.2 ∧ Clean s.popBootstrap.2) ∧
      ∀ update, s.popBootstrap.1 = some update → InHand update s.popBootstrap.2 := by
  unfold Impl.popBootstrap
  split
  · exact ⟨hi, ⟨h, hc⟩, fun _ hu => by cases hu⟩
  · rename_i front rest hb
    have hperm : (appliedSinceReset s.bookLog ++ s.book.bootstrap).Perm (front :: appliedSinceReset s.bookLog ++ rest) := by
      rw [hb]; exact List.perm_middle
    have hin := hperm.symm.subperm.trans hi.buffered
    refine ⟨hi.rebook hc rfl ((List.sublist_cons_self front _).subperm.trans hin), ⟨h, hc⟩, fun update hu => ?_⟩
    cases hu
    exact hin

/-- The replay applies only updates of the installed generation. -/
theorem replayBootstrap_book (bound : Nat) :
    Triple (bookRely setup) (fun s => AtRest setup s ∧ Clean s) (replayBootstrap setup bound) (AfterCall setup) := by
  have hpre : Steadfast setup (fun s => AtRest setup s ∧ Clean s) := steadfast_atRest.and steadfast_clean
  induction bound with
  | zero => exact Triple.done hpre.stable (fun _ _ h => h.1)
  | succ bound ih =>
    have hpop : ∀ front : Option (DepthUpdateInput L), (bookRely setup).Stable (fun s =>
        (AtRest setup s ∧ Clean s) ∧ ∀ update, front = some update → InHand update s) := fun front =>
      hpre.stable.and fun s t hi h he update hu => (steadfast_inHand update).stable s t hi (h update hu) he
    refine Triple.bind (Triple.atomic hpre.stable hpop fun w s hi h => pop_book hi h.1 h.2) fun front => ?_
    cases front with
    | none => exact Triple.done (hpop none) (fun _ _ h => h.1.1)
    | some update =>
      refine Triple.bind ((applyUpdate_book update).pre fun s _ h => ⟨h.1, h.2 update rfl⟩) fun completion => ?_
      cases completion with
      | threw => exact Triple.done steadfast_running.stable (fun _ _ h => h)
      | returned =>
        -- a mismatch has faulted the runtime, and then the replay ends
        have hread : ∀ ends : Bool, (bookRely setup).Stable (fun s => AtRest setup s ∧ (ends = false → Clean s)) := fun ends =>
          steadfast_atRest.stable.and fun s t hi h he hf => steadfast_clean.stable s t hi (h hf) he
        refine Triple.bind (Triple.read steadfast_atRest.stable hread fun s _ h => ⟨h, fun hf => ?_⟩) fun ends => ?_
        · by_contra hm
          have := (h.2.2 hm).1.1
          simp [Impl.replayEnds, this] at hf
        · split
          · refine Triple.bind ((aside_triple (Program.All.atomic fun _ s => ?_) steadfast_atRest).pre fun s _ h => h.1)
              fun _ => Triple.done steadfast_atRest.stable (fun _ _ h => h)
            exact { Aside.refl s with bootstrap := Or.inr rfl }
          · rename_i hf
            exact ih.pre fun s _ h => ⟨h.1, h.2 (by simpa using hf)⟩

/-- An install sets the generation that the replay is compared with. -/
theorem processSnapshot_book (input : SnapshotInput L) :
    Triple (bookRely setup) (fun s => AtRest setup s ∧ Clean s) (processSnapshot setup input) (AfterCall setup) := by
  have hpre : Steadfast setup (fun s => AtRest setup s ∧ Clean s) := steadfast_atRest.and steadfast_clean
  refine Triple.bind (Triple.atomic (Q := fun _ s => AtRest setup s ∧ Clean s) hpre.stable (fun _ => hpre.stable)
    fun w s hi h => ?_) fun call => ?_
  · obtain ⟨projection, he⟩ := installBaseline_eq setup input w s
    rw [he]
    exact ⟨hi.rebook h.2 rfl hi.buffered, h⟩
  · cases call with
    | threw => exact Triple.done hpre.stable (fun _ _ h => h.1.1.1)
    | adapterError error => exact faulting_triple (fun _ h => h.1.1.1) _ _
    | result result =>
      refine Triple.bind (aside_triple (Program.All.atomic fun _ s => .of_mail rfl rfl rfl rfl rfl rfl rfl rfl rfl id)
        hpre) fun _ => ?_
      split
      · exact faulting_triple (fun _ h => h.1.1.1) _ _
      · refine Triple.bind (Triple.modify (Q := fun _ s => AtRest setup s ∧ Clean s) hpre.stable hpre.stable
          fun s hi h => ?_) fun _ => ?_
        · have hinv : BookInv setup ({ s with
              book.currentProjectionGeneration := input.provenance.connectionGeneration
              bookLog := .installed input.provenance.connectionGeneration :: s.bookLog } : Impl L) :=
            BookInv.event hi h.2 (fun i records hf => hf.silent rfl) rfl hi.buffered
              (fun p rs hm => by
                have : mismatchSinceReset s.bookLog = some (p, rs) := hm
                rw [show mismatchSinceReset s.bookLog = none from h.2] at this
                cases this) hi.ended
          refine ⟨hinv.aside (.of_mail rfl rfl rfl rfl rfl rfl rfl rfl rfl id), ?_, h.2⟩
          exact ⟨h.1.1, fun i sub hs ha => (h.1.2.1 i sub hs ha).silent rfl, fun hne => absurd h.2 hne⟩
        · refine Triple.bind (Triple.read hpre.stable (fun _ => hpre.stable) fun _ _ h => h) fun n =>
            Triple.bind (replayBootstrap_book n) fun completion => ?_
          cases completion with
          | threw => exact Triple.done steadfast_running.stable (fun _ _ h => h)
          | returned =>
            exact Triple.bind publishProjectionState_book fun _ => Triple.done steadfast_atRest.stable (fun _ _ h => h)

/-! ## Items -/

/-- Each kind of input keeps the generations apart. -/
theorem processInput_book (input : RuntimeInput L) :
    Triple (bookRely setup) (fun s => AtRest setup s ∧ Clean s) (processInput setup input) (AfterCall setup) := by
  cases input with
  | depthUpdate input => exact processDepthUpdate_book input
  | snapshot input => exact processSnapshot_book input
  | failure failure => exact faulting_triple (fun _ h => h.1.1.1) _ _

/-- An item starts and ends with the book at rest. -/
theorem processItem_book (item : IngressItem L) :
    Triple (bookRely setup) (fun s => AtRest setup s ∧ Clean s) (processItem setup item) (fun _ => AtRest setup) := by
  refine Triple.bind (processInput_book item.input) fun completion => Triple.bind (Q := fun _ => AtRest setup) ?_ fun _ => ?_
  · cases completion with
    | threw => exact fault_atRest (fun _ h => h) _ _
    | returned => exact Triple.done steadfast_atRest.stable (fun _ _ h => h)
  · exact aside_triple (Program.All.atomic fun _ s => .of_mail rfl rfl rfl rfl rfl rfl rfl rfl rfl id) steadfast_atRest

end MarketDataGateway.MarketRuntime
