import MarketDataGateway.Runtime.Admission
import MarketDataGateway.Runtime.Integrity

/-!
# Every admission gets its answer

A request that the owner takes from the queue is answered by the owner alone, whatever the callers do, and an answer stays as it is.
-/

namespace MarketDataGateway.MarketRuntime

open OrderBook Threads

variable {L : ProjectionLibrary} {setup : Setup L} {s t : Impl L} {request target : Nat}
  {subscription : ValidatedOrderBookSubscription}

/-! ## Answers stay -/

/-- No answer that has been given is changed. -/
def KeepsAnswers (s t : Impl L) : Prop :=
  ∀ (i : Nat) (r : AdmissionRequest), s.mail.admissions[i]? = some r → r.result.isSome = true → t.mail.admissions[i]? = some r

/-- What spares the admissions keeps the answers. -/
theorem Spares.keepsAnswers {last : Prop} (h : Spares last s t) : KeepsAnswers s t := fun _ _ hi hr => h.requests.answered hi hr

/-- Completing a request keeps the answers given before. -/
theorem keepsAnswers_complete (request : Nat) (result : SubscriptionAdmissionResult) (s : Impl L) :
    KeepsAnswers s (s.completeAdmissionRequestUnlocked request result) := by
  intro i r hi hr
  unfold Impl.completeAdmissionRequestUnlocked
  split
  · exact modify_answered hi hr result
  · exact hi

/-- The gate of an admission keeps the answers. -/
theorem keepsAnswers_gate (request : Nat) (s : Impl L) : KeepsAnswers s (s.gateAdmission request).2 := by
  unfold Impl.gateAdmission
  split
  · exact keepsAnswers_complete _ _ s
  · split
    · exact keepsAnswers_complete _ _ s
    · exact fun _ _ hi _ => hi

/-- Each section of the owner keeps the answers. -/
theorem sectionwise_keepsAnswers : Sectionwise setup (KeepsAnswers (L := L)) where
  toPlain := plain_spares.mono fun _ _ h => h.keepsAnswers
  roster _ _ _ := fun _ _ hi _ => hi
  complete := keepsAnswers_complete
  gate := keepsAnswers_gate
  stage subscription depthLimit publishedAt w s := by
    unfold Impl.stageSession
    repeat' split
    all_goals exact fun _ _ hi _ => hi
  commit request c s := by
    rw [commitAdmission_eq]
    split
    · exact keepsAnswers_complete request _ (s.enrolled c)
    · exact keepsAnswers_gate request s

/-- A round of the owner keeps the answers. -/
theorem keepsAnswers_round : (ownerRound setup).All (KeepsAnswers (L := L)) :=
  sectionwise_keepsAnswers.all_round (fun input w s => (spares_apply input w s : Spares True s _).keepsAnswers)
    fun input result s => (spares_recordApply input result s : Spares True s _).keepsAnswers

/-- Whatever is left of the owner's round keeps the answers. -/
theorem Reachable.keepsAnswers {ph : Phase (Impl L) (Outcome L)} (h : Reachable setup ph s) : PhaseAll KeepsAnswers ph := by
  induction h with
  | initial => exact (sectionwise_keepsAnswers : Sectionwise setup _).sections.prologue
  | step _ hs ih => exact (LoopStep.guarantee keepsAnswers_round ih hs).2

/-- Along a run answers stay. -/
theorem Run.keepsAnswers {ph ph' : Phase (Impl L) (Outcome L)} (h : Run setup ph s ph' t) (hr : Reachable setup ph s) :
    KeepsAnswers s t := by
  induction h with
  | none => exact fun _ _ hi _ => hi
  | step h' hs ih =>
    intro i r hi hanswered
    have hmid := ih i r hi hanswered
    rcases (LoopStep.guarantee keepsAnswers_round (h'.reachable hr).keepsAnswers hs).1 with he | hg | rfl
    · exact he.spares.keepsAnswers i r hmid hanswered
    · exact hg i r hmid hanswered
    · exact hmid

/-! ## A service ends -/

/-- Looking for the subscribers that are still open never waits. -/
theorem neverWaits_openSubscribers (subscribers : List Nat) : (openSubscribers subscribers : OwnerProgram L _).NeverWaits := by
  induction subscribers with
  | nil => trivial
  | cons i rest ih =>
    exact Program.NeverWaits.bind (Program.neverWaits_read _) fun _ => Program.NeverWaits.bind ih fun _ => trivial

/-- The sweep never waits. -/
theorem neverWaits_sweep : (sweepClosedSubscribers : OwnerProgram L Unit).NeverWaits :=
  Program.NeverWaits.bind (Program.neverWaits_read _) fun subscribers =>
    Program.NeverWaits.bind (neverWaits_openSubscribers subscribers) fun _ => Program.neverWaits_modify _

/-- Completing a request never waits. -/
theorem neverWaits_complete (request : Nat) (result : SubscriptionAdmissionResult) :
    (completeAdmissionRequest request result : OwnerProgram L Unit).NeverWaits := Program.neverWaits_modify _

/-- Staging and committing a session never waits. -/
theorem neverWaits_admitStaged (depthLimit : Option L.DepthLimit) :
    (admitStaged setup request subscription depthLimit).NeverWaits := by
  refine Program.NeverWaits.bind (Program.neverWaits_atomic _) fun sampled => ?_
  cases sampled with
  | none => exact neverWaits_complete _ _
  | some publishedAt =>
    refine Program.NeverWaits.bind (Program.neverWaits_read _) fun next => ?_
    split
    · exact neverWaits_complete _ _
    · refine Program.NeverWaits.bind (Program.neverWaits_atomic _) fun staging => ?_
      cases staging with
      | threw | adapterError _ | notStaged => exact neverWaits_complete _ _
      | staged channel =>
        refine Program.NeverWaits.bind (Program.neverWaits_atomic _) fun completion => ?_
        cases completion with
        | threw => exact neverWaits_complete _ _
        | returned => trivial

/-- An admission is served without waiting. -/
theorem neverWaits_performAdmission : (performAdmissionRequest setup request subscription).NeverWaits := by
  refine Program.NeverWaits.bind neverWaits_sweep fun _ => Program.NeverWaits.bind (Program.neverWaits_atomic _) fun mayGoOn => ?_
  split
  · trivial
  · refine Program.NeverWaits.bind (Program.neverWaits_read _) fun subscribers => ?_
    split
    · exact neverWaits_complete _ _
    · split
      · exact neverWaits_admitStaged _
      · split
        · exact neverWaits_complete _ _
        · exact neverWaits_admitStaged _

/-! ## A service within a run -/

/-- A run of a part of the owner's round is part of a run of the runtime, so the callers find the mailbox in order. -/
theorem Reachable.part {α : Type} {p q : OwnerProgram L α} {k : α → OwnerProgram L Bool} (h : Reachable setup (.running (p.bind k)) s)
    (hruns : Runs (ClientStep setup) p s q t) :
    Reachable setup (.running (q.bind k)) t ∧ Runs (admissionRely setup).env p s q t := by
  induction hruns with
  | refl => exact ⟨h, .refl⟩
  | env _ he ih => exact ⟨.step (ih h).1 (.env he), .env (ih h).2 ⟨(ih h).1.inv, he⟩⟩
  | step _ hs ih => exact ⟨.step (ih h).1 (.run (hs.bind k)), .step (ih h).2 hs⟩

/-- An owner that would take a request from the queue does not wait. -/
theorem hasWork_of_admission (h : s.takeWork.1 = .admission request subscription) : s.hasWork = true := by
  obtain ⟨r, hready, -⟩ := takeWork_admission h
  have hwork : s.admissionReadyLocked = true := by rw [Impl.admissionReadyLocked, hready]; rfl
  simp [Impl.hasWork, hwork]

/-- The list of subscribers never outgrows its limit, and an answer stays as it is. A request that the owner takes from the queue is
answered without the owner ever waiting, whatever the callers do meanwhile, and once: by one section, behind sections that only take
closed sessions from the list of subscribers, and before none that touches the list or the request. -/
theorem admission_is_atomic {ph : Phase (Impl L) (Outcome L)} (h : Reachable setup ph s) :
    s.roster.subscribers.length ≤ setup.limits.publication.maximumActiveSubscriptions ∧
    (∀ ph' t, Run setup ph s ph' t → KeepsAnswers s t) ∧
    (∀ request subscription, ph = .head → s.takeWork.1 = .admission request subscription →
      ∃ target, ∀ p t, Runs (ClientStep setup) (performAdmissionRequest setup request subscription) s.takeWork.2 p t →
        (∃ t', p.Evaluates (fun _ => True) t () t') ∧
        (p = .done () → Served setup request target subscription s.takeWork.2 t)) := by
  refine ⟨h.admissions.limit, fun ph' t hrun => hrun.keepsAnswers h, ?_⟩
  rintro request subscription rfl hwork
  obtain ⟨target, hservice⟩ := takeWork_inService h.admissions hwork
  have hentered : Reachable setup (.running (perform setup s.takeWork.1)) s.takeWork.2 := by
    refine .step h (.enter ?_)
    exact .sect ⟨none, false, s.book.projection⟩ (hasWork_of_admission hwork)
  rw [hwork] at hentered
  refine ⟨target, fun p t hruns => ⟨?_, ?_⟩⟩
  · obtain ⟨u, t', he⟩ := (hruns.neverWaits neverWaits_performAdmission).evaluates (W := fun _ => True)
      (w := ⟨none, false, t.book.projection⟩) trivial t
    exact ⟨t', he⟩
  · rintro rfl
    have hsafe := performAdmissionRequest_served s.takeWork.2 hentered.admissions (Underway.refl hservice)
    exact ((hentered.part (k := fun _ => .done true) hruns).2.safe hsafe).post

/-- A live counting runtime has been asked for a session. -/
def countingAsked : CountingConfig :=
  countingLive.call fun s => (s.admitOrderBookSubscription countingSetup ⟨"r", "g", none⟩ false).2

/-- What is left of the service, and the state, after a while. -/
def countingService : OwnerProgram countingLibrary Unit × Impl countingLibrary :=
  Program.advances calmOutcome 8 (performAdmissionRequest countingSetup 0 ⟨"r", "g", none⟩, countingAsked.2.takeWork.2)

/-- The sample request is served with the first session. -/
theorem admission_is_atomic_counting : ∃ target, Served countingSetup 0 target ⟨"r", "g", none⟩ countingAsked.2.takeWork.2
    countingService.2 ∧ countingService.2.roster.subscribers = [0] := by
  have hasked : Reachable countingSetup .head countingAsked.2 :=
    countingLive_reached.call (f := fun s => (s.admitOrderBookSubscription countingSetup ⟨"r", "g", none⟩ false).2)
      (.admitSubscription ⟨"r", "g", none⟩ false)
  obtain ⟨-, -, hserves⟩ := admission_is_atomic hasked
  obtain ⟨target, hserved⟩ := hserves 0 ⟨"r", "g", none⟩ rfl rfl
  have hruns : Runs (ClientStep countingSetup) (performAdmissionRequest countingSetup 0 ⟨"r", "g", none⟩)
      countingAsked.2.takeWork.2 countingService.1 countingService.2 := runs_advances calmOutcome 8 .refl
  exact ⟨target, (hserved _ _ hruns).2 rfl, rfl⟩

end MarketDataGateway.MarketRuntime
