import MarketDataGateway.Lib.Heap
import MarketDataGateway.Transport.Network
import Mathlib.Logic.Relation

/-!
# The stop cut

One start and any number of stops, section by section, with the network thread going on between any two of them. A run keeps its
start `apart` when the start does not create the network thread while a stop is in progress. In such a run a stop that has returned
is a cut: no thread is left and nothing more is submitted. In the others the thread may outlive every stop.
-/

namespace MarketDataGateway.BinanceTransport

open Containers Relation Transport

inductive StartCall where
  | notCalled
  | waiting
  | returned (result : TransportStartResult)
  deriving DecidableEq, Repr

/-- Where a stop is: it waits for another one, or it has won and posts the clean shutdown, joins, publishes that it is done. -/
inductive StopCall where
  | waiting | posting | joining | finishing | returned
  deriving DecidableEq, Repr

/-- A stop between its first and its last section. -/
def StopCall.inProgress : StopCall → Bool
  | .posting | .joining | .finishing => true
  | .waiting | .returned => false

/-- A transport with the calls that start and stop it, and all it has submitted. -/
structure Lifecycle where
  transport : Transport
  starter : StartCall := .notCalled
  stoppers : List StopCall := []
  submissions : List Submission := []
  deriving DecidableEq, Repr

namespace Lifecycle

def callStart (s : Lifecycle) : Lifecycle :=
  { s with
    transport := s.transport.start.2
    starter := match s.transport.start.1 with
      | some result => .returned result
      | none => .waiting }

def startReturns (s : Lifecycle) : Lifecycle := { s with starter := .returned s.transport.startResult }

/-- A new stop after its first section. -/
def StopEntry.call : StopEntry → StopCall
  | .alreadyStopped => .returned
  | .waits => .waiting
  | .wins started => if started then .posting else .finishing

def callStop (s : Lifecycle) : Lifecycle :=
  { s with transport := s.transport.enterStop.2, stoppers := s.stoppers ++ [StopEntry.call s.transport.enterStop.1] }

/-- The next section of the `i`th stop. -/
def advanceStop (s : Lifecycle) (i : Nat) (transport : Transport) (call : StopCall) : Lifecycle :=
  { s with transport := transport, stoppers := s.stoppers.set i call }

end Lifecycle

/-- One section of the start, of a stop, or of the network thread. -/
inductive CutStep (apart : Bool) : Lifecycle → Lifecycle → Prop where
  | start {s} (hc : s.starter = .notCalled) (ha : apart = true → s.transport.stopInProgress = false) :
      CutStep apart s s.callStart
  | startReturns {s} (hc : s.starter = .waiting) (hready : s.transport.startReturns = true) : CutStep apart s s.startReturns
  | stop {s} : CutStep apart s s.callStop
  | stopWaited {s i} (hc : s.stoppers[i]? = some .waiting) (hready : s.transport.observation.stopped = true) :
      CutStep apart s (s.advanceStop i s.transport .returned)
  | post {s i} (hc : s.stoppers[i]? = some .posting) :
      CutStep apart s (s.advanceStop i s.transport.postCleanShutdown .joining)
  | join {s i} (hc : s.stoppers[i]? = some .joining) (hready : s.transport.joinReady = true) :
      CutStep apart s (s.advanceStop i s.transport.join .finishing)
  | finish {s i} (hc : s.stoppers[i]? = some .finishing) :
      CutStep apart s (s.advanceStop i s.transport.finishStop .returned)
  | network {s submission transport} (hn : NetworkStep s.transport submission transport) :
      CutStep apart s { s with transport := transport, submissions := submission.toList ++ s.submissions }

/-- Every run of a new transport, its start kept apart from its stops or not. -/
inductive Reachable (apart : Bool) (connectionGeneration : Nat) (connectionId : String) (profile : BinanceTransportProfile) :
    Lifecycle → Prop where
  | initial : Reachable apart connectionGeneration connectionId profile
      { transport := Transport.fresh connectionGeneration connectionId profile }
  | step {s t} (h : Reachable apart connectionGeneration connectionId profile s) (hs : CutStep apart s t) :
      Reachable apart connectionGeneration connectionId profile t

/-! ## What a section leaves as it is -/

/-- The network thread runs when it takes a section, and it starts and stops nothing. -/
theorem NetworkStep.frame {t t' : Transport} {submission : Option Submission} (h : NetworkStep t submission t') :
    t.thread = .running ∧ (t'.thread = .running ∨ t'.thread = .exited) ∧ t'.observation.started = t.observation.started ∧
      t'.observation.stopped = t.observation.stopped ∧ t'.stopInProgress = t.stopInProgress := by
  cases h with
  | websocketActive hr =>
    unfold Transport.websocketActive
    split <;> exact ⟨hr, Or.inl hr, rfl, rfl, rfl⟩
  | message hr _ _ _ message receivedAtUtcNs =>
    cases message <;> exact ⟨hr, Or.inl hr, rfl, rfl, rfl⟩
  | @count kind hr _ =>
    cases kind <;> exact ⟨hr, Or.inl hr, rfl, rfl, rfl⟩
  | fail hr _ =>
    unfold Transport.terminalFailure
    split <;> exact ⟨hr, Or.inl hr, rfl, rfl, rfl⟩
  | exit hr _ _ => exact ⟨hr, Or.inr rfl, rfl, rfl, rfl⟩
  | tlsVerified hr _ | ping hr _ _ | response hr _ _ _ | networkFailure hr _ _ _ | allocate hr _ _ | publish hr _ _
  | submitUpdate hr _ _ | submitSnapshot hr _ _ | fetched hr _ | report hr _ | cleanShutdown hr _ _ | barrier hr _ _ =>
    exact ⟨hr, Or.inl hr, rfl, rfl, rfl⟩

/-! ## The invariant -/

/-- At most one stop is in progress; it has seen whether there is a thread, and it publishes its end only when the thread is gone. -/
structure CutInv (s : Lifecycle) : Prop where
  created : s.transport.thread = .notCreated ↔ s.transport.observation.started = false
  progress : s.transport.stopInProgress = true ↔ ∃ (i : Nat) (call : StopCall), s.stoppers[i]? = some call ∧ call.inProgress = true
  unique : ∀ (i j : Nat) c d, s.stoppers[i]? = some c → s.stoppers[j]? = some d → c.inProgress = true → d.inProgress = true → i = j
  finishing : ∀ i : Nat, s.stoppers[i]? = some .finishing → s.transport.thread.joinable = false
  returned : ∀ i : Nat, s.stoppers[i]? = some .returned → s.transport.observation.stopped = true
  stopped : s.transport.observation.stopped = true → s.transport.thread.joinable = false ∧ s.transport.stopInProgress = false

variable {s t : Lifecycle} {i : Nat} {call : StopCall}

/-- What the invariant says of the stops stays true when one of them goes on and stays in progress. -/
theorem CutInv.advance (hi : CutInv s) (hc : s.stoppers[i]? = some call) (hp : call.inProgress = true) {next : StopCall}
    (hn : next.inProgress = true) {transport : Transport} (hstopped : transport.observation.stopped = s.transport.observation.stopped)
    (hstarted : transport.observation.started = s.transport.observation.started)
    (hprogress : transport.stopInProgress = s.transport.stopInProgress)
    (hcreated : transport.thread = .notCreated ↔ s.transport.thread = .notCreated)
    (hfinishing : next = .finishing → transport.thread.joinable = false) : CutInv (s.advanceStop i transport next) := by
  have hin : s.transport.stopInProgress = true := hi.progress.mpr ⟨i, call, hc, hp⟩
  have hnot : s.transport.observation.stopped = false := by
    cases hs : s.transport.observation.stopped with
    | false => rfl
    | true =>
      rw [(hi.stopped hs).2] at hin
      cases hin
  refine ⟨?_, ?_, fun j k c d hj hk hcp hdp => ?_, fun j hj => ?_, fun j hj => ?_, fun h => ?_⟩
  · exact hcreated.trans (hi.created.trans (by rw [← hstarted]; rfl))
  · refine ⟨fun _ => ⟨i, next, getElem?_set_self hc, hn⟩, fun _ => hprogress.trans hin⟩
  · rcases getElem?_set_cases hj with ⟨rfl, rfl⟩ | ⟨-, ho⟩
    · rcases getElem?_set_cases hk with ⟨rfl, -⟩ | ⟨-, ho'⟩
      · rfl
      · exact hi.unique j k _ d hc ho' hp hdp
    · rcases getElem?_set_cases hk with ⟨rfl, rfl⟩ | ⟨-, ho'⟩
      · exact hi.unique j k c _ ho hc hcp hp
      · exact hi.unique j k c d ho ho' hcp hdp
  · rcases getElem?_set_cases hj with ⟨-, he⟩ | ⟨hne, ho⟩
    · exact hfinishing he.symm
    · exact absurd (hi.unique j i _ _ ho hc rfl hp) hne
  · rcases getElem?_set_cases hj with ⟨-, he⟩ | ⟨-, ho⟩
    · rw [← he] at hn
      cases hn
    · exact hstopped.trans (hi.returned j ho)
  · rw [show (s.advanceStop i transport next).transport.observation.stopped = _ from hstopped, hnot] at h
    cases h

/-- A new stop that has nothing to do itself is in nobody's way. -/
theorem CutInv.enter (hi : CutInv s) (hc : call = .waiting ∨ (call = .returned ∧ s.transport.observation.stopped = true)) :
    CutInv { s with stoppers := s.stoppers ++ [call] } := by
  have hn : call.inProgress = false := by rcases hc with rfl | ⟨rfl, -⟩ <;> rfl
  refine ⟨hi.created, hi.progress.trans ⟨?_, ?_⟩, fun j k c d hj hk hcp hdp => ?_, fun j hj => ?_, fun j hj => ?_, hi.stopped⟩
  · rintro ⟨j, c, hj, hcp⟩
    exact ⟨j, c, getElem?_push_old hj, hcp⟩
  · rintro ⟨j, c, hj, hcp⟩
    rcases getElem?_push_cases hj with ⟨-, rfl⟩ | ⟨-, ho⟩
    · rw [hn] at hcp
      cases hcp
    · exact ⟨j, c, ho, hcp⟩
  · rcases getElem?_push_cases hj with ⟨-, rfl⟩ | ⟨-, ho⟩
    · rw [hn] at hcp
      cases hcp
    · rcases getElem?_push_cases hk with ⟨-, rfl⟩ | ⟨-, ho'⟩
      · rw [hn] at hdp
        cases hdp
      · exact hi.unique j k c d ho ho' hcp hdp
  · rcases getElem?_push_cases hj with ⟨-, rfl⟩ | ⟨-, ho⟩
    · cases hn
    · exact hi.finishing j ho
  · rcases getElem?_push_cases hj with ⟨-, rfl⟩ | ⟨-, ho⟩
    · rcases hc with hc | ⟨-, hst⟩
      · cases hc
      · exact hst
    · exact hi.returned j ho

/-- A stop that finds none before it wins. -/
theorem CutInv.win (hi : CutInv s) (hnot : s.transport.observation.stopped = false) (hidle : s.transport.stopInProgress = false) :
    CutInv { s with
      transport := { s.transport with stopInProgress := true, stopRequested := true, observation.running := false }
      stoppers := s.stoppers ++ [if s.transport.observation.started then .posting else .finishing] } := by
  have hnone : ∀ (j : Nat) c, s.stoppers[j]? = some c → c.inProgress = false := by
    intro j c hj
    cases hcp : c.inProgress with
    | false => rfl
    | true =>
      have := hi.progress.mpr ⟨j, c, hj, hcp⟩
      rw [hidle] at this
      cases this
  refine ⟨hi.created, ?_, fun j k c d hj hk hcp hdp => ?_, fun j hj => ?_, fun j hj => ?_, fun hst => ?_⟩
  · refine ⟨fun _ => ⟨s.stoppers.length, _, List.getElem?_concat_length, ?_⟩, fun _ => rfl⟩
    split <;> rfl
  · rcases getElem?_push_cases hj with ⟨rfl, -⟩ | ⟨-, ho⟩
    · rcases getElem?_push_cases hk with ⟨rfl, -⟩ | ⟨-, ho'⟩
      · rfl
      · rw [hnone k d ho'] at hdp
        cases hdp
    · rw [hnone j c ho] at hcp
      cases hcp
  · rcases getElem?_push_cases hj with ⟨-, he⟩ | ⟨-, ho⟩
    · -- it goes on to finish at once only if there is no thread
      cases hstarted : s.transport.observation.started with
      | true =>
        rw [hstarted] at he
        cases he
      | false =>
        show s.transport.thread.joinable = false
        rw [hi.created.mpr hstarted]
        rfl
    · exact hi.finishing j ho
  · rcases getElem?_push_cases hj with ⟨-, he⟩ | ⟨-, ho⟩
    · split at he <;> cases he
    · exact hi.returned j ho
  · have hst' : s.transport.observation.stopped = true := hst
    rw [hnot] at hst'
    cases hst'

/-- A stop returns that has waited for another one. -/
theorem CutInv.waited (hi : CutInv s) (hc : s.stoppers[i]? = some .waiting) (hst : s.transport.observation.stopped = true) :
    CutInv (s.advanceStop i s.transport .returned) := by
  refine ⟨hi.created, hi.progress.trans ⟨?_, ?_⟩, fun j k c d hj hk hcp hdp => ?_, fun j hj => ?_, fun _ _ => hst, hi.stopped⟩
  · rintro ⟨j, c, hj, hcp⟩
    have hne : j ≠ i := by
      rintro rfl
      rw [hc] at hj
      cases hj
      cases hcp
    exact ⟨j, c, (getElem?_set_other hne).trans hj, hcp⟩
  · rintro ⟨j, c, hj, hcp⟩
    rcases getElem?_set_cases hj with ⟨-, rfl⟩ | ⟨-, ho⟩
    · cases hcp
    · exact ⟨j, c, ho, hcp⟩
  · rcases getElem?_set_cases hj with ⟨-, rfl⟩ | ⟨-, ho⟩
    · cases hcp
    · rcases getElem?_set_cases hk with ⟨-, rfl⟩ | ⟨-, ho'⟩
      · cases hdp
      · exact hi.unique j k c d ho ho' hcp hdp
  · rcases getElem?_set_cases hj with ⟨-, he⟩ | ⟨-, ho⟩
    · cases he
    · exact hi.finishing j ho

/-- The stop in progress publishes that it is done: no thread is left, and no other stop is in progress. -/
theorem CutInv.finish (hi : CutInv s) (hc : s.stoppers[i]? = some .finishing) :
    CutInv (s.advanceStop i s.transport.finishStop .returned) := by
  have hgone : s.transport.thread.joinable = false := hi.finishing i hc
  have hothers : ∀ (j : Nat) c, (s.stoppers.set i StopCall.returned)[j]? = some c → c.inProgress = false := by
    intro j c hj
    rcases getElem?_set_cases hj with ⟨-, rfl⟩ | ⟨hne, ho⟩
    · rfl
    · cases hcp : c.inProgress with
      | false => rfl
      | true => exact absurd (hi.unique j i c _ ho hc hcp rfl) hne
  refine ⟨hi.created, ⟨fun h => (by cases h), ?_⟩, fun j k c d hj hk hcp hdp => ?_, fun _ _ => hgone, fun _ _ => rfl,
    fun _ => ⟨hgone, rfl⟩⟩
  · rintro ⟨j, c, hj, hcp⟩
    rw [hothers j c hj] at hcp
    cases hcp
  · rw [hothers j c hj] at hcp
    cases hcp

/-- A thread that has been joined is not joinable. -/
theorem joinable_join (t : Transport) : t.join.thread.joinable = false := by
  unfold Transport.join
  split
  · rfl
  · rename_i h
    simpa using h

/-- Joining makes no thread. -/
theorem join_created (t : Transport) : t.join.thread = .notCreated ↔ t.thread = .notCreated := by
  unfold Transport.join
  cases t.thread <;> simp [NetworkThread.joinable]

/-- Each step of the threads keeps the invariant. -/
theorem CutStep.inv (hs : CutStep true s t) (hi : CutInv s) : CutInv t := by
  cases hs with
  | start hc happart =>
    unfold Lifecycle.callStart Transport.start
    split
    · exact ⟨hi.created, hi.progress, hi.unique, hi.finishing, hi.returned, hi.stopped⟩
    · rename_i hnot
      split
      · exact ⟨hi.created, hi.progress, hi.unique, hi.finishing, hi.returned, hi.stopped⟩
      · refine ⟨by simp, hi.progress, hi.unique, fun i hfin => ?_, hi.returned, fun hst => absurd hst hnot⟩
        -- no stop is in progress, so none is about to finish
        have hbusy := hi.progress.mpr ⟨i, .finishing, hfin, rfl⟩
        rw [happart rfl] at hbusy
        cases hbusy
  | startReturns hc hready => exact ⟨hi.created, hi.progress, hi.unique, hi.finishing, hi.returned, hi.stopped⟩
  | stop =>
    unfold Lifecycle.callStop Transport.enterStop
    split
    · rename_i hst
      exact hi.enter (Or.inr ⟨rfl, hst⟩)
    · rename_i hnot
      split
      · exact hi.enter (Or.inl rfl)
      · rename_i hidle
        exact hi.win (by simpa using hnot) (by simpa using hidle)
  | stopWaited hc hready => exact hi.waited hc hready
  | post hc => exact hi.advance hc rfl rfl rfl rfl rfl Iff.rfl (by simp)
  | join hc hready => exact hi.advance hc rfl rfl rfl rfl rfl (join_created _) (fun _ => joinable_join _)
  | finish hc => exact hi.finish hc
  | network hn =>
    obtain ⟨hr, hr', hstarted, hstopped, hprogress⟩ := hn.frame
    have hlive : s.transport.thread.joinable = true := by rw [hr]; rfl
    refine ⟨?_, ?_, hi.unique, fun j hj => ?_, fun j hj => hstopped.trans (hi.returned j hj), fun hst => ?_⟩
    · have hcreated : s.transport.observation.started ≠ false := by
        rw [ne_eq, ← hi.created, hr]
        simp
      rw [show ({ s with transport := _, submissions := _ } : Lifecycle).transport.observation.started = _ from hstarted]
      refine ⟨fun h => ?_, fun h => absurd h hcreated⟩
      rcases hr' with hr' | hr' <;> rw [show _ = NetworkThread.notCreated from h] at hr' <;> cases hr'
    · rw [show ({ s with transport := _, submissions := _ } : Lifecycle).transport.stopInProgress = _ from hprogress]
      exact hi.progress
    · rw [hi.finishing j hj] at hlive
      cases hlive
    · rw [(hi.stopped (hstopped.symm.trans hst)).1] at hlive
      cases hlive

/-- The invariant holds in every state of every run. -/
theorem Reachable.inv {connectionGeneration : Nat} {connectionId : String} {profile : BinanceTransportProfile}
    (h : Reachable true connectionGeneration connectionId profile s) : CutInv s := by
  induction h with
  | initial =>
    refine ⟨by simp [Transport.fresh], by simp [Transport.fresh], fun i j c d hi => (by simp at hi), fun i hi => (by simp at hi),
      fun i hi => (by simp at hi), fun h => (by cases h)⟩
  | step _ hs ih => exact hs.inv ih

/-! ## After a stop -/

/-- Once a transport has stopped and its thread is gone, no section of any thread brings one back or submits anything. -/
theorem CutStep.after_cut {apart : Bool} (hs : CutStep apart s t) (hst : s.transport.observation.stopped = true)
    (hgone : s.transport.thread.joinable = false) :
    t.transport.observation.stopped = true ∧ t.transport.thread = s.transport.thread ∧ t.submissions = s.submissions := by
  cases hs with
  | start hc ha =>
    unfold Lifecycle.callStart Transport.start
    rw [if_pos hst]
    exact ⟨hst, rfl, rfl⟩
  | stop =>
    unfold Lifecycle.callStop Transport.enterStop
    rw [if_pos hst]
    exact ⟨hst, rfl, rfl⟩
  | join hc hready =>
    refine ⟨hst, ?_, rfl⟩
    show (if s.transport.thread.joinable then NetworkThread.joined else s.transport.thread) = s.transport.thread
    rw [hgone]
    rfl
  | finish hc => exact ⟨rfl, rfl, rfl⟩
  | network hn =>
    have hr := hn.frame.1
    rw [hr] at hgone
    cases hgone
  | startReturns _ _ | stopWaited _ _ | post _ => exact ⟨hst, rfl, rfl⟩

/-- When the start does not create the network thread while a stop is in progress, every stop that has returned is a cut: the network
thread has been joined or never was, so that there is nothing to be joined before it is destroyed, and whatever any thread does from
there on, none is created and nothing is submitted. -/
theorem stop_is_quiescence_cut {connectionGeneration : Nat} {connectionId : String} {profile : BinanceTransportProfile}
    (h : Reachable true connectionGeneration connectionId profile s) (hr : StopCall.returned ∈ s.stoppers) :
    s.transport.thread.joinable = false ∧
      ∀ t, ReflTransGen (CutStep false) s t →
        t.transport.thread = s.transport.thread ∧ t.submissions = s.submissions := by
  obtain ⟨i, hri⟩ := List.mem_iff_getElem?.mp hr
  have hst := h.inv.returned i hri
  have hgone := (h.inv.stopped hst).1
  refine ⟨hgone, fun t ht => ?_⟩
  have hall : t.transport.observation.stopped = true ∧ t.transport.thread = s.transport.thread ∧
      t.submissions = s.submissions := by
    induction ht with
    | refl => exact ⟨hst, rfl, rfl⟩
    | tail _ hs ih =>
      obtain ⟨hst', hthread, hsub⟩ := hs.after_cut ih.1 (by rw [ih.2.1]; exact hgone)
      exact ⟨hst', hthread.trans ih.2.1, hsub.trans ih.2.2⟩
  exact hall.2

/-! ## A thread that outlives its stop -/

/-- A stop has begun before the start and has returned after it; the network thread is connected and has taken a depth update. -/
def outlived : Lifecycle where
  transport :=
    { observation := { started := true, stopped := true, connectionId := "g1", lastEventUtcNs := some 5 }
      stopRequested := true
      thread := .running
      task := .submittingUpdate
      reading := true }
  starter := .waiting
  stoppers := [.returned]

theorem reachable_outlived : Reachable false 1 "g1" .depthOnly outlived := by
  have h : Reachable false 1 "g1" .depthOnly { transport := Transport.fresh 1 "g1" .depthOnly } := Reachable.initial
  have h := h.step .stop
  have h := h.step (.start rfl (fun h => by cases h))
  have h := h.step (.finish (i := 0) rfl)
  have h := h.step (.network (.websocketActive rfl rfl rfl rfl))
  exact h.step (.network (.message rfl rfl rfl rfl (.event .depth) 5))

/-- A stop that begins before the start takes the lock returns while the network thread runs, and an update is submitted after it. -/
theorem stop_leaves_running_thread :
    ∃ s, Reachable false 1 "g1" .depthOnly s ∧ StopCall.returned ∈ s.stoppers ∧ s.transport.thread.joinable = true ∧
      ∃ t, ReflTransGen (CutStep false) s t ∧ t.submissions = .depthUpdate :: s.submissions :=
  ⟨outlived, reachable_outlived, List.mem_cons_self, rfl, _,
    ReflTransGen.single (.network (.submitUpdate rfl rfl .accepted)), rfl⟩

/-- A start that is apart from its stop: the thread is connected, the stop joins it. -/
def stoppedLifecycle : Lifecycle where
  transport :=
    { observation := { started := true, stopped := true, connectionId := "g1" }
      stopRequested := true
      thread := .joined
      cleanShutdownPosted := true
      networkCleanCancelRequested := true
      workReleased := true }
  starter := .waiting
  stoppers := [.returned]

theorem reachable_stoppedLifecycle : Reachable true 1 "g1" .depthOnly stoppedLifecycle := by
  have h : Reachable true 1 "g1" .depthOnly { transport := Transport.fresh 1 "g1" .depthOnly } := Reachable.initial
  have h := h.step (.start rfl (fun _ => rfl))
  have h := h.step .stop
  have h := h.step (.post (i := 0) rfl)
  have h := h.step (.network (.cleanShutdown rfl rfl rfl))
  have h := h.step (.network (.barrier rfl rfl rfl))
  have h := h.step (.network (.exit rfl rfl rfl))
  have h := h.step (.join (i := 0) rfl rfl)
  exact h.step (.finish (i := 0) rfl)

/-- In the sample run the stop has joined the thread, and nothing is submitted behind it. -/
theorem stop_is_quiescence_cut_joined :
    StopCall.returned ∈ stoppedLifecycle.stoppers ∧ stoppedLifecycle.transport.thread.joinable = false ∧
      ∀ t, ReflTransGen (CutStep false) stoppedLifecycle t →
        t.transport.thread = stoppedLifecycle.transport.thread ∧ t.submissions = stoppedLifecycle.submissions :=
  ⟨List.mem_cons_self, stop_is_quiescence_cut reachable_stoppedLifecycle List.mem_cons_self⟩

end MarketDataGateway.BinanceTransport
