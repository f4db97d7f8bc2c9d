import MarketDataGateway.Recovery.Coordinator

/-!
# What a coordinator has done

The histories that a coordinator can have: the order of its attempts and resets, the order of its lifecycle callbacks, and how the
counters of its observation come from them. Histories are read backwards, the latest call is the first of the list.
-/

namespace MarketDataGateway.Recovery

open BinanceTransport

/-! ## Attempts -/

/-- What is said of attempts and resets. -/
inductive AttemptCall where
  | created (generation : Nat)
  | stopped (generation : Nat)
  | reset
  deriving DecidableEq, Repr

def RecoveryCall.attempt : RecoveryCall → Option AttemptCall
  | .attemptCreated generation => some (.created generation)
  | .attemptStopped generation => some (.stopped generation)
  | .ownerReset _ => some .reset
  | _ => none

def attemptCalls (calls : List RecoveryCall) : List AttemptCall := calls.filterMap RecoveryCall.attempt

/-- The last attempt is still there, it has been stopped, or the owner has been reset since. -/
inductive AttemptPhase where
  | ready | active | stopped
  deriving DecidableEq, Repr

/-- Attempts are numbered from one on. One follows the other when the last has been stopped and the owner has been reset once. -/
inductive AttemptWord : AttemptPhase → Nat → List AttemptCall → Prop where
  | none : AttemptWord .ready 0 []
  | create {g w} (h : AttemptWord .ready g w) : AttemptWord .active (g + 1) (.created (g + 1) :: w)
  | stop {g w} (h : AttemptWord .active g w) : AttemptWord .stopped g (.stopped g :: w)
  | stopAgain {g w} (h : AttemptWord .stopped g w) : AttemptWord .stopped g (.stopped g :: w)
  | reset {g w} (h : AttemptWord .stopped g w) : AttemptWord .ready g (.reset :: w)

/-- Every attempt but the last one has been stopped, and so has the last one unless it is active. -/
theorem AttemptWord.stopped_of_phase {phase : AttemptPhase} {n : Nat} {w : List AttemptCall} (h : AttemptWord phase n w) :
    (∀ g, .created g ∈ w → g ≤ n) ∧ ∀ g, .created g ∈ w → phase ≠ .active ∨ g ≠ n → .stopped g ∈ w := by
  induction h with
  | none => exact ⟨fun g hg => (by cases hg), fun g hg => (by cases hg)⟩
  | @create n w h ih =>
    refine ⟨fun g hg => ?_, fun g hg hne => ?_⟩
    · rcases List.mem_cons.mp hg with he | hg
      · cases he
        exact Nat.le_refl _
      · exact Nat.le_succ_of_le (ih.1 g hg)
    · rcases List.mem_cons.mp hg with he | hg
      · cases he
        rcases hne with hne | hne <;> exact absurd rfl hne
      · exact List.mem_cons_of_mem _ (ih.2 g hg (Or.inl (by simp)))
  | @stop n w h ih =>
    refine ⟨fun g hg => ?_, fun g hg _ => ?_⟩
    · exact ih.1 g ((List.mem_cons.mp hg).resolve_left (by simp))
    · have hg' := (List.mem_cons.mp hg).resolve_left (by simp)
      by_cases hgn : g = n
      · rw [hgn]
        exact List.mem_cons_self
      · exact List.mem_cons_of_mem _ (ih.2 g hg' (Or.inr hgn))
  | @stopAgain n w h ih =>
    refine ⟨fun g hg => ?_, fun g hg _ => ?_⟩
    · exact ih.1 g ((List.mem_cons.mp hg).resolve_left (by simp))
    · exact List.mem_cons_of_mem _ (ih.2 g ((List.mem_cons.mp hg).resolve_left (by simp)) (Or.inl (by simp)))
  | @reset n w h ih =>
    refine ⟨fun g hg => ?_, fun g hg _ => ?_⟩
    · exact ih.1 g ((List.mem_cons.mp hg).resolve_left (by simp))
    · exact List.mem_cons_of_mem _ (ih.2 g ((List.mem_cons.mp hg).resolve_left (by simp)) (Or.inl (by simp)))

/-- A last attempt that was stopped is on record as stopped. -/
theorem AttemptWord.stopped_mem {n : Nat} {w : List AttemptCall} (h : AttemptWord .stopped n w) : .stopped n ∈ w := by
  cases h with
  | stop _ => exact List.mem_cons_self
  | stopAgain _ => exact List.mem_cons_self

/-- What is said of an attempt is among what is said of attempts. -/
theorem mem_attemptCalls {calls : List RecoveryCall} {call : RecoveryCall} {a : AttemptCall} (hc : call.attempt = some a)
    (hm : call ∈ calls) : a ∈ attemptCalls calls :=
  List.mem_filterMap.mpr ⟨call, hm, hc⟩

/-- What is said to be stopped was stopped. -/
theorem mem_of_stopped {calls : List RecoveryCall} {g : Nat} (h : .stopped g ∈ attemptCalls calls) : .attemptStopped g ∈ calls := by
  obtain ⟨call, hm, hc⟩ := List.mem_filterMap.mp h
  cases call <;> simp only [RecoveryCall.attempt, Option.some.injEq, reduceCtorEq] at hc
  cases hc
  exact hm

/-- Every attempt there has been has been stopped. -/
def Settled (calls : List RecoveryCall) : Prop := ∀ g, .attemptCreated g ∈ calls → .attemptStopped g ∈ calls

/-- Where no attempt is active all of them have been stopped. -/
theorem AttemptWord.settled {calls : List RecoveryCall} {phase : AttemptPhase} {n : Nat}
    (h : AttemptWord phase n (attemptCalls calls)) (hp : phase ≠ .active) : Settled calls :=
  fun g hg => mem_of_stopped (h.stopped_of_phase.2 g (mem_attemptCalls rfl hg) (Or.inl hp))

/-! ## Lifecycle callbacks -/

/-- An invocation of a lifecycle callback. -/
inductive SourceCall where
  | opened (generation : Nat)
  | quiesced (generation : Nat)
  | closed (generation : Nat) (outcome : SourceGenerationCloseOutcome)
  deriving DecidableEq, Repr

def RecoveryCall.invocation : RecoveryCall → Option SourceCall
  | .sourceOpened generation _ => some (.opened generation)
  | .sourceQuiesced generation _ => some (.quiesced generation)
  | .sourceClosed generation outcome _ => some (.closed generation outcome)
  | _ => none

def invocations (calls : List RecoveryCall) : List SourceCall := calls.filterMap RecoveryCall.invocation

/-- Whether a generation is open; `ended` when the last one was closed for good. -/
inductive SourcePhase where
  | closed | opened | quiesced | ended
  deriving DecidableEq, Repr

/-- Generations are opened, quiesced and closed one after the other, each one later than the one before; after a close that is not a
replacement there is no other. -/
inductive SourceWord : SourcePhase → Nat → List SourceCall → Prop where
  | none : SourceWord .closed 0 []
  | opening {last g w} (h : SourceWord .closed last w) (hl : last < g) : SourceWord .opened g (.opened g :: w)
  | quiescing {g w} (h : SourceWord .opened g w) : SourceWord .quiesced g (.quiesced g :: w)
  | replacing {g w} (h : SourceWord .quiesced g w) : SourceWord .closed g (.closed g .replacement :: w)
  | finishing {g w outcome} (h : SourceWord .quiesced g w) (ho : outcome ≠ .replacement) :
      SourceWord .ended g (.closed g outcome :: w)

/-- Every generation that was opened has been closed, but for the last one while it is open. -/
theorem SourceWord.closed_of_phase {phase : SourcePhase} {last : Nat} {w : List SourceCall} (h : SourceWord phase last w) :
    ∀ g, .opened g ∈ w → (phase = .closed ∨ phase = .ended) ∨ g ≠ last → ∃ outcome, .closed g outcome ∈ w := by
  induction h with
  | none =>
    intro g hg
    cases hg
  | @opening last n w h hl ih =>
    intro g hg hp
    rcases List.mem_cons.mp hg with he | hg
    · cases he
      simp at hp
    · exact (ih g hg (Or.inl (Or.inl rfl))).imp fun _ => List.mem_cons_of_mem _
  | @quiescing n w h ih =>
    intro g hg hp
    have hg' : .opened g ∈ w := by simpa using hg
    have hne : g ≠ n := by simpa using hp
    exact (ih g hg' (Or.inr hne)).imp fun _ => List.mem_cons_of_mem _
  | @replacing n w h ih =>
    intro g hg _
    have hg' : .opened g ∈ w := by simpa using hg
    by_cases hgn : g = n
    · exact ⟨_, by rw [hgn]; exact List.mem_cons_self⟩
    · exact (ih g hg' (Or.inr hgn)).imp fun _ => List.mem_cons_of_mem _
  | @finishing n w outcome h ho ih =>
    intro g hg _
    have hg' : .opened g ∈ w := by simpa using hg
    by_cases hgn : g = n
    · exact ⟨_, by rw [hgn]; exact List.mem_cons_self⟩
    · exact (ih g hg' (Or.inr hgn)).imp fun _ => List.mem_cons_of_mem _

/-- Whenever a generation was quiesced its attempt had been stopped. -/
def StoppedFirst : List RecoveryCall → Prop
  | [] => True
  | call :: calls =>
    (∀ generation result, call = .sourceQuiesced generation result → .attemptStopped generation ∈ calls) ∧ StoppedFirst calls

/-- Every callback has returned true. -/
def AllTrue (calls : List RecoveryCall) : Prop :=
  ∀ call ∈ calls, (∀ g, call ≠ .sourceOpened g false) ∧ (∀ g, call ≠ .sourceQuiesced g false) ∧
    ∀ g outcome, call ≠ .sourceClosed g outcome false

/-! ## Failures -/

/-- What a call notes of a failure of the transport. -/
def RecoveryCall.failure : RecoveryCall → Option (Option NetworkError)
  | .failureRecorded _ _ error => some error
  | _ => none

/-- The failure of the transport that was recorded last. -/
def lastFailure (calls : List RecoveryCall) : Option NetworkError := (calls.findSome? RecoveryCall.failure).join

/-- A call that records no failure leaves the last one as it is. -/
theorem lastFailure_cons {call : RecoveryCall} (h : call.failure = none) (calls : List RecoveryCall) :
    lastFailure (call :: calls) = lastFailure calls := by
  simp [lastFailure, h]

/-! ## Counters -/

/-- The attempts created since the last one that was marked live. -/
def startedSinceLive : List RecoveryCall → Nat
  | [] => 0
  | .markedLive _ :: _ => 0
  | .attemptCreated _ :: calls => startedSinceLive calls + 1
  | _ :: calls => startedSinceLive calls

/-- The delays asked for since an attempt was marked live. -/
def backoffsSinceLive : List RecoveryCall → Nat
  | [] => 0
  | .markedLive _ :: _ => 0
  | .backoffDelay _ :: calls => backoffsSinceLive calls + 1
  | _ :: calls => backoffsSinceLive calls

/-- An exception has found an attempt without an open source generation, or the cleanup after one has failed. -/
def Escaped (calls : List RecoveryCall) : Prop := (∃ g, .caught (some g) none ∈ calls) ∨ .cleanupFailed ∈ calls

end MarketDataGateway.Recovery
