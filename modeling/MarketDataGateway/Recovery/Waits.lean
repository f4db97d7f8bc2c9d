import MarketDataGateway.Recovery.Backoff
import MarketDataGateway.Recovery.Growth
import MarketDataGateway.Runtime.Counting

/-!
# Every wait of a coordinator

What the coordinator waits for before a recovery attempt, in every run: the longer one of its own delay for the attempt and what the
failure has demanded. Whatever else it does leaves the record of the waits alone.
-/

namespace MarketDataGateway.Recovery

open BinanceTransport MarketRuntime OrderBook Threads Promise

variable {L : ProjectionLibrary} {Y ω α : Type} {around : Clocked L Y → Y × List BackoffWait → Prop}

/-- A section outside of the coordinator that leaves the waits on record alone. -/
def Unwaited (s t : Clocked L Y) : Prop := OutsideOnly s t ∧ t.waits = s.waits

namespace BackoffWait

/-- The wait is for the longer one of the coordinator's own delay and the demanded one, and it has not ended before its deadline. -/
structure Told (wait : BackoffWait) : Prop where
  delay : ∃ normal, normalBackoffDelay wait.attempt = .ok normal ∧ wait.delay = max normal ((demandedDelay wait.failure).getD 0)
  ended : ∀ ended, wait.ended = some ended → wait.deadline ≤ ended

end BackoffWait

/-- Every wait on record is as it should be. -/
def AllTold (s : Clocked L Y) : Prop := ∀ wait ∈ s.waits, wait.Told

/-- The coordinator is about to wait for `delay`. -/
def Asks (delay : Nat) (s : Clocked L Y) : Prop :=
  ∃ normal, normalBackoffDelay s.coordinator.observation.consecutiveRecoveryAttempts = .ok normal ∧
    delay = max normal ((demandedDelay (lastFailure s.calls)).getD 0)

section Rely

variable (haround : ∀ (s : Clocked L Y) x, around s x → x.2 = s.waits)

include haround in
/-- No other thread puts a wait on record. -/
theorem ClientStep.waits {s t : Clocked L Y} (hs : ClientStep around s t) : t.waits = s.waits := by
  rcases outside_step hs with ⟨-, ho | ha⟩ | ⟨-, -, ho⟩
  · exact congrArg Prod.snd ho
  · exact haround s _ ha
  · exact congrArg Prod.snd ho

/-- The environment leaves the record alone, and every wait on it is as it should be. -/
def telling : Rely (Clocked L Y) where
  env := ClientStep around
  inv := AllTold
  inv_env := by
    intro s t h hs
    unfold AllTold
    rw [hs.waits haround]
    exact h

variable {haround}

/-- What is asked for stays asked for. -/
theorem stable_asks {delay : Nat} : (telling haround).Stable (Asks delay) := by
  intro s t _ h hs
  unfold Asks
  rw [Contract.client_keepsBudget hs, ClientStep.calls hs]
  exact h

/-- The last failure stays the last one. -/
theorem stable_lastFailure {failure : Option NetworkError} : (telling haround).Stable fun s => lastFailure s.calls = failure := by
  intro s t _ h hs
  rw [ClientStep.calls hs]
  exact h

/-- The recovery stays counted and its failure the last one. -/
theorem stable_counted {n : Nat} {failure : Option NetworkError} : (telling haround).Stable fun s =>
    s.coordinator.observation.consecutiveRecoveryAttempts = n ∧ lastFailure s.calls = failure := by
  intro s t _ h hs
  rw [Contract.client_keepsBudget hs, ClientStep.calls hs]
  exact h

/-! ## Pieces that leave the record alone -/

/-- A piece whose sections leave the record alone and keep an assertion. -/
theorem keeping_triple {G : Clocked L Y → Clocked L Y → Prop} {P : Clocked L Y → Prop} {p : Throwing (Clocked L Y) ω String α}
    (hp : Throwing.All G p) (hP : (telling haround).Stable P) (hG : ∀ s t, G s t → t.waits = s.waits ∧ (P s → P t)) :
    TripleE (telling haround) P p (fun _ => P) fun _ _ => True := by
  have h : Triple (telling haround) P p.run fun _ => P := by
    refine Triple.of_all hp hP fun s t hi hs hst => ⟨?_, (hG s t hst).2 hs⟩
    show AllTold t
    unfold AllTold
    rw [(hG s t hst).1]
    exact hi
  refine h.post fun r s _ hs => ?_
  cases r with
  | ok a => exact hs
  | error e => trivial

/-- A piece that leaves the record alone needs nothing. -/
theorem quiet_triple {p : Throwing (Clocked L Y) ω String α} (hp : Throwing.All (fun s t => t.waits = s.waits) p) :
    TripleE (telling haround) (fun _ => True) p (fun _ _ => True) fun _ _ => True :=
  keeping_triple hp (Rely.Stable.const True) fun _ _ h => ⟨h, id⟩

/-- So it does behind whatever holds. -/
theorem quiet_after {P : Clocked L Y → Prop} {p : Throwing (Clocked L Y) ω String α}
    (hp : Throwing.All (fun s t => t.waits = s.waits) p) :
    TripleE (telling haround) P p (fun _ _ => True) fun _ _ => True :=
  (quiet_triple hp).conseq (fun _ _ _ => trivial) (fun _ _ _ h => h) fun _ _ _ h => h

/-- A section of the coordinator's own puts no wait on record. -/
theorem ours_waits (s t : Clocked L Y) (h : Ours s t) : t.waits = s.waits := congrArg Prod.snd h.outside

/-- An ordinary section puts neither a wait nor a failure on record. -/
theorem ordinary_waits (s t : Clocked L Y) (h : Ordinary s t) : t.waits = s.waits ∧ lastFailure t.calls = lastFailure s.calls :=
  ⟨ours_waits s t h.toOurs, h.failures⟩

/-- What goes on outside puts neither a wait nor a failure on record. -/
theorem unwaited_waits (s t : Clocked L Y) (h : Unwaited s t) : t.waits = s.waits ∧ lastFailure t.calls = lastFailure s.calls := by
  refine ⟨h.2, ?_⟩
  rw [h.1]

/-! ## The wait itself -/

/-- A section of the thread's own that leaves the record alone. -/
theorem own_triple {P Q : Clocked L Y → Prop} {f : Clocked L Y → Clocked L Y} (hP : (telling haround).Stable P)
    (hQ : (telling haround).Stable Q) (hf : ∀ s, (f s).waits = s.waits) (h : ∀ s, P s → Q (f s)) :
    Triple (telling haround) P (Program.modify f : Program (Clocked L Y) ω Unit) fun _ => Q := by
  refine Triple.modify hP hQ fun s hi hs => ⟨?_, h s hs⟩
  show AllTold (f s)
  unfold AllTold
  rw [hf s]
  exact hi

section Rounds

variable {c : Collaborators L (Y × List BackoffWait) ω} (hc : c.Sections Unwaited) (steadyNow : Y → Int64)
include hc

/-- The delay that is committed to is the one that is about to be waited for. -/
theorem commitBackoff_triple {decision : RecoveryDecision} {transport : TransportObservation}
    (hdelay : decision.minimumDelay = demandedDelay transport.terminalError) :
    TripleE (telling haround) (fun s => lastFailure s.calls = transport.terminalError)
      (commitBackoff (c.onSteadyClock steadyNow) decision transport)
      (fun delay s => ∀ d, delay = some d → Asks d s) fun _ _ => True := by
  show TripleE _ _ (commitBackoff c decision transport) _ _
  have htrue : ∀ _ : String, (telling haround).Stable fun _ => True := fun _ => Rely.Stable.const True
  have hasked : ∀ delay : Option Nat, (telling haround).Stable fun s => ∀ d, delay = some d → Asks d s :=
    fun _ => Rely.Stable.all fun _ => stable_asks.imp
  have hU := hc.mono unwaited_waits
  have hQ := hc.mono fun _ _ h => h.2
  let failed : Clocked L Y → Prop := fun s => lastFailure s.calls = transport.terminalError
  have hkeep : ∀ {β : Type} {p : Throwing (Clocked L Y) ω String β},
      Throwing.All (fun s t => t.waits = s.waits ∧ lastFailure t.calls = lastFailure s.calls) p →
      TripleE (telling haround) failed p (fun _ => failed) fun _ _ => True :=
    fun hp => keeping_triple hp stable_lastFailure fun s t h => ⟨h.1, fun hs => h.2.trans hs⟩
  have hnone : ∀ {p : Throwing (Clocked L Y) ω String Unit}, Throwing.All (fun s t => t.waits = s.waits) p →
      TripleE (telling haround) failed (do p; pure none) (fun delay s => ∀ d, delay = some d → Asks d s) fun _ _ => True := by
    intro p hp
    refine TripleE.bind htrue (quiet_after hp) fun _ => TripleE.pure (Rely.Stable.const True) fun _ _ _ d hd => ?_
    cases hd
  refine TripleE.between hasked htrue (A := failed) (B := fun delay s => ∀ d, delay = some d → Asks d s) (S := fun _ _ => True)
    ?_ ?_ (fun delay => ?_) fun _ => ?_
  · exact Triple.await stable_lastFailure (fun _ => stable_lastFailure) fun _ s hi hs _ => ⟨hi, hs⟩
  · refine TripleE.bind htrue (hkeep (read_all ordinary_waits _)) fun stopping => ?_
    split
    · exact hnone (close_all (fun s t h => ours_waits s t h.toOurs) hQ _)
    refine TripleE.bind htrue (hkeep (read_all ordinary_waits _)) fun spent => ?_
    split
    · refine TripleE.bind htrue (quiet_after (close_all (fun s t h => ours_waits s t h.toOurs) hQ _)) fun _ => ?_
      refine TripleE.bind htrue (quiet_triple (act_all fun _ => rfl)) fun _ => TripleE.pure (Rely.Stable.const True) ?_
      rintro _ _ _ _ ⟨⟩
    refine TripleE.bind htrue (hkeep (close_all ordinary_waits hU _)) fun _ => ?_
    refine TripleE.bind htrue (Q := fun n s => s.coordinator.observation.consecutiveRecoveryAttempts = n ∧ failed s) ?_ fun n => ?_
    · refine TripleE.lift (fun _ => stable_counted) (Triple.atomic stable_lastFailure (fun _ => stable_counted) ?_)
      exact fun _ s hi hs => ⟨hi, rfl, hs⟩
    · split
      · exact TripleE.throw stable_counted fun _ _ _ => trivial
      · rename_i normal hnormal
        refine TripleE.bind htrue (Q := fun _ s => s.coordinator.observation.consecutiveRecoveryAttempts = n ∧ failed s) ?_ fun _ => ?_
        · exact TripleE.lift (fun _ => stable_counted) (own_triple stable_counted stable_counted (fun _ => rfl) fun _ hs => hs)
        · refine TripleE.pure stable_counted fun s _ hs d hd => ?_
          obtain ⟨hn, hfailed⟩ := hs
          cases hd
          exact ⟨normal, hn ▸ hnormal, by rw [hdelay, hfailed]⟩
  · exact own_triple (hasked delay) (hasked delay) (fun _ => rfl) fun _ hs => hs
  · exact own_triple (Rely.Stable.const True) (Rely.Stable.const True) (fun _ => rfl) fun _ hs => hs

end Rounds

end Rely

def tooManyRequests (text : String) : NetworkError where
  code := .httpStatus
  stage := "depth-http-status"
  message := "Binance depth request returned non-200"
  httpStatus := some 429
  retryAfter := some text

/-- Every attempt is refused with the text. -/
def limiting (text : String) : Collaborators countingLibrary (Int64 × List BackoffWait) Unit where
  createAttempt _ := pure (.ok true)
  startAttempt _ := pure (.ok .started)
  stopAttempt _ := pure ()
  observeAttempt g :=
    pure (.ok { started := true, websocketHandshake := true, connectionGeneration := g, terminalError := some (tooManyRequests text) })
  monotonicClock := pure (.ok 0)
  waitUntilLiveOrRecoveryRequired := pure (.ok (some { state := .faulted, faultReason := some .transportFailure }))
  waitUntilRecoveryRequired := pure (.ok none)
  waitForRotation _ := pure (.ok .stopped)
  observeRuntime := pure (.ok { state := .faulted, faultReason := some .transportFailure })
  submitTransportFailure := pure (.ok .accepted)
  resetForRebootstrap := pure (.ok .reset)
  resetLiveForPlannedRebootstrap := pure (.ok .reset)
  waitBackoff _ := pure (.ok true)
  sourceGenerationLifecycle := none
  plannedRotation := none

/-- The coordinator's thread runs for `n` sections. -/
def limitedFor (text : String) (n : Nat) (p : Phase (Clocked countingLibrary Int64) Unit × Clocked countingLibrary Int64) :
    Phase (Clocked countingLibrary Int64) Unit × Clocked countingLibrary Int64 :=
  Phase.advances (coordinatorRound ((limiting text).onSteadyClock id)) () n p

/-- The coordinator's thread has run for `n` sections. -/
def limited (text : String) (n : Nat) : Phase (Clocked countingLibrary Int64) Unit × Clocked countingLibrary Int64 :=
  limitedFor text n (.head, { outside := (0, []), coordinator := ((Coordinator.start {}).2).createThread })

end MarketDataGateway.Recovery
