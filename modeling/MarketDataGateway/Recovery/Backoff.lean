import MarketDataGateway.Recovery.History

/-!
# How long a recovery waits

The delay before the next attempt is asked for in seconds, and the wait ends at a time of the steady clock, which counts nanoseconds in
64 bits. A demanded delay that is too long for the clock is accepted all the same, and then the wait ends too early.

The steady clock is read from what is outside of the coordinator. Beside it the waits are on record, latest first; nothing reads them.
-/

namespace MarketDataGateway.Recovery

open Threads BinanceTransport MarketRuntime

variable {L : ProjectionLibrary} {Y ω : Type}

/-! ## The demanded delay -/

/-- The exchange has limited the rate of the requests, with this text for when to come back. -/
def RateLimited (failure : Option NetworkError) (retryAfter : String) : Prop :=
  ∃ error, failure = some error ∧ error.code = .httpStatus ∧ (error.httpStatus = some 429 ∨ error.httpStatus = some 418) ∧
    error.retryAfter = some retryAfter

/-- The seconds that a failure demands before the next attempt. -/
def demandedDelay (failure : Option NetworkError) : Option Nat :=
  match failure with
  | none => none
  | some error =>
    match error.code, error.httpStatus with
    | .httpStatus, some status => if status = 429 ∨ status = 418 then parseRetryAfter error.retryAfter else none
    | _, _ => none

/-- A limited rate demands what the text says. -/
theorem RateLimited.demandedDelay {failure : Option NetworkError} {text : String} (h : RateLimited failure text) :
    demandedDelay failure = parseRetryAfter (some text) := by
  obtain ⟨error, rfl, hcode, hstatus, htext⟩ := h
  unfold Recovery.demandedDelay
  rcases hstatus with hstatus | hstatus <;> simp [hcode, hstatus, htext]

def kNanosecondsPerSecond : Nat := 1000000000

/-- The delay in the nanoseconds of the clock. -/
def inNanoseconds (delay : Nat) : Int64 := Int64.ofNat delay * Int64.ofNat kNanosecondsPerSecond

/-- The time at which `wait_for` ends the wait. -/
def backoffDeadline (now : Int64) (delay : Nat) : Int64 := now + inNanoseconds delay

/-- A wait: the recovery attempt that it precedes, the failure recorded last, the seconds it is to last, and the times of the steady
clock at which it began and, unless a stop was requested, ended. -/
structure BackoffWait where
  attempt : Nat
  failure : Option NetworkError
  delay : Nat
  started : Int64
  ended : Option Int64 := none
  deriving DecidableEq, Repr

namespace BackoffWait

def deadline (wait : BackoffWait) : Int64 := backoffDeadline wait.started wait.delay

end BackoffWait

/-- A world with a record of the waits. -/
abbrev Clocked (L : ProjectionLibrary) (Y : Type) := World L (Y × List BackoffWait)

namespace World

def waits (s : Clocked L Y) : List BackoffWait := s.outside.2

def beginWait (now : Int64) (delay : Nat) (s : Clocked L Y) : Clocked L Y :=
  { s with
    outside :=
      (s.outside.1, ⟨s.coordinator.observation.consecutiveRecoveryAttempts, lastFailure s.calls, delay, now, none⟩ :: s.outside.2) }

def endWait (now : Int64) (s : Clocked L Y) : Clocked L Y :=
  { s with outside := (s.outside.1, s.outside.2.modifyHead fun wait => { wait with ended := some now }) }

end World

/-- Wait until the clock has reached the deadline or a stop is requested; false after a stop. -/
def waitBackoff (steadyNow : Y → Int64) (delay : Nat) : Program (Clocked L Y) ω (Except String Bool) := do
  let deadline ← Program.atomic fun _ s =>
    (backoffDeadline (steadyNow s.outside.1) delay, s.beginWait (steadyNow s.outside.1) delay)
  Program.await (fun s => s.coordinator.stopToken || deadline ≤ steadyNow s.outside.1) fun _ s =>
    ((), if s.coordinator.stopToken then s else s.endWait (steadyNow s.outside.1))
  Program.read fun s => .ok !s.coordinator.stopToken

/-- The same collaborators with the wait on the steady clock. -/
def Collaborators.onSteadyClock (steadyNow : Y → Int64) (c : Collaborators L (Y × List BackoffWait) ω) :
    Collaborators L (Y × List BackoffWait) ω :=
  { c with waitBackoff := Recovery.waitBackoff steadyNow }

/-! ## The bounds -/

end MarketDataGateway.Recovery
