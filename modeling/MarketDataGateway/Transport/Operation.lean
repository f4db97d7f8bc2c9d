import MarketDataGateway.Lib.Countdown
import MarketDataGateway.Transport.Network

/-!
# Network operations and their cancellation

The request for a depth snapshot and the market connection go through stages on one thread: each stage begins one I/O operation and one
timer wait. A handler runs for each of them when it is over. A timer wait carries the generation it was armed with; when the generation
has moved on, its handler does nothing.

The two classes have the same accounting, which is here, over the stages `σ`, the results `κ` that can be kept at a cancellation and the
reports `ρ` that the callback is given. Below the fields of the classes stand what is under way in the I/O runtime, and the cut: what
was under way when the operation was cancelled, and what has come of it since.
-/

namespace MarketDataGateway.BinanceTransport

open Countdown MarketRuntime

/-! ## Errors -/

/-- The error codes that are told from the others. -/
inductive ErrorKind where
  | operationAborted | timeout | other
  deriving DecidableEq, Repr

structure ErrorCode where
  kind : ErrorKind
  message : String
  deriving DecidableEq, Repr

def isCleanCancellation (errorCode : ErrorCode) (cleanCancelRequested : Bool) : Bool :=
  cleanCancelRequested && errorCode.kind = .operationAborted

def networkError (code : NetworkErrorCode) (stage message : String) (status : Option Nat := none)
    (retryAfter : Option String := none) : NetworkError :=
  ⟨code, stage, message, status, retryAfter⟩

def errorFromCode (code : NetworkErrorCode) (stage : String) (failure : ErrorCode) : NetworkError :=
  networkError code stage failure.message

/-- What a call of the clock gives: a sample, or an exception, with its text where it has one. -/
inductive ClockReading where
  | sample (receivedAt : ClockSample)
  | threw (what : Option String)
  deriving DecidableEq, Repr

/-! ## The operation -/

/-- What can be under way: an I/O operation, by its number, or a timer wait, by its generation. -/
inductive Completion where
  | io (number : Nat)
  | timer (generation : Nat)
  deriving DecidableEq, Repr

structure NetworkOperation (σ κ ρ : Type) where
  timeoutGeneration : Nat := 0
  cancellationCompletionsPending : Nat := 0
  ioPending : Bool := false
  timerPending : Bool := false
  cancelRequested : Bool := false
  done : Bool := false
  cancelledResult : Option κ := none
  /-- What the callback has been given. -/
  reported : List ρ := []
  started : Bool := false
  /-- The I/O operation under way, with its number. -/
  io : Option (Nat × σ) := none
  nextIo : Nat := 0
  /-- The timer waits under way, with their generations and stages. -/
  waits : List (Nat × String) := []
  cut : Option (Cut Completion κ ρ) := none

/-- How an operation reports a failure, and the result that it has kept. -/
structure Reporting (κ ρ : Type) where
  failure : NetworkError → ρ
  kept : κ → ρ

namespace NetworkOperation

variable {σ κ ρ : Type}

def retireCleanly (s : NetworkOperation σ κ ρ) : NetworkOperation σ κ ρ :=
  if s.done then s else { s with done := true }

def disarmTimeout (s : NetworkOperation σ κ ρ) : NetworkOperation σ κ ρ :=
  { s with timeoutGeneration := s.timeoutGeneration + 1, timerPending := false }

def finish (result : ρ) (s : NetworkOperation σ κ ρ) : NetworkOperation σ κ ρ :=
  if s.done then s
  else
    let s := { s with done := true, cancellationCompletionsPending := 0 }.disarmTimeout
    { s with reported := s.reported ++ [result] }

def armTimeout (stage : String) (s : NetworkOperation σ κ ρ) : NetworkOperation σ κ ρ :=
  { s with
    timeoutGeneration := s.timeoutGeneration + 1
    timerPending := true
    waits := (s.timeoutGeneration + 1, stage) :: s.waits }

def beginIo (stage : σ) (s : NetworkOperation σ κ ρ) : NetworkOperation σ κ ρ :=
  { s with ioPending := true, io := some (s.nextIo, stage), nextIo := s.nextIo + 1 }

/-- The timer of the current stage runs. -/
def timed (s : NetworkOperation σ κ ρ) : Bool := s.waits.any fun w => w.1 = s.timeoutGeneration

/-- What is under way for the current stage. -/
def current (s : NetworkOperation σ κ ρ) : List Completion :=
  s.io.toList.map (fun o => .io o.1) ++ if s.timed then [.timer s.timeoutGeneration] else []

def cancel (s : NetworkOperation σ κ ρ) : NetworkOperation σ κ ρ :=
  if s.done || s.cancelRequested then s
  else
    let s := { s with
      cancelRequested := true
      cancellationCompletionsPending := s.ioPending.toNat + s.timerPending.toNat
      cut := some { counted := s.current } }
    if s.cancellationCompletionsPending = 0 then s.retireCleanly else s

def completeCancelledPiece (R : Reporting κ ρ) (s : NetworkOperation σ κ ρ) : NetworkOperation σ κ ρ :=
  let s := { s with cancellationCompletionsPending := s.cancellationCompletionsPending - 1 }
  if s.cancellationCompletionsPending ≠ 0 ∨ s.done then s
  else
    match s.cancelledResult with
    | some result => { s with cancelledResult := none }.finish (R.kept result)
    | none => s.retireCleanly

/-- Handles the completion of an I/O operation that was cancelled; `none` when it was not. -/
def handleCancelledIo (R : Reporting κ ρ) (errorCode : Option ErrorCode) (code : NetworkErrorCode) (stage : String)
    (s : NetworkOperation σ κ ρ) : Option (NetworkOperation σ κ ρ) :=
  if ¬s.cancelRequested then none
  else
    match errorCode with
    | some e =>
      if ¬isCleanCancellation e s.cancelRequested then some (s.finish (R.failure (errorFromCode code stage e)))
      else some (s.completeCancelledPiece R)
    | none => some (s.completeCancelledPiece R)

/-- The handler of a stage that another one follows. -/
def stageCompleted (R : Reporting κ ρ) (code : NetworkErrorCode) (stage : String)
    (next : NetworkOperation σ κ ρ → NetworkOperation σ κ ρ) (errorCode : Option ErrorCode) (s : NetworkOperation σ κ ρ) :
    NetworkOperation σ κ ρ :=
  let s := { s with ioPending := false }
  if s.done then s
  else
    match s.handleCancelledIo R errorCode code stage with
    | some s => s
    | none =>
      let s := s.disarmTimeout
      match errorCode with
      | some e => s.finish (R.failure (errorFromCode code stage e))
      | none => next s

/-- The handler of a timer wait. -/
def timerCompleted (R : Reporting κ ρ) (generation : Nat) (stage : String) (errorCode : Option ErrorCode)
    (s : NetworkOperation σ κ ρ) : NetworkOperation σ κ ρ :=
  if generation ≠ s.timeoutGeneration then s
  else
    let s := { s with timerPending := false }
    if s.done then s
    else if s.cancelRequested then
      match errorCode with
      | none => s.finish (R.failure (networkError .timeout stage "network stage timed out"))
      | some e =>
        if isCleanCancellation e s.cancelRequested then s.completeCancelledPiece R
        else s.finish (R.failure (errorFromCode .internal (stage ++ "-timer") e))
    else
      match errorCode with
      | none => s.finish (R.failure (networkError .timeout stage "network stage timed out"))
      | some _ => s

/-! ## What is under way -/

/-- A completion is handed over: it is under way no more, and the cut has its verdict. -/
def take (k : Completion) (v : Verdict κ ρ) (s : NetworkOperation σ κ ρ) : NetworkOperation σ κ ρ :=
  { s with
    io := match k with
      | .io _ => none
      | .timer _ => s.io
    waits := match k with
      | .io _ => s.waits
      | .timer generation => s.waits.filter fun w => w.1 ≠ generation
    cut := s.cut.map (Cut.answer k v) }

/-- What the completion of a stage says after a cut. -/
def stageVerdict (R : Reporting κ ρ) (code : NetworkErrorCode) (stage : String) : Option ErrorCode → Verdict κ ρ
  | none => .clean
  | some e => if e.kind = .operationAborted then .clean else .failed (R.failure (errorFromCode code stage e))

/-- What a timer says after a cut: it was cancelled, or it has expired, or it has failed. -/
def timerVerdict (R : Reporting κ ρ) (stage : String) : Option ErrorCode → Verdict κ ρ
  | none => .failed (R.failure (networkError .timeout stage "network stage timed out"))
  | some e =>
    if e.kind = .operationAborted then .clean else .failed (R.failure (errorFromCode .internal (stage ++ "-timer") e))

/-- What an operation does with a verdict after its cut. -/
def settle (R : Reporting κ ρ) (v : Verdict κ ρ) (s : NetworkOperation σ κ ρ) : NetworkOperation σ κ ρ :=
  match v with
  | .clean => s.completeCancelledPiece R
  | .ready result => { s with cancelledResult := some result }.completeCancelledPiece R
  | .failed report => s.finish report

variable {R : Reporting κ ρ} {s : NetworkOperation σ κ ρ} {k : Completion} {v : Verdict κ ρ}

/-- A stage that completes when all is done changes nothing more. -/
theorem stageCompleted_done (code : NetworkErrorCode) (stage : String) (next : NetworkOperation σ κ ρ → NetworkOperation σ κ ρ)
    (errorCode : Option ErrorCode) (hd : s.done = true) :
    s.stageCompleted R code stage next errorCode = { s with ioPending := false } := by
  simp [stageCompleted, hd]

/-- A stage that completes behind a cancellation is a piece of it. -/
theorem stageCompleted_cut (code : NetworkErrorCode) (stage : String) (next : NetworkOperation σ κ ρ → NetworkOperation σ κ ρ)
    (errorCode : Option ErrorCode) (hd : s.done = false) (hr : s.cancelRequested = true) :
    s.stageCompleted R code stage next errorCode =
      { s with ioPending := false }.settle R (stageVerdict R code stage errorCode) := by
  cases errorCode with
  | none => simp [stageCompleted, handleCancelledIo, stageVerdict, settle, hd, hr]
  | some e =>
    by_cases ha : e.kind = .operationAborted <;>
      simp [stageCompleted, handleCancelledIo, isCleanCancellation, stageVerdict, settle, hd, hr, ha]

/-- A stage that completes otherwise fails, or the next one follows. -/
theorem stageCompleted_uncut (code : NetworkErrorCode) (stage : String) (next : NetworkOperation σ κ ρ → NetworkOperation σ κ ρ)
    (errorCode : Option ErrorCode) (hd : s.done = false) (hr : s.cancelRequested = false) :
    s.stageCompleted R code stage next errorCode =
      match errorCode with
      | some e => { s with ioPending := false }.disarmTimeout.finish (R.failure (errorFromCode code stage e))
      | none => next { s with ioPending := false }.disarmTimeout := by
  simp only [stageCompleted, handleCancelledIo, hd, hr]
  rfl

/-- A timer of an earlier stage changes nothing. -/
theorem timerCompleted_stale {generation : Nat} (stage : String) (errorCode : Option ErrorCode)
    (h : generation ≠ s.timeoutGeneration) : s.timerCompleted R generation stage errorCode = s :=
  if_pos h

/-- A timer that completes when all is done changes nothing more. -/
theorem timerCompleted_done {generation : Nat} (stage : String) (errorCode : Option ErrorCode)
    (hg : generation = s.timeoutGeneration) (hd : s.done = true) :
    s.timerCompleted R generation stage errorCode = { s with timerPending := false } := by
  simp [timerCompleted, hg, hd]

/-- A timer that completes behind a cancellation is a piece of it. -/
theorem timerCompleted_cut {generation : Nat} (stage : String) (errorCode : Option ErrorCode)
    (hg : generation = s.timeoutGeneration) (hd : s.done = false) (hr : s.cancelRequested = true) :
    s.timerCompleted R generation stage errorCode =
      { s with timerPending := false }.settle R (timerVerdict R stage errorCode) := by
  cases errorCode with
  | none => simp [timerCompleted, timerVerdict, settle, hg, hd, hr]
  | some e =>
    by_cases ha : e.kind = .operationAborted <;> simp [timerCompleted, isCleanCancellation, timerVerdict, settle, hg, hd, hr, ha]

/-- A timer that completes otherwise ends the operation, unless it was disarmed. -/
theorem timerCompleted_uncut {generation : Nat} (stage : String) (errorCode : Option ErrorCode)
    (hg : generation = s.timeoutGeneration) (hd : s.done = false) (hr : s.cancelRequested = false) :
    s.timerCompleted R generation stage errorCode =
      match errorCode with
      | none => { s with timerPending := false }.finish (R.failure (networkError .timeout stage "network stage timed out"))
      | some _ => { s with timerPending := false } := by
  cases errorCode <;> simp [timerCompleted, hg, hd, hr]

end NetworkOperation

end MarketDataGateway.BinanceTransport
