import MarketDataGateway.Runtime.Api

/-!
# Counting books

The smallest projection library with everything a runtime can meet: baselines, updates in order, stale ones and gaps. Its books
count. With it a runtime can be run.
-/

namespace MarketDataGateway.MarketRuntime

open Threads

/-- A book that counts: a baseline sets the count, an update must be the next number. -/
structure CountingBook where
  status : ProjectionStatus
  last : Nat
  deriving DecidableEq, Repr

/-- The projection library of counting books. A snapshot or an update is its number. -/
def countingLibrary : ProjectionLibrary where
  Projection := CountingBook
  NumericSpec := Unit
  ExpectedIdentity := Unit
  DepthUpdate := Nat
  ExchangeDepthSnapshot := Nat
  DepthBatch := Nat
  BookBaseline := Nat
  LocalSnapshot := Nat
  DepthLimit := Unit
  AdapterError := Unit
  GapInfo := Nat
  InstallResult := Bool
  ApplyResult := ApplyDisposition
  create _ _ := ⟨.awaitingBaseline, 0⟩
  numericSpec _ := ()
  status := CountingBook.status
  lastUpdateId book := some book.last
  lastGap _ := none
  reset _ := ⟨.awaitingBaseline, 0⟩
  adaptDepthUpdate u _ _ := .ok u
  applyTo u book :=
    match book.status with
    | .awaitingBaseline | .needsResync => (.ok .rejectedWrongState, book)
    | .awaitingBridge | .synchronized =>
      if u = book.last + 1 then (.ok .applied, ⟨.synchronized, u⟩)
      else if u ≤ book.last then (.ok .ignoredStale, book)
      else (.ok .gapDetected, ⟨.needsResync, book.last⟩)
  applyDisposition := id
  adaptExchangeDepthSnapshot n _ _ := .ok n
  installInto n book :=
    match book.status with
    | .awaitingBaseline => (.ok true, ⟨.awaitingBridge, n⟩)
    | _ => (.ok false, book)
  installed := id
  createDepthLimit _ := .ok ()
  makeLocalOrderBookSnapshot book _ _ _ := .ok book.last
  isInvalidDepthLimit _ := false
  receiveTimeUtcNs _ := none
  receiveMonotonicNs _ := none

instance : DecidableEq countingLibrary.Projection := inferInstanceAs (DecidableEq CountingBook)

/-- A runtime of counting books with the default limits. -/
def countingSetup : Setup countingLibrary where
  limits := {}
  numericSpec := ()
  expectedIdentity := ()

/-- Nothing fails, and the clock stands at one. -/
def calmOutcome : Outcome countingLibrary where
  clock := some ⟨1, 1⟩
  throws := false
  left := ⟨.awaitingBaseline, 0⟩

/-- An allocation, or a call into the projection, fails. -/
def failingOutcome : Outcome countingLibrary := { calmOutcome with throws := true }

/-- A configuration of a counting runtime. -/
abbrev CountingConfig := Phase (Impl countingLibrary) (Outcome countingLibrary) × Impl countingLibrary

/-- The owner runs for `n` sections. -/
def CountingConfig.run (n : Nat) (p : CountingConfig) : CountingConfig :=
  Phase.advances (ownerRound countingSetup) calmOutcome n p

/-- The owner runs one section, and what can fail in it fails. -/
def CountingConfig.fail (p : CountingConfig) : CountingConfig :=
  Phase.advances (ownerRound countingSetup) failingOutcome 1 p

/-- A caller's section. -/
def CountingConfig.call (f : Impl countingLibrary → Impl countingLibrary) (p : CountingConfig) : CountingConfig :=
  (p.1, f p.2)

def depthInput (n : Nat) (generation : Option Nat) : RuntimeInput countingLibrary := .depthUpdate ⟨n, ⟨generation⟩⟩

def snapshotInput (n : Nat) (generation : Option Nat) : RuntimeInput countingLibrary := .snapshot ⟨n, ⟨generation⟩⟩

/-- A counting runtime whose owner waits for work. -/
def countingStarted : CountingConfig :=
  CountingConfig.run 2 (CountingConfig.call (·.start.2) (.running ownerPrologue, Impl.initial countingSetup))

/-! ## Runs -/

/-- The configuration lies on a run from construction. -/
def CountingConfig.Reached (p : CountingConfig) : Prop := Reachable countingSetup p.1 p.2

namespace CountingConfig.Reached

variable {p : CountingConfig}

/-- Letting the owner run is a run. -/
theorem run (h : p.Reached) (n : Nat) : (p.run n).Reached := Reachable.advances calmOutcome n h

/-- A section that throws is a step of a run. -/
theorem fail (h : p.Reached) : p.fail.Reached := Reachable.advances failingOutcome 1 h

/-- A call is a step of a run. -/
theorem call (h : p.Reached) {f : Impl countingLibrary → Impl countingLibrary} (hf : ClientStep countingSetup p.2 (f p.2)) :
    (p.call f).Reached :=
  Reachable.step h (.env hf)

end CountingConfig.Reached

theorem countingStarted_reached : countingStarted.Reached :=
  CountingConfig.Reached.run (CountingConfig.Reached.call (p := (.running ownerPrologue, Impl.initial countingSetup)) .initial .start) 2

/-- A counting runtime that has gone live. -/
def countingLive : CountingConfig :=
  ((countingStarted.call (fun s => (s.submit countingSetup (snapshotInput 5 (some 1)) false).2)).call
    (fun s => (s.submit countingSetup (depthInput 6 (some 1)) false).2)).run 30

theorem countingLive_reached : countingLive.Reached :=
  ((countingStarted_reached.call (.submit (snapshotInput 5 (some 1)) false)).call (.submit (depthInput 6 (some 1)) false)).run 30

end MarketDataGateway.MarketRuntime
