import MarketDataGateway.Transport.Accounting

/-!
# The depth request

One request over TLS in five stages, from the name to the response. A response that comes in after the cancellation is kept, and handed
over once everything that the cancellation has counted is over.
-/

namespace MarketDataGateway.BinanceTransport

open Countdown MarketRuntime

inductive HttpStage where
  | dns | tcpConnect | tlsHandshake | httpWrite | httpRead
  deriving DecidableEq, Repr

/-- The response of the server, with the two things that are read of it and a body. -/
structure HttpResponse (B : Type) where
  resultInt : Nat
  retryAfter : Option String
  body : B
  deriving DecidableEq, Repr

abbrev HttpResult (B : Type) := (HttpResponse B × ClockSample) ⊕ NetworkError

abbrev AsyncHttpsGet (B : Type) := NetworkOperation HttpStage (HttpResult B) (HttpResult B)

namespace AsyncHttpsGet

open NetworkOperation (stageVerdict timerVerdict)

variable {B : Type}

def reporting : Reporting (HttpResult B) (HttpResult B) := ⟨.inr, id⟩

/-! ## The stages -/

/-- The request is started; configuring its TLS stream may fail. -/
def start (tlsFailure : Option NetworkError) (s : AsyncHttpsGet B) : AsyncHttpsGet B :=
  let s := { s with started := true }
  match tlsFailure with
  | some failure => s.finish (.inr failure)
  | none => (s.armTimeout "depth-dns").beginIo .dns

def connect (s : AsyncHttpsGet B) : AsyncHttpsGet B := (s.armTimeout "depth-tcp-connect").beginIo .tcpConnect

def handshake (s : AsyncHttpsGet B) : AsyncHttpsGet B := (s.armTimeout "depth-tls-handshake").beginIo .tlsHandshake

def writeRequest (s : AsyncHttpsGet B) : AsyncHttpsGet B := (s.armTimeout "depth-http-write").beginIo .httpWrite

def readResponse (s : AsyncHttpsGet B) : AsyncHttpsGet B := (s.armTimeout "depth-http-read").beginIo .httpRead

def responseResult (response : HttpResponse B) (clock : ClockReading) : HttpResult B :=
  match clock with
  | .threw what => .inr (networkError .internal "depth-receive-clock" (what.getD "receive clock failed"))
  | .sample receivedAt =>
    if response.resultInt ≠ 200 then
      .inr (networkError .httpStatus "depth-http-status" "Binance depth request returned non-200" (some response.resultInt)
        response.retryAfter)
    else .inl (response, receivedAt)

/-- The handler of the last stage. -/
def responseRead (errorCode : Option ErrorCode) (response : HttpResponse B) (clock : ClockReading) (s : AsyncHttpsGet B) :
    AsyncHttpsGet B :=
  let s := { s with ioPending := false }
  if s.done then s
  else if s.cancelRequested then
    match errorCode with
    | some e =>
      if ¬isCleanCancellation e s.cancelRequested then s.finish (.inr (errorFromCode .httpRead "depth-http-read" e))
      else s.completeCancelledPiece reporting
    | none => { s with cancelledResult := some (responseResult response clock) }.completeCancelledPiece reporting
  else
    let s := s.disarmTimeout
    match errorCode with
    | some e => s.finish (.inr (errorFromCode .httpRead "depth-http-read" e))
    | none => s.finish (responseResult response clock)

/-- The handler of an I/O operation. The response and the clock are looked at in the last stage. -/
def ioCompleted (stage : HttpStage) (errorCode : Option ErrorCode) (response : HttpResponse B) (clock : ClockReading)
    (s : AsyncHttpsGet B) : AsyncHttpsGet B :=
  match stage with
  | .dns => s.stageCompleted reporting .dns "depth-dns" connect errorCode
  | .tcpConnect => s.stageCompleted reporting .tcp "depth-tcp-connect" handshake errorCode
  | .tlsHandshake => s.stageCompleted reporting .tls "depth-tls-handshake" writeRequest errorCode
  | .httpWrite => s.stageCompleted reporting .httpWrite "depth-http-write" readResponse errorCode
  | .httpRead => responseRead errorCode response clock s

/-- What the completion of an I/O operation says after a cut: the last one brings the result. -/
def ioVerdict (stage : HttpStage) (errorCode : Option ErrorCode) (response : HttpResponse B) (clock : ClockReading) :
    Verdict (HttpResult B) (HttpResult B) :=
  match stage, errorCode with
  | .dns, _ => stageVerdict reporting .dns "depth-dns" errorCode
  | .tcpConnect, _ => stageVerdict reporting .tcp "depth-tcp-connect" errorCode
  | .tlsHandshake, _ => stageVerdict reporting .tls "depth-tls-handshake" errorCode
  | .httpWrite, _ => stageVerdict reporting .httpWrite "depth-http-write" errorCode
  | .httpRead, none => .ready (responseResult response clock)
  | .httpRead, some e => stageVerdict reporting .httpRead "depth-http-read" (some e)

/-! ## Runs -/

/-- A step of a request: it is started, once; it is cancelled; or a completion is handled, of an I/O operation or of a timer wait, with
any outcome. -/
inductive Step (s : AsyncHttpsGet B) : AsyncHttpsGet B → Prop where
  | start (h : s.started = false) (tlsFailure : Option NetworkError) : Step s (start tlsFailure s)
  | cancel : Step s s.cancel
  | io {n stage} (h : s.io = some (n, stage)) (errorCode : Option ErrorCode) (response : HttpResponse B) (clock : ClockReading) :
      Step s (ioCompleted stage errorCode response clock (s.take (.io n) (ioVerdict stage errorCode response clock)))
  | timer {generation text} (h : (generation, text) ∈ s.waits) (errorCode : Option ErrorCode) :
      Step s ((s.take (.timer generation) (timerVerdict reporting text errorCode)).timerCompleted reporting generation text errorCode)

/-- The states of a request. -/
inductive Reachable : AsyncHttpsGet B → Prop where
  | new : Reachable {}
  | step {s s'} (hs : Reachable s) (h : Step s s') : Reachable s'

/-! ## The accounting -/

variable {s s' : AsyncHttpsGet B}

/-- A stage begins with its timer and its I/O operation. -/
theorem inv_stage (text : String) (stage : HttpStage) (h : s.Inv reporting) (hc : s.done = true ∨ s.cut = none)
    (hs : s.started = true) (hio : s.io = none) :
    (NetworkOperation.beginIo stage (NetworkOperation.armTimeout text s)).Inv reporting :=
  (h.armTimeout text hc hs).beginIo stage hc hs hio

/-- A start keeps the invariant. -/
theorem inv_start (h : s.Inv reporting) (hs : s.started = false) (tlsFailure : Option NetworkError) :
    (start tlsFailure s).Inv reporting := by
  have hc := h.unstarted_over hs
  cases tlsFailure with
  | some failure => exact h.started.finish _ hc
  | none => exact inv_stage "depth-dns" .dns h.started hc rfl (h.unstarted hs).1

/-- A response that is read when all is done changes nothing more. -/
theorem responseRead_done (errorCode : Option ErrorCode) (response : HttpResponse B) (clock : ClockReading) (hd : s.done = true) :
    responseRead errorCode response clock s = { s with ioPending := false } := by
  simp [responseRead, hd]

/-- A response that is read behind a cancellation settles it. -/
theorem responseRead_cut (errorCode : Option ErrorCode) (response : HttpResponse B) (clock : ClockReading) (hd : s.done = false)
    (hr : s.cancelRequested = true) :
    responseRead errorCode response clock s =
      NetworkOperation.settle reporting (ioVerdict .httpRead errorCode response clock) { s with ioPending := false } := by
  cases errorCode with
  | none => simp [responseRead, ioVerdict, NetworkOperation.settle, hd, hr]
  | some e =>
    by_cases ha : e.kind = .operationAborted
    · simp [responseRead, ioVerdict, isCleanCancellation, stageVerdict, NetworkOperation.settle, hd, hr, ha]
    · simp [responseRead, ioVerdict, isCleanCancellation, stageVerdict, NetworkOperation.settle, reporting, hd, hr, ha]

/-- A response that is read otherwise ends the request. -/
theorem responseRead_uncut (errorCode : Option ErrorCode) (response : HttpResponse B) (clock : ClockReading) (hd : s.done = false)
    (hr : s.cancelRequested = false) :
    ∃ result, responseRead errorCode response clock s = { s with ioPending := false }.disarmTimeout.finish result := by
  cases errorCode with
  | none => exact ⟨responseResult response clock, by simp [responseRead, hd, hr]⟩
  | some e => exact ⟨.inr (errorFromCode .httpRead "depth-http-read" e), by simp [responseRead, hd, hr]⟩

/-- The last stage: before a cut the result is reported, after it the result is kept. -/
theorem inv_responseRead (h : s.Inv reporting) {n : Nat} (hio : s.io = some (n, .httpRead)) (errorCode : Option ErrorCode)
    (response : HttpResponse B) (clock : ClockReading) :
    (responseRead errorCode response clock (s.take (.io n) (ioVerdict .httpRead errorCode response clock))).Inv reporting := by
  have hk : s.UnderWay (.io n) := ⟨.httpRead, hio⟩
  have hv : ∀ g result, Completion.io n = .timer g → ioVerdict .httpRead errorCode response clock ≠ .ready result := by
    intro g result hg
    cases hg
  have hdone : (s.take (.io n) (ioVerdict .httpRead errorCode response clock)).done = s.done := rfl
  have hrequested : (s.take (.io n) (ioVerdict .httpRead errorCode response clock)).cancelRequested = s.cancelRequested := rfl
  by_cases hd : s.done = true
  · rw [responseRead_done errorCode response clock (hdone.trans hd)]
    exact h.hear hk hv (Or.inl hd)
  simp only [Bool.not_eq_true] at hd
  by_cases hr : s.cancelRequested = true
  · rw [responseRead_cut errorCode response clock (hdone.trans hd) (hrequested.trans hr)]
    exact h.settle hd hr (NetworkOperation.io_mem_current.mpr hk) hv
  simp only [Bool.not_eq_true] at hr
  have hcut : s.cut = none := h.uncut_of_not_requested hr
  have hcut' : (s.hear (.io n) (ioVerdict .httpRead errorCode response clock)).cut = none := by
    simp [NetworkOperation.hear, NetworkOperation.take, hcut]
  obtain ⟨result, hresult⟩ := responseRead_uncut errorCode response clock (hdone.trans hd) (hrequested.trans hr)
  rw [hresult]
  exact ((h.hear hk hv (Or.inr (Or.inl hcut))).disarmTimeout hcut').finish _ (Or.inr hcut')

/-- An I/O that completes keeps the invariant, whatever its stage. -/
theorem inv_ioCompleted (h : s.Inv reporting) {n : Nat} {stage : HttpStage} (hio : s.io = some (n, stage))
    (errorCode : Option ErrorCode) (response : HttpResponse B) (clock : ClockReading) :
    (ioCompleted stage errorCode response clock (s.take (.io n) (ioVerdict stage errorCode response clock))).Inv reporting := by
  cases stage with
  | dns =>
    exact h.stageCompleted hio .dns "depth-dns" errorCode fun t ht hc hs hnone _ =>
      inv_stage "depth-tcp-connect" .tcpConnect ht (Or.inr hc) hs hnone
  | tcpConnect =>
    exact h.stageCompleted hio .tcp "depth-tcp-connect" errorCode fun t ht hc hs hnone _ =>
      inv_stage "depth-tls-handshake" .tlsHandshake ht (Or.inr hc) hs hnone
  | tlsHandshake =>
    exact h.stageCompleted hio .tls "depth-tls-handshake" errorCode fun t ht hc hs hnone _ =>
      inv_stage "depth-http-write" .httpWrite ht (Or.inr hc) hs hnone
  | httpWrite =>
    exact h.stageCompleted hio .httpWrite "depth-http-write" errorCode fun t ht hc hs hnone _ =>
      inv_stage "depth-http-read" .httpRead ht (Or.inr hc) hs hnone
  | httpRead => exact inv_responseRead h hio errorCode response clock

/-- Each step keeps the invariant. -/
theorem Step.inv (h : Step s s') (hs : s.Inv reporting) : s'.Inv reporting := by
  cases h with
  | start hstarted tlsFailure => exact inv_start hs hstarted tlsFailure
  | cancel => exact hs.cancel
  | io hio errorCode response clock => exact inv_ioCompleted hs hio errorCode response clock
  | timer hw errorCode => exact hs.timerCompleted hw errorCode

/-- The invariant holds in every state of every run. -/
theorem Reachable.inv (h : Reachable s) : s.Inv reporting := by
  induction h with
  | new => exact .initial
  | step _ h ih => exact h.inv ih

end AsyncHttpsGet

end MarketDataGateway.BinanceTransport
