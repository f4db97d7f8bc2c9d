import MarketDataGateway.Transport.HttpsGet
import MarketDataGateway.Transport.WebSocket

/-!
# Cancelling the network operations

What both classes keep at a cancellation, in every order of completions, and the one outcome that takes a response away although no
timer has expired.
-/

namespace MarketDataGateway.BinanceTransport

open Countdown MarketRuntime

/-- In every state of a request and of a connection the cancellation is accounted exactly. -/
theorem cancellation_is_accounted :
    (∀ (B : Type) (s : AsyncHttpsGet B), AsyncHttpsGet.Reachable s → s.CancellationAccounted AsyncHttpsGet.reporting) ∧
      ∀ s : AsyncWebSocket, AsyncWebSocket.Reachable s → s.CancellationAccounted AsyncWebSocket.reporting :=
  ⟨fun _ _ h => h.inv.cancellation, fun _ h => h.inv.1.cancellation⟩

/-! ## A response at the cut -/

namespace AsyncHttpsGet

open NetworkOperation (timerVerdict)

def response : HttpResponse Unit := ⟨200, none, ()⟩

def receivedAt : ClockSample := ⟨1, 1⟩

/-- The completion of an I/O operation that has succeeded. -/
def succeeded (n : Nat) (stage : HttpStage) (s : AsyncHttpsGet Unit) : AsyncHttpsGet Unit :=
  ioCompleted stage none response (.sample receivedAt) (s.take (.io n) (ioVerdict stage none response (.sample receivedAt)))

/-- The completion of the timer wait of the last stage. -/
def timerOver (errorCode : ErrorCode) (s : AsyncHttpsGet Unit) : AsyncHttpsGet Unit :=
  (s.take (.timer 9) (timerVerdict reporting "depth-http-read" (some errorCode))).timerCompleted reporting 9 "depth-http-read"
    (some errorCode)

variable {s : AsyncHttpsGet Unit}

/-- A stage that succeeds is a step. -/
theorem Reachable.succeeded {n : Nat} {stage : HttpStage} (hs : Reachable s) (hio : s.io = some (n, stage)) :
    Reachable (succeeded n stage s) :=
  hs.step (.io hio none response (.sample receivedAt))

/-- A timer that is over is a step. -/
theorem Reachable.timerOver (hs : Reachable s) (hw : (9, "depth-http-read") ∈ s.waits) (errorCode : ErrorCode) :
    Reachable (timerOver errorCode s) :=
  hs.step (.timer hw (some errorCode))

/-- A request that waits for its response. -/
def readingRequest : AsyncHttpsGet Unit :=
  succeeded 3 .httpWrite (succeeded 2 .tlsHandshake (succeeded 1 .tcpConnect (succeeded 0 .dns (start none {}))))

/-- The request that waits for its response is reached. -/
theorem readingRequest_reachable : Reachable readingRequest :=
  ((((Reachable.step .new (.start rfl none)).succeeded rfl).succeeded rfl).succeeded rfl).succeeded rfl

/-- It is cancelled; its response comes in, and its timer is cancelled. -/
def answeredRequest : AsyncHttpsGet Unit :=
  timerOver ⟨.operationAborted, "Operation canceled"⟩ (succeeded 4 .httpRead readingRequest.cancel)

/-- It is cancelled; its timer fails, and its response comes in. -/
def brokenRequest : AsyncHttpsGet Unit :=
  succeeded 4 .httpRead (timerOver ⟨.other, "timer failed"⟩ readingRequest.cancel)

/-- The request that is answered behind a cancellation is reached. -/
theorem answeredRequest_reachable : Reachable answeredRequest :=
  ((readingRequest_reachable.step .cancel).succeeded rfl).timerOver List.mem_cons_self _

/-- The request whose timer fails is reached. -/
theorem brokenRequest_reachable : Reachable brokenRequest :=
  ((readingRequest_reachable.step .cancel).timerOver List.mem_cons_self _).succeeded rfl

end AsyncHttpsGet

open AsyncHttpsGet in
/-- The response that was ready is handed over. -/
theorem cancellation_is_accounted_answered : answeredRequest.reported = [.inl (response, receivedAt)] := by
  have h := cancellation_is_accounted.1 Unit answeredRequest answeredRequest_reachable
  refine h.response
    ⟨[.io 4, .timer 9], [(.io 4, .ready (.inl (response, receivedAt))), (.timer 9, .clean)]⟩ (.io 4) _ rfl List.mem_cons_self
    List.mem_cons_self ?_ ?_
  · intro g report _ hfailed
    simp at hfailed
  · intro k hk
    simp only [List.mem_cons, List.not_mem_nil, or_false] at hk
    rcases hk with rfl | rfl
    · exact ⟨_, List.mem_cons_self⟩
    · exact ⟨_, List.mem_cons_of_mem _ List.mem_cons_self⟩

open AsyncHttpsGet in
/-- A timer that fails takes the place of a response that is ready, although it has not expired. -/
theorem failed_timer_hides_response :
    AsyncHttpsGet.Reachable brokenRequest ∧
      brokenRequest.cut = some ⟨[.io 4, .timer 9],
        [(.timer 9, .failed (.inr ⟨.internal, "depth-http-read-timer", "timer failed", none, none⟩)),
          (.io 4, .ready (.inl (response, receivedAt)))]⟩ ∧
      brokenRequest.reported = [.inr ⟨.internal, "depth-http-read-timer", "timer failed", none, none⟩] :=
  ⟨brokenRequest_reachable, rfl, rfl⟩

end MarketDataGateway.BinanceTransport
