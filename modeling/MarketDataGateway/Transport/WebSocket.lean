import MarketDataGateway.Transport.Accounting

/-!
# The market connection

A WebSocket over TLS: four stages to the connection, then one read after the other, without a timer. The callbacks that are no reports
may cancel the connection from within its own handlers.
-/

namespace MarketDataGateway.BinanceTransport

open Countdown MarketRuntime

inductive WebSocketStage where
  | dns | tcpConnect | tlsHandshake | handshake | read
  deriving DecidableEq, Repr

/-- What the surroundings do within one handler: whether the callbacks cancel the connection, what the clock gives, whether the message
is text, and whether its receiver wants another one. -/
structure WebSocketSurroundings where
  tlsVerifiedCancels : Bool
  activeCancels : Bool
  clock : ClockReading
  gotText : Bool
  messageCancels : Bool
  messageContinues : Bool

/-- A connection has no result to keep. -/
abbrev AsyncWebSocket := NetworkOperation WebSocketStage Empty NetworkError

namespace AsyncWebSocket

open NetworkOperation (stageVerdict timerVerdict)

def reporting : Reporting Empty NetworkError := ⟨id, Empty.elim⟩

/-- The connection's own way to count a piece down. -/
def completeCancelledPiece (s : AsyncWebSocket) : AsyncWebSocket :=
  let s := { s with cancellationCompletionsPending := s.cancellationCompletionsPending - 1 }
  if s.cancellationCompletionsPending = 0 then s.retireCleanly else s

/-- It is the request's way where no result can be kept. -/
theorem completeCancelledPiece_eq (s : AsyncWebSocket) :
    NetworkOperation.completeCancelledPiece reporting s = completeCancelledPiece s := by
  cases hr : s.cancelledResult with
  | some result => exact result.elim
  | none =>
    by_cases hp : s.cancellationCompletionsPending - 1 = 0
    · by_cases hd : s.done = true <;>
        simp [completeCancelledPiece, NetworkOperation.completeCancelledPiece, NetworkOperation.retireCleanly, hr, hp, hd]
    · simp [completeCancelledPiece, NetworkOperation.completeCancelledPiece, hp]

/-! ## The stages -/

def fail (failure : NetworkError) (s : AsyncWebSocket) : AsyncWebSocket := s.finish failure

def start (tlsFailure : Option NetworkError) (s : AsyncWebSocket) : AsyncWebSocket :=
  let s := { s with started := true }
  match tlsFailure with
  | some failure => fail failure s
  | none => (s.armTimeout "websocket-dns").beginIo .dns

def connect (s : AsyncWebSocket) : AsyncWebSocket := (s.armTimeout "websocket-tcp-connect").beginIo .tcpConnect

def tlsHandshake (s : AsyncWebSocket) : AsyncWebSocket := (s.armTimeout "websocket-tls-handshake").beginIo .tlsHandshake

def websocketHandshake (s : AsyncWebSocket) : AsyncWebSocket := (s.armTimeout "websocket-handshake").beginIo .handshake

def read (s : AsyncWebSocket) : AsyncWebSocket := if s.done then s else s.beginIo .read

/-- What follows a TLS handshake: the callback, and the next stage. -/
def tlsVerified (a : WebSocketSurroundings) (s : AsyncWebSocket) : AsyncWebSocket :=
  websocketHandshake (if a.tlsVerifiedCancels then s.cancel else s)

/-- What follows the handshake of the connection: the first read, and the callback. -/
def active (a : WebSocketSurroundings) (s : AsyncWebSocket) : AsyncWebSocket :=
  if a.activeCancels then (read s).cancel else read s

/-- The handler of a read. -/
def messageRead (errorCode : Option ErrorCode) (a : WebSocketSurroundings) (s : AsyncWebSocket) : AsyncWebSocket :=
  let s := { s with ioPending := false }
  if s.done then s
  else
    match errorCode with
    | some e =>
      if isCleanCancellation e s.cancelRequested then completeCancelledPiece s
      else if e.kind = .timeout then fail (errorFromCode .timeout "websocket-idle" e) s
      else fail (errorFromCode .webSocketRead "websocket-read" e) s
    | none =>
      let retireAfterMessage := s.cancelRequested
      match a.clock with
      | .threw what => fail (networkError .internal "websocket-receive-clock" (what.getD "receive clock failed")) s
      | .sample _ =>
        if ¬a.gotText then fail (networkError .protocol "websocket-frame" "Binance raw stream returned binary data") s
        else
          let s := if a.messageCancels then s.cancel else s
          if ¬a.messageContinues then s.retireCleanly
          else if retireAfterMessage then completeCancelledPiece s
          else read s

/-- The handler of an I/O operation. -/
def ioCompleted (stage : WebSocketStage) (errorCode : Option ErrorCode) (a : WebSocketSurroundings) (s : AsyncWebSocket) :
    AsyncWebSocket :=
  match stage with
  | .dns => s.stageCompleted reporting .dns "websocket-dns" connect errorCode
  | .tcpConnect => s.stageCompleted reporting .tcp "websocket-tcp-connect" tlsHandshake errorCode
  | .tlsHandshake => s.stageCompleted reporting .tls "websocket-tls-handshake" (tlsVerified a) errorCode
  | .handshake => s.stageCompleted reporting .webSocketHandshake "websocket-handshake" (active a) errorCode
  | .read => messageRead errorCode a s

/-- What the completion of a read says after a cut. -/
def readVerdict (errorCode : Option ErrorCode) (a : WebSocketSurroundings) : Verdict Empty NetworkError :=
  match errorCode, a.clock with
  | some e, _ =>
    if e.kind = .operationAborted then .clean
    else if e.kind = .timeout then .failed (errorFromCode .timeout "websocket-idle" e)
    else .failed (errorFromCode .webSocketRead "websocket-read" e)
  | none, .threw what => .failed (networkError .internal "websocket-receive-clock" (what.getD "receive clock failed"))
  | none, .sample _ =>
    if a.gotText then .clean else .failed (networkError .protocol "websocket-frame" "Binance raw stream returned binary data")

/-- What the completion of an I/O operation says after a cut. -/
def ioVerdict (stage : WebSocketStage) (errorCode : Option ErrorCode) (a : WebSocketSurroundings) : Verdict Empty NetworkError :=
  match stage with
  | .dns => stageVerdict reporting .dns "websocket-dns" errorCode
  | .tcpConnect => stageVerdict reporting .tcp "websocket-tcp-connect" errorCode
  | .tlsHandshake => stageVerdict reporting .tls "websocket-tls-handshake" errorCode
  | .handshake => stageVerdict reporting .webSocketHandshake "websocket-handshake" errorCode
  | .read => readVerdict errorCode a

/-! ## Runs -/

/-- A step of a connection: it is started, once; it is cancelled; or a completion is handled, of an I/O operation or of a timer wait,
with any outcome. -/
inductive Step (s : AsyncWebSocket) : AsyncWebSocket → Prop where
  | start (h : s.started = false) (tlsFailure : Option NetworkError) : Step s (start tlsFailure s)
  | cancel : Step s s.cancel
  | io {n stage} (h : s.io = some (n, stage)) (errorCode : Option ErrorCode) (a : WebSocketSurroundings) :
      Step s (ioCompleted stage errorCode a (s.take (.io n) (ioVerdict stage errorCode a)))
  | timer {generation text} (h : (generation, text) ∈ s.waits) (errorCode : Option ErrorCode) :
      Step s ((s.take (.timer generation) (timerVerdict reporting text errorCode)).timerCompleted reporting generation text errorCode)

/-- The states of a connection. -/
inductive Reachable : AsyncWebSocket → Prop where
  | new : Reachable {}
  | step {s s'} (hs : Reachable s) (h : Step s s') : Reachable s'

/-! ## The accounting -/

variable {s s' : AsyncWebSocket}

/-- A read has no timer. -/
def Untimed (s : AsyncWebSocket) : Prop := ∀ n, s.done = false → s.io = some (n, .read) → s.timerPending = false

/-- A stage of the way to the connection begins with its timer and its I/O operation. -/
theorem inv_stage (text : String) (stage : WebSocketStage) (h : s.Inv reporting) (hc : s.done = true ∨ s.cut = none)
    (hs : s.started = true) (hio : s.io = none) :
    (NetworkOperation.beginIo stage (NetworkOperation.armTimeout text s)).Inv reporting :=
  (h.armTimeout text hc hs).beginIo stage hc hs hio

/-- A start keeps the invariant. -/
theorem inv_start (h : s.Inv reporting) (hs : s.started = false) (tlsFailure : Option NetworkError) :
    (start tlsFailure s).Inv reporting := by
  have hc := h.unstarted_over hs
  cases tlsFailure with
  | some failure => exact h.started.finish _ hc
  | none => exact inv_stage "websocket-dns" .dns h.started hc rfl (h.unstarted hs).1

/-- A read keeps the invariant when no I/O is under way. -/
theorem inv_read (h : s.Inv reporting) (hc : s.done = true ∨ s.cut = none) (hs : s.started = true) (hio : s.io = none) :
    (read s).Inv reporting := by
  by_cases hd : s.done = true
  · rw [read, if_pos hd]
    exact h
  · rw [read, if_neg hd]
    exact h.beginIo .read hc hs hio

/-- A callback may cancel between two stages, where nothing is under way. -/
theorem inv_perhaps_cancelled (h : s.Inv reporting) (hc : s.cut = none) (hio : s.io = none) (ht : s.timerPending = false)
    (cancels : Bool) :
    (if cancels then s.cancel else s).Inv reporting ∧
      ((if cancels then s.cancel else s).done = true ∨ (if cancels then s.cancel else s).cut = none) ∧
      (if cancels then s.cancel else s).started = s.started ∧ (if cancels then s.cancel else s).io = none := by
  cases cancels with
  | true =>
    obtain ⟨hcio, hcstarted, -⟩ := NetworkOperation.cancel_keeps (s := s)
    exact ⟨h.cancel, Or.inl (h.cancel_done hc hio ht), hcstarted, hcio.trans hio⟩
  | false => exact ⟨h, Or.inr hc, rfl, hio⟩

/-- A message that is read when all is done changes nothing more. -/
theorem messageRead_done (errorCode : Option ErrorCode) (a : WebSocketSurroundings) (hd : s.done = true) :
    messageRead errorCode a s = { s with ioPending := false } := by
  simp [messageRead, hd]

/-- After a cut a read settles its verdict; a connection whose receiver wants no more messages gives up. -/
theorem messageRead_cut (errorCode : Option ErrorCode) (a : WebSocketSurroundings) (hd : s.done = false)
    (hr : s.cancelRequested = true) :
    messageRead errorCode a s = NetworkOperation.settle reporting (readVerdict errorCode a) { s with ioPending := false } ∨
      (readVerdict errorCode a = .clean ∧ messageRead errorCode a s = { s with ioPending := false }.retireCleanly) := by
  cases errorCode with
  | some e =>
    left
    by_cases ha : e.kind = .operationAborted
    · simp [messageRead, isCleanCancellation, readVerdict, NetworkOperation.settle, completeCancelledPiece_eq, hd, hr, ha]
    · by_cases ht : e.kind = .timeout <;>
        simp [messageRead, isCleanCancellation, readVerdict, NetworkOperation.settle, fail, hd, ha, ht]
  | none =>
    cases hclock : a.clock with
    | threw what => exact Or.inl (by simp [messageRead, readVerdict, NetworkOperation.settle, fail, hd, hclock])
    | sample receivedAt =>
      by_cases htext : a.gotText = true
      · by_cases hmore : a.messageContinues = true
        · left
          simp [messageRead, readVerdict, NetworkOperation.settle, completeCancelledPiece_eq, NetworkOperation.cancel, hd, hr, hclock, htext,
            hmore]
        · right
          simp [messageRead, readVerdict, NetworkOperation.cancel, hd, hr, hclock, htext, hmore]
      · left
        simp [messageRead, readVerdict, NetworkOperation.settle, fail, hd, hclock, htext]

/-- Before a cut a read fails, or its message is handed on and the next read begins, unless the receiver or a cancellation ends it. -/
theorem messageRead_uncut (errorCode : Option ErrorCode) (a : WebSocketSurroundings) (hd : s.done = false)
    (hr : s.cancelRequested = false) :
    (∃ failure, messageRead errorCode a s = { s with ioPending := false }.finish failure) ∨
      messageRead errorCode a s =
        (if a.messageContinues then
          read (if a.messageCancels then { s with ioPending := false }.cancel else { s with ioPending := false })
        else (if a.messageCancels then { s with ioPending := false }.cancel else { s with ioPending := false }).retireCleanly) := by
  cases errorCode with
  | some e =>
    left
    by_cases ht : e.kind = .timeout
    · exact ⟨errorFromCode .timeout "websocket-idle" e, by simp [messageRead, isCleanCancellation, fail, hd, hr, ht]⟩
    · exact ⟨errorFromCode .webSocketRead "websocket-read" e, by simp [messageRead, isCleanCancellation, fail, hd, hr, ht]⟩
  | none =>
    cases hclock : a.clock with
    | threw what => exact Or.inl ⟨_, by simp only [messageRead, fail, hd, hclock]; rfl⟩
    | sample receivedAt =>
      by_cases htext : a.gotText = true
      · right
        by_cases hmore : a.messageContinues = true <;> simp [messageRead, hd, hr, hclock, htext, hmore]
      · exact Or.inl ⟨_, by simp only [messageRead, fail, hd, hclock, htext]; rfl⟩

/-- A message that is read keeps the invariant. -/
theorem inv_messageRead (h : s.Inv reporting) (hu : Untimed s) {n : Nat} (hio : s.io = some (n, .read)) (errorCode : Option ErrorCode)
    (a : WebSocketSurroundings) : (messageRead errorCode a (s.take (.io n) (readVerdict errorCode a))).Inv reporting := by
  have hk : s.UnderWay (.io n) := ⟨.read, hio⟩
  have hv : ∀ g result, Completion.io n = .timer g → readVerdict errorCode a ≠ .ready result := by
    intro g result hg
    cases hg
  have hdone : (s.take (.io n) (readVerdict errorCode a)).done = s.done := rfl
  have hrequested : (s.take (.io n) (readVerdict errorCode a)).cancelRequested = s.cancelRequested := rfl
  by_cases hd : s.done = true
  · rw [messageRead_done errorCode a (hdone.trans hd)]
    exact h.hear hk hv (Or.inl hd)
  simp only [Bool.not_eq_true] at hd
  by_cases hr : s.cancelRequested = true
  · have hcurrent := NetworkOperation.io_mem_current.mpr hk
    rcases messageRead_cut errorCode a (hdone.trans hd) (hrequested.trans hr) with he | ⟨hclean, he⟩
    · rw [he]
      exact h.settle hd hr hcurrent hv
    · rw [he]
      obtain ⟨c, hheard, hcounted, hfailure, hresult⟩ := h.heard hd hr hcurrent hv
      have hnothing : (s.hear (.io n) (readVerdict errorCode a)).current = [] := by
        have huntimed : (s.hear (.io n) (readVerdict errorCode a)).timed = false := by
          rw [← hheard.timer_flag]
          exact hu n hd hio
        rw [NetworkOperation.current, huntimed]
        rfl
      refine hheard.retires ?_ ?_ ?_
      · simp [Cut.failure_answer hcounted, hfailure, hclean, Verdict.failure]
      · cases hc : (c.answer (.io n) (readVerdict errorCode a)).result with
        | none => rfl
        | some result => exact result.elim
      · rw [List.eq_nil_iff_forall_not_mem]
        intro k hremains
        rw [← hheard.current, hnothing] at hremains
        cases hremains
  · simp only [Bool.not_eq_true] at hr
    have hcut : s.cut = none := h.uncut_of_not_requested hr
    have hcut' : (s.hear (.io n) (readVerdict errorCode a)).cut = none := by
      simp [NetworkOperation.hear, NetworkOperation.take, hcut]
    have hinv := h.hear hk hv (Or.inr (Or.inl hcut))
    obtain ⟨hcancelled, hover, hstarted, hnone⟩ := inv_perhaps_cancelled hinv hcut' rfl (hu n hd hio) a.messageCancels
    have hbegun : (s.hear (.io n) (readVerdict errorCode a)).started = true := h.started_of_io hio
    rcases messageRead_uncut errorCode a (hdone.trans hd) (hrequested.trans hr) with ⟨failure, he⟩ | he
    · rw [he]
      exact hinv.finish _ (Or.inr hcut')
    · rw [he]
      by_cases hmore : a.messageContinues = true
      · rw [if_pos hmore]
        exact inv_read hcancelled hover (hstarted.trans hbegun) hnone
      · rw [if_neg hmore]
        exact hcancelled.retireCleanly hover

/-- An I/O that completes keeps the invariant, whatever its stage. -/
theorem inv_ioCompleted (h : s.Inv reporting) (hu : Untimed s) {n : Nat} {stage : WebSocketStage} (hio : s.io = some (n, stage))
    (errorCode : Option ErrorCode) (a : WebSocketSurroundings) :
    (ioCompleted stage errorCode a (s.take (.io n) (ioVerdict stage errorCode a))).Inv reporting := by
  cases stage with
  | dns =>
    exact h.stageCompleted hio .dns "websocket-dns" errorCode fun t ht hc hs hnone _ =>
      inv_stage "websocket-tcp-connect" .tcpConnect ht (Or.inr hc) hs hnone
  | tcpConnect =>
    exact h.stageCompleted hio .tcp "websocket-tcp-connect" errorCode fun t ht hc hs hnone _ =>
      inv_stage "websocket-tls-handshake" .tlsHandshake ht (Or.inr hc) hs hnone
  | tlsHandshake =>
    refine h.stageCompleted hio .tls "websocket-tls-handshake" errorCode fun t ht hc hs hnone htimer => ?_
    obtain ⟨hcancelled, hover, hstarted, hstill⟩ := inv_perhaps_cancelled ht hc hnone htimer a.tlsVerifiedCancels
    exact inv_stage "websocket-handshake" .handshake hcancelled hover (hstarted.trans hs) hstill
  | handshake =>
    refine h.stageCompleted hio .webSocketHandshake "websocket-handshake" errorCode fun t ht hc hs hnone _ => ?_
    have hread := inv_read ht (Or.inr hc) hs hnone
    cases ha : a.activeCancels with
    | true => simpa [active, ha] using hread.cancel
    | false => simpa [active, ha] using hread
  | read => exact inv_messageRead h hu hio errorCode a

/-! ## Reads have no timer -/

/-- Without a pending timer nothing is timed. -/
theorem untimed_of_timerPending (ht : s.timerPending = false) : Untimed s := fun _ _ _ => ht

/-- Another I/O than a read leaves the read untimed. -/
theorem untimed_of_io (h : ∃ n stage, s.io = some (n, stage) ∧ stage ≠ .read) : Untimed s := by
  obtain ⟨n, stage, hio, hs⟩ := h
  intro m _ hm
  rw [hio] at hm
  cases hm
  exact absurd rfl hs

/-- Without an I/O there is no read to be timed. -/
theorem untimed_of_no_io (hio : s.io = none) : Untimed s := by
  intro n _ hn
  rw [hio] at hn
  cases hn

/-- Nothing matters when all is done. -/
theorem untimed_of_done (hd : s.done = true) : Untimed s := by
  intro n h _
  rw [hd] at h
  cases h

/-- A start begins with the resolver. -/
theorem untimed_start (tlsFailure : Option NetworkError) : Untimed (start tlsFailure s) := by
  cases tlsFailure with
  | none => exact untimed_of_io ⟨_, .dns, rfl, by simp⟩
  | some failure => exact untimed_of_done (NetworkOperation.finish_isDone failure)

/-- A cancellation leaves no timer pending that was not. -/
theorem timerPending_cancel (ht : s.timerPending = false) : s.cancel.timerPending = false :=
  NetworkOperation.cancel_keeps.2.2.trans ht

/-- A read arms no timer. -/
theorem timerPending_read (ht : s.timerPending = false) : (read s).timerPending = false := by
  by_cases hd : s.done = true
  · rw [read, if_pos hd]
    exact ht
  · rw [read, if_neg hd]
    exact ht

/-- Before the read no timer runs, and the read begins none. -/
theorem timerPending_messageRead (errorCode : Option ErrorCode) (a : WebSocketSurroundings) (hd : s.done = false)
    (ht : s.timerPending = false) : (messageRead errorCode a s).timerPending = false := by
  have hperhaps : (if a.messageCancels then ({ s with ioPending := false } : AsyncWebSocket).cancel
      else { s with ioPending := false }).timerPending = false := by
    cases a.messageCancels with
    | true => exact timerPending_cancel ht
    | false => exact ht
  by_cases hr : s.cancelRequested = true
  · rcases messageRead_cut errorCode a hd hr with he | ⟨-, he⟩
    · rw [he]
      exact NetworkOperation.timerPending_settle ht
    · rw [he]
      exact NetworkOperation.timerPending_retireCleanly ht
  · rcases messageRead_uncut errorCode a hd (by simpa using hr) with ⟨failure, he⟩ | he
    · rw [he]
      exact NetworkOperation.timerPending_finish failure ht
    · rw [he]
      split
      · exact timerPending_read hperhaps
      · exact NetworkOperation.timerPending_retireCleanly hperhaps

/-- The handler of a stage leaves no I/O operation, or goes on. -/
theorem untimed_stageCompleted (hio : s.io = none) (code : NetworkErrorCode) (text : String) {next : AsyncWebSocket → AsyncWebSocket}
    (errorCode : Option ErrorCode) (hnext : ∀ t : AsyncWebSocket, t.timerPending = false → Untimed (next t)) :
    Untimed (s.stageCompleted reporting code text next errorCode) := by
  by_cases hd : s.done = true
  · rw [NetworkOperation.stageCompleted_done code text next errorCode hd]
    exact untimed_of_done hd
  simp only [Bool.not_eq_true] at hd
  by_cases hr : s.cancelRequested = true
  · rw [NetworkOperation.stageCompleted_cut code text next errorCode hd hr]
    exact untimed_of_no_io (NetworkOperation.io_settle.trans hio)
  simp only [Bool.not_eq_true] at hr
  rw [NetworkOperation.stageCompleted_uncut code text next errorCode hd hr]
  cases errorCode with
  | some e => exact untimed_of_done (NetworkOperation.finish_isDone _)
  | none => exact hnext _ rfl

/-- An I/O that completes leaves a read behind only without a timer. -/
theorem untimed_ioCompleted (hu : Untimed s) {n : Nat} {stage : WebSocketStage} (hio : s.io = some (n, stage))
    (errorCode : Option ErrorCode) (a : WebSocketSurroundings) :
    Untimed (ioCompleted stage errorCode a (s.take (.io n) (ioVerdict stage errorCode a))) := by
  cases stage with
  | dns =>
    exact untimed_stageCompleted rfl .dns "websocket-dns" errorCode fun t _ => untimed_of_io ⟨_, .tcpConnect, rfl, by simp⟩
  | tcpConnect =>
    exact untimed_stageCompleted rfl .tcp "websocket-tcp-connect" errorCode fun t _ => untimed_of_io ⟨_, .tlsHandshake, rfl, by simp⟩
  | tlsHandshake =>
    exact untimed_stageCompleted rfl .tls "websocket-tls-handshake" errorCode fun t _ => untimed_of_io ⟨_, .handshake, rfl, by simp⟩
  | handshake =>
    refine untimed_stageCompleted rfl .webSocketHandshake "websocket-handshake" errorCode fun t ht => untimed_of_timerPending ?_
    cases ha : a.activeCancels with
    | true => simpa [active, ha] using timerPending_cancel (timerPending_read ht)
    | false => simpa [active, ha] using timerPending_read ht
  | read =>
    cases hd : s.done with
    | true =>
      refine untimed_of_done ?_
      simp [ioCompleted, messageRead, NetworkOperation.take, hd]
    | false => exact untimed_of_timerPending (timerPending_messageRead errorCode a hd (hu n hd hio))

/-- A timer that completes leaves a read untimed. -/
theorem untimed_timerCompleted (hu : Untimed s) (g : Nat) (text : String) (errorCode : Option ErrorCode) :
    Untimed ((s.take (.timer g) (timerVerdict reporting text errorCode)).timerCompleted reporting g text errorCode) := by
  have hdone : (s.take (.timer g) (timerVerdict reporting text errorCode)).done = s.done := rfl
  have hrequested : (s.take (.timer g) (timerVerdict reporting text errorCode)).cancelRequested = s.cancelRequested := rfl
  by_cases hg : g = s.timeoutGeneration
  · have hgeneration : g = (s.take (.timer g) (timerVerdict reporting text errorCode)).timeoutGeneration := hg
    by_cases hd : s.done = true
    · rw [NetworkOperation.timerCompleted_done text errorCode hgeneration (hdone.trans hd)]
      exact untimed_of_timerPending rfl
    simp only [Bool.not_eq_true] at hd
    by_cases hr : s.cancelRequested = true
    · rw [NetworkOperation.timerCompleted_cut text errorCode hgeneration (hdone.trans hd) (hrequested.trans hr)]
      exact untimed_of_timerPending (NetworkOperation.timerPending_settle rfl)
    simp only [Bool.not_eq_true] at hr
    rw [NetworkOperation.timerCompleted_uncut text errorCode hgeneration (hdone.trans hd) (hrequested.trans hr)]
    cases errorCode with
    | none => exact untimed_of_done (NetworkOperation.finish_isDone _)
    | some e => exact untimed_of_timerPending rfl
  · have hstale : (s.take (.timer g) (timerVerdict reporting text errorCode)).timerCompleted reporting g text errorCode =
        s.take (.timer g) (timerVerdict reporting text errorCode) := NetworkOperation.timerCompleted_stale text errorCode hg
    rw [hstale]
    exact hu

/-- A cancellation leaves a read untimed. -/
theorem untimed_cancel (hu : Untimed s) : Untimed s.cancel := by
  obtain ⟨hio, -, ht⟩ := NetworkOperation.cancel_keeps (s := s)
  intro n hd hn
  rw [ht]
  by_cases hdone : s.done = true
  · simp [NetworkOperation.cancel, hdone] at hd
  · exact hu n (by simpa using hdone) (hio.symm.trans hn)

/-- Each step keeps the invariant, and reads untimed. -/
theorem Step.inv (h : Step s s') (hs : s.Inv reporting) (hu : Untimed s) : s'.Inv reporting ∧ Untimed s' := by
  cases h with
  | start hstarted tlsFailure => exact ⟨inv_start hs hstarted tlsFailure, untimed_start tlsFailure⟩
  | cancel => exact ⟨hs.cancel, untimed_cancel hu⟩
  | io hio errorCode a => exact ⟨inv_ioCompleted hs hu hio errorCode a, untimed_ioCompleted hu hio errorCode a⟩
  | timer hw errorCode => exact ⟨hs.timerCompleted hw errorCode, untimed_timerCompleted hu _ _ errorCode⟩

/-- The invariant holds in every state of every run. -/
theorem Reachable.inv (h : Reachable s) : s.Inv reporting ∧ Untimed s := by
  induction h with
  | new => exact ⟨.initial, untimed_of_no_io rfl⟩
  | step _ h ih => exact h.inv ih.1 ih.2

end AsyncWebSocket

end MarketDataGateway.BinanceTransport
