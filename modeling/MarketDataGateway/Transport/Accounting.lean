import MarketDataGateway.Transport.Operation

/-!
# The accounting of a cancellation

What holds of an operation in every state: its flags say what is under way while it lives, its callback has been given one report at
most, and after a cut it stands as the cut says. The invariant is kept by each thing that a handler does; what a handler does after a
cut is to settle the verdict of its completion.
-/

namespace MarketDataGateway.BinanceTransport

open Countdown

namespace NetworkOperation

variable {σ κ ρ : Type} {R : Reporting κ ρ} {s : NetworkOperation σ κ ρ} {k : Completion} {v : Verdict κ ρ}
  {c : Cut Completion κ ρ}

/-! ## What is under way -/

def UnderWay (s : NetworkOperation σ κ ρ) : Completion → Prop
  | .io n => ∃ stage, s.io = some (n, stage)
  | .timer g => ∃ stage, (g, stage) ∈ s.waits

def Begun (s : NetworkOperation σ κ ρ) : Completion → Prop
  | .io n => n < s.nextIo
  | .timer g => g ≤ s.timeoutGeneration

/-- A wait is timed when it has a timer of the current generation. -/
theorem timed_iff : s.timed = true ↔ ∃ stage, (s.timeoutGeneration, stage) ∈ s.waits := by
  simp only [timed, List.any_eq_true, decide_eq_true_iff]
  constructor
  · rintro ⟨⟨g, stage⟩, hw, rfl⟩
    exact ⟨stage, hw⟩
  · rintro ⟨stage, hw⟩
    exact ⟨_, hw, rfl⟩

/-- The I/O that is current is the one under way. -/
theorem io_mem_current {n : Nat} : .io n ∈ s.current ↔ ∃ stage, s.io = some (n, stage) := by
  cases h : s.io with
  | none => by_cases ht : s.timed <;> simp [current, h, ht]
  | some o =>
    obtain ⟨m, stage⟩ := o
    by_cases ht : s.timed <;> simp [current, h, ht, eq_comm]

/-- The timer that is current is one of the current generation. -/
theorem timer_mem_current {g : Nat} : .timer g ∈ s.current ↔ g = s.timeoutGeneration ∧ ∃ stage, (g, stage) ∈ s.waits := by
  by_cases ht : s.timed = true
  · simp only [current, ht, if_true, List.mem_append, List.mem_map, List.mem_singleton, Completion.timer.injEq]
    constructor
    · rintro (⟨_, -, h⟩ | rfl)
      · cases h
      · exact ⟨rfl, timed_iff.mp ht⟩
    · rintro ⟨rfl, -⟩
      exact Or.inr rfl
  · simp only [current, ht, List.mem_append, List.mem_map]
    constructor
    · rintro (⟨_, -, h⟩ | h) <;> cases h
    · rintro ⟨rfl, h⟩
      exact absurd (timed_iff.mpr h) ht

/-- What is current is under way. -/
theorem UnderWay.of_current (h : k ∈ s.current) : s.UnderWay k := by
  cases k with
  | io n => exact io_mem_current.mp h
  | timer g => exact (timer_mem_current.mp h).2

/-- At most one I/O is current. -/
theorem io_current_unique {n m : Nat} (hn : .io n ∈ s.current) (hm : .io m ∈ s.current) : n = m := by
  obtain ⟨stage, hn⟩ := io_mem_current.mp hn
  obtain ⟨stage', hm⟩ := io_mem_current.mp hm
  rw [hn] at hm
  cases hm
  rfl

/-- Nothing is current twice. -/
theorem nodup_current : s.current.Nodup := by
  cases h : s.io <;> by_cases ht : s.timed <;> simp [current, h, ht]

/-- At most an I/O and a timer are current. -/
theorem length_current : s.current.length = s.io.isSome.toNat + s.timed.toNat := by
  cases h : s.io <;> by_cases ht : s.timed <;> simp [current, h, ht]

/-! ## The invariant -/

def ending (s : NetworkOperation σ κ ρ) : Ending ρ :=
  if s.done then
    match s.reported with
    | [] => .retired
    | r :: _ => .reported r
  else .waiting

/-- What a cut has counted and what has answered, as far as it does not depend on how the operation stands. -/
structure Counts (s : NetworkOperation σ κ ρ) (c : Cut Completion κ ρ) : Prop where
  nodup : c.counted.Nodup
  one_io : ∀ n m, .io n ∈ c.counted → .io m ∈ c.counted → n = m
  begun : ∀ k ∈ c.counted, s.Begun k
  under_way : ∀ k ∈ c.counted, s.UnderWay k ↔ ¬c.Answered k
  once : c.Once
  timers : ∀ g result, (.timer g, .ready result) ∉ c.answers

/-- An operation stands as its cut says. While it lives, it counts what has not answered. -/
structure Accounted (R : Reporting κ ρ) (s : NetworkOperation σ κ ρ) (c : Cut Completion κ ρ) : Prop where
  requested : s.cancelRequested = true
  counts : s.Counts c
  ending : c.ending R.kept = s.ending
  live : s.done = false → s.cancellationCompletionsPending = c.remaining.length ∧ s.cancelledResult = c.result ∧
    ∀ k, k ∈ s.current ↔ k ∈ c.remaining

structure Inv (R : Reporting κ ρ) (s : NetworkOperation σ κ ρ) : Prop where
  io_begun : ∀ n stage, s.io = some (n, stage) → n < s.nextIo
  waits_begun : ∀ g stage, (g, stage) ∈ s.waits → g ≤ s.timeoutGeneration
  unstarted : s.started = false → s.io = none ∧ s.waits = []
  io_flag : s.done = false → s.ioPending = s.io.isSome
  timer_flag : s.done = false → s.timerPending = s.timed
  quiet : s.done = false → s.reported = []
  once : s.reported.length ≤ 1
  uncut : s.cut = none → s.cancelRequested = false ∧ s.cancelledResult = none
  accounted : ∀ c, s.cut = some c → s.Accounted R c

/-- The invariant holds of an operation that has just been made. -/
theorem Inv.initial : (({} : NetworkOperation σ κ ρ)).Inv R where
  io_begun := by intro n stage h; cases h
  waits_begun := by intro g stage h; cases h
  unstarted := fun _ => ⟨rfl, rfl⟩
  io_flag := fun _ => rfl
  timer_flag := fun _ => rfl
  quiet := fun _ => rfl
  once := Nat.zero_le 1
  uncut := fun _ => ⟨rfl, rfl⟩
  accounted := by intro c h; cases h

/-- What is under way has begun. -/
theorem Inv.begun_of_under_way (h : s.Inv R) (hk : s.UnderWay k) : s.Begun k := by
  cases k with
  | io n =>
    obtain ⟨stage, hio⟩ := hk
    exact h.io_begun n stage hio
  | timer g =>
    obtain ⟨stage, hw⟩ := hk
    exact h.waits_begun g stage hw

/-- An operation that has not been cut is not cancelled. -/
theorem Inv.cut_of_requested (h : s.Inv R) (hr : s.cancelRequested = true) : ∃ c, s.cut = some c := by
  cases hc : s.cut with
  | some c => exact ⟨c, rfl⟩
  | none =>
    rw [(h.uncut hc).1] at hr
    cases hr

/-- Without a request for cancellation there is no cut. -/
theorem Inv.uncut_of_not_requested (h : s.Inv R) (hr : s.cancelRequested = false) : s.cut = none := by
  cases hc : s.cut with
  | none => rfl
  | some c =>
    rw [(h.accounted c hc).requested] at hr
    cases hr

/-! ## Counting -/

/-- What has begun since is under way beside the counted. -/
theorem Counts.later (h : s.Counts c) {t : NetworkOperation σ κ ρ} (hbegun : ∀ k, s.Begun k → t.Begun k)
    (hunder : ∀ k, s.Begun k → (t.UnderWay k ↔ s.UnderWay k)) : t.Counts c where
  nodup := h.nodup
  one_io := h.one_io
  begun := fun k hk => hbegun k (h.begun k hk)
  under_way := fun k hk => (hunder k (h.begun k hk)).trans (h.under_way k hk)
  once := h.once
  timers := h.timers

/-- A new cut counts what is current. -/
theorem Inv.counts_new (h : s.Inv R) : s.Counts { counted := s.current } where
  nodup := nodup_current
  one_io := fun _ _ hn hm => io_current_unique hn hm
  begun := fun _ hk => h.begun_of_under_way (UnderWay.of_current hk)
  under_way := fun _ hk => by simp [UnderWay.of_current hk]
  once := by intro k _ v w hv; cases hv
  timers := by intro g result hg; cases hg

/-! ## Ending -/

/-- A clean retirement keeps the invariant. -/
theorem Inv.retireCleanly (h : s.Inv R) (hc : s.done = true ∨ s.cut = none) : s.retireCleanly.Inv R := by
  by_cases hd : s.done = true
  · rw [NetworkOperation.retireCleanly, if_pos hd]
    exact h
  · rw [NetworkOperation.retireCleanly, if_neg hd]
    exact ⟨h.io_begun, h.waits_begun, h.unstarted, by simp, by simp, by simp, h.once, h.uncut, by simp [hc.resolve_left hd]⟩

/-- Disarming the timer keeps the invariant before a cut. -/
theorem Inv.disarmTimeout (h : s.Inv R) (hc : s.cut = none) : s.disarmTimeout.Inv R where
  io_begun := h.io_begun
  waits_begun := fun g stage hw => Nat.le_succ_of_le (h.waits_begun g stage hw)
  unstarted := h.unstarted
  io_flag := h.io_flag
  timer_flag := by
    intro _
    have huntimed : ¬s.disarmTimeout.timed = true := by
      rw [timed_iff]
      rintro ⟨stage, hw⟩
      exact Nat.not_succ_le_self _ (h.waits_begun _ stage hw)
    simp only [Bool.not_eq_true] at huntimed
    exact huntimed.symm
  quiet := h.quiet
  once := h.once
  uncut := h.uncut
  accounted := by simp [NetworkOperation.disarmTimeout, hc]

/-- An operation that is done does not finish again. -/
theorem finish_done (report : ρ) (hd : s.done = true) : s.finish report = s := if_pos hd

/-- Finishing keeps the invariant. -/
theorem Inv.finish (h : s.Inv R) (report : ρ) (hc : s.done = true ∨ s.cut = none) : (s.finish report).Inv R := by
  by_cases hd : s.done = true
  · rw [finish_done report hd]
    exact h
  have hc : s.cut = none := hc.resolve_left hd
  rw [NetworkOperation.finish, if_neg hd]
  refine ⟨h.io_begun, fun g stage hw => Nat.le_succ_of_le (h.waits_begun g stage hw), h.unstarted, ?_, ?_, ?_, ?_, h.uncut, ?_⟩
  · simp [NetworkOperation.disarmTimeout]
  · simp [NetworkOperation.disarmTimeout]
  · simp [NetworkOperation.disarmTimeout]
  · simp [NetworkOperation.disarmTimeout, h.quiet (by simpa using hd)]
  · simp [NetworkOperation.disarmTimeout, hc]

/-! ## Beginning a stage -/

/-- Starting keeps the invariant. -/
theorem Inv.started (h : s.Inv R) : { s with started := true }.Inv R where
  io_begun := h.io_begun
  waits_begun := h.waits_begun
  unstarted := by simp
  io_flag := h.io_flag
  timer_flag := h.timer_flag
  quiet := h.quiet
  once := h.once
  uncut := h.uncut
  accounted := by
    intro c hc
    have ha := h.accounted c hc
    exact ⟨ha.requested, ha.counts.later (fun _ => id) fun _ _ => Iff.rfl, ha.ending, ha.live⟩

/-- Arming the timer keeps the invariant. -/
theorem Inv.armTimeout (h : s.Inv R) (stage : String) (hc : s.done = true ∨ s.cut = none) (hs : s.started = true) :
    (s.armTimeout stage).Inv R where
  io_begun := h.io_begun
  waits_begun := by
    intro g st hw
    rcases List.mem_cons.mp hw with hw | hw
    · cases hw
      exact Nat.le_refl _
    · exact Nat.le_succ_of_le (h.waits_begun g st hw)
  unstarted := by simp [NetworkOperation.armTimeout, hs]
  io_flag := h.io_flag
  timer_flag := by
    intro _
    exact (timed_iff.mpr ⟨stage, List.mem_cons_self⟩).symm
  quiet := h.quiet
  once := h.once
  uncut := h.uncut
  accounted := by
    intro c hcut
    have hd : s.done = true := by
      rcases hc with hd | hc
      · exact hd
      · rw [show s.cut = some c from hcut] at hc
        cases hc
    have ha := h.accounted c hcut
    refine ⟨ha.requested, ha.counts.later ?_ ?_, ha.ending, fun h : s.done = false => absurd h (by simp [hd])⟩
    · intro k hk
      cases k with
      | io n => exact hk
      | timer g => exact Nat.le_succ_of_le hk
    · intro k hk
      cases k with
      | io n => exact Iff.rfl
      | timer g =>
        have hg : g ≤ s.timeoutGeneration := hk
        have hne : g ≠ s.timeoutGeneration + 1 := by omega
        simp [UnderWay, NetworkOperation.armTimeout, hne]

/-- Beginning an I/O keeps the invariant when none is under way. -/
theorem Inv.beginIo (h : s.Inv R) (stage : σ) (hc : s.done = true ∨ s.cut = none) (hs : s.started = true) (hio : s.io = none) :
    (s.beginIo stage).Inv R where
  io_begun := by
    intro n st hn
    cases hn
    exact Nat.lt_succ_self _
  waits_begun := h.waits_begun
  unstarted := by simp [NetworkOperation.beginIo, hs]
  io_flag := fun _ => rfl
  timer_flag := h.timer_flag
  quiet := h.quiet
  once := h.once
  uncut := h.uncut
  accounted := by
    intro c hcut
    have hd : s.done = true := by
      rcases hc with hd | hc
      · exact hd
      · rw [show s.cut = some c from hcut] at hc
        cases hc
    have ha := h.accounted c hcut
    refine ⟨ha.requested, ha.counts.later ?_ ?_, ha.ending, fun h : s.done = false => absurd h (by simp [hd])⟩
    · intro k hk
      cases k with
      | io n => exact Nat.lt_succ_of_lt hk
      | timer g => exact hk
    · intro k hk
      cases k with
      | timer g => exact Iff.rfl
      | io n =>
        have hn : n < s.nextIo := hk
        have hne : s.nextIo ≠ n := by omega
        simp [UnderWay, NetworkOperation.beginIo, hio, hne]

/-! ## Cancelling -/

/-- A cancellation counts what is under way for the current stage, and nothing else. -/
theorem Inv.cancel (h : s.Inv R) : s.cancel.Inv R := by
  by_cases hd : s.done = true
  · simpa [NetworkOperation.cancel, hd] using h
  by_cases hr : s.cancelRequested = true
  · simpa [NetworkOperation.cancel, hr] using h
  simp only [Bool.not_eq_true] at hd hr
  have hc := h.uncut_of_not_requested hr
  have hcount : s.ioPending.toNat + s.timerPending.toNat = s.current.length := by
    rw [length_current, h.io_flag hd, h.timer_flag hd]
  have hcounts := h.counts_new
  by_cases hzero : s.current = []
  · have he : s.cancel = { s with
        cancelRequested := true, cancellationCompletionsPending := 0, cut := some { counted := s.current }, done := true } := by
      simp [NetworkOperation.cancel, hd, hr, hcount, hzero, NetworkOperation.retireCleanly]
    rw [he]
    refine ⟨h.io_begun, h.waits_begun, h.unstarted, by simp, by simp, by simp, h.once, by simp, ?_⟩
    intro c hcut
    cases hcut
    refine ⟨rfl, hcounts.later (fun _ => id) fun _ _ => Iff.rfl, ?_, by simp⟩
    rw [Cut.ending_new, if_pos hzero]
    simp [NetworkOperation.ending, h.quiet hd]
  · have he : s.cancel = { s with
        cancelRequested := true, cancellationCompletionsPending := s.current.length, cut := some { counted := s.current } } := by
      simp [NetworkOperation.cancel, hd, hr, hcount, hzero]
    rw [he]
    refine ⟨h.io_begun, h.waits_begun, h.unstarted, h.io_flag, h.timer_flag, h.quiet, h.once, by simp, ?_⟩
    intro c hcut
    cases hcut
    refine ⟨rfl, hcounts.later (fun _ => id) fun _ _ => Iff.rfl, ?_, ?_⟩
    · rw [Cut.ending_new, if_neg hzero]
      simp [NetworkOperation.ending, hd]
    · intro _
      exact ⟨by rw [Cut.remaining_new], (h.uncut hc).2, fun k => by rw [Cut.remaining_new]; exact Iff.rfl⟩

/-- A cancellation begins nothing and ends nothing that is under way. -/
theorem cancel_keeps : s.cancel.io = s.io ∧ s.cancel.started = s.started ∧ s.cancel.timerPending = s.timerPending := by
  by_cases hover : (s.done || s.cancelRequested) = true
  · rw [NetworkOperation.cancel, if_pos hover]
    exact ⟨rfl, rfl, rfl⟩
  · simp only [NetworkOperation.cancel, if_neg hover, NetworkOperation.retireCleanly]
    split
    · split <;> exact ⟨rfl, rfl, rfl⟩
    · exact ⟨rfl, rfl, rfl⟩

/-- With nothing under way a cancellation ends an operation at once. -/
theorem Inv.cancel_done (h : s.Inv R) (hc : s.cut = none) (hio : s.io = none) (ht : s.timerPending = false) :
    s.cancel.done = true := by
  cases hd : s.done with
  | true => simp [NetworkOperation.cancel, hd]
  | false =>
    have hflag : s.ioPending = false := by rw [h.io_flag hd, hio]; rfl
    simp [NetworkOperation.cancel, hd, (h.uncut hc).1, hflag, ht, NetworkOperation.retireCleanly]

/-! ## Completions -/

/-- A completion is handed over and its handler has cleared the flag it stands under. A wait of an earlier generation stands under
none. -/
def hear (k : Completion) (v : Verdict κ ρ) (s : NetworkOperation σ κ ρ) : NetworkOperation σ κ ρ :=
  { s.take k v with
    ioPending := match k with
      | .io _ => false
      | .timer _ => s.ioPending
    timerPending := match k with
      | .io _ => s.timerPending
      | .timer g => if g = s.timeoutGeneration then false else s.timerPending }

/-- What has been heard of is not under way any more. -/
theorem underWay_hear (hk : s.UnderWay k) (j : Completion) : (s.hear k v).UnderWay j ↔ s.UnderWay j ∧ j ≠ k := by
  cases k with
  | io n =>
    obtain ⟨stage, hio⟩ := hk
    cases j with
    | timer g => simp [UnderWay, hear, take]
    | io m => simp [UnderWay, hear, take, hio, eq_comm]
  | timer g =>
    cases j with
    | io m => simp [UnderWay, hear, take]
    | timer g' => simp [UnderWay, hear, take]

/-- What has been heard of is not current any more. -/
theorem current_hear (hk : s.UnderWay k) (j : Completion) : j ∈ (s.hear k v).current ↔ j ∈ s.current ∧ j ≠ k := by
  have hunder := underWay_hear (v := v) hk j
  cases j with
  | io m => rw [io_mem_current, io_mem_current]; exact hunder
  | timer g =>
    rw [timer_mem_current, timer_mem_current, and_assoc]
    exact and_congr_right fun _ => hunder

/-- The cut counts on when one of those it counted answers. -/
theorem Counts.answer (h : s.Counts c) (hk : s.UnderWay k) (hv : ∀ g result, k = .timer g → v ≠ .ready result) :
    (s.hear k v).Counts (c.answer k v) where
  nodup := h.nodup
  one_io := h.one_io
  begun := h.begun
  under_way := by
    intro j hj
    rw [underWay_hear hk, Cut.answered_answer, h.under_way j hj]
    tauto
  once := h.once.answer fun hcounted => (h.under_way k hcounted).mp hk
  timers := by
    intro g result hg
    simp only [Cut.answer, List.mem_append, List.mem_singleton, Prod.mk.injEq] at hg
    rcases hg with hg | ⟨hg, hresult⟩
    · exact h.timers g result hg
    · exact hv g result hg.symm hresult.symm

/-- What an operation is after it has heard a completion, apart from the cut. -/
theorem Inv.hear_base (h : s.Inv R) (hk : s.UnderWay k) (v : Verdict κ ρ) :
    (∀ n stage, (s.hear k v).io = some (n, stage) → n < s.nextIo) ∧
      (∀ g stage, (g, stage) ∈ (s.hear k v).waits → g ≤ s.timeoutGeneration) ∧
      (s.started = false → (s.hear k v).io = none ∧ (s.hear k v).waits = []) ∧
      (s.done = false → (s.hear k v).ioPending = (s.hear k v).io.isSome) ∧
      (s.done = false → (s.hear k v).timerPending = (s.hear k v).timed) := by
  cases k with
  | io n =>
    refine ⟨by simp [hear, take], h.waits_begun, fun hs => ⟨rfl, (h.unstarted hs).2⟩, fun _ => rfl, fun hd => h.timer_flag hd⟩
  | timer g =>
    refine ⟨h.io_begun, ?_, ?_, fun hd => h.io_flag hd, ?_⟩
    · intro g' stage hw
      exact h.waits_begun g' stage (List.mem_of_mem_filter hw)
    · intro hs
      exact ⟨(h.unstarted hs).1, by simp [hear, take, (h.unstarted hs).2]⟩
    · intro hd
      by_cases hg : g = s.timeoutGeneration
      · have huntimed : ¬(s.hear (.timer g) v).timed = true := by
          rw [timed_iff]
          rintro ⟨stage, hw⟩
          simp [NetworkOperation.hear, take, hg] at hw
        simp only [Bool.not_eq_true] at huntimed
        rw [huntimed]
        simp [NetworkOperation.hear, hg]
      · have hkeeps : (s.hear (.timer g) v).timed = s.timed := by
          rw [Bool.eq_iff_iff, timed_iff, timed_iff]
          simp [NetworkOperation.hear, take, eq_comm, hg]
        rw [hkeeps, ← h.timer_flag hd]
        simp [NetworkOperation.hear, hg]

/-- A completion that no cut waits for. -/
theorem Inv.hear (h : s.Inv R) (hk : s.UnderWay k) (hv : ∀ g result, k = .timer g → v ≠ .ready result)
    (hc : s.done = true ∨ s.cut = none ∨ k ∉ s.current) : (s.hear k v).Inv R := by
  obtain ⟨hio, hwaits, hunstarted, hioFlag, htimerFlag⟩ := h.hear_base hk v
  refine ⟨hio, hwaits, hunstarted, hioFlag, htimerFlag, h.quiet, h.once, ?_, ?_⟩
  · intro hcut
    exact h.uncut (by simpa [NetworkOperation.hear, take] using hcut)
  · intro c' hcut
    obtain ⟨c, hc', rfl⟩ := Option.map_eq_some_iff.mp (show s.cut.map (Cut.answer k v) = some c' from hcut)
    have ha := h.accounted c hc'
    have hremaining : k ∈ c.counted → k ∈ c.remaining := by
      intro hcounted
      exact Cut.mem_remaining.mpr ⟨hcounted, (ha.counts.under_way k hcounted).mp hk⟩
    have huncounted : s.done = false → k ∉ c.counted := by
      intro hd hcounted
      have hcurrent := ((ha.live hd).2.2 k).mpr (hremaining hcounted)
      simp [hd, hc', hcurrent] at hc
    refine ⟨ha.requested, ha.counts.answer hk hv, ?_, ?_⟩
    · show _ = s.ending
      rw [← ha.ending]
      by_cases hd : s.done = true
      · refine Cut.ending_answer_ended ?_ hremaining
        rw [ha.ending]
        simp only [NetworkOperation.ending, hd, if_true]
        cases s.reported <;> simp
      · exact Cut.ending_answer_uncounted (huncounted (by simpa using hd))
    · intro hd
      obtain ⟨hpending, hresult, hcurrent⟩ := ha.live hd
      refine ⟨?_, ?_, ?_⟩
      · rw [Cut.remaining_answer_uncounted (huncounted hd)]
        exact hpending
      · rw [Cut.result_answer_uncounted (huncounted hd)]
        exact hresult
      · intro j
        rw [current_hear hk, Cut.remaining_answer, List.mem_filter, hcurrent]
        simp

/-- A living operation that has heard a completion which it had counted, before it settles the verdict. -/
structure Heard (t : NetworkOperation σ κ ρ) (c : Cut Completion κ ρ) : Prop where
  io_begun : ∀ n stage, t.io = some (n, stage) → n < t.nextIo
  waits_begun : ∀ g stage, (g, stage) ∈ t.waits → g ≤ t.timeoutGeneration
  unstarted : t.started = false → t.io = none ∧ t.waits = []
  io_flag : t.ioPending = t.io.isSome
  timer_flag : t.timerPending = t.timed
  living : t.done = false
  quiet : t.reported = []
  cut : t.cut = some c
  requested : t.cancelRequested = true
  counts : t.Counts c
  pending : t.cancellationCompletionsPending = c.remaining.length + 1
  current : ∀ k, k ∈ t.current ↔ k ∈ c.remaining

variable {t t' : NetworkOperation σ κ ρ}

/-- An operation that ends with what its cut says is well accounted. -/
theorem Heard.over (h : t.Heard c) (hio : t'.io = t.io) (hnext : t'.nextIo = t.nextIo) (hwaits : t'.waits = t.waits)
    (hgeneration : t.timeoutGeneration ≤ t'.timeoutGeneration) (hstarted : t'.started = t.started) (hcut : t'.cut = t.cut)
    (hrequested : t'.cancelRequested = t.cancelRequested) (hdone : t'.done = true) (honce : t'.reported.length ≤ 1)
    (hending : c.ending R.kept = t'.ending) : t'.Inv R := by
  refine ⟨by rw [hio, hnext]; exact h.io_begun, ?_, by rw [hstarted, hio, hwaits]; exact h.unstarted, by simp [hdone], by simp [hdone],
    by simp [hdone], honce, by simp [hcut, h.cut], ?_⟩
  · rw [hwaits]
    exact fun g stage hw => Nat.le_trans (h.waits_begun g stage hw) hgeneration
  · intro c' hc'
    obtain rfl : c = c' := Option.some.inj (h.cut.symm.trans (hcut.symm.trans hc'))
    refine ⟨hrequested.trans h.requested, h.counts.later ?_ ?_, hending, by simp [hdone]⟩
    · intro k hk
      cases k with
      | io n =>
        show n < t'.nextIo
        rw [hnext]
        exact hk
      | timer g => exact Nat.le_trans hk hgeneration
    · intro k _
      cases k with
      | io n => simp only [UnderWay, hio]
      | timer g => simp only [UnderWay, hwaits]

/-- The cut is over when its ending is a report. -/
theorem Heard.finish (h : t.Heard c) {report : ρ} (hending : c.ending R.kept = .reported report) : (t.finish report).Inv R := by
  have he : t.finish report = { t with
      done := true, cancellationCompletionsPending := 0, timeoutGeneration := t.timeoutGeneration + 1, timerPending := false,
      reported := [report] } := by
    simp [NetworkOperation.finish, NetworkOperation.disarmTimeout, h.living, h.quiet]
  rw [he]
  exact h.over rfl rfl rfl (Nat.le_succ _) rfl rfl rfl rfl (Nat.le_refl 1) hending

/-- The last piece ends the operation; before it one more piece is counted down. -/
theorem Heard.completes (h : t.Heard c) (hfailure : c.failure = none) (hresult : t.cancelledResult = c.result) :
    (t.completeCancelledPiece R).Inv R := by
  have hpending : t.cancellationCompletionsPending - 1 = c.remaining.length := by rw [h.pending]; rfl
  by_cases hlast : c.remaining = []
  · have hzero : t.cancellationCompletionsPending - 1 = 0 := by rw [hpending, hlast]; rfl
    cases hr : c.result with
    | some result =>
      have he : t.completeCancelledPiece R = { t with
          cancelledResult := none, done := true, cancellationCompletionsPending := 0,
          timeoutGeneration := t.timeoutGeneration + 1, timerPending := false, reported := [R.kept result] } := by
        simp [completeCancelledPiece, hzero, h.living, hresult, hr, NetworkOperation.finish, NetworkOperation.disarmTimeout, h.quiet]
      rw [he]
      refine h.over rfl rfl rfl (Nat.le_succ _) rfl rfl rfl rfl (Nat.le_refl 1) ?_
      simp [Cut.ending, hfailure, hlast, hr, NetworkOperation.ending]
    | none =>
      have he : t.completeCancelledPiece R = { t with cancellationCompletionsPending := 0, done := true } := by
        simp [completeCancelledPiece, hzero, h.living, hresult, hr, NetworkOperation.retireCleanly]
      rw [he]
      refine h.over rfl rfl rfl (Nat.le_refl _) rfl rfl rfl rfl (by simp [h.quiet]) ?_
      simp [Cut.ending, hfailure, hlast, hr, NetworkOperation.ending, h.quiet]
  · have hmore : t.cancellationCompletionsPending - 1 ≠ 0 := by
      rw [hpending]
      simpa using hlast
    have he : t.completeCancelledPiece R = { t with cancellationCompletionsPending := c.remaining.length } := by
      simp only [completeCancelledPiece, hpending]
      rw [if_pos (Or.inl (hpending ▸ hmore))]
    rw [he]
    refine ⟨h.io_begun, h.waits_begun, h.unstarted, fun _ => h.io_flag, fun _ => h.timer_flag, fun _ => h.quiet, by simp [h.quiet],
      by simp [h.cut], ?_⟩
    intro c' hc'
    obtain rfl : c = c' := Option.some.inj (h.cut.symm.trans hc')
    refine ⟨h.requested, h.counts.later (fun _ => id) fun _ _ => Iff.rfl, ?_, fun _ => ⟨rfl, hresult, h.current⟩⟩
    have hwaiting : c.ending R.kept = .waiting := Cut.ending_waiting.mpr ⟨hfailure, hlast⟩
    rw [hwaiting]
    simp [NetworkOperation.ending, h.living]

/-- An operation that gives up when nothing is left to answer. -/
theorem Heard.retires (h : t.Heard c) (hfailure : c.failure = none) (hresult : c.result = none) (hlast : c.remaining = []) :
    t.retireCleanly.Inv R := by
  have he : t.retireCleanly = { t with done := true } := by simp [NetworkOperation.retireCleanly, h.living]
  rw [he]
  refine h.over rfl rfl rfl (Nat.le_refl _) rfl rfl rfl rfl (by simp [h.quiet]) ?_
  simp [Cut.ending, hfailure, hlast, hresult, NetworkOperation.ending, h.quiet]

/-- A cut operation that lives hears one of the completions it waits for; none has failed before. -/
theorem Inv.heard (h : s.Inv R) (hd : s.done = false) (hr : s.cancelRequested = true) (hk : k ∈ s.current)
    (hv : ∀ g result, k = .timer g → v ≠ .ready result) :
    ∃ c : Cut Completion κ ρ, (s.hear k v).Heard (c.answer k v) ∧ k ∈ c.counted ∧ c.failure = none ∧ s.cancelledResult = c.result := by
  obtain ⟨c, hc⟩ := h.cut_of_requested hr
  have ha := h.accounted c hc
  obtain ⟨hpending, hresult, hcurrent⟩ := ha.live hd
  have hunder := UnderWay.of_current hk
  have hremaining : k ∈ c.remaining := (hcurrent k).mp hk
  have hwaiting : c.ending R.kept = .waiting := by
    rw [ha.ending]
    simp [NetworkOperation.ending, hd]
  obtain ⟨hio, hwaits, hunstarted, hioFlag, htimerFlag⟩ := h.hear_base hunder v
  refine ⟨c, ?_, (Cut.mem_remaining.mp hremaining).1, (Cut.ending_waiting.mp hwaiting).1, hresult⟩
  refine ⟨hio, hwaits, hunstarted, hioFlag hd, htimerFlag hd, hd, h.quiet hd, ?_, hr, ha.counts.answer hunder hv, ?_, ?_⟩
  · simp [NetworkOperation.hear, take, hc]
  · rw [Cut.length_remaining_answer ha.counts.nodup hremaining]
    exact hpending
  · intro j
    rw [current_hear hunder, Cut.remaining_answer, List.mem_filter, hcurrent]
    simp

/-- After a cut an operation settles the verdict of each completion that it has counted. -/
theorem Inv.settle (h : s.Inv R) (hd : s.done = false) (hr : s.cancelRequested = true) (hk : k ∈ s.current)
    (hv : ∀ g result, k = .timer g → v ≠ .ready result) : ((s.hear k v).settle R v).Inv R := by
  obtain ⟨c, hheard, hcounted, hfailure, hresult⟩ := h.heard hd hr hk hv
  cases v with
  | clean =>
    refine hheard.completes ?_ ?_
    · simp [Cut.failure_answer hcounted, hfailure, Verdict.failure]
    · rw [Cut.result_answer hcounted]
      exact hresult
  | ready result =>
    have hkept : ({ s.hear k (.ready result) with cancelledResult := some result } : NetworkOperation σ κ ρ).Heard
        (c.answer k (.ready result)) :=
      ⟨hheard.io_begun, hheard.waits_begun, hheard.unstarted, hheard.io_flag, hheard.timer_flag, hheard.living, hheard.quiet, hheard.cut,
        hheard.requested, hheard.counts.later (fun _ => id) fun _ _ => Iff.rfl, hheard.pending, hheard.current⟩
    refine hkept.completes ?_ ?_
    · simp [Cut.failure_answer hcounted, hfailure, Verdict.failure]
    · rw [Cut.result_answer hcounted]
      rfl
  | failed report =>
    refine hheard.finish ?_
    simp [Cut.ending, Cut.failure_answer hcounted, hfailure, Verdict.failure]

/-! ## Timers that do not run -/

/-- An operation that finishes is done. -/
theorem finish_isDone (report : ρ) : (s.finish report).done = true := by
  by_cases hd : s.done = true <;> simp [NetworkOperation.finish, NetworkOperation.disarmTimeout, hd]

/-- Finishing leaves no timer pending that was not. -/
theorem timerPending_finish (report : ρ) (ht : s.timerPending = false) : (s.finish report).timerPending = false := by
  by_cases hd : s.done = true <;> simp [NetworkOperation.finish, NetworkOperation.disarmTimeout, hd, ht]

/-- A clean retirement leaves no timer pending that was not. -/
theorem timerPending_retireCleanly (ht : s.timerPending = false) : s.retireCleanly.timerPending = false := by
  by_cases hd : s.done = true <;> simp [NetworkOperation.retireCleanly, hd, ht]

/-- A piece of a cancellation leaves no timer pending that was not. -/
theorem timerPending_completeCancelledPiece (ht : s.timerPending = false) :
    (s.completeCancelledPiece R).timerPending = false := by
  simp only [completeCancelledPiece]
  split
  · exact ht
  · split
    · exact timerPending_finish _ ht
    · exact timerPending_retireCleanly ht

/-- Settling leaves no timer pending that was not. -/
theorem timerPending_settle (ht : s.timerPending = false) : (s.settle R v).timerPending = false := by
  cases v with
  | clean => exact timerPending_completeCancelledPiece ht
  | ready result => exact timerPending_completeCancelledPiece ht
  | failed report => exact timerPending_finish report ht

/-- Finishing leaves the I/O alone. -/
theorem io_finish (report : ρ) : (s.finish report).io = s.io := by
  by_cases hd : s.done = true <;> simp [NetworkOperation.finish, NetworkOperation.disarmTimeout, hd]

/-- A piece of a cancellation leaves the I/O alone. -/
theorem io_completeCancelledPiece : (s.completeCancelledPiece R).io = s.io := by
  simp only [completeCancelledPiece]
  split
  · rfl
  · split
    · exact io_finish _
    · by_cases hd : s.done = true <;> simp [NetworkOperation.retireCleanly, hd]

/-- Settling leaves the I/O alone. -/
theorem io_settle : (s.settle R v).io = s.io := by
  cases v with
  | clean => exact io_completeCancelledPiece
  | ready result => exact io_completeCancelledPiece
  | failed report => exact io_finish report

/-! ## Handlers -/

/-- An operation with an I/O under way has been started. -/
theorem Inv.started_of_io (h : s.Inv R) {n : Nat} {stage : σ} (hio : s.io = some (n, stage)) : s.started = true := by
  cases hs : s.started with
  | true => rfl
  | false =>
    rw [(h.unstarted hs).1] at hio
    cases hio

/-- An operation that is cancelled before it has started is over at once. -/
theorem Inv.unstarted_over (h : s.Inv R) (hs : s.started = false) : s.done = true ∨ s.cut = none := by
  cases hd : s.done with
  | true => exact Or.inl rfl
  | false =>
    refine Or.inr ?_
    cases hc : s.cut with
    | none => rfl
    | some c =>
      have ha := h.accounted c hc
      have hnothing : c.remaining = [] := by
        rw [List.eq_nil_iff_forall_not_mem]
        intro k hk
        have hunder := UnderWay.of_current (((ha.live hd).2.2 k).mpr hk)
        cases k with
        | io n => simp [UnderWay, (h.unstarted hs).1] at hunder
        | timer g => simp [UnderWay, (h.unstarted hs).2] at hunder
      have hwaiting : c.ending R.kept = .waiting := by
        rw [ha.ending]
        simp [NetworkOperation.ending, hd]
      exact absurd hnothing (Cut.ending_waiting.mp hwaiting).2

/-- The handler of a stage, where the next stage is begun by a living operation that has not been cut. -/
theorem Inv.stageCompleted (h : s.Inv R) {n : Nat} {stage : σ} (hio : s.io = some (n, stage)) (code : NetworkErrorCode) (text : String)
    {next : NetworkOperation σ κ ρ → NetworkOperation σ κ ρ} (errorCode : Option ErrorCode)
    (hnext : ∀ t : NetworkOperation σ κ ρ, t.Inv R → t.cut = none → t.started = true → t.io = none → t.timerPending = false →
      (next t).Inv R) :
    ((s.take (.io n) (stageVerdict R code text errorCode)).stageCompleted R code text next errorCode).Inv R := by
  have hk : s.UnderWay (.io n) := ⟨stage, hio⟩
  have hv : ∀ v : Verdict κ ρ, ∀ g result, Completion.io n = .timer g → v ≠ .ready result := by
    intro v g result hg
    cases hg
  have hdone : (s.take (.io n) (stageVerdict R code text errorCode)).done = s.done := rfl
  have hrequested : (s.take (.io n) (stageVerdict R code text errorCode)).cancelRequested = s.cancelRequested := rfl
  by_cases hd : s.done = true
  · rw [stageCompleted_done code text next errorCode (hdone.trans hd)]
    exact h.hear hk (hv _) (Or.inl hd)
  simp only [Bool.not_eq_true] at hd
  by_cases hr : s.cancelRequested = true
  · rw [stageCompleted_cut code text next errorCode (hdone.trans hd) (hrequested.trans hr)]
    exact h.settle hd hr (io_mem_current.mpr hk) (hv _)
  simp only [Bool.not_eq_true] at hr
  have hcut : s.cut = none := h.uncut_of_not_requested hr
  have hhear := h.hear hk (hv (stageVerdict R code text errorCode)) (Or.inr (Or.inl hcut))
  have hcut' : (s.hear (.io n) (stageVerdict R code text errorCode)).cut = none := by simp [NetworkOperation.hear, take, hcut]
  have hdisarmed := hhear.disarmTimeout hcut'
  rw [stageCompleted_uncut code text next errorCode (hdone.trans hd) (hrequested.trans hr)]
  cases errorCode with
  | some e => exact hdisarmed.finish _ (Or.inr hcut')
  | none => exact hnext _ hdisarmed hcut' (h.started_of_io hio) rfl rfl

/-- A timer of an older generation is only taken off. -/
theorem hear_stale {g : Nat} (hg : g ≠ s.timeoutGeneration) (v : Verdict κ ρ) : s.hear (.timer g) v = s.take (.timer g) v := by
  simp [NetworkOperation.hear, take, hg]

/-- A timer that completes keeps the invariant. -/
theorem Inv.timerCompleted (h : s.Inv R) {g : Nat} {text : String} (hw : (g, text) ∈ s.waits) (errorCode : Option ErrorCode) :
    ((s.take (.timer g) (timerVerdict R text errorCode)).timerCompleted R g text errorCode).Inv R := by
  have hk : s.UnderWay (.timer g) := ⟨text, hw⟩
  have hv : ∀ g' result, Completion.timer g = .timer g' → timerVerdict R text errorCode ≠ .ready result := by
    intro g' result _
    cases errorCode with
    | none => simp [timerVerdict]
    | some e => by_cases ha : e.kind = .operationAborted <;> simp [timerVerdict, ha]
  by_cases hg : g = s.timeoutGeneration
  · have hhear : ∀ t, t = s.take (.timer g) (timerVerdict R text errorCode) →
        { t with timerPending := false } = s.hear (.timer g) (timerVerdict R text errorCode) := by
      rintro t rfl
      simp [NetworkOperation.hear, take, hg]
    have hgeneration : g = (s.take (.timer g) (timerVerdict R text errorCode)).timeoutGeneration := hg
    have hdone : (s.take (.timer g) (timerVerdict R text errorCode)).done = s.done := rfl
    have hrequested : (s.take (.timer g) (timerVerdict R text errorCode)).cancelRequested = s.cancelRequested := rfl
    by_cases hd : s.done = true
    · rw [timerCompleted_done text errorCode hgeneration (hdone.trans hd), hhear _ rfl]
      exact h.hear hk hv (Or.inl hd)
    simp only [Bool.not_eq_true] at hd
    by_cases hr : s.cancelRequested = true
    · rw [timerCompleted_cut text errorCode hgeneration (hdone.trans hd) (hrequested.trans hr), hhear _ rfl]
      exact h.settle hd hr (timer_mem_current.mpr ⟨hg, text, hw⟩) hv
    simp only [Bool.not_eq_true] at hr
    have hcut : s.cut = none := h.uncut_of_not_requested hr
    have hinv := h.hear hk hv (Or.inr (Or.inl hcut))
    rw [timerCompleted_uncut text errorCode hgeneration (hdone.trans hd) (hrequested.trans hr), hhear _ rfl]
    cases errorCode with
    | none => exact hinv.finish _ (Or.inr (by simp [NetworkOperation.hear, take, hcut]))
    | some e => exact hinv
  · have hstale : (s.take (.timer g) (timerVerdict R text errorCode)).timerCompleted R g text errorCode =
        s.take (.timer g) (timerVerdict R text errorCode) := timerCompleted_stale text errorCode hg
    rw [hstale, ← hear_stale hg]
    exact h.hear hk hv (Or.inr (Or.inr fun hcurrent => hg (timer_mem_current.mp hcurrent).1))

/-! ## What a cancellation comes to -/

/-- A cancellation counts what is under way for the current stage. The callback is given one report at most: the first failure of what
was counted, or else the result that has come. Without either the operation retires, when everything that was counted has answered. -/
structure CancellationAccounted (R : Reporting κ ρ) (s : NetworkOperation σ κ ρ) : Prop where
  counts : s.done = false → s.cancelRequested = false →
    s.cancel.cut = some { counted := s.current } ∧ s.cancel.cancellationCompletionsPending = s.current.length
  at_most_once : s.reported.length ≤ 1
  retires : ∀ c, s.cut = some c → s.done = true → s.reported = [] → ∀ k ∈ c.counted, c.Answered k
  ends : ∀ c, s.cut = some c → (∀ k ∈ c.counted, c.Answered k) → s.done = true
  failure : ∀ c report, s.cut = some c → c.failure = some report → s.reported = [report]
  stale : ∀ g text errorCode v, (g, text) ∈ s.waits → .timer g ∉ s.current →
    (s.take (.timer g) v).timerCompleted R g text errorCode = s.take (.timer g) v
  response : ∀ c k result, s.cut = some c → k ∈ c.counted → (k, .ready result) ∈ c.answers →
    (∀ g report, .timer g ∈ c.counted → (.timer g, .failed report) ∉ c.answers) → (∀ k ∈ c.counted, c.Answered k) →
    s.reported = [R.kept result]

/-- A cut that ends in a report has been reported once. -/
theorem Inv.reported_of_ending (h : s.Inv R) {report : ρ} (he : s.ending = .reported report) :
    s.done = true ∧ s.reported = [report] := by
  have hlength := h.once
  by_cases hd : s.done = true
  · refine ⟨hd, ?_⟩
    cases hr : s.reported with
    | nil => simp [NetworkOperation.ending, hd, hr] at he
    | cons first rest =>
      simp only [NetworkOperation.ending, hd, if_true, hr, Ending.reported.injEq] at he
      rw [hr] at hlength
      have hrest : rest = [] := List.eq_nil_of_length_eq_zero (by simpa using hlength)
      rw [he, hrest]
  · simp [NetworkOperation.ending, hd] at he

/-- The accounting of a cancellation follows from the invariant. -/
theorem Inv.cancellation (h : s.Inv R) : s.CancellationAccounted R where
  counts := by
    intro hd hr
    have hcount : s.ioPending.toNat + s.timerPending.toNat = s.current.length := by
      rw [length_current, h.io_flag hd, h.timer_flag hd]
    by_cases hzero : s.current = [] <;>
      simp [NetworkOperation.cancel, hd, hr, hcount, hzero, NetworkOperation.retireCleanly]
  at_most_once := h.once
  retires := by
    intro c hc hd hreported
    have hending := (h.accounted c hc).ending
    rw [show s.ending = .retired by simp [NetworkOperation.ending, hd, hreported]] at hending
    refine Cut.remaining_eq_nil.mp ?_
    unfold Cut.ending at hending
    split at hending
    · cases hending
    · split at hending
      · assumption
      · cases hending
  ends := by
    intro c hc hall
    have hending := (h.accounted c hc).ending
    cases hd : s.done with
    | true => rfl
    | false =>
      rw [show s.ending = .waiting by simp [NetworkOperation.ending, hd]] at hending
      exact absurd (Cut.remaining_eq_nil.mpr hall) (Cut.ending_waiting.mp hending).2
  failure := by
    intro c report hc hfailure
    have hending := (h.accounted c hc).ending
    simp only [Cut.ending, hfailure] at hending
    exact (h.reported_of_ending hending.symm).2
  stale := by
    intro g text errorCode v hw hcurrent
    refine timerCompleted_stale text errorCode ?_
    intro hg
    exact hcurrent (timer_mem_current.mpr ⟨hg, text, hw⟩)
  response := by
    intro c k result hc hk hready htimers hall
    have hcounts := (h.accounted c hc).counts
    -- The result is the I/O operation's, and there is one I/O operation, which has answered once.
    obtain ⟨n, rfl⟩ : ∃ n, k = .io n := by
      cases k with
      | io n => exact ⟨n, rfl⟩
      | timer g => exact absurd hready (hcounts.timers g result)
    have hfailure : c.failure = none := by
      rw [Cut.failure_eq_none]
      intro j hj report hfailed
      cases j with
      | timer g => exact htimers g report hj hfailed
      | io m =>
        obtain rfl : n = m := hcounts.one_io n m hk hj
        cases hcounts.once _ hk _ _ hready hfailed
    have hresult : c.result = some result := by
      refine Cut.result_eq hk hready ?_
      intro j hj result' hready'
      cases j with
      | timer g => exact absurd hready' (hcounts.timers g result')
      | io m =>
        obtain rfl : n = m := hcounts.one_io n m hk hj
        cases hcounts.once _ hk _ _ hready hready'
        rfl
    have hending := (h.accounted c hc).ending
    simp only [Cut.ending, hfailure, hresult, Cut.remaining_eq_nil.mpr hall, if_true] at hending
    exact (h.reported_of_ending hending.symm).2

end NetworkOperation

end MarketDataGateway.BinanceTransport
