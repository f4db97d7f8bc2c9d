import MarketDataGateway.Runtime.Api

/-!
# Requests

The admission requests are a heap and a queue into it, the snapshot and the reset request a slot each. `RequestFacts` is what
always holds of them; `Waiting` says where the requests without a result are.
-/

namespace MarketDataGateway.MarketRuntime

variable {L : ProjectionLibrary}

def AdmissionRequest.unanswered (r : AdmissionRequest) : Bool := r.result.isNone

/-- The pending counter counts the requests without a result, and every barrier is known. -/
structure RequestFacts (admissions : List AdmissionRequest) (queue : List Nat) (snapshotRequest : Option (SnapshotRequest L))
    (resetRequest : Option ResetRequest) (pending observedPending : Nat) (known : Nat → Prop) : Prop where
  queued : ∀ i ∈ queue, i < admissions.length
  admissionTarget : ∀ r ∈ admissions, known r.target
  snapshotTarget : ∀ r, snapshotRequest = some r → known r.target
  resetTarget : ∀ r, resetRequest = some r → known r.target
  counted : pending = admissions.countP AdmissionRequest.unanswered
  observed : observedPending = pending

/-- Every admission request without a result is in the queue, or it is the one being served. -/
def Waiting (service : Option Nat) (admissions : List AdmissionRequest) (queue : List Nat) : Prop :=
  ∀ i r, admissions[i]? = some r → r.result = none → i ∈ queue ∨ service = some i

/-- An answer leaves a request its target. -/
@[simp] theorem AdmissionRequest.target_answer (result : SubscriptionAdmissionResult) (r : AdmissionRequest) :
    (r.answer result).target = r.target := by
  unfold answer; split <;> rfl

/-- A request that has been answered has a result. -/
theorem AdmissionRequest.result_answer (result : SubscriptionAdmissionResult) (r : AdmissionRequest) :
    (r.answer result).result.isSome = true := by
  unfold answer; split
  · assumption
  · rfl

/-- Answering a request that has no result takes one off the count. -/
theorem countP_answer {heap : List AdmissionRequest} {i : Nat} {r : AdmissionRequest} (h : heap[i]? = some r)
    (hr : r.result = none) (result : SubscriptionAdmissionResult) :
    (heap.modify i (·.answer result)).countP AdmissionRequest.unanswered + 1 =
      heap.countP AdmissionRequest.unanswered := by
  induction heap generalizing i with
  | nil => simp at h
  | cons x heap ih =>
    cases i with
    | zero =>
      simp only [List.getElem?_cons_zero, Option.some.injEq] at h
      subst h
      simp [AdmissionRequest.unanswered, AdmissionRequest.answer, hr]
    | succ i =>
      simp only [List.getElem?_cons_succ] at h
      have := ih h
      simp only [List.modify_succ_cons, List.countP_cons]
      omega

/-! ## Answering a whole queue -/

/-- What answering a queue leaves of each request: its target, and its result unless it had none and was in the queue. -/
theorem getElem?_answerAll {queue : List Nat} {result : SubscriptionAdmissionResult} {heap : List AdmissionRequest}
    {i : Nat} {r' : AdmissionRequest} (h : (answerAll queue result heap)[i]? = some r') :
    ∃ r, heap[i]? = some r ∧ r'.target = r.target ∧ (r'.result = none → r.result = none ∧ i ∉ queue) := by
  induction queue generalizing heap with
  | nil => exact ⟨r', h, rfl, fun hn => ⟨hn, List.not_mem_nil⟩⟩
  | cons j queue ih =>
    obtain ⟨r₁, h₁, ht, hn⟩ := ih h
    rw [List.getElem?_modify] at h₁
    cases hr : heap[i]? with
    | none => rw [hr] at h₁; split at h₁ <;> simp at h₁
    | some r =>
      rw [hr] at h₁
      by_cases hij : j = i
      · simp only [if_pos hij, Option.map_eq_map, Option.map_some, Option.some.injEq] at h₁
        subst h₁
        refine ⟨r, rfl, by simpa using ht, fun hnone => ?_⟩
        have := AdmissionRequest.result_answer result r
        rw [(hn hnone).1] at this
        cases this
      · simp only [if_neg hij, Option.map_eq_map, Option.map_some, Option.some.injEq] at h₁
        subst h₁
        refine ⟨r, rfl, ht, fun hnone => ⟨(hn hnone).1, fun hm => ?_⟩⟩
        rcases List.mem_cons.mp hm with he | hm
        · exact hij he.symm
        · exact (hn hnone).2 hm

/-- What answering one request leaves of each. -/
theorem getElem?_answer {i j : Nat} {result : SubscriptionAdmissionResult} {heap : List AdmissionRequest}
    {r' : AdmissionRequest} (h : (heap.modify i (·.answer result))[j]? = some r') :
    ∃ r, heap[j]? = some r ∧ r'.target = r.target ∧ (r'.result = none → r.result = none ∧ j ∉ [i]) :=
  getElem?_answerAll (show (answerAll [i] result heap)[j]? = some r' from h)

/-! ## What the steps keep -/

variable {admissions : List AdmissionRequest} {queue : List Nat} {snapshotRequest : Option (SnapshotRequest L)}
  {resetRequest : Option ResetRequest} {pending observedPending : Nat} {known : Nat → Prop} {service : Option Nat}

/-- Once the whole queue is answered and nothing is being served, every request has a result. -/
theorem Waiting.answerAll (h : Waiting none admissions queue) (result : SubscriptionAdmissionResult) :
    ∀ r ∈ answerAll queue result admissions, r.result.isSome = true := by
  intro r hr
  obtain ⟨i, hi⟩ := List.mem_iff_getElem?.mp hr
  obtain ⟨r₀, h₀, -, hn⟩ := getElem?_answerAll hi
  cases hres : r.result with
  | some _ => rfl
  | none =>
    obtain ⟨hr₀, hq⟩ := hn hres
    rcases h i r₀ h₀ hr₀ with hq' | hs
    · exact absurd hq' hq
    · cases hs

/-- Where all are answered nobody is pending. -/
theorem countP_eq_zero_of_answered (h : ∀ r ∈ admissions, r.result.isSome = true) :
    admissions.countP AdmissionRequest.unanswered = 0 := by
  rw [List.countP_eq_zero]
  intro r hr
  have := h r hr
  cases hres : r.result <;> simp_all [AdmissionRequest.unanswered]

/-- Where all are answered nobody waits. -/
theorem Waiting.of_answered (h : ∀ r ∈ admissions, r.result.isSome = true) (queue : List Nat) :
    Waiting none admissions queue := by
  intro i r hi hr
  have := h r (List.mem_of_getElem? hi)
  rw [hr] at this
  cases this

/-- A snapshot request keeps the first result it gets. -/
def SnapshotRequest.answer (result : SnapshotResult L) (r : SnapshotRequest L) : SnapshotRequest L :=
  if r.result.isSome then r else { r with result := some result }

/-- An answer leaves a snapshot request its target. -/
@[simp] theorem SnapshotRequest.target_answer (result : SnapshotResult L) (r : SnapshotRequest L) :
    (r.answer result).target = r.target := by
  unfold answer; split <;> rfl

/-- An answered snapshot request has its result. -/
theorem SnapshotRequest.result_answer (result : SnapshotResult L) (r : SnapshotRequest L) :
    (r.answer result).result.isSome = true := by
  unfold answer; split
  · assumption
  · rfl

/-- A reset request keeps the first result it gets. -/
def ResetRequest.answer (result : RebootstrapResetResult) (r : ResetRequest) : ResetRequest :=
  if r.result.isSome then r else { r with result := some result }

/-- An answer leaves a reset request its target. -/
@[simp] theorem ResetRequest.target_answer (result : RebootstrapResetResult) (r : ResetRequest) :
    (r.answer result).target = r.target := by
  unfold answer; split <;> rfl

/-- An answered reset request has its result. -/
theorem ResetRequest.result_answer (result : RebootstrapResetResult) (r : ResetRequest) :
    (r.answer result).result.isSome = true := by
  unfold answer; split
  · assumption
  · rfl

/-- Answering resets answers the request that is there. -/
theorem Impl.answerResetLocked_eq (result : RebootstrapResetResult) (s : Impl L) :
    s.answerResetLocked result = { s with mail.resetRequest := s.mail.resetRequest.map (·.answer result) } := by
  unfold answerResetLocked
  split
  · rename_i hslot; rw [hslot]; rfl
  · rename_i hslot
    have : s.mail.resetRequest.map (·.answer result) = s.mail.resetRequest := by
      cases hr : s.mail.resetRequest with
      | none => rfl
      | some r =>
        obtain ⟨target, kind, _ | result⟩ := r
        · exact absurd hr (hslot target kind)
        · rfl
    rw [this]

/-- Answering snapshots answers the request that is there. -/
theorem Impl.answerSnapshotLocked_eq (error : SnapshotRequestError) (s : Impl L) :
    s.answerSnapshotLocked error =
      { s with mail.snapshotRequest := s.mail.snapshotRequest.map (·.answer (.error error)) } := by
  unfold answerSnapshotLocked
  split
  · rename_i hslot; rw [hslot]; rfl
  · rename_i hslot
    have : s.mail.snapshotRequest.map (·.answer (.error error)) = s.mail.snapshotRequest := by
      cases hr : s.mail.snapshotRequest with
      | none => rfl
      | some r =>
        obtain ⟨target, _ | result⟩ := r
        · exact absurd hr (hslot target)
        · rfl
    rw [this]

namespace RequestFacts

/-- What is known of every barrier stays known when it follows from what was. -/
theorem mono (h : RequestFacts admissions queue snapshotRequest resetRequest pending observedPending known) {known' : Nat → Prop}
    (hk : ∀ target, known target → known' target) :
    RequestFacts admissions queue snapshotRequest resetRequest pending observedPending known' :=
  ⟨h.queued, fun r hr => hk _ (h.admissionTarget r hr), fun r hr => hk _ (h.snapshotTarget r hr),
    fun r hr => hk _ (h.resetTarget r hr), h.counted, h.observed⟩

/-- The facts about the requests survive an answer to the snapshot. -/
theorem answerSnapshot
    (h : RequestFacts admissions queue snapshotRequest resetRequest pending observedPending known) (result : SnapshotResult L) :
    RequestFacts admissions queue (snapshotRequest.map (·.answer result)) resetRequest pending observedPending known :=
  { h with
    snapshotTarget := fun r hr => by
      obtain ⟨r₀, h₀, rfl⟩ := Option.map_eq_some_iff.mp hr
      rw [SnapshotRequest.target_answer]
      exact h.snapshotTarget r₀ h₀ }

/-- The whole queue is answered. -/
theorem all (h : RequestFacts admissions queue snapshotRequest resetRequest pending observedPending known)
    (hw : Waiting none admissions queue) (result : SubscriptionAdmissionResult) :
    RequestFacts (answerAll queue result admissions) [] snapshotRequest resetRequest 0 0 known where
  queued i hi := absurd hi List.not_mem_nil
  admissionTarget r hr := by
    obtain ⟨i, hi⟩ := List.mem_iff_getElem?.mp hr
    obtain ⟨r₀, h₀, ht, -⟩ := getElem?_answerAll hi
    exact ht ▸ h.admissionTarget r₀ (List.mem_of_getElem? h₀)
  snapshotTarget := h.snapshotTarget
  resetTarget := h.resetTarget
  counted := (countP_eq_zero_of_answered (hw.answerAll result)).symm
  observed := rfl

/-- One request is answered. -/
theorem one (h : RequestFacts admissions queue snapshotRequest resetRequest pending observedPending known) {i : Nat}
    {r : AdmissionRequest} (hi : admissions[i]? = some r) (hr : r.result = none) (result : SubscriptionAdmissionResult) :
    RequestFacts (admissions.modify i (·.answer result)) queue snapshotRequest resetRequest (pending - 1) (pending - 1)
      known where
  queued j hj := by rw [List.length_modify]; exact h.queued j hj
  admissionTarget r' hr' := by
    obtain ⟨j, hj⟩ := List.mem_iff_getElem?.mp hr'
    obtain ⟨r₀, h₀, ht, -⟩ := getElem?_answer hj
    exact ht ▸ h.admissionTarget r₀ (List.mem_of_getElem? h₀)
  snapshotTarget := h.snapshotTarget
  resetTarget := h.resetTarget
  counted := by
    have := countP_answer hi hr result
    have := h.counted
    omega
  observed := rfl

/-- A new request is queued. -/
theorem push (h : RequestFacts admissions queue snapshotRequest resetRequest pending observedPending known)
    (r : AdmissionRequest) (ht : known r.target) (hr : r.result = none) :
    RequestFacts (admissions ++ [r]) (queue ++ [admissions.length]) snapshotRequest resetRequest (pending + 1) (pending + 1)
      known where
  queued i hi := by
    rw [List.length_append, List.length_singleton]
    rcases List.mem_append.mp hi with hi | hi
    · exact Nat.lt_succ_of_lt (h.queued i hi)
    · rw [List.mem_singleton.mp hi]; exact Nat.lt_succ_self _
  admissionTarget r' hr' := by
    rcases List.mem_append.mp hr' with hr' | hr'
    · exact h.admissionTarget r' hr'
    · exact List.mem_singleton.mp hr' ▸ ht
  snapshotTarget := h.snapshotTarget
  resetTarget := h.resetTarget
  counted := by
    rw [List.countP_append, ← h.counted]
    simp [AdmissionRequest.unanswered, hr]
  observed := rfl

end RequestFacts

/-- Answering the request being served leaves the waiting ones in the queue. -/
theorem Waiting.one (h : Waiting service admissions queue) (i : Nat) (result : SubscriptionAdmissionResult) :
    Waiting service (admissions.modify i (·.answer result)) queue := by
  intro j r hj hr
  obtain ⟨r₀, h₀, -, hn⟩ := getElem?_answer hj
  exact h j r₀ h₀ (hn hr).1

/-- Once the request being served has its result, all that wait are in the queue. -/
theorem Waiting.served {i : Nat} (h : Waiting (some i) admissions queue)
    (hi : ∀ r, admissions[i]? = some r → r.result ≠ none) : Waiting none admissions queue := by
  intro j r hj hr
  rcases h j r hj hr with hq | hs
  · exact Or.inl hq
  · cases hs; exact absurd hr (hi r hj)

/-- A new request waits at the end of the queue. -/
theorem Waiting.push (h : Waiting service admissions queue) (r : AdmissionRequest) :
    Waiting service (admissions ++ [r]) (queue ++ [admissions.length]) := by
  intro i r' hi hr
  by_cases hl : i < admissions.length
  · rw [List.getElem?_append_left hl] at hi
    exact (h i r' hi hr).imp_left (List.mem_append_left _)
  · have hle : i < (admissions ++ [r]).length := (List.getElem?_eq_some_iff.mp hi).1
    rw [List.length_append, List.length_singleton] at hle
    exact Or.inl (List.mem_append_right _ (List.mem_singleton.mpr (by omega)))

/-- The front of the queue goes into service. -/
theorem Waiting.take {front : Nat} {rest : List Nat} (h : Waiting none admissions (front :: rest)) :
    Waiting (some front) admissions rest := by
  intro i r hi hr
  rcases h i r hi hr with hq | hs
  · rcases List.mem_cons.mp hq with he | hq
    · exact Or.inr (he ▸ rfl)
    · exact Or.inl hq
  · cases hs

end MarketDataGateway.MarketRuntime
