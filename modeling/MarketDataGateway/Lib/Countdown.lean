import Mathlib.Data.List.Basic
import Mathlib.Data.List.Nodup

/-!
# Counting down to the end of an operation

An operation that is cut off while parts of it are under way waits for these parts. Each of them answers once. The first answer that has
failed ends the operation with its report. Otherwise the last answer ends it, with the result that an answer has brought, or with none.

Nothing here is about one system: the parts, the results and the reports are parameters.
-/

namespace Countdown

/-- What an answer says: the part has ended well, it has brought a result, or it has failed. -/
inductive Verdict (κ ρ : Type) where
  | clean
  | ready (result : κ)
  | failed (report : ρ)

variable {ι κ ρ : Type}

def Verdict.result : Verdict κ ρ → Option κ
  | .ready k => some k
  | _ => none

def Verdict.failure : Verdict κ ρ → Option ρ
  | .failed r => some r
  | _ => none

/-- The parts that were counted, and every answer since the cut, oldest first. A part that was not counted may answer too. -/
structure Cut (ι κ ρ : Type) where
  counted : List ι
  answers : List (ι × Verdict κ ρ) := []

/-- Whether an operation still waits, and what it has ended with. -/
inductive Ending (ρ : Type) where
  | waiting
  | retired
  | reported (report : ρ)

namespace Cut

variable [DecidableEq ι]

def Answered (c : Cut ι κ ρ) (i : ι) : Prop := ∃ v, (i, v) ∈ c.answers

/-- What the counted parts have said. -/
def heard (c : Cut ι κ ρ) : List (Verdict κ ρ) := (c.answers.filter fun a => a.1 ∈ c.counted).map Prod.snd

/-- The first failure. -/
def failure (c : Cut ι κ ρ) : Option ρ := c.heard.findSome? Verdict.failure

/-- The latest result. -/
def result (c : Cut ι κ ρ) : Option κ := (c.heard.filterMap Verdict.result).getLast?

/-- The counted parts that have not answered. -/
def remaining (c : Cut ι κ ρ) : List ι := c.counted.filter fun i => i ∉ c.answers.map Prod.fst

/-- Each counted part answers once. -/
def Once (c : Cut ι κ ρ) : Prop := ∀ i ∈ c.counted, ∀ v w, (i, v) ∈ c.answers → (i, w) ∈ c.answers → v = w

def answer (i : ι) (v : Verdict κ ρ) (c : Cut ι κ ρ) : Cut ι κ ρ := { c with answers := c.answers ++ [(i, v)] }

/-- How an operation stands after its answers. -/
def ending (report : κ → ρ) (c : Cut ι κ ρ) : Ending ρ :=
  match c.failure with
  | some r => .reported r
  | none =>
    if c.remaining = [] then
      match c.result with
      | some k => .reported (report k)
      | none => .retired
    else .waiting

variable {c : Cut ι κ ρ} {i : ι} {v : Verdict κ ρ} {report : κ → ρ}

/-! ## The counted parts -/

/-- What remains is what was counted and has not answered. -/
theorem mem_remaining : i ∈ c.remaining ↔ i ∈ c.counted ∧ ¬c.Answered i := by
  simp [remaining, Answered]

/-- Nothing remains when all that were counted have answered. -/
theorem remaining_eq_nil : c.remaining = [] ↔ ∀ i ∈ c.counted, c.Answered i := by
  rw [List.eq_nil_iff_forall_not_mem]
  constructor
  · intro h i hi
    by_contra ha
    exact h i (mem_remaining.mpr ⟨hi, ha⟩)
  · intro h i hi
    obtain ⟨hc, ha⟩ := mem_remaining.mp hi
    exact ha (h i hc)

omit [DecidableEq ι] in
/-- An answer makes its sender answered and nobody else. -/
theorem answered_answer {j : ι} : (c.answer i v).Answered j ↔ c.Answered j ∨ j = i := by
  constructor
  · rintro ⟨w, hw⟩
    rcases List.mem_append.mp hw with hw | hw
    · exact Or.inl ⟨w, hw⟩
    · exact Or.inr (congrArg Prod.fst (List.mem_singleton.mp hw))
  · rintro (⟨w, hw⟩ | rfl)
    · exact ⟨w, List.mem_append_left _ hw⟩
    · exact ⟨v, List.mem_append_right _ List.mem_cons_self⟩

omit [DecidableEq ι] in
/-- A first answer keeps each answer single. -/
theorem Once.answer (h : c.Once) (hi : i ∈ c.counted → ¬c.Answered i) : (c.answer i v).Once := by
  intro j hj w w' hw hw'
  simp only [Cut.answer, List.mem_append, List.mem_singleton, Prod.mk.injEq] at hw hw'
  rcases hw with hw | ⟨rfl, rfl⟩
  · rcases hw' with hw' | ⟨rfl, rfl⟩
    · exact h j hj w w' hw hw'
    · exact absurd ⟨w, hw⟩ (hi hj)
  · rcases hw' with hw' | ⟨-, rfl⟩
    · exact absurd ⟨w', hw'⟩ (hi hj)
    · rfl

/-- An answer strikes its sender off what remains. -/
theorem remaining_answer : (c.answer i v).remaining = c.remaining.filter (· ≠ i) := by
  rw [remaining, remaining, List.filter_filter]
  refine List.filter_congr ?_
  intro j _
  rw [Bool.eq_iff_iff, decide_eq_true_iff]
  simp [answer, and_comm]

/-- An answer counts one part down. -/
theorem length_remaining_answer (hn : c.counted.Nodup) (hi : i ∈ c.remaining) :
    (c.answer i v).remaining.length + 1 = c.remaining.length := by
  have hnodup : c.remaining.Nodup := hn.filter _
  have herase : c.remaining.filter (· ≠ i) = c.remaining.erase i := by
    rw [hnodup.erase_eq_filter]
    exact List.filter_congr fun j _ => by rw [Bool.eq_iff_iff]; simp
  rw [remaining_answer, herase, List.length_erase_of_mem hi]
  have hpos := List.length_pos_of_mem hi
  omega

/-! ## What the answers say -/

/-- At the cut nothing has answered. -/
@[simp] theorem remaining_new (counted : List ι) : ({ counted } : Cut ι κ ρ).remaining = counted := by
  simp [remaining]

omit [DecidableEq ι] in
/-- At the start nobody has answered. -/
@[simp] theorem answered_new (counted : List ι) : ¬({ counted } : Cut ι κ ρ).Answered i := by
  rintro ⟨v, hv⟩
  cases hv

/-- At the start the cut waits, unless there is nobody to wait for. -/
theorem ending_new (counted : List ι) :
    ({ counted } : Cut ι κ ρ).ending report = if counted = [] then .retired else .waiting := by
  have hfailure : ({ counted } : Cut ι κ ρ).failure = none := rfl
  have hresult : ({ counted } : Cut ι κ ρ).result = none := rfl
  simp only [ending, hfailure, hresult, remaining_new]

/-- What was heard came from somebody who was counted. -/
theorem mem_heard : v ∈ c.heard ↔ ∃ i ∈ c.counted, (i, v) ∈ c.answers := by
  simp [heard, and_comm]

/-- There is no failure as long as nobody counted has reported one. -/
theorem failure_eq_none : c.failure = none ↔ ∀ i ∈ c.counted, ∀ r, (i, .failed r) ∉ c.answers := by
  rw [failure, List.findSome?_eq_none_iff]
  constructor
  · intro h i hi r hr
    have hnone := h _ (mem_heard.mpr ⟨i, hi, hr⟩)
    cases hnone
  · intro h v hv
    obtain ⟨i, hi, ha⟩ := mem_heard.mp hv
    cases v with
    | clean => rfl
    | ready => rfl
    | failed r => exact absurd ha (h i hi r)

/-- The result that the only part with one has brought. -/
theorem result_eq {result : κ} (hi : i ∈ c.counted) (ha : (i, .ready result) ∈ c.answers)
    (honly : ∀ j ∈ c.counted, ∀ result', (j, .ready result') ∈ c.answers → result' = result) : c.result = some result := by
  have hmem : result ∈ c.heard.filterMap Verdict.result :=
    List.mem_filterMap.mpr ⟨_, mem_heard.mpr ⟨i, hi, ha⟩, rfl⟩
  cases hlast : c.result with
  | none =>
    rw [Cut.result, List.getLast?_eq_none_iff] at hlast
    rw [hlast] at hmem
    cases hmem
  | some result' =>
    obtain ⟨v, hv, hresult⟩ := List.mem_filterMap.mp (List.mem_of_getLast? hlast)
    obtain ⟨j, hj, hanswer⟩ := mem_heard.mp hv
    cases v with
    | clean => cases hresult
    | failed => cases hresult
    | ready k =>
      cases hresult
      rw [honly j hj _ hanswer]

/-- The answer of somebody counted is heard behind the others. -/
theorem heard_answer_counted (hi : i ∈ c.counted) : (c.answer i v).heard = c.heard ++ [v] := by
  have hstays : (c.answers.filter fun a => a.1 ∈ (c.answer i v).counted).map Prod.snd = c.heard := rfl
  rw [heard, show (c.answer i v).answers = c.answers ++ [(i, v)] from rfl, List.filter_append, List.map_append, hstays]
  simp [answer, hi]

/-- The answer of somebody not counted is not heard. -/
theorem heard_answer_uncounted (hi : i ∉ c.counted) : (c.answer i v).heard = c.heard := by
  have hstays : (c.answers.filter fun a => a.1 ∈ (c.answer i v).counted).map Prod.snd = c.heard := rfl
  rw [heard, show (c.answer i v).answers = c.answers ++ [(i, v)] from rfl, List.filter_append, List.map_append, hstays]
  simp [answer, hi]

/-- The first failure stays, whatever is answered behind it. -/
theorem failure_answer (hi : i ∈ c.counted) : (c.answer i v).failure = c.failure.or v.failure := by
  rw [failure, heard_answer_counted hi, List.findSome?_append]
  cases hv : v.failure <;> simp [failure, hv]

/-- The last result stands. -/
theorem result_answer (hi : i ∈ c.counted) : (c.answer i v).result = v.result.or c.result := by
  rw [result, heard_answer_counted hi, List.filterMap_append, List.getLast?_append]
  cases v <;> simp [result, Verdict.result]

/-- An answer of somebody not counted strikes off nobody. -/
theorem remaining_answer_uncounted (hi : i ∉ c.counted) : (c.answer i v).remaining = c.remaining := by
  rw [remaining_answer, List.filter_eq_self]
  intro j hj
  have hne : j ≠ i := fun h => hi (h ▸ (mem_remaining.mp hj).1)
  simpa using hne

/-- An answer of somebody not counted changes no result. -/
theorem result_answer_uncounted (hi : i ∉ c.counted) : (c.answer i v).result = c.result := by
  simp only [result, heard_answer_uncounted hi]

/-- The answer of a part that was not counted changes nothing. -/
theorem ending_answer_uncounted (hi : i ∉ c.counted) : (c.answer i v).ending report = c.ending report := by
  simp only [ending, failure, result, heard_answer_uncounted hi, remaining_answer_uncounted hi]

/-- An operation that has ended stays as it is, because each part answers once. -/
theorem ending_answer_ended (he : c.ending report ≠ .waiting) (hi : i ∈ c.counted → i ∈ c.remaining) :
    (c.answer i v).ending report = c.ending report := by
  by_cases hc : i ∈ c.counted
  · cases hf : c.failure with
    | some r => simp only [ending, failure_answer hc, hf, Option.some_or]
    | none =>
      have hremaining : c.remaining ≠ [] := List.ne_nil_of_mem (hi hc)
      exact absurd (by simp [ending, hf, hremaining]) he
  · exact ending_answer_uncounted hc

/-- The cut waits while nobody has failed and somebody remains. -/
theorem ending_waiting : c.ending report = .waiting ↔ c.failure = none ∧ c.remaining ≠ [] := by
  unfold ending
  cases hf : c.failure with
  | some r => simp
  | none =>
    by_cases hr : c.remaining = []
    · cases hk : c.result <;> simp [hr]
    · simp [hr]

end Cut

end Countdown
