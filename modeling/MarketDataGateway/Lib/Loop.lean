import MarketDataGateway.Lib.Program

/-!
# A thread that runs one body again and again

The body's value says whether the thread goes round once more. The loop's invariant is split by where the thread is: at the head,
in the middle of a round, or gone. `LoopInv.step` is the induction step of every fact about a run of such a thread.
-/

namespace Threads

variable {σ ω : Type}

/-- Where a looping thread is. -/
inductive Phase (σ ω : Type) where
  | head
  | running (p : Program σ ω Bool)
  | exited

/-- One move of a looping thread or of its environment. -/
inductive LoopStep (env : σ → σ → Prop) (body : Program σ ω Bool) : Phase σ ω → σ → Phase σ ω → σ → Prop where
  | env {ph : Phase σ ω} {s t : σ} (h : env s t) : LoopStep env body ph s ph t
  | enter {s t : σ} {p : Program σ ω Bool} (h : Program.Step body s p t) : LoopStep env body .head s (.running p) t
  | run {s t : σ} {p p' : Program σ ω Bool} (h : Program.Step p s p' t) :
      LoopStep env body (.running p) s (.running p') t
  | again {s : σ} : LoopStep env body (.running (.done true)) s .head s
  | leave {s : σ} : LoopStep env body (.running (.done false)) s .exited s

/-- A step of a loop is one under a larger environment too. -/
theorem LoopStep.mono {env env' : σ → σ → Prop} {body : Program σ ω Bool} {ph ph' : Phase σ ω} {s t : σ}
    (h : LoopStep env body ph s ph' t) (he : env s t → env' s t) : LoopStep env' body ph s ph' t := by
  cases h with
  | env h => exact .env (he h)
  | enter h => exact .enter h
  | run h => exact .run h
  | again => exact .again
  | leave => exact .leave

/-- What holds when a round is over: the head's assertion when another round follows, the exit's when none does. -/
def afterRound (H X : σ → Prop) (again : Bool) (s : σ) : Prop := if again then H s else X s

@[simp] theorem afterRound_true (H X : σ → Prop) (s : σ) : afterRound H X true s = H s := rfl

@[simp] theorem afterRound_false (H X : σ → Prop) (s : σ) : afterRound H X false s = X s := rfl

/-- The invariant of a looping thread: `H` at the head, `X` once the loop has been left. -/
def LoopInv (E : Rely σ) (H X : σ → Prop) : Phase σ ω → σ → Prop
  | .head, s => E.inv s ∧ H s
  | .running p, s => Safe E (afterRound H X) p s
  | .exited, s => E.inv s ∧ X s

namespace LoopInv

variable {E : Rely σ} {H X : σ → Prop}

/-- The invariant holds wherever the loop stands. -/
theorem inv {ph : Phase σ ω} {s : σ} (h : LoopInv E H X ph s) : E.inv s := by
  cases ph with
  | head => exact h.1
  | running p => exact Safe.inv h
  | exited => exact h.1

/-- A move of the thread or of its environment keeps the invariant, when a round from the head is a triple. -/
theorem step {body : Program σ ω Bool} (hH : E.Stable H) (hX : E.Stable X)
    (hbody : Triple E H body (afterRound H X)) {ph ph' : Phase σ ω} {s t : σ} (h : LoopInv E H X ph s)
    (hs : LoopStep E.env body ph s ph' t) : LoopInv E H X ph' t := by
  cases hs with
  | env he =>
    cases ph with
    | head => exact ⟨E.inv_env _ _ h.1 he, hH _ _ h.1 h.2 he⟩
    | running p => exact Safe.env h he
    | exited => exact ⟨E.inv_env _ _ h.1 he, hX _ _ h.1 h.2 he⟩
  | enter hp => exact (hbody s h.1 h.2).step hp
  | run hp => exact Safe.step h hp
  | again =>
    have hd : Safe E (afterRound H X) (.done true : Program σ ω Bool) s := h
    exact ⟨hd.inv, hd.post⟩
  | leave =>
    have hd : Safe E (afterRound H X) (.done false : Program σ ω Bool) s := h
    exact ⟨hd.inv, hd.post⟩

end LoopInv

/-! ## What every section guarantees -/

/-- Every section of the round that is under way moves the state as `G` allows. -/
def PhaseAll (G : σ → σ → Prop) : Phase σ ω → Prop
  | .running p => p.All G
  | .head | .exited => True

/-- A move of the system is a move of the environment, one that the body's guarantee allows, or none of the state. -/
theorem LoopStep.guarantee {env G : σ → σ → Prop} {body : Program σ ω Bool} (hb : body.All G) {ph ph' : Phase σ ω}
    {s t : σ} (hp : PhaseAll G ph) (h : LoopStep env body ph s ph' t) :
    (env s t ∨ G s t ∨ t = s) ∧ PhaseAll G ph' := by
  cases h with
  | env he => exact ⟨Or.inl he, hp⟩
  | enter hs => exact ⟨Or.inr (Or.inl (hb.of_step hs).1), (hb.of_step hs).2⟩
  | run hs => exact ⟨Or.inr (Or.inl (Program.All.of_step hp hs).1), (Program.All.of_step hp hs).2⟩
  | again => exact ⟨Or.inr (Or.inr rfl), trivial⟩
  | leave => exact ⟨Or.inr (Or.inr rfl), trivial⟩

/-! ## Running a thread -/

namespace Phase

/-- One section of the thread with the outcome `w`; a thread that waits or is gone stays as it is. -/
def advance (body : Program σ ω Bool) (w : ω) : Phase σ ω × σ → Phase σ ω × σ
  | (.head, s) =>
    match body with
    | .sect g u n => if g s then (.running (n w s), u w s) else (.head, s)
    | .done _ => (.head, s)
  | (.running (.sect g u n), s) => if g s then (.running (n w s), u w s) else (.running (.sect g u n), s)
  | (.running (.done true), s) => (.head, s)
  | (.running (.done false), s) => (.exited, s)
  | (.exited, s) => (.exited, s)

/-- `n` sections, each with the same outcome. -/
def advances (body : Program σ ω Bool) (w : ω) : Nat → Phase σ ω × σ → Phase σ ω × σ
  | 0, p => p
  | n + 1, p => advances body w n (advance body w p)

/-- Sections with one outcome until the thread is back at the head, `n` at the most. -/
def round (body : Program σ ω Bool) (w : ω) : Nat → Phase σ ω × σ → Phase σ ω × σ
  | 0, p => p
  | n + 1, p =>
    match advance body w p with
    | (.head, s) => (.head, s)
    | q => round body w n q

/-- An advance is a step of the loop, or none. -/
theorem advance_step (env : σ → σ → Prop) (body : Program σ ω Bool) (w : ω) (p : Phase σ ω × σ) :
    LoopStep env body p.1 p.2 (advance body w p).1 (advance body w p).2 ∨ advance body w p = p := by
  obtain ⟨ph, s⟩ := p
  cases ph with
  | head =>
    cases body with
    | done b => exact Or.inr rfl
    | sect g u n =>
      simp only [advance]
      split
      · rename_i hg; exact Or.inl (.enter (.sect w hg))
      · exact Or.inr rfl
  | running p =>
    cases p with
    | done b =>
      cases b
      · exact Or.inl .leave
      · exact Or.inl .again
    | sect g u n =>
      simp only [advance]
      split
      · rename_i hg; exact Or.inl (.run (.sect w hg))
      · exact Or.inr rfl
  | exited => exact Or.inr rfl

/-- What every section of a thread keeps holds still after a round. -/
theorem round_induction {env : σ → σ → Prop} {body : Program σ ω Bool} {R : Phase σ ω → σ → Prop}
    (hR : ∀ ph s ph' s', R ph s → LoopStep env body ph s ph' s' → R ph' s') (w : ω) (n : Nat) {p : Phase σ ω × σ}
    (h : R p.1 p.2) : R (round body w n p).1 (round body w n p).2 := by
  induction n generalizing p with
  | zero => exact h
  | succ n ih =>
    have hadvance : R (advance body w p).1 (advance body w p).2 := by
      rcases advance_step env body w p with hs | he
      · exact hR _ _ _ _ h hs
      · rw [he]; exact h
    unfold round
    split
    · rename_i s he
      rw [he] at hadvance
      exact hadvance
    · exact ih hadvance

end Phase

end Threads
