import MarketDataGateway.Lib.Loop

/-!
# What a thread does next

An invariant of a thread may speak of the section that the thread has before it: a state in which something is left undone is then
one in which the thread is about to do it. `Along` says so of every interleaving of a program with its environment, and `Runs` has
the interleavings of a program that is not a loop.
-/

namespace Threads

open Relation

variable {σ ω α β : Type}

/-- `I` holds all along of the update that comes next and of the state it will find, and `Q` at the end. -/
def Along (env : σ → σ → Prop) (I : (ω → σ → σ) → σ → Prop) (Q : α → σ → Prop) : Program σ ω α → σ → Prop
  | .done a, s => ∀ t, ReflTransGen env s t → Q a t
  | .sect g u n, s => ∀ t, ReflTransGen env s t → I u t ∧ (g t = true → ∀ w, Along env I Q (n w t) (u w t))

namespace Along

variable {R : σ → σ → Prop} {I : (ω → σ → σ) → σ → Prop} {Q : α → σ → Prop} {F : σ → Prop}

/-- A step of the environment keeps what holds along the rest of a program. -/
theorem env {p : Program σ ω α} {s t : σ} (h : Along R I Q p s) (he : R s t) : Along R I Q p t := by
  cases p with
  | done a => exact fun r hr => h r (.head he hr)
  | sect g u n => exact fun r hr => h r (.head he hr)

/-- A step of the program keeps what holds along the rest of it. -/
theorem step {p p' : Program σ ω α} {s t : σ} (h : Along R I Q p s) (hs : Program.Step p s p' t) : Along R I Q p' t := by
  cases hs with
  | sect w hg => exact (h s .refl).2 hg w

/-- A sequence keeps an assertion along both of its halves. -/
theorem bind {p : Program σ ω α} {k : α → Program σ ω β} {Q' : β → σ → Prop} {s : σ} (h : Along R I Q p s)
    (hk : ∀ a t, Q a t → Along R I Q' (k a) t) : Along R I Q' (p.bind k) s := by
  induction p generalizing s with
  | done a => exact hk a s (h s .refl)
  | sect g u n ih => exact fun t ht => ⟨(h t ht).1, fun hg w => ih w t ((h t ht).2 hg w)⟩

/-- The assertion at the end may be weakened. -/
theorem mono {Q' : α → σ → Prop} {p : Program σ ω α} {s : σ} (h : Along R I Q p s) (hQ : ∀ a t, Q a t → Q' a t) :
    Along R I Q' p s := by
  induction p generalizing s with
  | done a => exact fun t ht => hQ a t (h t ht)
  | sect g u n ih => exact fun t ht => ⟨(h t ht).1, fun hg w => ih w t ((h t ht).2 hg w)⟩

/-- What each step of the environment keeps any number of them keeps. -/
theorem star (hF : ∀ s t, F s → R s t → F t) {s t : σ} (hs : F s) (h : ReflTransGen R s t) : F t := by
  induction h with
  | refl => exact hs
  | tail _ he ih => exact hF _ _ ih he

/-- A program that has returned leaves only the environment, which keeps the assertion. -/
theorem done (hF : ∀ s t, F s → R s t → F t) {a : α} {s : σ} (hs : F s) :
    Along R I (fun _ => F) (.done a : Program σ ω α) s :=
  fun _ ht => star hF hs ht

/-- A section that neither has anything left undone before it nor leaves anything behind. -/
theorem atomic {f : ω → σ → α × σ} {s : σ} (hF : ∀ s t, F s → R s t → F t) (hI : ∀ u t, F t → I u t)
    (hQ : ∀ a s t, Q a s → R s t → Q a t) (hf : ∀ w t, F t → Q (f w t).1 (f w t).2) (hs : F s) :
    Along R I Q (Program.atomic f) s := by
  intro t ht
  have hFt : F t := star hF hs ht
  refine ⟨hI _ t hFt, fun _ w r hr => ?_⟩
  induction hr with
  | refl => exact hf w t hFt
  | tail _ he ih => exact hQ _ _ _ ih he

/-- A program whose sections, and the environment's moves, all keep an assertion keeps it. -/
theorem of_all {G : σ → σ → Prop} {p : Program σ ω α} (hp : p.All G) (hF : ∀ s t, F s → R s t → F t)
    (hI : ∀ u t, F t → I u t) (hG : ∀ s t, G s t → F s → F t) {s : σ} (hs : F s) : Along R I (fun _ => F) p s := by
  induction p generalizing s with
  | done a => exact done hF hs
  | sect g u n ih =>
    intro t ht
    have hFt : F t := star hF hs ht
    exact ⟨hI u t hFt, fun hg w => ih w t (hp w t hg).2 (hG _ _ (hp w t hg).1 hFt)⟩

end Along

/-- What holds of a looping thread: `H` at the head, `I` of the section it has before it in the middle of a round, `X` once it has
left the loop. -/
def AlongPhase (env : σ → σ → Prop) (I : (ω → σ → σ) → σ → Prop) (H X : σ → Prop) : Phase σ ω → σ → Prop
  | .head, s => H s
  | .running p, s => Along env I (afterRound H X) p s
  | .exited, s => X s

/-- A move of the thread or of its environment keeps what holds all along, when it holds of a round from its first section on. -/
theorem AlongPhase.step {env : σ → σ → Prop} {I : (ω → σ → σ) → σ → Prop} {H X : σ → Prop} {body : Program σ ω Bool}
    (hH : ∀ s t, H s → env s t → H t) (hX : ∀ s t, X s → env s t → X t)
    (hbody : ∀ s p t, H s → Program.Step body s p t → Along env I (afterRound H X) p t) {ph ph' : Phase σ ω} {s t : σ}
    (h : AlongPhase env I H X ph s) (hs : LoopStep env body ph s ph' t) : AlongPhase env I H X ph' t := by
  cases hs with
  | env he =>
    cases ph with
    | head => exact hH _ _ h he
    | running p => exact Along.env h he
    | exited => exact hX _ _ h he
  | enter hp => exact hbody s _ _ h hp
  | run hp => exact Along.step h hp
  | again => exact (h : Along env I (afterRound H X) (.done true : Program σ ω Bool) s) s .refl
  | leave => exact (h : Along env I (afterRound H X) (.done false : Program σ ω Bool) s) s .refl

/-! ## A program that is run once -/

/-- An interleaving of a program with its environment, from a configuration to another. -/
inductive Runs (env : σ → σ → Prop) : Program σ ω α → σ → Program σ ω α → σ → Prop where
  | refl {p : Program σ ω α} {s : σ} : Runs env p s p s
  | env {p q : Program σ ω α} {s t r : σ} (h : Runs env p s q t) (he : env t r) : Runs env p s q r
  | step {p q q' : Program σ ω α} {s t r : σ} (h : Runs env p s q t) (hs : Program.Step q t q' r) : Runs env p s q' r

/-- `n` sections of a program, each with the same outcome; a program that waits or is done stays as it is. -/
def Program.advances (w : ω) : Nat → Program σ ω α × σ → Program σ ω α × σ
  | 0, p => p
  | _ + 1, (.done a, s) => (.done a, s)
  | n + 1, (.sect g u next, s) => if g s then advances w n (next w s, u w s) else (.sect g u next, s)

/-- Letting a program advance by itself is a run. -/
theorem runs_advances {env : σ → σ → Prop} (w : ω) (n : Nat) {p q : Program σ ω α} {s t : σ} (h : Runs env p s q t) :
    Runs env p s (Program.advances w n (q, t)).1 (Program.advances w n (q, t)).2 := by
  induction n generalizing q t with
  | zero => exact h
  | succ n ih =>
    cases q with
    | done a => exact h
    | sect g u next =>
      unfold Program.advances
      split
      · rename_i hg
        exact ih (h.step (.sect w hg))
      · exact h

/-- A program that gets done in so many sections does so by itself. -/
theorem evaluates_advances {W : ω → Prop} {w : ω} (hw : W w) {n : Nat} {p : Program σ ω α} {s : σ} {a : α}
    (h : (Program.advances w n (p, s)).1 = .done a) : p.Evaluates W s a (Program.advances w n (p, s)).2 := by
  induction n generalizing p s with
  | zero =>
    obtain rfl : p = .done a := h
    exact .done a s
  | succ n ih =>
    cases p with
    | done b =>
      obtain rfl := Program.done.inj h
      exact .done b s
    | sect g u next =>
      unfold Program.advances at h ⊢
      split at h
      · rename_i hg
        rw [if_pos hg]
        exact .sect w hw hg (ih h)
      · cases h

/-- A safe program stays safe. -/
theorem Runs.safe {E : Rely σ} {Q : α → σ → Prop} {p q : Program σ ω α} {s t : σ} (h : Runs E.env p s q t) (hp : Safe E Q p s) :
    Safe E Q q t := by
  induction h with
  | refl => exact hp
  | env _ he ih => exact (ih hp).env he
  | step _ hs ih => exact (ih hp).step hs

/-- What is left of a program that never waits never waits. -/
theorem Runs.neverWaits {env : σ → σ → Prop} {p q : Program σ ω α} {s t : σ} (h : Runs env p s q t) (hp : p.NeverWaits) :
    q.NeverWaits := by
  induction h with
  | refl => exact hp
  | env _ _ ih => exact ih
  | step _ hs ih => exact ih.of_step hs

end Threads
