import MarketDataGateway.Lib.Program

/-!
# Programs on a part of the state

A thread's code that works on one part of a larger state: `get` reads the part, `put` replaces it, and `outcome` is what the part's
outcomes are taken from.
-/

namespace Threads

open Relation

variable {σ τ ω ω' α : Type} {get : σ → τ} {put : τ → σ → σ} {outcome : ω' → ω}

/-- Run `p` on a part of the state. -/
def Program.focus (get : σ → τ) (put : τ → σ → σ) (outcome : ω' → ω) : Program τ ω α → Program σ ω' α
  | done a => done a
  | sect g u n =>
    sect (fun s => g (get s)) (fun w s => put (u (outcome w) (get s)) s) fun w s => (n (outcome w) (get s)).focus get put outcome

/-- What the sections may do to the part is all that they do. -/
theorem Program.All.focus {G : τ → τ → Prop} {p : Program τ ω α} (hp : p.All G) :
    (p.focus get put outcome).All fun s t => ∃ x, G (get s) x ∧ t = put x s := by
  induction p with
  | done a => trivial
  | sect g u n ih => exact fun w s hg => ⟨⟨_, (hp (outcome w) (get s) hg).1, rfl⟩, ih _ _ (hp (outcome w) (get s) hg).2⟩

/-- Nothing is said of what the sections do. -/
theorem Program.All.always (p : Program σ ω α) : p.All fun _ _ => True := by
  induction p with
  | done a => trivial
  | sect g u n ih => exact fun w s _ => ⟨trivial, ih w s⟩

section Focus

variable {E : Rely τ} {E' : Rely σ} {F : σ → Prop} {Q : α → τ → Prop}

/-- Moves of the larger environment are moves of the part's, and keep what is said of the rest. -/
theorem Rely.focus_star (henv : ∀ s t, E'.inv s → E'.env s t → ReflTransGen E.env (get s) (get t)) (hF : E'.Stable F) {s t : σ}
    (hi : E'.inv s) (hf : F s) (h : ReflTransGen E'.env s t) : (E'.inv t ∧ F t) ∧ ReflTransGen E.env (get s) (get t) := by
  induction h with
  | refl => exact ⟨⟨hi, hf⟩, .refl⟩
  | tail _ he ih => exact ⟨⟨E'.inv_env _ _ ih.1.1 he, hF _ _ ih.1.1 ih.1.2 he⟩, ih.2.trans (henv _ _ ih.1.1 he)⟩

variable (hget : ∀ x s, get (put x s) = x) (henv : ∀ s t, E'.inv s → E'.env s t → ReflTransGen E.env (get s) (get t))
  (hF : E'.Stable F) (hput : ∀ s x, E'.inv s → F s → E.inv x → E'.inv (put x s) ∧ F (put x s))
include hget henv hF hput

/-- A program that is safe for a part of the state is safe for the whole of it, with a frame. -/
theorem Safe.focus {p : Program τ ω α} {s : σ} (h : Safe E Q p (get s)) (hi : E'.inv s) (hf : F s) :
    Safe E' (fun a t => F t ∧ Q a (get t)) (p.focus get put outcome) s := by
  induction p generalizing s with
  | done a =>
    intro t ht
    obtain ⟨⟨hi', hf'⟩, hstar⟩ := Rely.focus_star henv hF hi hf ht
    exact ⟨hi', hf', (h _ hstar).2⟩
  | sect g u n ih =>
    intro t ht
    obtain ⟨⟨hi', hf'⟩, hstar⟩ := Rely.focus_star henv hF hi hf ht
    refine ⟨hi', fun hg w => ?_⟩
    have hnext := (h _ hstar).2 hg (outcome w)
    obtain ⟨hi'', hf''⟩ := hput t _ hi' hf' hnext.inv
    refine ih _ _ ?_ hi'' hf''
    rw [hget]
    exact hnext

/-- A triple about the part is one about the whole; `F` is what the part has no bearing on. -/
theorem Triple.focus {P : τ → Prop} {p : Program τ ω α} (h : Triple E P p Q) (hinv : ∀ s, E'.inv s → E.inv (get s)) :
    Triple E' (fun s => F s ∧ P (get s)) (p.focus get put outcome) fun a s => F s ∧ Q a (get s) :=
  fun s hi hs => (h (get s) (hinv s hi) hs.2).focus hget henv hF hput hi hs.1

end Focus

end Threads
