import Mathlib.Data.List.Basic
import Mathlib.Data.List.Forall2
import Mathlib.Data.List.Perm.Basic

/-!
# Folds that collect

A fold over a list that fails on a bad element and otherwise keeps, of several kinds, what the elements show it. Where it has room for one of
each kind, it succeeds on a list when it succeeds on every rearrangement of it, and with the same result.
-/

namespace Collect

variable {ε σ τ α β γ ι : Type}

/-- What a state has kept of each kind is what it had kept before and what the element shows; a state is nothing but what it has kept. -/
structure Collects (step : σ → α → Except ε σ) (good : α → Prop) (kept : ι → σ → List β) (shows : ι → α → List β) : Prop where
  step_iff : ∀ s a t, step s a = .ok t ↔ good a ∧ ∀ i, kept i s ++ shows i a = kept i t
  ext : ∀ s t, (∀ i, kept i s = kept i t) → s = t
  initial : ∀ t (xs : ι → List β), (∀ i, xs i <+: kept i t) → ∃ s, ∀ i, kept i s = xs i

variable {step : σ → α → Except ε σ} {good : α → Prop} {kept : ι → σ → List β} {shows : ι → α → List β}

/-- The fold over a list keeps what all of its elements show. -/
theorem Collects.foldlM_iff (h : Collects step good kept shows) {as : List α} {s t : σ} :
    as.foldlM step s = .ok t ↔ (∀ a ∈ as, good a) ∧ ∀ i, kept i s ++ as.flatMap (shows i) = kept i t := by
  induction as generalizing s with
  | nil =>
    simp only [List.foldlM_nil, List.flatMap_nil, List.append_nil, List.not_mem_nil, false_implies, implies_true, true_and]
    constructor
    · rintro ⟨⟩ i
      rfl
    · intro hkept
      rw [h.ext s t hkept]
      rfl
  | cons a as ih =>
    rw [List.foldlM_cons, List.forall_mem_cons]
    constructor
    · intro hfold
      cases hstep : step s a with
      | error e =>
        rw [hstep] at hfold
        cases hfold
      | ok mid =>
        rw [hstep] at hfold
        obtain ⟨hgood, hkept⟩ := (h.step_iff s a mid).mp hstep
        obtain ⟨hrest, htail⟩ := ih.mp hfold
        refine ⟨⟨hgood, hrest⟩, fun i => ?_⟩
        rw [List.flatMap_cons, ← List.append_assoc, hkept i, htail i]
    · rintro ⟨⟨hgood, hrest⟩, hkept⟩
      obtain ⟨mid, hmid⟩ := h.initial t (fun i => kept i s ++ shows i a) fun i => by
        rw [← hkept i, List.flatMap_cons, ← List.append_assoc]
        exact List.prefix_append ..
      rw [(h.step_iff s a mid).mpr ⟨hgood, fun i => (hmid i).symm⟩]
      refine ih.mpr ⟨hrest, fun i => ?_⟩
      rw [hmid i, List.append_assoc, ← List.flatMap_cons]
      exact hkept i

/-- With room for one of each kind, the order of the elements does not matter. -/
theorem Collects.foldlM_perm (h : Collects step good kept shows) (hshort : ∀ i s, (kept i s).length ≤ 1) {as as' : List α}
    (hperm : as.Perm as') {s t : σ} : as.foldlM step s = .ok t ↔ as'.foldlM step s = .ok t := by
  have honce : ∀ {as as' : List α}, as.Perm as' → as.foldlM step s = .ok t → as'.foldlM step s = .ok t := by
    intro as as' hperm hfold
    obtain ⟨hgood, hkept⟩ := h.foldlM_iff.mp hfold
    refine h.foldlM_iff.mpr ⟨fun a ha => hgood a (hperm.mem_iff.mpr ha), fun i => ?_⟩
    have hlist : (kept i s ++ as'.flatMap (shows i)).Perm (kept i t) := by
      rw [← hkept i]
      exact List.Perm.append_left _ (hperm.symm.flatMap_right _)
    cases hcase : kept i t with
    | nil =>
      rw [hcase] at hlist
      exact hlist.eq_nil
    | cons x xs =>
      have hxs : xs = [] := by
        have := hshort i t
        rw [hcase, List.length_cons] at this
        exact List.length_eq_zero_iff.mp (by omega)
      rw [hcase, hxs] at hlist
      rw [hxs]
      exact List.perm_singleton.mp hlist
  exact ⟨honce hperm, honce hperm.symm⟩

/-- Folds over related lists, with steps that go well together, end in related states. -/
theorem foldlM_forall₂ {R : α → γ → Prop} {S : σ → τ → Prop} {f : σ → α → Except ε σ} {g : τ → γ → Except ε τ}
    (hstep : ∀ s t a c s', S s t → R a c → f s a = .ok s' → ∃ t', g t c = .ok t' ∧ S s' t') {as : List α} {cs : List γ}
    (has : List.Forall₂ R as cs) {s s' : σ} {t : τ} (hs : S s t) (h : as.foldlM f s = .ok s') :
    ∃ t', cs.foldlM g t = .ok t' ∧ S s' t' := by
  induction has generalizing s t with
  | nil =>
    cases h
    exact ⟨t, rfl, hs⟩
  | @cons a c as cs hac has ih =>
    rw [List.foldlM_cons] at h ⊢
    cases hf : f s a with
    | error e =>
      rw [hf] at h
      cases h
    | ok mid =>
      rw [hf] at h
      obtain ⟨mid', hg, hmid⟩ := hstep s t a c mid hs hac hf
      rw [hg]
      exact ih hmid h

/-- What the elements of one kind show, one each. -/
theorem flatMap_ite (p : α → Bool) (f : α → β) (as : List α) :
    as.flatMap (fun a => if p a then [f a] else []) = (as.filter p).map f := by
  induction as with
  | nil => rfl
  | cons a as ih =>
    rw [List.flatMap_cons, ih]
    cases hp : p a <;> simp [hp]

/-- Keeping an element or nothing for each is filtering. -/
theorem flatMap_ite_self (p : α → Bool) (as : List α) : as.flatMap (fun a => if p a then [a] else []) = as.filter p := by
  have h := flatMap_ite p id as
  rwa [List.map_id] at h

end Collect
