import Mathlib.Logic.Relation

/-!
# Threads as programs of atomic sections

A thread is a tree of atomic sections: what it does between taking a lock and releasing it. Between two sections any other
thread may run. `Safe` says what holds of every interleaving of a program with its environment, `Triple` packages it as a
precondition and a postcondition, and the rules below build a triple of a program from the triples of its parts.

Nothing here is about one system: the state, the outcomes the environment chooses (clock samples, allocation failures) and the
environment's moves are parameters.
-/

namespace Threads

open Relation

/-- A thread's code: done with a value, or an atomic section. A section waits until its guard holds, the environment picks an
outcome, the section updates the state, and the thread goes on with what the outcome and the state before it say. -/
inductive Program (σ ω α : Type) where
  | done (a : α)
  | sect (guard : σ → Bool) (update : ω → σ → σ) (next : ω → σ → Program σ ω α)

namespace Program

variable {σ ω α β γ : Type}

/-- Run `p`, then what `k` makes of its value. -/
def bind : Program σ ω α → (α → Program σ ω β) → Program σ ω β
  | done a, k => k a
  | sect g u n, k => sect g u (fun w s => (n w s).bind k)

instance : Monad (Program σ ω) where
  pure := done
  bind := bind

/-- Continuations associate. -/
theorem bind_assoc (p : Program σ ω α) (k : α → Program σ ω β) (l : β → Program σ ω γ) :
    (p.bind k).bind l = p.bind fun a => (k a).bind l := by
  induction p with
  | done a => rfl
  | sect g u n ih => simp only [bind, ih]

/-- Wait until `guard` holds, then run `f` in one section. -/
def await (guard : σ → Bool) (f : ω → σ → α × σ) : Program σ ω α :=
  sect guard (fun w s => (f w s).2) (fun w s => done (f w s).1)

/-- One section that never waits. -/
def atomic (f : ω → σ → α × σ) : Program σ ω α := await (fun _ => true) f

/-- A section that only updates the state. -/
def modify (f : σ → σ) : Program σ ω Unit := atomic (fun _ s => ((), f s))

/-- A section that only reads the state. -/
def read (f : σ → α) : Program σ ω α := atomic (fun _ s => (f s, s))

/-- An outcome of the environment. -/
def choose (f : ω → α) : Program σ ω α := atomic (fun w s => (f w, s))

/-- Run `body` for every element, in order. -/
def forEach : List γ → (γ → Program σ ω Unit) → Program σ ω Unit
  | [], _ => done ()
  | x :: xs, body => (body x).bind (fun _ => forEach xs body)

/-- One section of a program, from a state to the next. -/
inductive Step : Program σ ω α → σ → Program σ ω α → σ → Prop where
  | sect {g : σ → Bool} {u : ω → σ → σ} {n : ω → σ → Program σ ω α} {s : σ} (w : ω) (h : g s = true) :
      Step (.sect g u n) s (n w s) (u w s)

/-- A section of a program's first part is one of the whole. -/
theorem Step.bind {p q : Program σ ω α} {s t : σ} (h : Step p s q t) (k : α → Program σ ω β) : Step (p.bind k) s (q.bind k) t := by
  cases h with
  | sect w hg => exact .sect w hg

/-- Every section of a program moves the state as `G` allows. -/
def All (G : σ → σ → Prop) : Program σ ω α → Prop
  | done _ => True
  | sect g u n => ∀ w s, g s = true → G s (u w s) ∧ All G (n w s)

/-- A section that is taken is allowed, and so is all that follows. -/
theorem All.of_step {G : σ → σ → Prop} {p p' : Program σ ω α} {s t : σ} (hp : p.All G) (h : Step p s p' t) :
    G s t ∧ p'.All G := by
  cases h with
  | sect w hg => exact hp w s hg

/-- A sequence has its sections in a relation when both halves have. -/
theorem All.bind {G : σ → σ → Prop} {p : Program σ ω α} {k : α → Program σ ω β} (hp : p.All G)
    (hk : ∀ a, (k a).All G) : (p.bind k).All G := by
  induction p with
  | done a => exact hk a
  | sect g u n ih => exact fun w s h => ⟨(hp w s h).1, ih w s (hp w s h).2⟩

/-- A waiting section is in a relation when it is wherever its guard holds. -/
theorem All.await {G : σ → σ → Prop} {g : σ → Bool} {f : ω → σ → α × σ} (h : ∀ w s, g s = true → G s (f w s).2) :
    (Program.await g f).All G :=
  fun w s hg => ⟨h w s hg, trivial⟩

/-- A section is in a relation when every choice of the surroundings is. -/
theorem All.atomic {G : σ → σ → Prop} {f : ω → σ → α × σ} (h : ∀ w s, G s (f w s).2) : (Program.atomic f).All G :=
  All.await (fun w s _ => h w s)

/-- A loop over a list has its sections in a relation when its body has. -/
theorem All.forEach {G : σ → σ → Prop} {xs : List γ} {body : γ → Program σ ω Unit} (h : ∀ x, (body x).All G) :
    (Program.forEach xs body).All G := by
  induction xs with
  | nil => trivial
  | cons x xs ih => exact All.bind (h x) (fun _ => ih)

/-- What every section may do can be weakened. -/
theorem All.mono {G G' : σ → σ → Prop} {p : Program σ ω α} (hp : p.All G) (h : ∀ s t, G s t → G' s t) : p.All G' := by
  induction p with
  | done a => trivial
  | sect g u n ih => exact fun w s hg => ⟨h _ _ (hp w s hg).1, ih w s (hp w s hg).2⟩

/-- Every value that the program may end with is as `V` says. -/
def Returns (V : α → Prop) : Program σ ω α → Prop
  | done a => V a
  | sect _ _ n => ∀ w s, Returns V (n w s)

/-- A promise about the value may be weakened. -/
theorem Returns.mono {V W : α → Prop} {p : Program σ ω α} (hp : p.Returns V) (h : ∀ a, V a → W a) : p.Returns W := by
  induction p with
  | done a => exact h a hp
  | sect g u n ih => exact fun w s => ih w s (hp w s)

/-- Two promises about the value are one. -/
theorem Returns.and {V W : α → Prop} {p : Program σ ω α} (hv : p.Returns V) (hw : p.Returns W) : p.Returns fun a => V a ∧ W a := by
  induction p with
  | done a => exact ⟨hv, hw⟩
  | sect g u n ih => exact fun w s => ih w s (hv w s) (hw w s)

end Program

/-! ## The environment of a thread -/

/-- What a thread relies on: the moves of the other threads, and an invariant that they keep. -/
structure Rely (σ : Type) where
  env : σ → σ → Prop
  inv : σ → Prop
  inv_env : ∀ s t, inv s → env s t → inv t

variable {σ ω α β γ : Type}

/-- An assertion that the other threads cannot make false. -/
def Rely.Stable (E : Rely σ) (P : σ → Prop) : Prop := ∀ s t, E.inv s → P s → E.env s t → P t

namespace Rely

variable {E : Rely σ}

/-- Two stable assertions are stable together. -/
theorem Stable.and {P Q : σ → Prop} (hP : E.Stable P) (hQ : E.Stable Q) : E.Stable (fun s => P s ∧ Q s) :=
  fun s t hi h he => ⟨hP s t hi h.1 he, hQ s t hi h.2 he⟩

/-- What does not speak of the state is stable. -/
theorem Stable.const (p : Prop) : E.Stable (fun _ => p) := fun _ _ _ h _ => h

/-- An existential over stable assertions is stable. -/
theorem Stable.exists {P : γ → σ → Prop} (h : ∀ x, E.Stable (P x)) : E.Stable (fun s => ∃ x, P x s) :=
  fun s t hi ⟨x, hx⟩ he => ⟨x, h x s t hi hx he⟩

/-- Either of two stable assertions is stable. -/
theorem Stable.or {P Q : σ → Prop} (hP : E.Stable P) (hQ : E.Stable Q) : E.Stable (fun s => P s ∨ Q s) :=
  fun s t hi h he => h.imp (fun h => hP s t hi h he) (fun h => hQ s t hi h he)

/-- A stable assertion stays stable under a fixed condition. -/
theorem Stable.imp {c : Prop} {P : σ → Prop} (h : E.Stable P) : E.Stable (fun s => c → P s) :=
  fun s t hi hs he hc => h s t hi (hs hc) he

/-- A family of stable assertions is stable. -/
theorem Stable.all {P : γ → σ → Prop} (h : ∀ x, E.Stable (P x)) : E.Stable (fun s => ∀ x, P x s) :=
  fun s t hi hP he x => h x s t hi (hP x) he

/-- A stable assertion survives any number of steps of the environment. -/
theorem Stable.star {P : σ → Prop} (hP : E.Stable P) {s t : σ} (hi : E.inv s) (h : P s)
    (hst : ReflTransGen E.env s t) : E.inv t ∧ P t := by
  induction hst with
  | refl => exact ⟨hi, h⟩
  | tail _ he ih => exact ⟨E.inv_env _ _ ih.1 he, hP _ _ ih.1 ih.2 he⟩

end Rely

/-- In every interleaving of the program with moves of the environment the invariant holds throughout, and a program that is done
leaves a state of which `Q` holds, and goes on holding. -/
def Safe (E : Rely σ) (Q : α → σ → Prop) : Program σ ω α → σ → Prop
  | .done a, s => ∀ t, ReflTransGen E.env s t → E.inv t ∧ Q a t
  | .sect g u n, s => ∀ t, ReflTransGen E.env s t → E.inv t ∧ (g t = true → ∀ w, Safe E Q (n w t) (u w t))

namespace Safe

variable {E : Rely σ} {Q : α → σ → Prop}

/-- A safe program's state satisfies the invariant. -/
theorem inv {p : Program σ ω α} {s : σ} (h : Safe E Q p s) : E.inv s := by
  cases p with
  | done a => exact (h s .refl).1
  | sect g u n => exact (h s .refl).1

/-- A program that is done has reached its postcondition. -/
theorem post {a : α} {s : σ} (h : Safe E Q (.done a : Program σ ω α) s) : Q a s := (h s .refl).2

/-- A move of the environment keeps a program safe. -/
theorem env {p : Program σ ω α} {s t : σ} (h : Safe E Q p s) (he : E.env s t) : Safe E Q p t := by
  cases p with
  | done a => exact fun r hr => h r (.head he hr)
  | sect g u n => exact fun r hr => h r (.head he hr)

/-- A section of the program keeps it safe. -/
theorem step {p p' : Program σ ω α} {s t : σ} (h : Safe E Q p s) (hs : Program.Step p s p' t) : Safe E Q p' t := by
  cases hs with
  | sect w hg => exact (h s .refl).2 hg w

/-- A weaker postcondition. -/
theorem mono {Q' : α → σ → Prop} {p : Program σ ω α} {s : σ} (h : Safe E Q p s)
    (hQ : ∀ a t, E.inv t → Q a t → Q' a t) : Safe E Q' p s := by
  induction p generalizing s with
  | done a => exact fun t ht => ⟨(h t ht).1, hQ a t (h t ht).1 (h t ht).2⟩
  | sect g u n ih => exact fun t ht => ⟨(h t ht).1, fun hg w => ih w t ((h t ht).2 hg w)⟩

/-- What neither the program nor the environment changes is still there at the end. -/
theorem frame {G : σ → σ → Prop} {F : σ → Prop} {p : Program σ ω α} {s : σ} (h : Safe E Q p s) (hp : p.All G)
    (hF : E.Stable F) (hG : ∀ s t, E.inv s → F s → G s t → F t) (hf : F s) : Safe E (fun a t => Q a t ∧ F t) p s := by
  induction p generalizing s with
  | done a => exact fun t ht => ⟨(h t ht).1, (h t ht).2, (hF.star h.inv hf ht).2⟩
  | sect g u n ih =>
    intro t ht
    obtain ⟨hi', hf'⟩ := hF.star h.inv hf ht
    exact ⟨hi', fun hg w => ih w t ((h t ht).2 hg w) (hp w t hg).2 (hG _ _ hi' hf' (hp w t hg).1)⟩

/-- What a program is known to return. -/
theorem returns {V : α → Prop} {p : Program σ ω α} {s : σ} (h : Safe E Q p s) (hp : p.Returns V) :
    Safe E (fun a t => Q a t ∧ V a) p s := by
  induction p generalizing s with
  | done a => exact fun t ht => ⟨(h t ht).1, (h t ht).2, hp⟩
  | sect g u n ih => exact fun t ht => ⟨(h t ht).1, fun hg w => ih w t ((h t ht).2 hg w) (hp w t)⟩

/-- A program that is safe by itself is safe beside an invariant and an assertion that neither it nor the environment breaks. -/
theorem strengthen {E' : Rely σ} {G : σ → σ → Prop} {I F : σ → Prop} {p : Program σ ω α} {s : σ} (h : Safe E Q p s)
    (hp : p.All G) (henv : E'.env = E.env) (hinv : ∀ t, E'.inv t ↔ E.inv t ∧ I t) (hF : E'.Stable F)
    (hG : ∀ t u, E'.inv t → F t → G t u → I u ∧ F u) (hi : I s) (hf : F s) : Safe E' (fun a t => Q a t ∧ F t) p s := by
  induction p generalizing s with
  | done a =>
    intro t ht
    obtain ⟨hi', hf'⟩ := hF.star ((hinv s).mpr ⟨h.inv, hi⟩) hf ht
    exact ⟨hi', (h t (henv ▸ ht)).2, hf'⟩
  | sect g u n ih =>
    intro t ht
    obtain ⟨hi', hf'⟩ := hF.star ((hinv s).mpr ⟨h.inv, hi⟩) hf ht
    refine ⟨hi', fun hg w => ?_⟩
    obtain ⟨hiu, hfu⟩ := hG t _ hi' hf' (hp w t hg).1
    exact ih w t ((h t (henv ▸ ht)).2 hg w) (hp w t hg).2 hiu hfu

/-- What is safe under each of two relies with the same environment is safe under both. -/
theorem both {E' E'' : Rely σ} {Q' : α → σ → Prop} {p : Program σ ω α} {s : σ} (h : Safe E Q p s) (h' : Safe E' Q' p s)
    (henv : E''.env = E.env) (henv' : E''.env = E'.env) (hinv : ∀ t, E.inv t → E'.inv t → E''.inv t) :
    Safe E'' (fun a t => Q a t ∧ Q' a t) p s := by
  induction p generalizing s with
  | done a =>
    intro t ht
    obtain ⟨hi, hq⟩ := h t (henv ▸ ht)
    obtain ⟨hi', hq'⟩ := h' t (henv' ▸ ht)
    exact ⟨hinv t hi hi', hq, hq'⟩
  | sect g u n ih =>
    intro t ht
    obtain ⟨hi, hn⟩ := h t (henv ▸ ht)
    obtain ⟨hi', hn'⟩ := h' t (henv' ▸ ht)
    exact ⟨hinv t hi hi', fun hg w => ih w t (hn hg w) (hn' hg w)⟩

/-- A sequence is safe when its first part is and its second part is safe from wherever the first may end. -/
theorem bind {p : Program σ ω α} {k : α → Program σ ω β} {Q' : β → σ → Prop} {s : σ} (h : Safe E Q p s)
    (hk : ∀ a t, E.inv t → Q a t → Safe E Q' (k a) t) : Safe E Q' (p.bind k) s := by
  induction p generalizing s with
  | done a => exact hk a s h.inv h.post
  | sect g u n ih => exact fun t ht => ⟨(h t ht).1, fun hg w => ih w t ((h t ht).2 hg w)⟩

end Safe

/-! ## Triples -/

/-- From a state of the invariant where `P` holds the program is safe and ends where `Q` holds. -/
def Triple (E : Rely σ) (P : σ → Prop) (p : Program σ ω α) (Q : α → σ → Prop) : Prop :=
  ∀ s, E.inv s → P s → Safe E Q p s

namespace Triple

variable {E : Rely σ} {P : σ → Prop} {Q : α → σ → Prop}

/-- A program that has returned has its postcondition when its precondition gives it. -/
theorem done {a : α} (hP : E.Stable P) (h : ∀ s, E.inv s → P s → Q a s) :
    Triple E P (Program.done a : Program σ ω α) Q := by
  intro s hi hs t ht
  obtain ⟨hi', hP'⟩ := hP.star hi hs ht
  exact ⟨hi', h t hi' hP'⟩

/-- Triples compose: the second program starts where the first one ends. -/
theorem bind {p : Program σ ω α} {k : α → Program σ ω β} {S : β → σ → Prop} (hp : Triple E P p Q)
    (hk : ∀ a, Triple E (Q a) (k a) S) : Triple E P (p.bind k) S :=
  fun s hi hs => (hp s hi hs).bind (fun a t hi' hQ => hk a t hi' hQ)

/-- A section: the precondition survives until the guard holds, and the update takes it to the postcondition. -/
theorem await {g : σ → Bool} {f : ω → σ → α × σ} (hP : E.Stable P) (hQ : ∀ a, E.Stable (Q a))
    (h : ∀ w s, E.inv s → P s → g s = true → E.inv (f w s).2 ∧ Q (f w s).1 (f w s).2) :
    Triple E P (Program.await g f) Q := by
  intro s hi hs t ht
  obtain ⟨hi', hP'⟩ := hP.star hi hs ht
  refine ⟨hi', fun hg w r hr => ?_⟩
  obtain ⟨hi'', hq⟩ := h w t hi' hP' hg
  exact (hQ _).star hi'' hq hr

/-- The rule of a section: it keeps the invariant and leads from the precondition to the postcondition. -/
theorem atomic {f : ω → σ → α × σ} (hP : E.Stable P) (hQ : ∀ a, E.Stable (Q a))
    (h : ∀ w s, E.inv s → P s → E.inv (f w s).2 ∧ Q (f w s).1 (f w s).2) : Triple E P (Program.atomic f) Q :=
  await hP hQ (fun w s hi hs _ => h w s hi hs)

/-- The rule of a section that updates the state and returns nothing. -/
theorem modify {f : σ → σ} {Q : Unit → σ → Prop} (hP : E.Stable P) (hQ : E.Stable (Q ()))
    (h : ∀ s, E.inv s → P s → E.inv (f s) ∧ Q () (f s)) : Triple E P (Program.modify f : Program σ ω Unit) Q :=
  atomic hP (fun _ => hQ) (fun _ s hi hs => h s hi hs)

/-- The rule of a section that only looks. -/
theorem read {f : σ → α} (hP : E.Stable P) (hQ : ∀ a, E.Stable (Q a)) (h : ∀ s, E.inv s → P s → Q (f s) s) :
    Triple E P (Program.read f : Program σ ω α) Q :=
  atomic hP hQ (fun _ s hi hs => ⟨hi, h s hi hs⟩)

/-- Reading an outcome of the environment keeps every stable assertion. -/
theorem choose {f : ω → α} (hP : E.Stable P) : Triple E P (Program.choose f : Program σ ω α) (fun _ => P) :=
  atomic hP (fun _ => hP) (fun _ _ hi hs => ⟨hi, hs⟩)

/-- A loop over a list: `I xs` holds when `xs` is still to be visited. -/
theorem forEach {I : List γ → σ → Prop} {body : γ → Program σ ω Unit} (hI : E.Stable (I []))
    (h : ∀ x xs, Triple E (I (x :: xs)) (body x) (fun _ => I xs)) (xs : List γ) :
    Triple E (I xs) (Program.forEach xs body) (fun _ => I []) := by
  induction xs with
  | nil => exact done hI (fun _ _ h => h)
  | cons x xs ih => exact bind (h x xs) (fun _ => ih)

/-- The rule of consequence, with the invariant at hand on both sides. -/
theorem conseq {P' : σ → Prop} {Q' : α → σ → Prop} {p : Program σ ω α} (h : Triple E P p Q)
    (hP : ∀ s, E.inv s → P' s → P s) (hQ : ∀ a s, E.inv s → Q a s → Q' a s) : Triple E P' p Q' :=
  fun s hi hs => (h s hi (hP s hi hs)).mono hQ

/-- The precondition may be strengthened. -/
theorem pre {P' : σ → Prop} {p : Program σ ω α} (h : Triple E P p Q) (hP : ∀ s, E.inv s → P' s → P s) :
    Triple E P' p Q :=
  h.conseq hP (fun _ _ _ hq => hq)

/-- The postcondition may be weakened. -/
theorem post {Q' : α → σ → Prop} {p : Program σ ω α} (h : Triple E P p Q) (hQ : ∀ a s, E.inv s → Q a s → Q' a s) :
    Triple E P p Q' :=
  h.conseq (fun _ _ hp => hp) hQ

/-- A fact that does not mention the state may be taken out of the precondition. -/
theorem pure_pre {c : Prop} {p : Program σ ω α} (h : c → Triple E P p Q) : Triple E (fun s => c ∧ P s) p Q :=
  fun s hi hs => h hs.1 s hi hs.2

/-- The frame rule: what no section of the program and no move of the environment changes stays true beside the triple. -/
theorem frame {G : σ → σ → Prop} {F : σ → Prop} {p : Program σ ω α} (ht : Triple E P p Q) (hp : p.All G)
    (hF : E.Stable F) (h : ∀ s t, E.inv s → F s → G s t → F t) :
    Triple E (fun s => P s ∧ F s) p (fun a s => Q a s ∧ F s) :=
  fun s hi hs => (ht s hi hs.1).frame hp hF h hs.2

/-- What a program promises of its value joins the postcondition. -/
theorem returns {V : α → Prop} {p : Program σ ω α} (ht : Triple E P p Q) (hp : p.Returns V) :
    Triple E P p (fun a s => Q a s ∧ V a) :=
  fun s hi hs => (ht s hi hs).returns hp

/-- A triple carries over to a stronger invariant and a frame that the program's sections and the environment keep. -/
theorem strengthen {E' : Rely σ} {G : σ → σ → Prop} {I F : σ → Prop} {p : Program σ ω α} (h : Triple E P p Q)
    (hp : p.All G) (henv : E'.env = E.env) (hinv : ∀ t, E'.inv t ↔ E.inv t ∧ I t) (hF : E'.Stable F)
    (hG : ∀ t u, E'.inv t → F t → G t u → I u ∧ F u) : Triple E' (fun s => P s ∧ F s) p (fun a s => Q a s ∧ F s) :=
  fun s hi hs => (h s ((hinv s).mp hi).1 hs.1).strengthen hp henv hinv hF hG ((hinv s).mp hi).2 hs.2

/-- Two triples of one program, under one environment, are one. -/
theorem both {E' E'' : Rely σ} {P' : σ → Prop} {Q' : α → σ → Prop} {p : Program σ ω α} (h : Triple E P p Q) (h' : Triple E' P' p Q')
    (henv : E''.env = E.env) (henv' : E''.env = E'.env) (hinv : ∀ t, E''.inv t → E.inv t) (hinv' : ∀ t, E.inv t → E'.inv t → E''.inv t) :
    Triple E'' (fun s => P s ∧ E'.inv s ∧ P' s) p (fun a s => Q a s ∧ Q' a s) :=
  fun s hi hs => (h s (hinv s hi) hs.1).both (h' s hs.2.1 hs.2.2) henv henv' hinv'

/-- A fact that rules out nothing may be taken from an existing witness. -/
theorem exists_pre {P : γ → σ → Prop} {p : Program σ ω α} (h : ∀ x, Triple E (P x) p Q) :
    Triple E (fun s => ∃ x, P x s) p Q :=
  fun s hi ⟨x, hx⟩ => h x s hi hx

/-- A program whose sections, and the environment's moves, all keep an assertion keeps it. -/
theorem of_all {G : σ → σ → Prop} {p : Program σ ω α} (hp : p.All G) (hP : E.Stable P)
    (h : ∀ s t, E.inv s → P s → G s t → E.inv t ∧ P t) : Triple E P p (fun _ => P) := by
  intro s hi hs
  induction p generalizing s with
  | done a => exact fun t ht => hP.star hi hs ht
  | sect g u n ih =>
    intro t ht
    obtain ⟨hi', hP'⟩ := hP.star hi hs ht
    refine ⟨hi', fun hg w => ?_⟩
    obtain ⟨hi'', hP''⟩ := h _ _ hi' hP' (hp w t hg).1
    exact ih w t (hp w t hg).2 _ hi'' hP''

end Triple

/-! ## Programs by themselves -/

/-- `p` run by itself from `s`, with outcomes as `W` allows, ends with `a` in `t`. -/
inductive Program.Evaluates (W : ω → Prop) : Program σ ω α → σ → α → σ → Prop where
  | done (a : α) (s : σ) : Evaluates W (.done a) s a s
  | sect {g : σ → Bool} {u : ω → σ → σ} {n : ω → σ → Program σ ω α} {s t : σ} {a : α} (w : ω) (hw : W w) (hg : g s = true)
      (h : Evaluates W (n w s) (u w s) a t) : Evaluates W (.sect g u n) s a t

namespace Program

variable {W : ω → Prop}

/-- No section of the program waits. -/
def NeverWaits : Program σ ω α → Prop
  | done _ => True
  | sect g _ n => ∀ w s, g s = true ∧ NeverWaits (n w s)

/-- A sequence of programs that never wait never waits. -/
theorem NeverWaits.bind {p : Program σ ω α} {k : α → Program σ ω β} (hp : p.NeverWaits) (hk : ∀ a, (k a).NeverWaits) :
    (p.bind k).NeverWaits := by
  induction p with
  | done a => exact hk a
  | sect g u n ih => exact fun w s => ⟨(hp w s).1, ih w s (hp w s).2⟩

/-- A section without a guard never waits. -/
theorem neverWaits_atomic (f : ω → σ → α × σ) : (atomic f).NeverWaits := fun _ _ => ⟨rfl, trivial⟩

/-- An update never waits. -/
theorem neverWaits_modify (f : σ → σ) : (modify f : Program σ ω Unit).NeverWaits := neverWaits_atomic _

/-- A look at the state never waits. -/
theorem neverWaits_read (f : σ → α) : (read f : Program σ ω α).NeverWaits := neverWaits_atomic _

/-- What is left of a program that never waits never waits. -/
theorem NeverWaits.of_step {p q : Program σ ω α} {s t : σ} (hp : p.NeverWaits) (h : Step p s q t) : q.NeverWaits := by
  cases h with
  | sect w _ => exact (hp w s).2

/-- A program that never waits gets done by itself. -/
theorem NeverWaits.evaluates {p : Program σ ω α} (hp : p.NeverWaits) {w : ω} (hw : W w) (s : σ) : ∃ a t, Evaluates W p s a t := by
  induction p generalizing s with
  | done a => exact ⟨a, s, .done a s⟩
  | sect g u n ih =>
    obtain ⟨a, t, h⟩ := ih w s (hp w s).2 (u w s)
    exact ⟨a, t, .sect w hw (hp w s).1 h⟩

/-- `p` run by itself from `s` ends, whatever the outcomes that `W` allows, and where `Q` holds. -/
def Yields (W : ω → Prop) (Q : α → σ → Prop) : Program σ ω α → σ → Prop
  | done a, s => Q a s
  | sect g u n, s => g s = true ∧ ∀ w, W w → Yields W Q (n w s) (u w s)

section Yields

variable {Q : α → σ → Prop}

/-- What a program yields may be weakened. -/
theorem Yields.mono {Q' : α → σ → Prop} {p : Program σ ω α} {s : σ} (h : p.Yields W Q s) (hQ : ∀ a t, Q a t → Q' a t) :
    p.Yields W Q' s := by
  induction p generalizing s with
  | done a => exact hQ a s h
  | sect g u n ih => exact ⟨h.1, fun w hw => ih w s (h.2 w hw)⟩

/-- A sequence yields what its second half yields from wherever its first half ends. -/
theorem Yields.bind {R : β → σ → Prop} {p : Program σ ω α} {k : α → Program σ ω β} {s : σ} (h : p.Yields W Q s)
    (hk : ∀ a t, Q a t → (k a).Yields W R t) : (p.bind k).Yields W R s := by
  induction p generalizing s with
  | done a => exact hk a s h
  | sect g u n ih => exact ⟨h.1, fun w hw => ih w s (h.2 w hw)⟩

/-- A waiting section yields when its guard holds and every admitted choice of the surroundings does. -/
theorem yields_await {g : σ → Bool} {f : ω → σ → α × σ} {s : σ} (hg : g s = true) (h : ∀ w, W w → Q (f w s).1 (f w s).2) :
    (await g f).Yields W Q s := ⟨hg, h⟩

/-- A section yields what every admitted choice of the surroundings gives. -/
theorem yields_atomic {f : ω → σ → α × σ} {s : σ} (h : ∀ w, W w → Q (f w s).1 (f w s).2) : (atomic f).Yields W Q s := ⟨rfl, h⟩

/-- An update yields the updated state. -/
theorem yields_modify {Q : Unit → σ → Prop} {f : σ → σ} {s : σ} (h : Q () (f s)) : (modify f : Program σ ω Unit).Yields W Q s :=
  yields_atomic fun _ _ => h

/-- A look yields what it sees and leaves the state as it is. -/
theorem yields_read {f : σ → α} {s : σ} (h : Q (f s) s) : (read f : Program σ ω α).Yields W Q s := yields_atomic fun _ _ => h

/-- There is such a run. -/
theorem Yields.exists {p : Program σ ω α} {s : σ} (h : p.Yields W Q s) {w : ω} (hw : W w) : ∃ a t, Evaluates W p s a t := by
  induction p generalizing s with
  | done a => exact ⟨a, s, .done a s⟩
  | sect g u n ih =>
    obtain ⟨a, t, he⟩ := ih w s (h.2 w hw)
    exact ⟨a, t, .sect w hw h.1 he⟩

/-- Every such run ends where it should. -/
theorem Yields.ends {p : Program σ ω α} {s t : σ} {a : α} (h : p.Yields W Q s) (he : Evaluates W p s a t) : Q a t := by
  induction he with
  | done a s => exact h
  | sect w hw _ _ ih => exact ih (h.2 w hw)

end Yields

/-- A program that has returned evaluates to its value and stays where it is. -/
theorem evaluates_done {a b : α} {s t : σ} : Evaluates W (.done a) s b t ↔ b = a ∧ t = s := by
  constructor
  · intro h
    cases h
    exact ⟨rfl, rfl⟩
  · rintro ⟨rfl, rfl⟩
    exact .done b t

/-- Returning a value changes nothing. -/
theorem evaluates_pure {a b : α} {s t : σ} : Evaluates W (pure a) s b t ↔ b = a ∧ t = s := evaluates_done

/-- A sequence evaluates by way of a state between its halves. -/
theorem evaluates_bind {p : Program σ ω α} {k : α → Program σ ω β} {s t : σ} {b : β} :
    Evaluates W (p >>= k) s b t ↔ ∃ a r, Evaluates W p s a r ∧ Evaluates W (k a) r b t := by
  constructor
  · intro h
    induction p generalizing s with
    | done a => exact ⟨a, s, .done a s, h⟩
    | sect g u n ih =>
      cases h with
      | sect w hw hg h =>
        obtain ⟨a, r, hp, hk⟩ := ih w s h
        exact ⟨a, r, .sect w hw hg hp, hk⟩
  · rintro ⟨a, r, hp, hk⟩
    induction hp with
    | done a s => exact hk
    | sect w hw hg _ ih => exact .sect w hw hg (ih hk)

/-- A waiting section evaluates when its guard holds, by some admitted choice. -/
theorem evaluates_await {g : σ → Bool} {f : ω → σ → α × σ} {s t : σ} {a : α} :
    Evaluates W (await g f) s a t ↔ g s = true ∧ ∃ w, W w ∧ f w s = (a, t) := by
  constructor
  · intro h
    cases h with
    | sect w hw hg h =>
      cases h
      exact ⟨hg, w, hw, rfl⟩
  · rintro ⟨hg, w, hw, hf⟩
    refine .sect w hw hg ?_
    rw [show (f w s).1 = a from congrArg Prod.fst hf, show (f w s).2 = t from congrArg Prod.snd hf]
    exact .done a t

/-- A section evaluates by some admitted choice of the surroundings. -/
theorem evaluates_atomic {f : ω → σ → α × σ} {s t : σ} {a : α} :
    Evaluates W (atomic f) s a t ↔ ∃ w, W w ∧ f w s = (a, t) :=
  evaluates_await.trans (and_iff_right rfl)

/-- A section whose outcome does not matter. -/
theorem evaluates_section {f : σ → α × σ} {s t : σ} {a : α} (hW : ∃ w, W w) :
    Evaluates W (atomic fun _ s => f s : Program σ ω α) s a t ↔ f s = (a, t) := by
  refine evaluates_atomic.trans ⟨?_, fun h => hW.imp fun w hw => ⟨hw, h⟩⟩
  rintro ⟨w, -, h⟩
  exact h

/-- An update evaluates to the updated state. -/
theorem evaluates_modify {f : σ → σ} {s t : σ} {a : Unit} (hW : ∃ w, W w) :
    Evaluates W (modify f : Program σ ω Unit) s a t ↔ t = f s := by
  refine evaluates_atomic.trans ⟨?_, ?_⟩
  · rintro ⟨w, -, h⟩
    exact (congrArg Prod.snd h).symm
  · rintro rfl
    exact hW.imp fun w hw => ⟨hw, rfl⟩

/-- A look evaluates to what it sees. -/
theorem evaluates_read {f : σ → α} {s t : σ} {a : α} (hW : ∃ w, W w) :
    Evaluates W (read f : Program σ ω α) s a t ↔ a = f s ∧ t = s := by
  refine evaluates_atomic.trans ⟨?_, ?_⟩
  · rintro ⟨w, -, h⟩
    cases h
    exact ⟨rfl, rfl⟩
  · rintro ⟨rfl, rfl⟩
    exact hW.imp fun w hw => ⟨hw, rfl⟩

/-- A choice is made by the surroundings and leaves the state alone. -/
theorem evaluates_choose {f : ω → α} {s t : σ} {a : α} :
    Evaluates W (choose f : Program σ ω α) s a t ↔ (∃ w, W w ∧ f w = a) ∧ t = s := by
  refine evaluates_atomic.trans ⟨?_, ?_⟩
  · rintro ⟨w, hw, h⟩
    cases h
    exact ⟨⟨w, hw, rfl⟩, rfl⟩
  · rintro ⟨⟨w, hw, rfl⟩, rfl⟩
    exact ⟨w, hw, rfl⟩

/-- A loop of updates is a fold. -/
theorem evaluates_forEach_modify {f : γ → σ → σ} (hW : ∃ w, W w) {xs : List γ} {s t : σ} {a : Unit} :
    Evaluates W (forEach xs fun x => (modify (f x) : Program σ ω Unit)) s a t ↔ t = xs.foldl (fun s x => f x s) s := by
  induction xs generalizing s with
  | nil => exact evaluates_done.trans (and_iff_right rfl)
  | cons x xs ih =>
    refine evaluates_bind.trans ⟨?_, fun h => ⟨(), f x s, (evaluates_modify hW).mpr rfl, ih.mpr h⟩⟩
    rintro ⟨u, r, hx, hxs⟩
    rw [(evaluates_modify hW).mp hx] at hxs
    exact ih.mp hxs

end Program

end Threads
