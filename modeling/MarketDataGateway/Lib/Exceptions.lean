import MarketDataGateway.Lib.Program

/-!
# Programs that throw

A program whose value is a result or an exception, and the rules for its triples: one assertion for where it returns, one for where
it throws.

Nothing here is about one system: the state, the outcomes, the exceptions and the environment are parameters.
-/

namespace Threads

/-- A thread's code that returns a value or throws an exception. -/
abbrev Throwing (σ ω ε α : Type) := ExceptT ε (Program σ ω) α

variable {σ ω ε α β γ : Type}

namespace Throwing

/-- Run a program that does not throw. -/
def lift (p : Program σ ω α) : Throwing σ ω ε α := ExceptT.mk (p.bind fun a => .done (.ok a))

/-- Throw whatever a program returns as an exception. -/
def of (p : Program σ ω (Except ε α)) : Throwing σ ω ε α := ExceptT.mk p

/-- What is made of a value that a program returns may as well be made of it afterwards. -/
theorem of_map_bind (q : Program σ ω (Except ε α)) (f : α → β) (k : β → Throwing σ ω ε γ) :
    (of (q.bind fun r => .done (r.map f)) >>= k) = of q >>= fun a => k (f a) := by
  refine (Program.bind_assoc q _ _).trans (congrArg q.bind ?_)
  funext r
  cases r <;> rfl

/-- Run `cleanup` when `p` throws, and throw on; what the cleanup throws takes the exception's place. -/
def onThrow (p : Throwing σ ω ε α) (cleanup : Throwing σ ω ε Unit) : Throwing σ ω ε α :=
  tryCatch p fun e => do
    cleanup
    throw e

/-- Run `p` between two programs that do not throw, whether it returns or throws. -/
def between (before after : Program σ ω Unit) (p : Throwing σ ω ε α) : Throwing σ ω ε α :=
  ExceptT.mk (before.bind fun _ => (p.run).bind fun r => after.bind fun _ => .done r)

/-- Every section of a program that may throw moves the state as `G` allows. -/
def All (G : σ → σ → Prop) (p : Throwing σ ω ε α) : Prop := Program.All G p.run

namespace All

variable {G : σ → σ → Prop}

/-- Returning has no section. -/
theorem pure (a : α) : All G (pure a : Throwing σ ω ε α) := trivial

/-- Throwing has no section. -/
theorem throw (e : ε) : All G (throw e : Throwing σ ω ε α) := trivial

/-- A sequence that may throw has its sections in a relation when both halves have. -/
theorem bind {p : Throwing σ ω ε α} {k : α → Throwing σ ω ε β} (hp : All G p) (hk : ∀ a, All G (k a)) : All G (p >>= k) := by
  refine Program.All.bind hp fun r => ?_
  cases r with
  | ok a => exact hk a
  | error e => trivial

/-- A program that cannot throw keeps its sections. -/
theorem lift {p : Program σ ω α} (hp : p.All G) : All G (Throwing.lift p : Throwing σ ω ε α) :=
  Program.All.bind hp fun _ => trivial

/-- A program with an outcome keeps its sections. -/
theorem of {p : Program σ ω (Except ε α)} (hp : p.All G) : All G (Throwing.of p) := hp

/-- A cleanup adds its own sections. -/
theorem onThrow {p : Throwing σ ω ε α} {cleanup : Throwing σ ω ε Unit} (hp : All G p) (hc : All G cleanup) :
    All G (p.onThrow cleanup) := by
  refine Program.All.bind hp fun r => ?_
  cases r with
  | ok a => trivial
  | error e => exact bind hc fun _ => throw e

/-- What stands between two programs adds to their sections. -/
theorem between {before after : Program σ ω Unit} {p : Throwing σ ω ε α} (hb : before.All G) (hp : All G p) (ha : after.All G) :
    All G (Throwing.between before after p) :=
  Program.All.bind hb fun _ => Program.All.bind hp fun _ => Program.All.bind ha fun _ => trivial

/-- A branch has the sections of its two arms. -/
theorem ite {b : Bool} {p q : Throwing σ ω ε α} (hp : All G p) (hq : All G q) : All G (if b then p else q) := by
  cases b
  · exact hq
  · exact hp

end All

end Throwing

/-- What holds at the end of a program that returns or throws. -/
def Ends (Q : α → σ → Prop) (R : ε → σ → Prop) : Except ε α → σ → Prop
  | .ok a => Q a
  | .error e => R e

@[simp] theorem Ends_ok (Q : α → σ → Prop) (R : ε → σ → Prop) (a : α) : Ends Q R (.ok a) = Q a := rfl

@[simp] theorem Ends_error (Q : α → σ → Prop) (R : ε → σ → Prop) (e : ε) : Ends Q R (.error e) = R e := rfl

/-- From a state of the invariant where `P` holds the program is safe; where it returns `Q` holds, where it throws `R` does. -/
def TripleE (E : Rely σ) (P : σ → Prop) (p : Throwing σ ω ε α) (Q : α → σ → Prop) (R : ε → σ → Prop) : Prop :=
  Triple E P p.run (Ends Q R)

namespace TripleE

variable {E : Rely σ} {P : σ → Prop} {Q : α → σ → Prop} {R : ε → σ → Prop}

/-- The rule of returning. -/
theorem pure {a : α} (hP : E.Stable P) (h : ∀ s, E.inv s → P s → Q a s) :
    TripleE E P (pure a : Throwing σ ω ε α) Q R :=
  Triple.done hP h

/-- The rule of throwing: the assertion of the exception is due at once. -/
theorem throw {e : ε} (hP : E.Stable P) (h : ∀ s, E.inv s → P s → R e s) :
    TripleE E P (throw e : Throwing σ ω ε α) Q R :=
  Triple.done hP h

/-- The rule of a sequence: an exception in the first half skips the second. -/
theorem bind {p : Throwing σ ω ε α} {k : α → Throwing σ ω ε β} {S : β → σ → Prop} (hR : ∀ e, E.Stable (R e))
    (hp : TripleE E P p Q R) (hk : ∀ a, TripleE E (Q a) (k a) S R) : TripleE E P (p >>= k) S R := by
  refine Triple.bind hp fun r => ?_
  cases r with
  | ok a => exact hk a
  | error e => exact Triple.done (hR e) fun _ _ h => h

/-- The rule of a handler: it starts in the assertion of the exception it catches. -/
theorem tryCatch {p : Throwing σ ω ε α} {h : ε → Throwing σ ω ε α} {S : ε → σ → Prop} (hQ : ∀ a, E.Stable (Q a))
    (hp : TripleE E P p Q S) (hh : ∀ e, TripleE E (S e) (h e) Q R) : TripleE E P (tryCatch p h) Q R := by
  refine Triple.bind hp fun r => ?_
  cases r with
  | ok a => exact Triple.done (hQ a) fun _ _ h => h
  | error e => exact hh e

/-- A triple of a program that cannot throw says nothing about exceptions. -/
theorem lift {p : Program σ ω α} (hQ : ∀ a, E.Stable (Q a)) (hp : Triple E P p Q) :
    TripleE E P (Throwing.lift p : Throwing σ ω ε α) Q R :=
  Triple.bind hp fun a => Triple.done (hQ a) fun _ _ h => h

/-- A triple about outcomes is a triple of a program that may throw them. -/
theorem of {p : Program σ ω (Except ε α)} (hp : Triple E P p (Ends Q R)) : TripleE E P (Throwing.of p) Q R := hp

/-- The rule of a cleanup: it runs from the assertion of the exception, which then goes on. -/
theorem onThrow {p : Throwing σ ω ε α} {cleanup : Throwing σ ω ε Unit} {S : ε → σ → Prop} (hQ : ∀ a, E.Stable (Q a))
    (hR : ∀ e, E.Stable (R e)) (hp : TripleE E P p Q S) (hc : ∀ e, TripleE E (S e) cleanup (fun _ => R e) R) :
    TripleE E P (p.onThrow cleanup) Q R :=
  tryCatch hQ hp fun e => bind hR (hc e) fun _ => throw (hR e) fun _ _ h => h

/-- The rule of what stands between two programs: the second one runs behind a value and behind an exception. -/
theorem between {before after : Program σ ω Unit} {p : Throwing σ ω ε α} {A : σ → Prop} {B : α → σ → Prop}
    {S : ε → σ → Prop} (hQ : ∀ a, E.Stable (Q a)) (hR : ∀ e, E.Stable (R e)) (hb : Triple E P before (fun _ => A))
    (hp : TripleE E A p B S) (hq : ∀ a, Triple E (B a) after (fun _ => Q a))
    (hr : ∀ e, Triple E (S e) after (fun _ => R e)) : TripleE E P (Throwing.between before after p) Q R := by
  refine Triple.bind hb fun _ => Triple.bind hp fun r => ?_
  cases r with
  | ok a => exact Triple.bind (hq a) fun _ => Triple.done (hQ a) fun _ _ h => h
  | error e => exact Triple.bind (hr e) fun _ => Triple.done (hR e) fun _ _ h => h

/-- The rule of consequence for both ways to end. -/
theorem conseq {P' : σ → Prop} {Q' : α → σ → Prop} {R' : ε → σ → Prop} {p : Throwing σ ω ε α} (h : TripleE E P p Q R)
    (hP : ∀ s, E.inv s → P' s → P s) (hQ : ∀ a s, E.inv s → Q a s → Q' a s) (hR : ∀ e s, E.inv s → R e s → R' e s) :
    TripleE E P' p Q' R' := by
  refine Triple.conseq h hP fun r s hi hr => ?_
  cases r with
  | ok a => exact hQ a s hi hr
  | error e => exact hR e s hi hr

end TripleE

end Threads
